import Mathlib.Algebra.Order.Floor.Defs
import Guardian.Acquisition.Acquisition
import Guardian.Dsp.DspFft
import Guardian.Dsp.DspService

namespace Guardian.Dsp

open Word Guardian.Acquisition

def dspOneSidedBinCount : ℕ := 33
def dspStatusValid : U16 := 0x0001
def dspStatusDcRemoved : U16 := 0x0002
def dspStatusHannWindow : U16 := 0x0004
def dspStatusDominantValid : U16 := 0x0008
def dspStatusSilent : U16 := 0x0010

inductive DspError
  | length
  | sampleRate
  deriving DecidableEq, Repr

/-- The first half of the window, in billionths; the second is its mirror image. -/
def hannBillionths : List ℕ :=
  [0, 2484612, 9913756, 22213597, 39261894, 60889213, 86880613, 116977778, 150881591, 188255099, 228726868, 271894671,
    317329488, 364579766, 413175911, 462634953, 512465346, 562171852, 611260467, 659243325, 705643552, 750000000,
    791871836, 830842919, 866525936, 898566254, 926645441, 950484434, 969846310, 984538643, 994415413, 999378461]

def cosineBillionths : List ℤ :=
  [1000000000, 995184727, 980785280, 956940336, 923879533, 881921264, 831469612, 773010453, 707106781, 634393284,
    555570233, 471396737, 382683432, 290284677, 195090322, 98017140, 0]

variable {ρ : Type} [Field ρ] [LinearOrder ρ] [FloorSemiring ρ]

structure DspTables (ρ : Type) where
  hann : ℕ → ρ
  twiddleReal : ℕ → ρ
  twiddleImag : ℕ → ρ

/-- The tables of the source, read as the decimals that they are written as. -/
def dspTables : DspTables ρ where
  hann index := ((hannBillionths.getD (min index (dspFftSize - 1 - index)) 0 : ℕ) : ρ) / 10 ^ 9
  twiddleReal index :=
    ((if index ≤ 16 then cosineBillionths.getD index 0 else -cosineBillionths.getD (32 - index) 0 : ℤ) : ρ) / 10 ^ 9
  twiddleImag index := ((-cosineBillionths.getD (if index ≤ 16 then 16 - index else index - 16) 0 : ℤ) : ρ) / 10 ^ 9

local instance dspTwo : Nat.AtLeastTwo 2 := ⟨by decide⟩
local instance dspSixtyFour : Nat.AtLeastTwo 64 := ⟨by decide⟩

def dspU16 (value : ρ) : U16 :=
  if ¬ 0 < value then 0 else if 65535 ≤ value then 65535 else BitVec.ofNat 16 ⌊value + 1 / 2⌋₊

def dspU32 (value : ρ) : U32 :=
  if ¬ 0 < value then 0 else if 4294967295 ≤ value then 0xFFFFFFFF else BitVec.ofNat 32 ⌊value + 1 / 2⌋₊

def dspRawSample (block : AcquisitionSignalBlock) (index : ℕ) : ℤ := (block.vibrationMg.getD index 0).toInt

def dspMean (block : AcquisitionSignalBlock) : ρ :=
  (List.range dspFftSize).foldl (fun mean index => mean + (dspRawSample block index : ρ)) 0 / 64

def dspSample (block : AcquisitionSignalBlock) (index : ℕ) : ρ := (dspRawSample block index : ρ) - dspMean block

structure DspTime (ρ : Type) where
  rmsSum : ρ
  peak : ρ

def dspTimeTurn (samples : ℕ → ρ) (time : DspTime ρ) (index : ℕ) : DspTime ρ :=
  let sample := samples index
  let absolute := if sample < 0 then -sample else sample
  { rmsSum := time.rmsSum + sample * sample
    peak := if absolute > time.peak then absolute else time.peak }

def dspTime (samples : ℕ → ρ) : DspTime ρ := (List.range dspFftSize).foldl (dspTimeTurn samples) ⟨0, 0⟩

def dspWindowed (hann samples : ℕ → ρ) : FftArrays ρ where
  real index := if index < dspFftSize then samples index * hann index else 0
  imag _ := 0

def dspPower (tables : DspTables ρ) (samples : ℕ → ρ) (bin : ℕ) : ρ :=
  let spectrum := dspFft64 tables.twiddleReal tables.twiddleImag (dspWindowed tables.hann samples)
  spectrum.real bin * spectrum.real bin + spectrum.imag bin * spectrum.imag bin

def dspFrequencyHz (sampleRateHz : U32) (bin : ℕ) : ρ := (bin : ρ) * (sampleRateHz.toNat : ρ) / 64

structure DspSpectrum (ρ : Type) where
  totalPower : ρ
  centroidNumerator : ρ
  lowPower : ρ
  midPower : ρ
  highPower : ρ
  dominantPower : ρ
  dominantBin : ℕ

def dspSpectrumTurn (power frequency : ℕ → ρ) (spectrum : DspSpectrum ρ) (bin : ℕ) : DspSpectrum ρ :=
  let binPower := power bin
  let banded :=
    if frequency bin ≤ 500 then { spectrum with lowPower := spectrum.lowPower + binPower }
    else if frequency bin ≤ 1500 then { spectrum with midPower := spectrum.midPower + binPower }
    else { spectrum with highPower := spectrum.highPower + binPower }
  { banded with
    totalPower := spectrum.totalPower + binPower
    centroidNumerator := spectrum.centroidNumerator + frequency bin * binPower
    dominantPower := if binPower > spectrum.dominantPower then binPower else spectrum.dominantPower
    dominantBin := if binPower > spectrum.dominantPower then bin else spectrum.dominantBin }

def dspSpectrum (power frequency : ℕ → ρ) : DspSpectrum ρ :=
  (List.range' 1 (dspOneSidedBinCount - 1)).foldl (dspSpectrumTurn power frequency) ⟨0, 0, 0, 0, 0, 0, 0⟩

def dspInterpolatedBin (power : ℕ → ρ) (dominantBin : ℕ) : ρ :=
  if 1 < dominantBin ∧ dominantBin < dspOneSidedBinCount - 1 then
    let left := power (dominantBin - 1)
    let center := power dominantBin
    let right := power (dominantBin + 1)
    let denominator := left - 2 * center + right
    if denominator > 1 / 10 ^ 12 ∨ denominator < -(1 / 10 ^ 12) then
      let delta := 1 / 2 * (left - right) / denominator
      (dominantBin : ρ) + if delta > 1 / 2 then 1 / 2 else if delta < -(1 / 2) then -(1 / 2) else delta
    else (dominantBin : ρ)
  else (dominantBin : ρ)

structure DspMeasures (ρ : Type) where
  rms : ρ
  peak : ρ
  crestFactor : ρ
  power : ℕ → ρ
  spectrum : DspSpectrum ρ
  dominantFrequencyCentiHz : ρ
  dominantPeak : ρ
  spectralCentroidHz : ρ
  lowShare : ρ
  midShare : ρ
  highShare : ρ

def dspMeasures (tables : DspTables ρ) (sqrtf : ρ → ρ) (sampleRateHz : U32) (samples : ℕ → ρ) : DspMeasures ρ :=
  let time := dspTime samples
  let rms := sqrtf (time.rmsSum / 64)
  let power := dspPower tables samples
  let spectrum := dspSpectrum power (dspFrequencyHz sampleRateHz)
  let hannSum := (List.range dspFftSize).foldl (fun sum index => sum + tables.hann index) 0
  { rms
    peak := time.peak
    crestFactor := time.peak / rms
    power
    spectrum
    dominantFrequencyCentiHz := dspInterpolatedBin power spectrum.dominantBin * (sampleRateHz.toNat : ρ) * 100 / 64
    dominantPeak := 2 * sqrtf spectrum.dominantPower / hannSum
    spectralCentroidHz := spectrum.centroidNumerator / spectrum.totalPower
    lowShare := spectrum.lowPower / spectrum.totalPower
    midShare := spectrum.midPower / spectrum.totalPower
    highShare := spectrum.highPower / spectrum.totalPower }

def DspMeasures.Measurable (measures : DspMeasures ρ) : Prop := measures.spectrum.totalPower > 1 / 10 ^ 9

instance (measures : DspMeasures ρ) : Decidable measures.Measurable :=
  inferInstanceAs (Decidable (measures.spectrum.totalPower > 1 / 10 ^ 9))

def DspMeasures.publish (measures : DspMeasures ρ) (features : DspFeatures) : DspFeatures :=
  let low := dspU16 (measures.lowShare * 1000)
  let mid := dspU16 (measures.midShare * 1000)
  { features with
    dominantFrequencyCentiHz := dspU32 measures.dominantFrequencyCentiHz
    dominantPeakMg := dspU16 measures.dominantPeak
    spectralCentroidCentiHz := dspU32 (measures.spectralCentroidHz * 100)
    lowBandPermille := low
    midBandPermille := mid
    highBandPermille :=
      if low.toNat + mid.toNat ≤ 1000 then BitVec.ofNat 16 (1000 - low.toNat - mid.toNat)
      else dspU16 (measures.highShare * 1000)
    dspStatusFlags := features.dspStatusFlags ||| dspStatusDominantValid }

def DspMeasures.features (measures : DspMeasures ρ) (block : AcquisitionSignalBlock) : DspFeatures :=
  let features : DspFeatures :=
    { zeroDspFeatures with
      blockSequence := block.sequence
      sampleRateHz := if block.sampleRateHz.toNat > 65535 then 65535 else block.sampleRateHz.setWidth 16
      rmsMg := dspU16 measures.rms
      peakMg := dspU16 measures.peak
      crestFactorMilli := if measures.rms > 0 then dspU16 (measures.crestFactor * 1000) else 0
      acquisitionStatusFlags := block.statusFlags
      dspStatusFlags := dspStatusValid ||| dspStatusDcRemoved ||| dspStatusHannWindow }
  if measures.Measurable then measures.publish features
  else { features with dspStatusFlags := features.dspStatusFlags ||| dspStatusSilent }

def dspAnalyze (tables : DspTables ρ) (sqrtf : ρ → ρ) (block : AcquisitionSignalBlock) : Except DspError DspFeatures :=
  if block.sampleCount ≠ BitVec.ofNat 16 dspFftSize then .error .length
  else if block.sampleRateHz = 0 then .error .sampleRate
  else .ok ((dspMeasures tables sqrtf block.sampleRateHz (dspSample block)).features block)

end Guardian.Dsp
