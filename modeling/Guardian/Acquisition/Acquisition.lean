import Mathlib.Data.Nat.Sqrt
import Mathlib.Tactic.Ring
import Guardian.App.Telemetry
import Guardian.Lib.Watched

namespace Guardian.Acquisition

open Word Watched Guardian.App

def acquisitionAdcMaxCode : ℕ := 4095
def acquisitionFactoryVddaMv : ℕ := 3300
def acquisitionChannelCount : ℕ := 5
def acquisitionFramesPerBlock : ℕ := 64
def acquisitionStatusValid : U16 := 0x0001
def acquisitionStatusAdcSaturated : U16 := 0x0002
def acquisitionStatusRpmStale : U16 := 0x0004

inductive AcquisitionChannel
  | vibration
  | current
  | supply
  | temperature
  | vrefint
  deriving DecidableEq, Repr

def AcquisitionChannel.index : AcquisitionChannel → ℕ
  | .vibration => 0
  | .current => 1
  | .supply => 2
  | .temperature => 3
  | .vrefint => 4

inductive AcquisitionResult
  | ok
  | length
  | calibration
  | reference
  deriving DecidableEq, Repr

structure AcquisitionCalibration where
  vrefintCalCode : U16
  temperatureCal30Code : U16
  temperatureCal110Code : U16
  vibrationZeroCode : U16
  vibrationMgPerCodeNum : U32
  vibrationMgPerCodeDen : U32
  currentZeroCode : U16
  currentMaPerCodeNum : U32
  currentMaPerCodeDen : U32
  supplyDividerNum : U16
  supplyDividerDen : U16
  baseStatusFlags : U16
  deriving DecidableEq, Repr

structure AcquisitionAux where
  rpm : U16
  rpmValid : U8
  hardwareStatusFlags : U16
  deriving DecidableEq, Repr

structure AcquisitionSignalBlock where
  sequence : U32
  sampleRateHz : U32
  sampleCount : U16
  vibrationMg : List U16
  statusFlags : U16
  deriving DecidableEq, Repr

structure AcquisitionStats where
  blocksProcessed : U32
  invalidBlocks : U32
  saturatedBlocks : U32
  deriving DecidableEq, Repr

structure AcquisitionProcessor where
  calibration : AcquisitionCalibration
  latest : MachineMeasurements
  nextBlockSequence : U32
  stats : AcquisitionStats
  deriving DecidableEq, Repr

def acquisitionIncrement (value : U32) : U32 := if value ≠ 0xFFFFFFFF then value + 1 else value

def acquisitionIsqrtAlign (bit remainder : ℕ) : ℕ :=
  if bit > remainder then acquisitionIsqrtAlign (bit / 4) remainder else bit

/-- The second loop of the square root, one radix-four digit a turn. -/
def acquisitionIsqrtDigits (bit remainder result : ℕ) : Watched ℕ :=
  if bit ≠ 0 then do
    let trial ← unsigned 64 (result + bit : ℕ)
    if remainder ≥ trial then do
      let remainder ← unsigned 64 (remainder - trial)
      let result ← unsigned 64 (result / 2 + bit : ℕ)
      acquisitionIsqrtDigits (bit / 4) remainder result
    else acquisitionIsqrtDigits (bit / 4) remainder (result / 2)
  else pure result

def acquisitionIsqrt (value : ℕ) : Watched ℕ := do
  let result ← acquisitionIsqrtDigits (acquisitionIsqrtAlign (2 ^ 62) value) value 0
  if result > 2 ^ 32 - 1 then pure (2 ^ 32 - 1) else unsigned 32 result

def acquisitionU16 (value : ℕ) : U16 := if value > 65535 then 65535 else BitVec.ofNat 16 value

def acquisitionI16 (value : ℤ) : U16 :=
  if value > 32767 then 0x7FFF else if value < -32768 then 0x8000 else BitVec.ofInt 16 value

def acquisitionNormalizeCode (code vddaMv : ℕ) : Watched ℕ := do
  let scaled ← unsigned 64 (code * vddaMv : ℕ)
  let rounded ← unsigned 64 (scaled + acquisitionFactoryVddaMv / 2 : ℕ)
  let normalized := rounded / acquisitionFactoryVddaMv
  if normalized > 2 ^ 32 - 1 then pure (2 ^ 32 - 1) else unsigned 32 normalized

def acquisitionDelta (normalized : ℕ) (zero : U16) : Watched ℤ := do
  let code ← signed 32 normalized
  signed 32 (code - zero.toNat)

def acquisitionVibrationSampleMg (normalizedDelta : ℤ) (calibration : AcquisitionCalibration) : Watched U16 := do
  let denominator : ℤ := calibration.vibrationMgPerCodeDen.toNat
  let scaled ← signed 64 (normalizedDelta * calibration.vibrationMgPerCodeNum.toNat)
  let rounded ← (if scaled ≥ 0 then signed 64 (scaled + denominator.tdiv 2) else signed 64 (scaled - denominator.tdiv 2))
  let ratio ← signed 64 (rounded.tdiv denominator)
  pure (acquisitionI16 ratio)

def acquisitionCalibrationValid (calibration : AcquisitionCalibration) : Bool :=
  if calibration.vrefintCalCode = 0 then false
  else if calibration.temperatureCal30Code = calibration.temperatureCal110Code then false
  else if calibration.vibrationMgPerCodeDen = 0 then false
  else if calibration.currentMaPerCodeDen = 0 then false
  else if calibration.supplyDividerDen = 0 then false
  else true

/-- The acquisition stays as it was where the calibration is refused. -/
def acquisitionInit (acquisition : AcquisitionProcessor) (calibration : AcquisitionCalibration) : AcquisitionResult × AcquisitionProcessor :=
  if !acquisitionCalibrationValid calibration then (.calibration, acquisition)
  else (.ok, ⟨calibration, ⟨0, 0, 0, 0, 0, 0⟩, 0, ⟨0, 0, 0⟩⟩)

def acquisitionSample (samples : List U16) (frame : ℕ) (channel : AcquisitionChannel) : ℕ :=
  (samples.getD (frame * acquisitionChannelCount + channel.index) 0).toNat

def acquisitionAverage (samples : List U16) (frameCount : ℕ) (channel : AcquisitionChannel) : Watched ℕ := do
  let sum ← (List.range frameCount).foldlM
    (fun sum frame => unsigned 64 (sum + acquisitionSample samples frame channel : ℕ)) 0
  let rounded ← unsigned 64 (sum + frameCount / 2 : ℕ)
  unsigned 32 (rounded / frameCount : ℕ)

def acquisitionSaturated (samples : List U16) : Bool :=
  samples.any fun sample => sample.toNat = 0 || sample.toNat ≥ acquisitionAdcMaxCode

def acquisitionVddaMv (calibration : AcquisitionCalibration) (vrefint : ℕ) : Watched ℕ := do
  let scaled ← unsigned 64 (acquisitionFactoryVddaMv * calibration.vrefintCalCode.toNat : ℕ)
  let rounded ← unsigned 64 (scaled + vrefint / 2 : ℕ)
  unsigned 32 (rounded / vrefint : ℕ)

def acquisitionTemperatureCentiC (calibration : AcquisitionCalibration) (average vddaMv : ℕ) : Watched ℤ := do
  let normalized ← acquisitionNormalizeCode average vddaMv
  let span ← signed 32 (calibration.temperatureCal110Code.toNat - calibration.temperatureCal30Code.toNat)
  let offset ← acquisitionDelta normalized calibration.temperatureCal30Code
  let scaled ← signed 64 (offset * 8000)
  let ratio ← signed 64 (scaled.tdiv span)
  signed 64 (3000 + ratio)

def acquisitionExportSample (calibration : AcquisitionCalibration) (delta : ℤ) (frame : ℕ) :
    Option AcquisitionSignalBlock → Watched (Option AcquisitionSignalBlock)
  | none => pure none
  | some signal => do
    let sample ← acquisitionVibrationSampleMg delta calibration
    pure (some { signal with vibrationMg := signal.vibrationMg.set frame sample })

/-- One turn of the vibration loop: the sum of squares, and the signal block where one is wanted. -/
def acquisitionVibrationTurn (calibration : AcquisitionCalibration) (samples : List U16) (vddaMv : ℕ)
    (state : ℕ × Option AcquisitionSignalBlock) (frame : ℕ) : Watched (ℕ × Option AcquisitionSignalBlock) := do
  let normalized ← acquisitionNormalizeCode (acquisitionSample samples frame .vibration) vddaMv
  let delta ← acquisitionDelta normalized calibration.vibrationZeroCode
  let signal ← acquisitionExportSample calibration delta frame state.2
  let square ← signed 64 (delta * delta)
  let magnitude ← unsigned 64 square
  let sum ← unsigned 64 (state.1 + magnitude : ℕ)
  pure (sum, signal)

def acquisitionVibrationMg (calibration : AcquisitionCalibration) (squareSum frameCount : ℕ) : Watched ℕ := do
  let rms ← acquisitionIsqrt (squareSum / frameCount)
  let scaled ← unsigned 64 (rms * calibration.vibrationMgPerCodeNum.toNat : ℕ)
  pure (scaled / calibration.vibrationMgPerCodeDen.toNat)

def acquisitionCurrentMa (calibration : AcquisitionCalibration) (average vddaMv : ℕ) : Watched ℕ := do
  let normalized ← acquisitionNormalizeCode average vddaMv
  let delta ← acquisitionDelta normalized calibration.currentZeroCode
  let magnitude ← unsigned 32 (if delta < 0 then 0 else delta)
  let scaled ← unsigned 64 (magnitude * calibration.currentMaPerCodeNum.toNat : ℕ)
  pure (scaled / calibration.currentMaPerCodeDen.toNat)

def acquisitionSupplyMv (calibration : AcquisitionCalibration) (average vddaMv : ℕ) : Watched ℕ := do
  let scaled ← unsigned 64 (average * vddaMv : ℕ)
  let divided ← unsigned 64 (scaled / acquisitionAdcMaxCode * calibration.supplyDividerNum.toNat : ℕ)
  pure (divided / calibration.supplyDividerDen.toNat)

def AcquisitionProcessor.countInvalid (acquisition : AcquisitionProcessor) : AcquisitionProcessor :=
  { acquisition with
    stats := { acquisition.stats with invalidBlocks := acquisitionIncrement acquisition.stats.invalidBlocks } }

def emptySignalBlock : AcquisitionSignalBlock := ⟨0, 0, 0, List.replicate acquisitionFramesPerBlock 0, 0⟩

def AcquisitionProcessor.publish (acquisition : AcquisitionProcessor) (measurements : MachineMeasurements) (saturated : Bool) : AcquisitionProcessor :=
  { acquisition with
    latest := measurements
    nextBlockSequence := acquisition.nextBlockSequence + 1
    stats :=
      { acquisition.stats with
        saturatedBlocks := if saturated then acquisitionIncrement acquisition.stats.saturatedBlocks
          else acquisition.stats.saturatedBlocks
        blocksProcessed := acquisitionIncrement acquisition.stats.blocksProcessed } }

def acquisitionStatusFlags (calibration : AcquisitionCalibration) (aux : AcquisitionAux) (saturated : Bool) : U16 :=
  calibration.baseStatusFlags ||| aux.hardwareStatusFlags ||| acquisitionStatusValid |||
    (if aux.rpmValid = 0 then acquisitionStatusRpmStale else 0) |||
    if saturated then acquisitionStatusAdcSaturated else 0

def acquisitionProcessBlockEx (acquisition : AcquisitionProcessor) (samples : List U16) (aux : AcquisitionAux)
    (sampleRateHz : U32) (signalBlock : Option AcquisitionSignalBlock) :
    Watched (AcquisitionResult × AcquisitionProcessor × Option AcquisitionSignalBlock) :=
  if !acquisitionCalibrationValid acquisition.calibration then
    pure (.calibration, acquisition.countInvalid, signalBlock)
  else if samples.length = 0 ∨ samples.length % acquisitionChannelCount ≠ 0 then
    pure (.length, acquisition.countInvalid, signalBlock)
  else if samples.length / acquisitionChannelCount > acquisitionFramesPerBlock then
    pure (.length, acquisition.countInvalid, signalBlock)
  else if signalBlock.isSome ∧ sampleRateHz = 0 then pure (.length, acquisition.countInvalid, signalBlock)
  else do
    let calibration := acquisition.calibration
    let frameCount := samples.length / acquisitionChannelCount
    let cleared := signalBlock.map fun _ => emptySignalBlock
    let _ ← acquisitionAverage samples frameCount .vibration
    let current ← acquisitionAverage samples frameCount .current
    let supply ← acquisitionAverage samples frameCount .supply
    let temperature ← acquisitionAverage samples frameCount .temperature
    let vrefint ← acquisitionAverage samples frameCount .vrefint
    if vrefint = 0 then pure (.reference, acquisition.countInvalid, cleared)
    else do
      let vddaMv ← acquisitionVddaMv calibration vrefint
      let temperatureCentiC ← acquisitionTemperatureCentiC calibration temperature vddaMv
      let (squareSum, signal) ← (List.range frameCount).foldlM
        (acquisitionVibrationTurn calibration samples vddaMv) (0, cleared)
      let vibrationMg ← acquisitionVibrationMg calibration squareSum frameCount
      let currentMa ← acquisitionCurrentMa calibration current vddaMv
      let supplyMv ← acquisitionSupplyMv calibration supply vddaMv
      let saturated := acquisitionSaturated samples
      let measurements : MachineMeasurements :=
        { temperatureCentiC := acquisitionI16 temperatureCentiC
          vibrationMgRms := acquisitionU16 vibrationMg
          currentMa := acquisitionU16 currentMa
          rpm := if aux.rpmValid ≠ 0 then aux.rpm else 0
          supplyMv := acquisitionU16 supplyMv
          statusFlags := acquisitionStatusFlags calibration aux saturated }
      let published := signal.map fun signal =>
        { signal with
          sequence := acquisition.nextBlockSequence
          sampleRateHz
          sampleCount := BitVec.ofNat 16 frameCount
          statusFlags := measurements.statusFlags }
      pure (.ok, acquisition.publish measurements saturated, published)

def digitBit : ℕ → ℕ
  | 0 => 0
  | digits + 1 => 4 ^ digits

theorem digitBit_next (digits : ℕ) : digitBit (digits + 1) / 4 = digitBit digits := by
  cases digits with
  | zero => rfl
  | succ digits => exact Nat.mul_div_cancel _ (by decide)

theorem acquisitionIsqrtAlign_digit {value digits : ℕ} (small : value < 4 ^ digits) :
    ∃ kept ≤ digits, acquisitionIsqrtAlign (digitBit digits) value = digitBit kept ∧ value < 4 ^ kept := by
  induction digits with
  | zero =>
    refine ⟨0, le_rfl, ?_, small⟩
    rw [acquisitionIsqrtAlign, if_neg (show ¬ digitBit 0 > value from Nat.not_lt_zero _)]
  | succ digits ih =>
    by_cases above : digitBit (digits + 1) > value
    · obtain ⟨kept, fewer, aligned, below⟩ := ih above
      refine ⟨kept, Nat.le_succ_of_le fewer, ?_, below⟩
      rw [acquisitionIsqrtAlign, if_pos above, digitBit_next, aligned]
    · refine ⟨digits + 1, le_rfl, ?_, small⟩
      rw [acquisitionIsqrtAlign, if_neg above]

/-- The state of the second loop: the root found so far, with the given number of digits to go. -/
structure RootState (value root digits remainder result : ℕ) : Prop where
  result : result = root * 2 ^ digits
  remainder : remainder + root ^ 2 = value
  below : value < (root + 2 ^ digits) ^ 2
  bounded : root + 2 ^ digits ≤ 2 ^ 32

theorem acquisitionIsqrtDigits_exact {value root digits remainder result : ℕ}
    (state : RootState value root digits remainder result) :
    acquisitionIsqrtDigits (digitBit digits) remainder result = pure (Nat.sqrt value) := by
  induction digits generalizing root remainder result with
  | zero =>
    obtain ⟨rfl, rfl, below, -⟩ := state
    rw [acquisitionIsqrtDigits, digitBit, if_neg (not_not.mpr rfl), pow_zero, mul_one]
    congr 1
    rw [pow_zero] at below
    exact Nat.eq_sqrt'.mpr ⟨Nat.le_add_left _ _, below⟩
  | succ digits ih =>
    obtain ⟨rfl, rfl, below, bounded⟩ := state
    rw [acquisitionIsqrtDigits, digitBit_next]
    have square : digitBit (digits + 1) = 2 ^ digits * 2 ^ digits := (Nat.mul_pow 2 2 digits)
    have positive := Nat.two_pow_pos digits
    rw [pow_succ 2 digits] at below bounded ⊢
    rw [square]
    generalize powerIs : 2 ^ digits = power at *
    rw [if_pos (Nat.mul_pos positive positive).ne']
    have halves : root * (power * 2) / 2 = root * power := by
      rw [← mul_assoc, Nat.mul_div_cancel _ (by decide)]
    have grown : (root + power) ^ 2 = root ^ 2 + (root * (power * 2) + power * power) := by ring
    have room : (root + power) ^ 2 < 2 ^ 64 := by
      calc (root + power) ^ 2 < (2 ^ 32) ^ 2 := Nat.pow_lt_pow_left (by omega) (by decide)
        _ = 2 ^ 64 := by norm_num
    have valued : remainder < 2 ^ 64 := by
      calc remainder ≤ remainder + root ^ 2 := Nat.le_add_right _ _
        _ < (root + power * 2) ^ 2 := below
        _ ≤ (2 ^ 32) ^ 2 := Nat.pow_le_pow_left bounded 2
        _ = 2 ^ 64 := by norm_num
    rw [unsigned_fits rfl (by omega), pure_bind]
    by_cases accepted : remainder ≥ root * (power * 2) + power * power
    · have next : root * power + power * power = (root + power) * power := by ring
      have fits : root * power + power * power < 2 ^ 64 := by
        calc root * power + power * power = (root + power) * power := next
          _ ≤ (root + power) * (root + power) := Nat.mul_le_mul_left _ (by omega)
          _ = (root + power) ^ 2 := (sq _).symm
          _ < 2 ^ 64 := room
      rw [if_pos accepted, unsigned_fits (Nat.cast_sub accepted).symm (by omega), pure_bind, halves,
        unsigned_fits rfl fits, pure_bind, next]
      have whole : remainder - (root * (power * 2) + power * power) + (root + power) ^ 2 = remainder + root ^ 2 := by
        omega
      have further : root + power + power = root + power * 2 := by ring
      exact ih
        { result := by rw [powerIs]
          remainder := whole
          below := by
            rw [powerIs, further]
            exact below
          bounded := by omega }
    · rw [if_neg accepted, halves]
      exact ih
        { result := by rw [powerIs]
          remainder := rfl
          below := by
            rw [powerIs]
            omega
          bounded := by omega }

theorem acquisitionIsqrtLoops_exact {value : ℕ} (fits : value < 2 ^ 64) :
    acquisitionIsqrtDigits (acquisitionIsqrtAlign (2 ^ 62) value) value 0 = pure (Nat.sqrt value) := by
  have small : value < 4 ^ 32 := fits
  obtain ⟨digits, few, aligned, below⟩ := acquisitionIsqrtAlign_digit small
  have bit : digitBit 32 = 2 ^ 62 := by norm_num [digitBit]
  have start : RootState value 0 digits value 0 :=
    { result := (Nat.zero_mul _).symm
      remainder := rfl
      below := by
        rw [Nat.zero_add, ← pow_mul, Nat.mul_comm, pow_mul]
        exact below
      bounded := by
        rw [Nat.zero_add]
        exact Nat.pow_le_pow_right (by decide) few }
  rw [← bit, aligned, acquisitionIsqrtDigits_exact start]

theorem acquisitionIsqrt_exact {value : ℕ} (fits : value < 2 ^ 64) : acquisitionIsqrt value = pure (Nat.sqrt value) := by
  have root : Nat.sqrt value < 2 ^ 32 := Nat.sqrt_lt'.mpr (by rw [← pow_mul]; exact fits)
  rw [acquisitionIsqrt, acquisitionIsqrtLoops_exact fits, pure_bind, if_neg (by omega), unsigned_fits rfl root]

end Guardian.Acquisition
