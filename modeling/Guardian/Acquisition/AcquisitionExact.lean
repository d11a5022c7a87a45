import Mathlib.Algebra.Order.BigOperators.Group.Finset
import Mathlib.Algebra.Order.Ring.Nat
import Mathlib.Data.Rat.Floor
import Guardian.Acquisition.Acquisition
import Guardian.Lib.Rounding

namespace Guardian.Acquisition

open Word Watched Rounding Guardian.App

section formulas

variable (calibration : AcquisitionCalibration) (samples : List U16)

def frames : ℕ := samples.length / acquisitionChannelCount

def averageCode (channel : AcquisitionChannel) : ℕ :=
  ⌊((∑ frame ∈ Finset.range (frames samples), acquisitionSample samples frame channel : ℕ) : ℚ) / frames samples + 1 / 2⌋₊

def referenceMv : ℕ :=
  ⌊((acquisitionFactoryVddaMv * calibration.vrefintCalCode.toNat : ℕ) : ℚ) / averageCode samples .vrefint + 1 / 2⌋₊

def normalizedCode (code : ℕ) : ℕ :=
  ⌊((code * referenceMv calibration samples : ℕ) : ℚ) / acquisitionFactoryVddaMv + 1 / 2⌋₊

def codeDelta (code : ℕ) (zero : U16) : ℤ := normalizedCode calibration samples code - zero.toNat

def temperatureCentiC : ℤ :=
  3000 + towardZero
    ((codeDelta calibration samples (averageCode samples .temperature) calibration.temperatureCal30Code * 8000 : ℤ) /
      (calibration.temperatureCal110Code.toNat - calibration.temperatureCal30Code.toNat : ℤ) : ℚ)

def vibrationDelta (frame : ℕ) : ℤ :=
  codeDelta calibration samples (acquisitionSample samples frame .vibration) calibration.vibrationZeroCode

/-- The floor of the square root of the floor of the mean square. -/
def vibrationRms : ℕ :=
  Nat.sqrt ⌊((∑ frame ∈ Finset.range (frames samples), (vibrationDelta calibration samples frame).natAbs ^ 2 : ℕ) : ℚ) /
    frames samples⌋₊

def vibrationMg : ℕ :=
  ⌊((vibrationRms calibration samples * calibration.vibrationMgPerCodeNum.toNat : ℕ) : ℚ) /
    calibration.vibrationMgPerCodeDen.toNat⌋₊

def vibrationSampleMg (frame : ℕ) : ℤ :=
  halfAway ((vibrationDelta calibration samples frame * calibration.vibrationMgPerCodeNum.toNat : ℤ) /
    calibration.vibrationMgPerCodeDen.toNat : ℚ)

def currentMa : ℕ :=
  ⌊(((codeDelta calibration samples (averageCode samples .current) calibration.currentZeroCode).toNat *
      calibration.currentMaPerCodeNum.toNat : ℕ) : ℚ) / calibration.currentMaPerCodeDen.toNat⌋₊

def supplyMv : ℕ :=
  ⌊((⌊((averageCode samples .supply * referenceMv calibration samples : ℕ) : ℚ) / acquisitionAdcMaxCode⌋₊ *
    calibration.supplyDividerNum.toNat : ℕ) : ℚ) / calibration.supplyDividerDen.toNat⌋₊

end formulas

structure AcquisitionCalibration.Usable (calibration : AcquisitionCalibration) : Prop where
  reference : calibration.vrefintCalCode ≠ 0
  endpoints : calibration.temperatureCal30Code ≠ calibration.temperatureCal110Code
  vibration : calibration.vibrationMgPerCodeDen ≠ 0
  current : calibration.currentMaPerCodeDen ≠ 0
  supply : calibration.supplyDividerDen ≠ 0

theorem acquisitionCalibrationValid_iff (calibration : AcquisitionCalibration) :
    acquisitionCalibrationValid calibration = true ↔ calibration.Usable := by
  unfold acquisitionCalibrationValid
  constructor
  · intro valid
    split_ifs at valid with reference endpoints vibration current supply
    exact ⟨reference, endpoints, vibration, current, supply⟩
  · rintro ⟨reference, endpoints, vibration, current, supply⟩
    rw [if_neg reference, if_neg endpoints, if_neg vibration, if_neg current, if_neg supply]

section bounds

variable {calibration : AcquisitionCalibration} {samples : List U16}

def TwelveBit (samples : List U16) : Prop := ∀ sample ∈ samples, sample.toNat ≤ acquisitionAdcMaxCode

theorem acquisitionSample_le (codes : TwelveBit samples) (frame : ℕ) (channel : AcquisitionChannel) :
    acquisitionSample samples frame channel ≤ 4095 := by
  unfold acquisitionSample
  rw [List.getD_eq_getElem?_getD]
  cases found : samples[frame * acquisitionChannelCount + channel.index]? with
  | none => exact Nat.zero_le _
  | some sample => exact codes sample (List.mem_of_getElem? found)

theorem sampleSum_le (codes : TwelveBit samples) (channel : AcquisitionChannel) (count : ℕ) :
    ∑ frame ∈ Finset.range count, acquisitionSample samples frame channel ≤ count * 4095 := by
  have bound := Finset.sum_le_card_nsmul (Finset.range count) (fun frame => acquisitionSample samples frame channel) 4095
    fun frame _ => acquisitionSample_le codes frame channel
  rwa [Finset.card_range, nsmul_eq_mul, Nat.cast_id] at bound

theorem averageCode_eq (samples : List U16) (channel : AcquisitionChannel) : averageCode samples channel =
    (∑ frame ∈ Finset.range (frames samples), acquisitionSample samples frame channel + frames samples / 2) /
      frames samples := by
  rw [averageCode, halfUp_div]

theorem averageCode_le (codes : TwelveBit samples) (channel : AcquisitionChannel) : averageCode samples channel ≤ 4095 := by
  rw [averageCode_eq]
  by_cases none : frames samples = 0
  · rw [none, Nat.div_zero]
    exact Nat.zero_le _
  · have sum := sampleSum_le codes channel (frames samples)
    rw [← Nat.lt_succ_iff, Nat.div_lt_iff_lt_mul (Nat.pos_of_ne_zero none)]
    omega

theorem referenceMv_eq (calibration : AcquisitionCalibration) (samples : List U16) : referenceMv calibration samples =
    (acquisitionFactoryVddaMv * calibration.vrefintCalCode.toNat + averageCode samples .vrefint / 2) /
      averageCode samples .vrefint := by
  rw [referenceMv, halfUp_div]

theorem referenceMv_le (usable : calibration.Usable) (seen : averageCode samples .vrefint ≠ 0) :
    referenceMv calibration samples ≤ 216265500 := by
  have code : calibration.vrefintCalCode.toNat ≠ 0 := fun zero => usable.reference (BitVec.eq_of_toNat_eq zero)
  have width := calibration.vrefintCalCode.isLt
  rw [referenceMv_eq]
  generalize averageCode samples .vrefint = average at seen ⊢
  generalize calibration.vrefintCalCode.toNat = reference at code width ⊢
  have factory : acquisitionFactoryVddaMv = 3300 := rfl
  rw [factory]
  have scaled : 3300 * reference ≤ 216265500 := by omega
  apply le_trans _ scaled
  apply Nat.div_le_of_le_mul
  obtain ⟨more, rfl⟩ := Nat.exists_eq_succ_of_ne_zero seen
  have part : more * 1 ≤ more * (3300 * reference) := Nat.mul_le_mul_left _ (by omega)
  rw [Nat.succ_eq_add_one, Nat.add_mul, Nat.one_mul]
  omega

theorem normalizedCode_eq (calibration : AcquisitionCalibration) (samples : List U16) (code : ℕ) :
    normalizedCode calibration samples code = (code * referenceMv calibration samples + 1650) / 3300 := by
  rw [normalizedCode, halfUp_div]
  rfl

theorem normalizedCode_le (usable : calibration.Usable) (seen : averageCode samples .vrefint ≠ 0) {code : ℕ}
    (bits : code ≤ 4095) : normalizedCode calibration samples code ≤ 268365825 := by
  have product : code * referenceMv calibration samples ≤ 4095 * 216265500 :=
    Nat.mul_le_mul bits (referenceMv_le usable seen)
  rw [normalizedCode_eq]
  omega

theorem codeDelta_bounds (usable : calibration.Usable) (seen : averageCode samples .vrefint ≠ 0) {code : ℕ}
    (bits : code ≤ 4095) (zero : U16) :
    -65535 ≤ codeDelta calibration samples code zero ∧ codeDelta calibration samples code zero ≤ 268365825 := by
  have above := normalizedCode_le usable seen bits
  have width := zero.isLt
  unfold codeDelta
  omega

end bounds

theorem tdiv_bounds {dividend : ℤ} (divisor : ℤ) {size : ℕ} (small : dividend.natAbs ≤ size) :
    -(size : ℤ) ≤ dividend.tdiv divisor ∧ dividend.tdiv divisor ≤ size := by
  have quotient : (dividend.tdiv divisor).natAbs ≤ size := by
    rw [Int.natAbs_tdiv]
    exact (Nat.div_le_self _ _).trans small
  omega

section steps

variable {calibration : AcquisitionCalibration} {samples : List U16}

theorem acquisitionAverage_exact (codes : TwelveBit samples) (few : frames samples ≤ 64) (channel : AcquisitionChannel) :
    acquisitionAverage samples (frames samples) channel = pure (averageCode samples channel) := by
  let sum (count : ℕ) := ∑ frame ∈ Finset.range count, acquisitionSample samples frame channel
  have turn : ∀ frame < frames samples,
      unsigned 64 (sum frame + acquisitionSample samples frame channel : ℕ) = pure (sum (frame + 1)) := by
    intro frame inside
    have next : sum (frame + 1) = sum frame + acquisitionSample samples frame channel := Finset.sum_range_succ _ _
    have bound := sampleSum_le codes channel (frame + 1)
    rw [← next]
    exact unsigned_fits rfl (by change sum (frame + 1) ≤ _ at bound; omega)
  have bound := sampleSum_le codes channel (frames samples)
  have average := averageCode_le codes channel
  have code := averageCode_eq samples channel
  have loop : (List.range (frames samples)).foldlM
      (fun sum frame => unsigned 64 (sum + acquisitionSample samples frame channel : ℕ)) 0 =
      pure (sum (frames samples)) := foldlM_range sum turn
  unfold acquisitionAverage
  rw [loop, pure_bind, unsigned_fits rfl (by dsimp only [sum]; omega), pure_bind, ← code, unsigned_fits rfl (by omega)]

variable (usable : calibration.Usable) (codes : TwelveBit samples) (seen : averageCode samples .vrefint ≠ 0)

include usable seen

theorem acquisitionVddaMv_exact (codes : TwelveBit samples) :
    acquisitionVddaMv calibration (averageCode samples .vrefint) = pure (referenceMv calibration samples) := by
  have average := averageCode_le codes .vrefint
  have bound := referenceMv_le usable seen
  have width := calibration.vrefintCalCode.isLt
  have factory : acquisitionFactoryVddaMv = 3300 := rfl
  have supply := referenceMv_eq calibration samples
  rw [factory] at supply
  unfold acquisitionVddaMv
  rw [factory, unsigned_fits rfl (by omega), pure_bind, unsigned_fits rfl (by omega), pure_bind, ← supply,
    unsigned_fits rfl (by omega)]

theorem acquisitionNormalizeCode_exact {code : ℕ} (bits : code ≤ 4095) :
    acquisitionNormalizeCode code (referenceMv calibration samples) = pure (normalizedCode calibration samples code) := by
  have product : code * referenceMv calibration samples ≤ 4095 * 216265500 :=
    Nat.mul_le_mul bits (referenceMv_le usable seen)
  have bound := normalizedCode_le usable seen bits
  have normal := normalizedCode_eq calibration samples code
  have factory : acquisitionFactoryVddaMv = 3300 := rfl
  unfold acquisitionNormalizeCode
  rw [unsigned_fits rfl (by omega), pure_bind, unsigned_fits rfl (by omega), pure_bind, factory]
  change (if (code * referenceMv calibration samples + 1650) / 3300 > 2 ^ 32 - 1 then _ else _) = _
  rw [← normal, if_neg (by omega), unsigned_fits rfl (by omega)]

theorem acquisitionDelta_exact {code : ℕ} (bits : code ≤ 4095) (zero : U16) :
    acquisitionDelta (normalizedCode calibration samples code) zero = pure (codeDelta calibration samples code zero) := by
  have bound := normalizedCode_le usable seen bits
  have delta := codeDelta_bounds usable seen bits zero
  unfold acquisitionDelta
  rw [signed_fits (by omega) (by omega), pure_bind]
  unfold codeDelta at delta ⊢
  rw [signed_fits (by omega) (by omega)]

theorem acquisitionTemperatureCentiC_exact (codes : TwelveBit samples) :
    acquisitionTemperatureCentiC calibration (averageCode samples .temperature) (referenceMv calibration samples) =
      pure (temperatureCentiC calibration samples) := by
  have bits := averageCode_le codes .temperature
  have delta := codeDelta_bounds usable seen bits calibration.temperatureCal30Code
  have width30 := calibration.temperatureCal30Code.isLt
  have width110 := calibration.temperatureCal110Code.isLt
  unfold acquisitionTemperatureCentiC
  rw [acquisitionNormalizeCode_exact usable seen bits, pure_bind, signed_fits (by omega) (by omega), pure_bind,
    acquisitionDelta_exact usable seen bits, pure_bind, signed_fits (by omega) (by omega), pure_bind]
  have ratio : towardZero
      ((codeDelta calibration samples (averageCode samples .temperature) calibration.temperatureCal30Code * 8000 : ℤ) /
        (calibration.temperatureCal110Code.toNat - calibration.temperatureCal30Code.toNat : ℤ) : ℚ) =
      (codeDelta calibration samples (averageCode samples .temperature) calibration.temperatureCal30Code * 8000).tdiv
        (calibration.temperatureCal110Code.toNat - calibration.temperatureCal30Code.toNat) := towardZero_div_int _ _
  rw [temperatureCentiC, ratio]
  have small := tdiv_bounds (calibration.temperatureCal110Code.toNat - calibration.temperatureCal30Code.toNat)
    (by omega : (codeDelta calibration samples (averageCode samples .temperature) calibration.temperatureCal30Code *
      8000).natAbs ≤ 2 ^ 62)
  rw [signed_fits (by omega) (by omega), pure_bind, signed_fits (by omega) (by omega)]

theorem vibrationDelta_bounds (codes : TwelveBit samples) (frame : ℕ) :
    (vibrationDelta calibration samples frame).natAbs ≤ 268365825 := by
  have delta := codeDelta_bounds usable seen (acquisitionSample_le codes frame .vibration) calibration.vibrationZeroCode
  unfold vibrationDelta
  omega

theorem acquisitionVibrationSampleMg_exact (codes : TwelveBit samples) (frame : ℕ) :
    acquisitionVibrationSampleMg (vibrationDelta calibration samples frame) calibration =
      pure (acquisitionI16 (vibrationSampleMg calibration samples frame)) := by
  have delta := vibrationDelta_bounds usable seen codes frame
  have numerator := calibration.vibrationMgPerCodeNum.isLt
  have denominator := calibration.vibrationMgPerCodeDen.isLt
  have product : (vibrationDelta calibration samples frame * calibration.vibrationMgPerCodeNum.toNat).natAbs ≤
      268365825 * 4294967295 := by
    rw [Int.natAbs_mul, Int.natAbs_natCast]
    exact Nat.mul_le_mul delta (by omega)
  have half : (calibration.vibrationMgPerCodeDen.toNat : ℤ).tdiv 2 = (calibration.vibrationMgPerCodeDen.toNat / 2 : ℕ) :=
    rfl
  have sample : vibrationSampleMg calibration samples frame = _ := halfAway_div _ _
  rw [half] at sample
  unfold acquisitionVibrationSampleMg
  rw [signed_fits (by omega) (by omega), pure_bind, half, sample]
  generalize vibrationDelta calibration samples frame * calibration.vibrationMgPerCodeNum.toNat = scaled at product ⊢
  have rounded : (if scaled ≥ 0 then signed 64 (scaled + (calibration.vibrationMgPerCodeDen.toNat / 2 : ℕ))
        else signed 64 (scaled - (calibration.vibrationMgPerCodeDen.toNat / 2 : ℕ))) =
      pure (if scaled ≥ 0 then scaled + (calibration.vibrationMgPerCodeDen.toNat / 2 : ℕ)
        else scaled - (calibration.vibrationMgPerCodeDen.toNat / 2 : ℕ)) := by
    by_cases sign : scaled ≥ 0
    · rw [if_pos sign, if_pos sign, signed_fits (by omega) (by omega)]
    · rw [if_neg sign, if_neg sign, signed_fits (by omega) (by omega)]
  have kept : (if scaled ≥ 0 then scaled + (calibration.vibrationMgPerCodeDen.toNat / 2 : ℕ)
      else scaled - (calibration.vibrationMgPerCodeDen.toNat / 2 : ℕ)).natAbs ≤ 2 ^ 62 := by
    split_ifs <;> omega
  have small := tdiv_bounds calibration.vibrationMgPerCodeDen.toNat kept
  rw [rounded, pure_bind, signed_fits (by omega) (by omega), pure_bind]

def filledSignal (calibration : AcquisitionCalibration) (samples : List U16) (count : ℕ)
    (signal : AcquisitionSignalBlock) : AcquisitionSignalBlock :=
  { signal with
    vibrationMg := (List.range count).map (fun frame => acquisitionI16 (vibrationSampleMg calibration samples frame)) ++
      signal.vibrationMg.drop count }

omit usable seen in
theorem filledSignal_next {count : ℕ} {signal : AcquisitionSignalBlock} (room : count < signal.vibrationMg.length) :
    { filledSignal calibration samples count signal with
      vibrationMg := (filledSignal calibration samples count signal).vibrationMg.set count
        (acquisitionI16 (vibrationSampleMg calibration samples count)) } =
      filledSignal calibration samples (count + 1) signal := by
  unfold filledSignal
  dsimp only
  congr 1
  rw [List.set_append_right _ _ (by simp), List.length_map, List.length_range, Nat.sub_self, List.range_succ,
    List.map_append, List.append_assoc, List.drop_eq_getElem_cons room]
  rfl

def squareSum (calibration : AcquisitionCalibration) (samples : List U16) (count : ℕ) : ℕ :=
  ∑ frame ∈ Finset.range count, (vibrationDelta calibration samples frame).natAbs ^ 2

theorem squareSum_le (codes : TwelveBit samples) (count : ℕ) :
    squareSum calibration samples count ≤ count * 268365825 ^ 2 := by
  have bound := Finset.sum_le_card_nsmul (Finset.range count)
    (fun frame => (vibrationDelta calibration samples frame).natAbs ^ 2) (268365825 ^ 2)
    fun frame _ => Nat.pow_le_pow_left (vibrationDelta_bounds usable seen codes frame) 2
  rwa [Finset.card_range, nsmul_eq_mul, Nat.cast_id] at bound

theorem acquisitionVibrationTurn_exact (codes : TwelveBit samples) (few : frames samples ≤ 64)
    {cleared : Option AcquisitionSignalBlock} (sized : ∀ signal ∈ cleared, signal.vibrationMg.length = 64) {frame : ℕ}
    (inside : frame < frames samples) :
    acquisitionVibrationTurn calibration samples (referenceMv calibration samples)
      (squareSum calibration samples frame, cleared.map (filledSignal calibration samples frame)) frame =
      pure (squareSum calibration samples (frame + 1), cleared.map (filledSignal calibration samples (frame + 1))) := by
  have bits := acquisitionSample_le codes frame .vibration
  have delta := vibrationDelta_bounds usable seen codes frame
  have bound := squareSum_le usable seen codes (frame + 1)
  have next : squareSum calibration samples (frame + 1) =
      squareSum calibration samples frame + (vibrationDelta calibration samples frame).natAbs ^ 2 :=
    Finset.sum_range_succ _ _
  have square : vibrationDelta calibration samples frame * vibrationDelta calibration samples frame =
      ((vibrationDelta calibration samples frame).natAbs ^ 2 : ℕ) := by
    rw [Nat.cast_pow, Int.natCast_natAbs, sq_abs, sq]
  have small : (vibrationDelta calibration samples frame).natAbs ^ 2 ≤ 268365825 ^ 2 := Nat.pow_le_pow_left delta 2
  unfold acquisitionVibrationTurn
  rw [acquisitionNormalizeCode_exact usable seen bits, pure_bind, acquisitionDelta_exact usable seen bits, pure_bind]
  change (acquisitionExportSample calibration (vibrationDelta calibration samples frame) frame _ >>= fun signal =>
    signed 64 (vibrationDelta calibration samples frame * vibrationDelta calibration samples frame) >>= _) = _
  have exported : acquisitionExportSample calibration (vibrationDelta calibration samples frame) frame
      (cleared.map (filledSignal calibration samples frame)) =
      pure (cleared.map (filledSignal calibration samples (frame + 1))) := by
    cases cleared with
    | none => rfl
    | some signal =>
      rw [Option.map_some, acquisitionExportSample, acquisitionVibrationSampleMg_exact usable seen codes frame, pure_bind,
        filledSignal_next (by rw [sized signal rfl]; omega)]
      rfl
  rw [exported, pure_bind, square, signed_fits (by omega) (by omega), pure_bind, unsigned_fits rfl (by omega), pure_bind,
    ← next, unsigned_fits rfl (by omega), pure_bind]

theorem acquisitionVibrationMg_exact (codes : TwelveBit samples) :
    acquisitionVibrationMg calibration (squareSum calibration samples (frames samples)) (frames samples) =
      pure (vibrationMg calibration samples) := by
  have bound := squareSum_le usable seen codes (frames samples)
  have numerator := calibration.vibrationMgPerCodeNum.isLt
  have mean : ⌊((squareSum calibration samples (frames samples) : ℕ) : ℚ) / frames samples⌋₊ =
      squareSum calibration samples (frames samples) / frames samples := Nat.floor_div_eq_div _ _
  have root : vibrationRms calibration samples =
      Nat.sqrt (squareSum calibration samples (frames samples) / frames samples) := by
    rw [vibrationRms, ← mean]
    rfl
  have meanBound : squareSum calibration samples (frames samples) / frames samples ≤ 268365825 ^ 2 :=
    Nat.div_le_of_le_mul bound
  have rootBound : vibrationRms calibration samples ≤ 268365825 := by
    rw [root]
    exact Nat.lt_succ_iff.mp (Nat.sqrt_lt'.mpr (meanBound.trans_lt (Nat.pow_lt_pow_left (Nat.lt_succ_self _) (by decide))))
  have product : vibrationRms calibration samples * calibration.vibrationMgPerCodeNum.toNat ≤ 268365825 * 4294967295 :=
    Nat.mul_le_mul rootBound (by omega)
  unfold acquisitionVibrationMg
  rw [acquisitionIsqrt_exact (by omega), pure_bind, ← root, unsigned_fits rfl (by omega), pure_bind, vibrationMg,
    Nat.floor_div_eq_div]

theorem acquisitionCurrentMa_exact (codes : TwelveBit samples) :
    acquisitionCurrentMa calibration (averageCode samples .current) (referenceMv calibration samples) =
      pure (currentMa calibration samples) := by
  have bits := averageCode_le codes .current
  have delta := codeDelta_bounds usable seen bits calibration.currentZeroCode
  have numerator := calibration.currentMaPerCodeNum.isLt
  have magnitude : (if codeDelta calibration samples (averageCode samples .current) calibration.currentZeroCode < 0 then 0
      else codeDelta calibration samples (averageCode samples .current) calibration.currentZeroCode) =
      ((codeDelta calibration samples (averageCode samples .current) calibration.currentZeroCode).toNat : ℤ) := by
    split_ifs <;> omega
  have product : (codeDelta calibration samples (averageCode samples .current) calibration.currentZeroCode).toNat *
      calibration.currentMaPerCodeNum.toNat ≤ 268365825 * 4294967295 := Nat.mul_le_mul (by omega) (by omega)
  unfold acquisitionCurrentMa
  rw [acquisitionNormalizeCode_exact usable seen bits, pure_bind, acquisitionDelta_exact usable seen bits, pure_bind,
    unsigned_fits magnitude (by omega), pure_bind, unsigned_fits rfl (by omega), pure_bind, currentMa,
    Nat.floor_div_eq_div]

theorem acquisitionSupplyMv_exact (codes : TwelveBit samples) :
    acquisitionSupplyMv calibration (averageCode samples .supply) (referenceMv calibration samples) =
      pure (supplyMv calibration samples) := by
  have pin : averageCode samples .supply * referenceMv calibration samples ≤ 4095 * 216265500 :=
    Nat.mul_le_mul (averageCode_le codes .supply) (referenceMv_le usable seen)
  have numerator := calibration.supplyDividerNum.isLt
  have largest : acquisitionAdcMaxCode = 4095 := rfl
  have product : averageCode samples .supply * referenceMv calibration samples / 4095 *
      calibration.supplyDividerNum.toNat ≤ 216265500 * 65535 := Nat.mul_le_mul (by omega) (by omega)
  unfold acquisitionSupplyMv
  rw [unsigned_fits rfl (by omega), pure_bind, largest, unsigned_fits rfl (by omega), pure_bind, supplyMv,
    Nat.floor_div_eq_div, Nat.floor_div_eq_div]
  rfl

end steps

structure AcquisitionBlock where
  samples : List U16
  aux : AcquisitionAux
  sampleRateHz : U32
  signalBlock : Option AcquisitionSignalBlock

def AcquisitionProcessor.process (acquisition : AcquisitionProcessor) (block : AcquisitionBlock) :
    Watched (AcquisitionResult × AcquisitionProcessor × Option AcquisitionSignalBlock) :=
  acquisitionProcessBlockEx acquisition block.samples block.aux block.sampleRateHz block.signalBlock

def acquisitionRun (start : AcquisitionProcessor) (blocks : List AcquisitionBlock) : AcquisitionProcessor :=
  blocks.foldl (fun acquisition block => (acquisition.process block).value.2.1) start

def exactMeasurements (calibration : AcquisitionCalibration) (block : AcquisitionBlock) : MachineMeasurements where
  temperatureCentiC := acquisitionI16 (temperatureCentiC calibration block.samples)
  vibrationMgRms := acquisitionU16 (vibrationMg calibration block.samples)
  currentMa := acquisitionU16 (currentMa calibration block.samples)
  rpm := if block.aux.rpmValid ≠ 0 then block.aux.rpm else 0
  supplyMv := acquisitionU16 (supplyMv calibration block.samples)
  statusFlags := acquisitionStatusFlags calibration block.aux (acquisitionSaturated block.samples)

def exactSignal (acquisition : AcquisitionProcessor) (block : AcquisitionBlock) : AcquisitionSignalBlock :=
  { filledSignal acquisition.calibration block.samples (frames block.samples) emptySignalBlock with
    sequence := acquisition.nextBlockSequence
    sampleRateHz := block.sampleRateHz
    sampleCount := BitVec.ofNat 16 (frames block.samples)
    statusFlags := acquisitionStatusFlags acquisition.calibration block.aux (acquisitionSaturated block.samples) }

structure AcquisitionBlock.Ready (block : AcquisitionBlock) : Prop where
  whole : ¬ (block.samples.length = 0 ∨ block.samples.length % acquisitionChannelCount ≠ 0)
  few : ¬ block.samples.length / acquisitionChannelCount > acquisitionFramesPerBlock
  rate : ¬ (block.signalBlock.isSome ∧ block.sampleRateHz = 0)

section calls

variable {acquisition : AcquisitionProcessor} {block : AcquisitionBlock}

theorem process_calibration (unusable : ¬ acquisition.calibration.Usable) :
    acquisition.process block = pure (.calibration, acquisition.countInvalid, block.signalBlock) := by
  rw [← acquisitionCalibrationValid_iff, Bool.not_eq_true] at unusable
  unfold AcquisitionProcessor.process acquisitionProcessBlockEx
  rw [unusable]
  rfl

theorem process_length (usable : acquisition.calibration.Usable) (unready : ¬ block.Ready) :
    acquisition.process block = pure (.length, acquisition.countInvalid, block.signalBlock) := by
  unfold AcquisitionProcessor.process acquisitionProcessBlockEx
  rw [(acquisitionCalibrationValid_iff _).mpr usable, Bool.not_true, if_neg Bool.false_ne_true]
  by_cases whole : block.samples.length = 0 ∨ block.samples.length % acquisitionChannelCount ≠ 0
  · rw [if_pos whole]
  rw [if_neg whole]
  by_cases few : block.samples.length / acquisitionChannelCount > acquisitionFramesPerBlock
  · rw [if_pos few]
  rw [if_neg few]
  by_cases rate : block.signalBlock.isSome ∧ block.sampleRateHz = 0
  · rw [if_pos rate]
  · exact absurd ⟨whole, few, rate⟩ unready

theorem process_reference (usable : acquisition.calibration.Usable) (ready : block.Ready)
    (codes : TwelveBit block.samples) (blind : averageCode block.samples .vrefint = 0) :
    acquisition.process block =
      pure (.reference, acquisition.countInvalid, block.signalBlock.map fun _ => emptySignalBlock) := by
  have few : frames block.samples ≤ 64 := not_lt.mp ready.few
  have average := acquisitionAverage_exact codes few
  unfold frames at average
  unfold AcquisitionProcessor.process acquisitionProcessBlockEx
  rw [(acquisitionCalibrationValid_iff _).mpr usable, Bool.not_true, if_neg Bool.false_ne_true, if_neg ready.whole, if_neg ready.few,
    if_neg ready.rate]
  dsimp only
  rw [average, average, average, average, average]
  simp only [pure_bind]
  rw [if_pos blind]

/-- A call that succeeds publishes what the formulas give, and no operation on the way loses anything. -/
theorem process_ok (usable : acquisition.calibration.Usable) (ready : block.Ready) (codes : TwelveBit block.samples)
    (seen : averageCode block.samples .vrefint ≠ 0) :
    acquisition.process block = pure (.ok,
      acquisition.publish (exactMeasurements acquisition.calibration block) (acquisitionSaturated block.samples),
      block.signalBlock.map fun _ => exactSignal acquisition block) := by
  have few : frames block.samples ≤ 64 := not_lt.mp ready.few
  have average := acquisitionAverage_exact codes few
  have sized : ∀ signal ∈ block.signalBlock.map fun _ => emptySignalBlock, signal.vibrationMg.length = 64 := by
    intro signal member
    obtain ⟨_, -, rfl⟩ := Option.mem_map.mp member
    rfl
  have loop := foldlM_range (fun count => (squareSum acquisition.calibration block.samples count,
      (block.signalBlock.map fun _ => emptySignalBlock).map (filledSignal acquisition.calibration block.samples count)))
    fun frame inside => acquisitionVibrationTurn_exact usable seen codes few sized inside
  have start : (squareSum acquisition.calibration block.samples 0,
      (block.signalBlock.map fun _ => emptySignalBlock).map (filledSignal acquisition.calibration block.samples 0)) =
      (0, block.signalBlock.map fun _ => emptySignalBlock) := by
    cases block.signalBlock with
    | none => rfl
    | some signal => rfl
  have vibration := acquisitionVibrationMg_exact usable seen codes
  rw [start] at loop
  unfold frames at average loop vibration
  unfold AcquisitionProcessor.process acquisitionProcessBlockEx
  rw [(acquisitionCalibrationValid_iff _).mpr usable, Bool.not_true, if_neg Bool.false_ne_true, if_neg ready.whole, if_neg ready.few,
    if_neg ready.rate]
  dsimp only
  rw [average, average, average, average, average]
  simp only [pure_bind]
  rw [if_neg seen, acquisitionVddaMv_exact usable seen codes, pure_bind, acquisitionTemperatureCentiC_exact usable seen codes,
    pure_bind, loop, pure_bind]
  dsimp only
  rw [vibration, pure_bind, acquisitionCurrentMa_exact usable seen codes, pure_bind,
    acquisitionSupplyMv_exact usable seen codes, pure_bind, Option.map_map, Option.map_map]
  rfl

/-- A call that is refused has published nothing, and one that is not keeps the calibration. -/
inductive CallOutcome (acquisition : AcquisitionProcessor) :
    AcquisitionResult × AcquisitionProcessor × Option AcquisitionSignalBlock → Prop
  | refused {failure : AcquisitionResult} (signal : Option AcquisitionSignalBlock) (fails : failure ≠ .ok) :
      CallOutcome acquisition (failure, acquisition.countInvalid, signal)
  | published (measurements : MachineMeasurements) (saturated : Bool) (signal : Option AcquisitionSignalBlock) :
      CallOutcome acquisition (.ok, acquisition.publish measurements saturated, signal)

theorem process_outcome (acquisition : AcquisitionProcessor) (block : AcquisitionBlock) :
    CallOutcome acquisition (acquisition.process block).value := by
  by_cases usable : acquisition.calibration.Usable
  swap
  · rw [process_calibration usable]
    exact .refused _ nofun
  by_cases ready : block.Ready
  swap
  · rw [process_length usable ready]
    exact .refused _ nofun
  unfold AcquisitionProcessor.process acquisitionProcessBlockEx
  rw [(acquisitionCalibrationValid_iff _).mpr usable, Bool.not_true, if_neg Bool.false_ne_true, if_neg ready.whole,
    if_neg ready.few, if_neg ready.rate]
  dsimp only
  rw [bind_value, bind_value, bind_value, bind_value, bind_value]
  by_cases blind : (acquisitionAverage block.samples (block.samples.length / acquisitionChannelCount) .vrefint).value = 0
  · rw [if_pos blind]
    exact .refused _ nofun
  · rw [if_neg blind, bind_value, bind_value, bind_value, bind_value, bind_value, bind_value]
    exact .published _ _ _

theorem process_calibration_kept (acquisition : AcquisitionProcessor) (block : AcquisitionBlock) :
    (acquisition.process block).value.2.1.calibration = acquisition.calibration := by
  have outcome := process_outcome acquisition block
  generalize (acquisition.process block).value = result at outcome
  cases outcome with
  | refused signal fails => rfl
  | published measurements saturated signal => rfl

theorem acquisitionRun_calibration (start : AcquisitionProcessor) (blocks : List AcquisitionBlock) :
    (acquisitionRun start blocks).calibration = start.calibration := by
  induction blocks generalizing start with
  | nil => rfl
  | cons block blocks ih => exact (ih _).trans (process_calibration_kept start block)

end calls

theorem acquisitionU16_toNat (value : ℕ) : (acquisitionU16 value).toNat = min value 65535 := by
  unfold acquisitionU16
  by_cases large : value > 65535
  · rw [if_pos large, Nat.min_eq_right (by omega)]
    rfl
  · rw [if_neg large, BitVec.toNat_ofNat, Nat.min_eq_left (by omega), Nat.mod_eq_of_lt (by omega)]

theorem acquisitionI16_toInt (value : ℤ) : (acquisitionI16 value).toInt = max (-32768) (min value 32767) := by
  unfold acquisitionI16
  by_cases high : value > 32767
  · rw [if_pos high, min_eq_right (by omega)]
    rfl
  rw [if_neg high, min_eq_left (by omega)]
  by_cases low : value < -32768
  · rw [if_pos low, max_eq_left (by omega)]
    rfl
  · rw [if_neg low, max_eq_right (by omega), BitVec.toInt_ofInt]
    exact Int.bmod_eq_of_le (by omega) (by omega)

structure PublishedExactly (calibration : AcquisitionCalibration) (samples : List U16) (latest : MachineMeasurements) :
    Prop where
  temperature : latest.temperatureCentiC.toInt = max (-32768) (min (temperatureCentiC calibration samples) 32767)
  vibration : latest.vibrationMgRms.toNat = min (vibrationMg calibration samples) 65535
  current : latest.currentMa.toNat = min (currentMa calibration samples) 65535
  supply : latest.supplyMv.toNat = min (supplyMv calibration samples) 65535

def ExportedExactly (calibration : AcquisitionCalibration) (samples : List U16) (signal : AcquisitionSignalBlock) : Prop :=
  ∀ frame < frames samples, ((signal.vibrationMg.getD frame 0).toInt =
    max (-32768) (min (vibrationSampleMg calibration samples frame) 32767))

structure CallExact (calibration : AcquisitionCalibration) (acquisition : AcquisitionProcessor) (block : AcquisitionBlock) :
    Prop where
  exact : TwelveBit block.samples → (acquisition.process block).exact = true
  accepted : TwelveBit block.samples →
    ((acquisition.process block).value.1 = .ok ↔ block.Ready ∧ averageCode block.samples .vrefint ≠ 0)
  published : TwelveBit block.samples → (acquisition.process block).value.1 = .ok →
    PublishedExactly calibration block.samples (acquisition.process block).value.2.1.latest
  exported : TwelveBit block.samples → (acquisition.process block).value.1 = .ok →
    ((acquisition.process block).value.2.2.isSome ↔ block.signalBlock.isSome) ∧
    ∀ signal ∈ (acquisition.process block).value.2.2, ExportedExactly calibration block.samples signal
  refused : (acquisition.process block).value.1 ≠ .ok →
    (acquisition.process block).value.2.1.latest = acquisition.latest ∧
    (acquisition.process block).value.2.1.nextBlockSequence = acquisition.nextBlockSequence

theorem exactSignal_exported (acquisition : AcquisitionProcessor) (block : AcquisitionBlock) :
    ExportedExactly acquisition.calibration block.samples (exactSignal acquisition block) := by
  intro frame inside
  have read : (exactSignal acquisition block).vibrationMg.getD frame 0 =
      acquisitionI16 (vibrationSampleMg acquisition.calibration block.samples frame) := by
    rw [exactSignal, filledSignal]
    dsimp only
    rw [List.getD_eq_getElem?_getD, List.getElem?_append_left (by rw [List.length_map, List.length_range]; exact inside),
      List.getElem?_map, List.getElem?_range inside]
    rfl
  rw [read, acquisitionI16_toInt]

/-- After any calls on an accepted calibration, a call accepts the blocks of whole frames that show a reference, loses
    nothing on its way and publishes what the formulas give. -/
theorem acquisition_exact {initial start : AcquisitionProcessor} {calibration : AcquisitionCalibration}
    (accepted : acquisitionInit initial calibration = (.ok, start)) (blocks : List AcquisitionBlock)
    (block : AcquisitionBlock) : CallExact calibration (acquisitionRun start blocks) block := by
  have usable : calibration.Usable ∧ start.calibration = calibration := by
    unfold acquisitionInit at accepted
    cases valid : acquisitionCalibrationValid calibration with
    | false =>
      rw [valid] at accepted
      cases accepted
    | true =>
      rw [valid] at accepted
      cases accepted
      exact ⟨(acquisitionCalibrationValid_iff _).mp valid, rfl⟩
  have kept := (acquisitionRun_calibration start blocks).trans usable.2
  generalize acquisitionRun start blocks = acquisition at kept
  subst kept
  have answered (codes : TwelveBit block.samples) :
      (acquisition.process block).value.1 = .ok ↔ block.Ready ∧ averageCode block.samples .vrefint ≠ 0 := by
    constructor
    · intro ok
      refine ⟨by_contra fun unready => ?_, fun blind => ?_⟩
      · rw [process_length usable.1 unready] at ok
        cases ok
      · by_cases ready : block.Ready
        · rw [process_reference usable.1 ready codes blind] at ok
          cases ok
        · rw [process_length usable.1 ready] at ok
          cases ok
    · rintro ⟨ready, seen⟩
      rw [process_ok usable.1 ready codes seen]
      rfl
  have done (codes : TwelveBit block.samples) (ok : (acquisition.process block).value.1 = .ok) :
      acquisition.process block = pure (.ok,
        acquisition.publish (exactMeasurements acquisition.calibration block) (acquisitionSaturated block.samples),
        block.signalBlock.map fun _ => exactSignal acquisition block) :=
    process_ok usable.1 ((answered codes).mp ok).1 codes ((answered codes).mp ok).2
  exact
    { exact := fun codes => by
        by_cases ready : block.Ready
        · by_cases blind : averageCode block.samples .vrefint = 0
          · rw [process_reference usable.1 ready codes blind]
            rfl
          · rw [process_ok usable.1 ready codes blind]
            rfl
        · rw [process_length usable.1 ready]
          rfl
      accepted := answered
      published := fun codes ok => by
        rw [done codes ok]
        exact ⟨acquisitionI16_toInt _, acquisitionU16_toNat _, acquisitionU16_toNat _, acquisitionU16_toNat _⟩
      exported := fun codes ok => by
        rw [done codes ok]
        refine ⟨iff_of_eq (congrArg (· = true) Option.isSome_map), fun signal member => ?_⟩
        obtain ⟨_, -, rfl⟩ := Option.mem_map.mp member
        exact exactSignal_exported acquisition block
      refused := fun fails => by
        have outcome := process_outcome acquisition block
        generalize (acquisition.process block).value = result at outcome fails
        cases outcome with
        | refused signal _ => exact ⟨rfl, rfl⟩
        | published measurements saturated signal => exact absurd rfl fails }

def exampleCalibration : AcquisitionCalibration := ⟨1500, 950, 1200, 2048, 8, 10, 2048, 5, 2, 11, 1, 0⟩

def blankProcessor : AcquisitionProcessor := ⟨exampleCalibration, ⟨0, 0, 0, 0, 0, 0⟩, 0, ⟨0, 0, 0⟩⟩

/-- Two frames of a machine at 46 degrees. -/
def exampleBlock : AcquisitionBlock :=
  ⟨[2100, 2400, 1500, 1000, 1510, 2010, 2402, 1504, 1004, 1490], ⟨1200, 1, 0⟩, 1000, some emptySignalBlock⟩

theorem acquisition_exact_example :
    let called := ((acquisitionRun blankProcessor []).process exampleBlock).value
    called.1 = .ok ∧ called.2.1.latest.temperatureCentiC.toInt = 4664 ∧ called.2.1.latest.vibrationMgRms.toNat = 36 ∧
      called.2.1.latest.currentMa.toNat = 882 ∧ called.2.1.latest.supplyMv.toNat = 13310 ∧
      called.2.2.isSome ∧ ∀ signal ∈ called.2.2, (signal.vibrationMg.getD 0 0).toInt = 42 ∧
        (signal.vibrationMg.getD 1 0).toInt = -30 := by
  have exact := acquisition_exact
    (show acquisitionInit blankProcessor exampleCalibration = (.ok, blankProcessor) from rfl) [] exampleBlock
  have codes : TwelveBit exampleBlock.samples := by simp [TwelveBit, exampleBlock, acquisitionAdcMaxCode]
  have seen : averageCode exampleBlock.samples .vrefint ≠ 0 := by decide +kernel
  have ok := (exact.accepted codes).mpr ⟨⟨by decide, by decide, by decide⟩, seen⟩
  have published := exact.published codes ok
  have exported := exact.exported codes ok
  have temperature : temperatureCentiC exampleCalibration exampleBlock.samples = 4664 := by decide +kernel
  have vibration : vibrationMg exampleCalibration exampleBlock.samples = 36 := by decide +kernel
  have current : currentMa exampleCalibration exampleBlock.samples = 882 := by decide +kernel
  have supply : supplyMv exampleCalibration exampleBlock.samples = 13310 := by decide +kernel
  refine ⟨ok, ?_, ?_, ?_, ?_, exported.1.mpr rfl, fun signal member => ⟨?_, ?_⟩⟩
  · rw [published.temperature, temperature]
    rfl
  · rw [published.vibration, vibration]
    rfl
  · rw [published.current, current]
    rfl
  · rw [published.supply, supply]
    rfl
  · rw [exported.2 signal member 0 (by decide)]
    decide +kernel
  · rw [exported.2 signal member 1 (by decide)]
    decide +kernel

end Guardian.Acquisition
