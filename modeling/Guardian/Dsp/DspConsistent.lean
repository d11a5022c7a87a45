import Mathlib.Analysis.Real.Sqrt
import Guardian.Dsp.DspAnalyze
import Guardian.Lib.Rounding

namespace Guardian.Dsp

open Word Rounding Guardian.Acquisition

section sums

variable {ρ : Type} [AddCommMonoid ρ]

theorem foldl_range_add (terms : ℕ → ρ) (count : ℕ) :
    (List.range count).foldl (fun sum index => sum + terms index) 0 = ∑ index ∈ Finset.range count, terms index := by
  induction count with
  | zero => rfl
  | succ count ih =>
    rw [List.range_succ, List.foldl_append, ih, Finset.sum_range_succ]
    rfl

end sums

section time

variable (samples : ℕ → ℝ)

structure TimeAfter (samples : ℕ → ℝ) (count : ℕ) (time : DspTime ℝ) : Prop where
  rmsSum : time.rmsSum = ∑ index ∈ Finset.range count, samples index ^ 2
  positive : 0 ≤ time.peak
  above : ∀ index < count, |samples index| ≤ time.peak
  attained : time.peak = 0 ∨ ∃ index < count, time.peak = |samples index|

theorem dspTimeTurn_eq (time : DspTime ℝ) (index : ℕ) : dspTimeTurn samples time index =
    ⟨time.rmsSum + samples index ^ 2, max time.peak |samples index|⟩ := by
  have absolute : (if samples index < 0 then -samples index else samples index) = |samples index| := by
    by_cases negative : samples index < 0
    · rw [if_pos negative, abs_of_neg negative]
    · rw [if_neg negative, abs_of_nonneg (not_lt.mp negative)]
  unfold dspTimeTurn
  dsimp only
  rw [absolute, ← sq]
  congr 1
  by_cases larger : |samples index| > time.peak
  · rw [if_pos larger, max_eq_right larger.le]
  · rw [if_neg larger, max_eq_left (not_lt.mp larger)]

theorem dspTime_after (count : ℕ) :
    TimeAfter samples count ((List.range count).foldl (dspTimeTurn samples) ⟨0, 0⟩) := by
  induction count with
  | zero => exact ⟨rfl, le_rfl, nofun, Or.inl rfl⟩
  | succ count ih =>
    obtain ⟨rmsSum, positive, above, attained⟩ := ih
    rw [List.range_succ, List.foldl_append, List.foldl_cons, List.foldl_nil, dspTimeTurn_eq]
    refine ⟨?_, le_max_of_le_left positive, fun index before => ?_, ?_⟩
    · rw [Finset.sum_range_succ, rmsSum]
    · rcases Nat.lt_succ_iff_lt_or_eq.mp before with earlier | rfl
      · exact le_max_of_le_left (above index earlier)
      · exact le_max_right _ _
    · rcases max_choice (List.foldl (dspTimeTurn samples) ⟨0, 0⟩ (List.range count)).peak |samples count| with old | new
      · rw [old]
        rcases attained with zero | ⟨index, before, same⟩
        · exact Or.inl zero
        · exact Or.inr ⟨index, Nat.lt_succ_of_lt before, same⟩
      · exact Or.inr ⟨count, Nat.lt_succ_self count, new⟩

/-- The root mean square lies below the peak, and an eighth of the peak below the root mean square. -/
theorem rms_between : √((dspTime samples).rmsSum / 64) ≤ (dspTime samples).peak ∧
    (dspTime samples).peak ≤ 8 * √((dspTime samples).rmsSum / 64) := by
  have ⟨rmsSum, positive, above, attained⟩ := dspTime_after samples dspFftSize
  change (dspTime samples).rmsSum = _ at rmsSum
  change 0 ≤ (dspTime samples).peak at positive
  change ∀ index < dspFftSize, |samples index| ≤ (dspTime samples).peak at above
  change (dspTime samples).peak = 0 ∨ ∃ index < dspFftSize, (dspTime samples).peak = |samples index| at attained
  have sum : (dspTime samples).rmsSum ≤ 64 * (dspTime samples).peak ^ 2 := by
    rw [rmsSum]
    calc ∑ index ∈ Finset.range dspFftSize, samples index ^ 2
        ≤ ∑ _index ∈ Finset.range dspFftSize, (dspTime samples).peak ^ 2 := by
          apply Finset.sum_le_sum
          intro index member
          rw [← sq_abs]
          exact pow_le_pow_left₀ (abs_nonneg _) (above index (Finset.mem_range.mp member)) 2
      _ = 64 * (dspTime samples).peak ^ 2 := by simp [dspFftSize]
  have one : (dspTime samples).peak ^ 2 ≤ (dspTime samples).rmsSum := by
    rw [rmsSum]
    rcases attained with zero | ⟨index, before, same⟩
    · rw [zero]
      simpa using Finset.sum_nonneg fun index _ => sq_nonneg (samples index)
    · rw [same, sq_abs]
      exact Finset.single_le_sum (fun index _ => sq_nonneg (samples index)) (Finset.mem_range.mpr before)
  constructor
  · rw [Real.sqrt_le_iff]
    exact ⟨positive, by linarith⟩
  · have eighth : (dspTime samples).peak / 8 ≤ √((dspTime samples).rmsSum / 64) := by
      apply Real.le_sqrt_of_sq_le
      linarith
    linarith

end time

section spectrum

variable {power frequency : ℕ → ℝ} {low top : ℝ} {count : ℕ} {spectrum : DspSpectrum ℝ}

/-- The loop over the bins after a number of turns, with frequencies between two bounds. -/
structure SpectrumAfter (power frequency : ℕ → ℝ) (low top : ℝ) (count : ℕ) (spectrum : DspSpectrum ℝ) : Prop where
  bands : spectrum.lowPower + spectrum.midPower + spectrum.highPower = spectrum.totalPower
  lowPositive : 0 ≤ spectrum.lowPower
  midPositive : 0 ≤ spectrum.midPower
  highPositive : 0 ≤ spectrum.highPower
  centroidAbove : low * spectrum.totalPower ≤ spectrum.centroidNumerator
  centroidBelow : spectrum.centroidNumerator ≤ top * spectrum.totalPower
  strongest : ∀ bin, 1 ≤ bin → bin ≤ count → power bin ≤ spectrum.dominantPower
  enough : spectrum.totalPower ≤ count * spectrum.dominantPower
  found : spectrum.dominantPower = 0 ∨
    1 ≤ spectrum.dominantBin ∧ spectrum.dominantBin ≤ count ∧ power spectrum.dominantBin = spectrum.dominantPower

theorem dspSpectrumTurn_bands (positive : 0 ≤ power (count + 1))
    (after : SpectrumAfter power frequency low top count spectrum) :
    let next := dspSpectrumTurn power frequency spectrum (count + 1)
    next.lowPower + next.midPower + next.highPower = next.totalPower ∧ 0 ≤ next.lowPower ∧ 0 ≤ next.midPower ∧
      0 ≤ next.highPower := by
  have ⟨bands, lowPositive, midPositive, highPositive, _, _, _, _, _⟩ := after
  unfold dspSpectrumTurn
  dsimp only
  split_ifs
  · exact ⟨by dsimp only; linarith, by dsimp only; linarith, midPositive, highPositive⟩
  · exact ⟨by dsimp only; linarith, lowPositive, by dsimp only; linarith, highPositive⟩
  · exact ⟨by dsimp only; linarith, lowPositive, midPositive, by dsimp only; linarith⟩

theorem SpectrumAfter.turn (after : SpectrumAfter power frequency low top count spectrum)
    (positive : 0 ≤ power (count + 1)) (above : low ≤ frequency (count + 1)) (below : frequency (count + 1) ≤ top) :
    SpectrumAfter power frequency low top (count + 1) (dspSpectrumTurn power frequency spectrum (count + 1)) := by
  obtain ⟨bands, lowPositive, midPositive, highPositive⟩ := dspSpectrumTurn_bands positive after
  have ⟨_, _, _, _, centroidAbove, centroidBelow, strongest, enough, found⟩ := after
  refine ⟨bands, lowPositive, midPositive, highPositive, ?_, ?_, fun bin first last => ?_, ?_, ?_⟩
  · unfold dspSpectrumTurn
    dsimp only
    have weighted := mul_le_mul_of_nonneg_right above positive
    linarith
  · unfold dspSpectrumTurn
    dsimp only
    have weighted := mul_le_mul_of_nonneg_right below positive
    linarith
  · unfold dspSpectrumTurn
    dsimp only
    rcases Nat.lt_or_eq_of_le last with earlier | rfl
    · have old := strongest bin first (Nat.le_of_lt_succ earlier)
      split_ifs <;> linarith
    · split_ifs <;> linarith
  · unfold dspSpectrumTurn
    dsimp only
    push_cast
    split_ifs with larger
    · have grown := mul_le_mul_of_nonneg_left larger.le (Nat.cast_nonneg (α := ℝ) count)
      linarith
    · linarith
  · unfold dspSpectrumTurn
    dsimp only
    split_ifs with larger
    · exact Or.inr ⟨Nat.succ_le_succ (Nat.zero_le count), le_rfl, rfl⟩
    · rcases found with none | ⟨first, last, same⟩
      · exact Or.inl none
      · exact Or.inr ⟨first, Nat.le_succ_of_le last, same⟩

theorem spectrumAfter (positive : ∀ bin, 0 ≤ power bin) {count : ℕ}
    (above : ∀ bin, 1 ≤ bin → bin ≤ count → low ≤ frequency bin)
    (below : ∀ bin, 1 ≤ bin → bin ≤ count → frequency bin ≤ top) :
    SpectrumAfter power frequency low top count
      ((List.range' 1 count).foldl (dspSpectrumTurn power frequency) ⟨0, 0, 0, 0, 0, 0, 0⟩) := by
  induction count with
  | zero =>
    exact ⟨by simp, le_rfl, le_rfl, le_rfl, by simp, by simp, fun bin first last => by omega, by simp, Or.inl rfl⟩
  | succ count ih =>
    rw [List.range'_1_concat, List.foldl_append, List.foldl_cons, List.foldl_nil, Nat.add_comm 1 count]
    apply SpectrumAfter.turn
    · exact ih (fun bin first last => above bin first (by omega)) (fun bin first last => below bin first (by omega))
    · exact positive _
    · exact above _ (by omega) le_rfl
    · exact below _ (by omega) le_rfl

theorem dspInterpolatedBin_near (power : ℕ → ℝ) (bin : ℕ) :
    |dspInterpolatedBin power bin - bin| ≤ 1 / 2 ∧ (bin ≤ 32 → dspInterpolatedBin power bin ≤ 32) := by
  have whole : |(bin : ℝ) - bin| ≤ 1 / 2 ∧ (bin ≤ 32 → (bin : ℝ) ≤ 32) := by
    rw [sub_self, abs_zero]
    exact ⟨by norm_num, fun inside => by exact_mod_cast inside⟩
  have near (delta : ℝ) : |if delta > 1 / 2 then 1 / 2 else if delta < -(1 / 2) then -(1 / 2) else delta| ≤ 1 / 2 := by
    rw [abs_le]
    split_ifs <;> constructor <;> linarith
  unfold dspInterpolatedBin
  by_cases inner : 1 < bin ∧ bin < dspOneSidedBinCount - 1
  · have last : bin + 1 ≤ 32 := inner.2
    have cast : (bin : ℝ) + 1 ≤ 32 := by exact_mod_cast last
    have moved (offset : ℝ) (bound : |offset| ≤ 1 / 2) :
        |(bin : ℝ) + offset - bin| ≤ 1 / 2 ∧ (bin ≤ 32 → (bin : ℝ) + offset ≤ 32) := by
      rw [add_sub_cancel_left]
      have upper := (abs_le.mp bound).2
      exact ⟨bound, fun _ => by linarith⟩
    rw [if_pos inner]
    dsimp only
    by_cases steep : power (bin - 1) - 2 * power bin + power (bin + 1) > 1 / 10 ^ 12 ∨
        power (bin - 1) - 2 * power bin + power (bin + 1) < -(1 / 10 ^ 12)
    · rw [if_pos steep]
      exact moved _ (near _)
    · rw [if_neg steep]
      exact whole
  · rw [if_neg inner]
    exact whole

end spectrum

section transform

variable {ρ : Type} [CommRing ρ]

def FftArrays.negated (arrays : FftArrays ρ) : FftArrays ρ :=
  ⟨fun index => -arrays.real index, fun index => -arrays.imag index⟩

theorem dspSwapFloat_neg (cells : ℕ → ρ) (left right : ℕ) :
    dspSwapFloat (fun index => -cells index) left right = fun index => -dspSwapFloat cells left right index := by
  funext index
  unfold dspSwapFloat
  by_cases isRight : index = right
  · rw [isRight, Function.update_self, Function.update_self]
  rw [Function.update_of_ne isRight, Function.update_of_ne isRight]
  by_cases isLeft : index = left
  · rw [isLeft, Function.update_self, Function.update_self]
  · rw [Function.update_of_ne isLeft, Function.update_of_ne isLeft]

theorem dspReverseCells_neg (cells : ℕ → ρ) :
    dspReverseCells (fun index => -cells index) = fun index => -dspReverseCells cells index := by
  unfold dspReverseCells
  generalize reversalPairs = pairs
  induction pairs generalizing cells with
  | nil => rfl
  | cons pair pairs ih =>
    rw [List.foldl_cons, List.foldl_cons, ← ih]
    congr 1
    dsimp only
    split_ifs
    · exact dspSwapFloat_neg cells pair.1 pair.2
    · rfl

theorem dspButterfly_neg (twiddleReal twiddleImag : ℕ → ρ) (arrays : FftArrays ρ) (indices : ℕ × ℕ × ℕ) :
    dspButterfly twiddleReal twiddleImag arrays.negated indices =
      (dspButterfly twiddleReal twiddleImag arrays indices).negated := by
  obtain ⟨even, odd, twiddle⟩ := indices
  unfold dspButterfly FftArrays.negated
  dsimp only
  congr 1
  · funext index
    by_cases isOdd : index = odd
    · rw [isOdd, Function.update_self, Function.update_self]
      ring
    rw [Function.update_of_ne isOdd, Function.update_of_ne isOdd]
    by_cases isEven : index = even
    · rw [isEven, Function.update_self, Function.update_self]
      ring
    · rw [Function.update_of_ne isEven, Function.update_of_ne isEven]
  · funext index
    by_cases isOdd : index = odd
    · rw [isOdd, Function.update_self, Function.update_self]
      ring
    rw [Function.update_of_ne isOdd, Function.update_of_ne isOdd]
    by_cases isEven : index = even
    · rw [isEven, Function.update_self, Function.update_self]
      ring
    · rw [Function.update_of_ne isEven, Function.update_of_ne isEven]

theorem dspFft64_neg (twiddleReal twiddleImag : ℕ → ρ) (arrays : FftArrays ρ) :
    dspFft64 twiddleReal twiddleImag arrays.negated = (dspFft64 twiddleReal twiddleImag arrays).negated := by
  have stage (indices : List (ℕ × ℕ × ℕ)) (arrays : FftArrays ρ) :
      indices.foldl (dspButterfly twiddleReal twiddleImag) arrays.negated =
        (indices.foldl (dspButterfly twiddleReal twiddleImag) arrays).negated := by
    induction indices generalizing arrays with
    | nil => rfl
    | cons first rest ih => rw [List.foldl_cons, List.foldl_cons, dspButterfly_neg, ih]
  have start : dspBitReverse arrays.negated = (dspBitReverse arrays).negated := by
    unfold dspBitReverse FftArrays.negated
    rw [dspReverseCells_neg, dspReverseCells_neg]
  unfold dspFft64
  rw [start]
  generalize dspBitReverse arrays = arrays
  generalize stageLengths = lengths
  induction lengths generalizing arrays with
  | nil => rfl
  | cons length lengths ih => rw [List.foldl_cons, List.foldl_cons, stage, ih]

end transform

section invariance

variable {samples others : ℕ → ℝ}

/-- Two blocks of samples that agree, or of which one is the other with its sign flipped. -/
def SameOrFlipped (samples others : ℕ → ℝ) : Prop :=
  (∀ index < dspFftSize, others index = samples index) ∨ ∀ index < dspFftSize, others index = -samples index

theorem SameOrFlipped.time (same : SameOrFlipped samples others) : dspTime others = dspTime samples := by
  have turns (time : DspTime ℝ) {index : ℕ} (inside : index < dspFftSize) :
      dspTimeTurn others time index = dspTimeTurn samples time index := by
    rw [dspTimeTurn_eq, dspTimeTurn_eq]
    rcases same with equal | flipped
    · rw [equal index inside]
    · rw [flipped index inside, neg_sq, abs_neg]
  unfold dspTime
  exact List.foldl_ext _ _ _ fun time index member => turns time (List.mem_range.mp member)

theorem SameOrFlipped.power (same : SameOrFlipped samples others) (tables : DspTables ℝ) :
    dspPower tables others = dspPower tables samples := by
  rcases same with equal | flipped
  · have windowed : dspWindowed tables.hann others = dspWindowed tables.hann samples := by
      unfold dspWindowed
      congr 1
      funext index
      by_cases inside : index < dspFftSize
      · rw [if_pos inside, if_pos inside, equal index inside]
      · rw [if_neg inside, if_neg inside]
    unfold dspPower
    rw [windowed]
  · have windowed : dspWindowed tables.hann others = (dspWindowed tables.hann samples).negated := by
      unfold dspWindowed FftArrays.negated
      congr 1
      · funext index
        dsimp only
        by_cases inside : index < dspFftSize
        · rw [if_pos inside, if_pos inside, flipped index inside, neg_mul]
        · rw [if_neg inside, if_neg inside, neg_zero]
      · funext index
        exact neg_zero.symm
    funext bin
    unfold dspPower
    rw [windowed, dspFft64_neg]
    unfold FftArrays.negated
    dsimp only
    ring

theorem SameOrFlipped.measures (same : SameOrFlipped samples others) (tables : DspTables ℝ) (sqrtf : ℝ → ℝ)
    (sampleRateHz : U32) :
    dspMeasures tables sqrtf sampleRateHz others = dspMeasures tables sqrtf sampleRateHz samples := by
  unfold dspMeasures
  rw [same.time, same.power]

/-- The other block is the same, with a constant added to all its samples or all signs flipped. -/
structure DspMoved (block other : AcquisitionSignalBlock) : Prop where
  sequence : other.sequence = block.sequence
  sampleRateHz : other.sampleRateHz = block.sampleRateHz
  sampleCount : other.sampleCount = block.sampleCount
  statusFlags : other.statusFlags = block.statusFlags
  samples : (∃ constant : ℤ, ∀ index < dspFftSize, dspRawSample other index = dspRawSample block index + constant) ∨
    ∀ index < dspFftSize, dspRawSample other index = -dspRawSample block index

variable {block other : AcquisitionSignalBlock}

theorem dspMean_eq (block : AcquisitionSignalBlock) :
    (dspMean block : ℝ) = (∑ index ∈ Finset.range dspFftSize, (dspRawSample block index : ℝ)) / 64 := by
  unfold dspMean
  rw [foldl_range_add]

theorem DspMoved.sameOrFlipped (moved : DspMoved block other) :
    SameOrFlipped (dspSample block) (dspSample other) := by
  unfold SameOrFlipped dspSample
  rcases moved.samples with ⟨constant, shifted⟩ | flipped
  · left
    have mean : (dspMean other : ℝ) = dspMean block + constant := by
      rw [dspMean_eq, dspMean_eq, Finset.sum_congr rfl fun index member => by
        rw [shifted index (Finset.mem_range.mp member), Int.cast_add], Finset.sum_add_distrib, Finset.sum_const,
        Finset.card_range, nsmul_eq_mul]
      change (_ + ((64 : ℕ) : ℝ) * _) / 64 = _
      push_cast
      ring
    intro index inside
    rw [shifted index inside, mean]
    push_cast
    ring
  · right
    have mean : (dspMean other : ℝ) = -dspMean block := by
      rw [dspMean_eq, dspMean_eq, Finset.sum_congr rfl fun index member => by
        rw [flipped index (Finset.mem_range.mp member), Int.cast_neg], Finset.sum_neg_distrib, neg_div]
    intro index inside
    rw [flipped index inside, mean]
    push_cast
    ring

theorem DspMoved.analyze (moved : DspMoved block other) (tables : DspTables ℝ) (sqrtf : ℝ → ℝ) :
    dspAnalyze tables sqrtf other = dspAnalyze tables sqrtf block := by
  unfold dspAnalyze DspMeasures.features
  rw [moved.sampleCount, moved.sampleRateHz, moved.sequence, moved.statusFlags, moved.sameOrFlipped.measures]

end invariance

section features

variable {measures : DspMeasures ℝ} {value : ℝ}

theorem dspU16_toNat (positive : 0 ≤ value) (small : value < 65535) : (dspU16 value).toNat = ⌊value + 1 / 2⌋₊ := by
  unfold dspU16
  by_cases zero : 0 < value
  · have below : ⌊value + 1 / 2⌋₊ < 65536 := by
      rw [Nat.floor_lt (by linarith)]
      push_cast
      linarith
    rw [if_neg (not_not.mpr zero), if_neg (not_le.mpr small), BitVec.toNat_ofNat, Nat.mod_eq_of_lt below]
  · obtain rfl : value = 0 := le_antisymm (not_lt.mp zero) positive
    rw [if_pos zero, zero_add, Nat.floor_eq_zero.mpr (by norm_num)]
    rfl

/-- The shares published are a thousand together, or one more where nothing is left for the high band and the other two
are ties. -/
theorem DspMeasures.publish_shares (features : DspFeatures) (low : 0 ≤ measures.lowShare) (mid : 0 ≤ measures.midShare)
    (high : 0 ≤ measures.highShare) (whole : measures.lowShare + measures.midShare + measures.highShare = 1) :
    let published := measures.publish features
    let sum := published.lowBandPermille.toNat + published.midBandPermille.toNat + published.highBandPermille.toNat
    let tied := measures.highShare = 0 ∧ Half (measures.lowShare * 1000) ∧ Half (measures.midShare * 1000)
    (tied → sum = 1001) ∧ (¬tied → sum = 1000) := by
  have together : measures.lowShare * 1000 + measures.midShare * 1000 ≤ (1000 : ℕ) := by
    push_cast
    linarith
  have lowPositive : 0 ≤ measures.lowShare * 1000 := by linarith
  have midPositive : 0 ≤ measures.midShare * 1000 := by linarith
  have bound := halfUp_add_le lowPositive midPositive together
  have exceeds := halfUp_add_eq_iff lowPositive midPositive together
  have exhausted : measures.lowShare * 1000 + measures.midShare * 1000 = (1000 : ℕ) ↔ measures.highShare = 0 := by
    push_cast
    constructor <;> intro <;> linarith
  rw [exhausted] at exceeds
  have lowRounded := dspU16_toNat lowPositive (by linarith)
  have midRounded := dspU16_toNat midPositive (by linarith)
  unfold DspMeasures.publish
  dsimp only
  rw [← exceeds, ← lowRounded, ← midRounded]
  rw [← lowRounded, ← midRounded] at bound exceeds
  by_cases fits : (dspU16 (measures.lowShare * 1000)).toNat + (dspU16 (measures.midShare * 1000)).toNat ≤ 1000
  · rw [if_pos fits, BitVec.toNat_ofNat, Nat.mod_eq_of_lt (by omega)]
    constructor <;> intro <;> omega
  · have tied : (dspU16 (measures.lowShare * 1000)).toNat + (dspU16 (measures.midShare * 1000)).toNat = 1000 + 1 := by
      omega
    have none := (exceeds.mp tied).1
    have rounded : (dspU16 (measures.highShare * 1000)).toNat = 0 := by
      rw [none, zero_mul]
      unfold dspU16
      rw [if_pos (lt_irrefl (0 : ℝ))]
      rfl
    rw [if_neg fits, rounded, tied]
    exact ⟨fun _ => rfl, fun different => absurd rfl different⟩

structure DspConsistent (measures : DspMeasures ℝ) (sampleRateHz : U32) (features : DspFeatures) : Prop where
  crest : 0 < measures.rms → 1 ≤ measures.crestFactor ∧ measures.crestFactor ≤ 8 ∧
    features.crestFactorMilli.toNat = ⌊measures.crestFactor * 1000 + 1 / 2⌋₊
  dominant : measures.Measurable → ∃ bin, 1 ≤ bin ∧ bin ≤ 32 ∧
    (∀ other, 1 ≤ other → other ≤ 32 → measures.power other ≤ measures.power bin) ∧
    |measures.dominantFrequencyCentiHz / 100 - dspFrequencyHz sampleRateHz bin| ≤ (sampleRateHz.toNat : ℝ) / 64 / 2 ∧
    measures.dominantFrequencyCentiHz / 100 ≤ (sampleRateHz.toNat : ℝ) / 2
  centroid : measures.Measurable → dspFrequencyHz sampleRateHz 1 ≤ measures.spectralCentroidHz ∧
    measures.spectralCentroidHz ≤ (sampleRateHz.toNat : ℝ) / 2
  shares : measures.Measurable →
    let sum := features.lowBandPermille.toNat + features.midBandPermille.toNat + features.highBandPermille.toNat
    let tied := measures.spectrum.highPower = 0 ∧ Half (measures.lowShare * 1000) ∧ Half (measures.midShare * 1000)
    (tied → sum = 1001) ∧ (¬tied → sum = 1000)

variable (tables : DspTables ℝ) (sampleRateHz : U32) (samples : ℕ → ℝ)

theorem dspPower_nonneg (bin : ℕ) : 0 ≤ dspPower tables samples bin := by
  unfold dspPower
  dsimp only
  exact add_nonneg (mul_self_nonneg _) (mul_self_nonneg _)

theorem dspMeasures_crest (moving : 0 < (dspMeasures tables Real.sqrt sampleRateHz samples).rms) :
    1 ≤ (dspMeasures tables Real.sqrt sampleRateHz samples).crestFactor ∧
      (dspMeasures tables Real.sqrt sampleRateHz samples).crestFactor ≤ 8 := by
  obtain ⟨low, high⟩ := rms_between samples
  exact ⟨(one_le_div moving).mpr low, (div_le_iff₀ moving).mpr high⟩

theorem dspSpectrum_after :
    SpectrumAfter (dspPower tables samples) (dspFrequencyHz sampleRateHz) (dspFrequencyHz sampleRateHz 1)
      ((sampleRateHz.toNat : ℝ) / 2) 32 (dspSpectrum (dspPower tables samples) (dspFrequencyHz sampleRateHz)) := by
  have rate : (0 : ℝ) ≤ sampleRateHz.toNat := Nat.cast_nonneg _
  apply spectrumAfter (dspPower_nonneg tables samples)
  · intro bin first _
    have cast : (1 : ℝ) ≤ bin := by exact_mod_cast first
    have scaled := mul_le_mul_of_nonneg_right cast rate
    unfold dspFrequencyHz
    push_cast
    linarith
  · intro bin _ last
    have cast : (bin : ℝ) ≤ 32 := by exact_mod_cast last
    have scaled := mul_le_mul_of_nonneg_right cast rate
    unfold dspFrequencyHz
    linarith

theorem dspMeasures_dominant (measurable : (dspMeasures tables Real.sqrt sampleRateHz samples).Measurable) :
    ∃ bin, 1 ≤ bin ∧ bin ≤ 32 ∧
      (∀ other, 1 ≤ other → other ≤ 32 → dspPower tables samples other ≤ dspPower tables samples bin) ∧
      |(dspMeasures tables Real.sqrt sampleRateHz samples).dominantFrequencyCentiHz / 100 -
          dspFrequencyHz sampleRateHz bin| ≤ (sampleRateHz.toNat : ℝ) / 64 / 2 ∧
      (dspMeasures tables Real.sqrt sampleRateHz samples).dominantFrequencyCentiHz / 100 ≤
        (sampleRateHz.toNat : ℝ) / 2 := by
  have after := dspSpectrum_after tables sampleRateHz samples
  generalize shape : dspSpectrum (dspPower tables samples) (dspFrequencyHz sampleRateHz) = spectrum at after
  have total : 0 < spectrum.totalPower := by
    rw [← shape]
    exact lt_trans (by norm_num) measurable
  have frequency : (dspMeasures tables Real.sqrt sampleRateHz samples).dominantFrequencyCentiHz / 100 =
      dspInterpolatedBin (dspPower tables samples) spectrum.dominantBin * ((sampleRateHz.toNat : ℝ) / 64) := by
    rw [← shape]
    unfold dspMeasures
    ring
  have width : (0 : ℝ) ≤ (sampleRateHz.toNat : ℝ) / 64 := by positivity
  obtain ⟨near, below⟩ := dspInterpolatedBin_near (dspPower tables samples) spectrum.dominantBin
  rcases after.found with none | ⟨first, last, strongest⟩
  · have enough := after.enough
    rw [none, mul_zero] at enough
    exact absurd enough (not_le.mpr total)
  refine ⟨spectrum.dominantBin, first, last, fun other one most => ?_, ?_, ?_⟩
  · rw [strongest]
    exact after.strongest other one most
  · have offset : dspInterpolatedBin (dspPower tables samples) spectrum.dominantBin * ((sampleRateHz.toNat : ℝ) / 64) -
        dspFrequencyHz sampleRateHz spectrum.dominantBin =
        (dspInterpolatedBin (dspPower tables samples) spectrum.dominantBin - spectrum.dominantBin) *
          ((sampleRateHz.toNat : ℝ) / 64) := by
      unfold dspFrequencyHz
      ring
    rw [frequency, offset, abs_mul, abs_of_nonneg width]
    have scaled := mul_le_mul_of_nonneg_right near width
    linarith
  · rw [frequency]
    have scaled := mul_le_mul_of_nonneg_right (below last) width
    linarith

theorem dspMeasures_centroid (measurable : (dspMeasures tables Real.sqrt sampleRateHz samples).Measurable) :
    dspFrequencyHz sampleRateHz 1 ≤ (dspMeasures tables Real.sqrt sampleRateHz samples).spectralCentroidHz ∧
      (dspMeasures tables Real.sqrt sampleRateHz samples).spectralCentroidHz ≤ (sampleRateHz.toNat : ℝ) / 2 := by
  have after := dspSpectrum_after tables sampleRateHz samples
  have total : 0 < (dspSpectrum (dspPower tables samples) (dspFrequencyHz sampleRateHz)).totalPower :=
    lt_trans (by norm_num) measurable
  exact ⟨(le_div_iff₀ total).mpr after.centroidAbove, (div_le_iff₀ total).mpr after.centroidBelow⟩

theorem dspMeasures_shares (measurable : (dspMeasures tables Real.sqrt sampleRateHz samples).Measurable) :
    let measures := dspMeasures tables Real.sqrt sampleRateHz samples
    0 ≤ measures.lowShare ∧ 0 ≤ measures.midShare ∧ 0 ≤ measures.highShare ∧
      measures.lowShare + measures.midShare + measures.highShare = 1 ∧
      (measures.highShare = 0 ↔ measures.spectrum.highPower = 0) := by
  have after := dspSpectrum_after tables sampleRateHz samples
  have total : 0 < (dspSpectrum (dspPower tables samples) (dspFrequencyHz sampleRateHz)).totalPower :=
    lt_trans (by norm_num) measurable
  unfold dspMeasures
  dsimp only
  refine ⟨div_nonneg after.lowPositive total.le, div_nonneg after.midPositive total.le,
    div_nonneg after.highPositive total.le, ?_, ?_⟩
  · rw [← add_div, ← add_div, after.bands, div_self total.ne']
  · rw [div_eq_zero_iff]
    exact or_iff_left total.ne'

theorem DspMeasures.features_crest (block : AcquisitionSignalBlock) (moving : 0 < measures.rms) :
    (measures.features block).crestFactorMilli = dspU16 (measures.crestFactor * 1000) := by
  unfold DspMeasures.features DspMeasures.publish
  dsimp only
  rw [if_pos moving]
  split_ifs <;> rfl

theorem DspMeasures.features_measurable (block : AcquisitionSignalBlock) (measurable : measures.Measurable) :
    ∃ features, measures.features block = measures.publish features := by
  unfold DspMeasures.features
  dsimp only
  rw [if_pos measurable]
  exact ⟨_, rfl⟩

end features

/-- What the features of a block mean, and that they stay when all samples move by a constant or flip their signs. -/
theorem dsp_features_consistent (tables : DspTables ℝ) (block : AcquisitionSignalBlock)
    (whole : block.sampleCount = BitVec.ofNat 16 dspFftSize) (rated : block.sampleRateHz ≠ 0) :
    (∀ other, DspMoved block other → dspAnalyze tables Real.sqrt other = dspAnalyze tables Real.sqrt block) ∧
      ∃ features, dspAnalyze tables Real.sqrt block = .ok features ∧
        DspConsistent (dspMeasures tables Real.sqrt block.sampleRateHz (dspSample block)) block.sampleRateHz
          features := by
  refine ⟨fun other moved => moved.analyze tables Real.sqrt,
    (dspMeasures tables Real.sqrt block.sampleRateHz (dspSample block)).features block, ?_, ?_⟩
  · unfold dspAnalyze
    rw [if_neg (not_not.mpr whole), if_neg rated]
  refine ⟨fun moving => ?_, dspMeasures_dominant tables _ _, dspMeasures_centroid tables _ _, fun measurable => ?_⟩
  · have crest := dspMeasures_crest tables block.sampleRateHz (dspSample block) moving
    refine ⟨crest.1, crest.2, ?_⟩
    rw [DspMeasures.features_crest block moving]
    exact dspU16_toNat (by linarith [crest.1]) (by linarith [crest.2])
  · obtain ⟨low, mid, high, together, none⟩ := dspMeasures_shares tables block.sampleRateHz (dspSample block) measurable
    obtain ⟨features, published⟩ := DspMeasures.features_measurable block measurable
    rw [published, ← none]
    exact DspMeasures.publish_shares features low mid high together

def exampleBlock (step : U16) : AcquisitionSignalBlock :=
  ⟨1, 1000, 64, (List.range 64).map fun index => if index % 4 = 0 then 100 + step else step, 0⟩

theorem dsp_features_consistent_example :
    dspAnalyze dspTables Real.sqrt (exampleBlock 7) = dspAnalyze dspTables Real.sqrt (exampleBlock 0) ∧
      ∃ features, dspAnalyze dspTables Real.sqrt (exampleBlock 0) = .ok features ∧
        DspConsistent (dspMeasures dspTables Real.sqrt 1000 (dspSample (exampleBlock 0))) 1000 features := by
  have consistent := dsp_features_consistent dspTables (exampleBlock 0) rfl (by decide)
  exact ⟨consistent.1 _ ⟨rfl, rfl, rfl, rfl, Or.inl ⟨7, by decide +kernel⟩⟩, consistent.2⟩

end Guardian.Dsp
