import Mathlib.Algebra.Order.BigOperators.Group.List
import Mathlib.Algebra.Order.Ring.Abs
import Mathlib.Tactic.Linarith
import Guardian.MultiNode.HighComputeNode

namespace Guardian.MultiNode

open Word Watched Guardian.Acquisition

def FitsInt64 (value : ℤ) : Prop := -2 ^ 63 ≤ value ∧ value < 2 ^ 63

theorem highComputeIsqrt_exact {value : ℕ} (fits : value < 2 ^ 64) : highComputeIsqrt value = pure (Nat.sqrt value) :=
  acquisitionIsqrtLoops_exact fits

/-- Both square roots are the floor of the exact one, and none of their sums leaves its integer type. -/
theorem integer_roots_exact (value : U64) : ∃ root : ℕ, root ^ 2 ≤ value.toNat ∧ value.toNat < (root + 1) ^ 2 ∧
    highComputeIsqrt value.toNat = ⟨root, true⟩ ∧ acquisitionIsqrt value.toNat = ⟨root, true⟩ := by
  have fits : value.toNat < 2 ^ 64 := value.isLt
  refine ⟨Nat.sqrt value.toNat, Nat.sqrt_le' _, Nat.lt_succ_sqrt' _, ?_, ?_⟩
  · exact highComputeIsqrt_exact fits
  · exact acquisitionIsqrt_exact fits

section sums

variable {values : List ℤ}

theorem abs_sum_le {bound : ℤ} (bounded : ∀ value ∈ values, |value| ≤ bound) : |values.sum| ≤ values.length * bound := by
  induction values with
  | nil => simp
  | cons value values ih =>
    have first := bounded value (by simp)
    have rest := ih fun other member => bounded other (by simp [member])
    rw [List.sum_cons, List.length_cons]
    push_cast
    calc |value + values.sum| ≤ |value| + |values.sum| := abs_add_le _ _
      _ ≤ (values.length + 1) * bound := by linarith

theorem highComputeSum_exact {bound : ℤ} (bounded : ∀ value ∈ values, |value| ≤ bound)
    (small : values.length * bound < 2 ^ 63) : highComputeSum values = pure values.sum := by
  have loop (start : ℤ) (room : |start| + values.length * bound < 2 ^ 63) :
      values.foldlM (fun sum value => signed 64 (sum + value)) start = pure (start + values.sum) := by
    clear small
    induction values generalizing start with
    | nil => simp
    | cons value values ih =>
      have first := bounded value (by simp)
      have rest : ∀ other ∈ values, |other| ≤ bound := fun other member => bounded other (by simp [member])
      have positive : 0 ≤ (values.length : ℤ) * bound := by
        have zero : 0 ≤ bound := (abs_nonneg value).trans first
        positivity
      rw [List.length_cons] at room
      push_cast at room
      have next : |start + value| + values.length * bound < 2 ^ 63 := by
        have triangle := abs_add_le start value
        linarith
      have low := (abs_le.mp (show |start + value| ≤ 2 ^ 63 - 1 by omega)).1
      have high := (abs_le.mp (show |start + value| ≤ 2 ^ 63 - 1 by omega)).2
      rw [List.foldlM_cons, signed_fits (by omega) (by omega), pure_bind, ih rest _ next, List.sum_cons, add_assoc]
  have whole := loop 0 (by simpa using small)
  rwa [zero_add] at whole

end sums

section moments

def exactMoments (moments : HighComputeMoments) (pair : ℤ × ℤ) : HighComputeMoments :=
  ⟨moments.dot + pair.1 * pair.2, moments.leftSquare + (pair.1 * pair.1).toNat,
    moments.rightSquare + (pair.2 * pair.2).toNat⟩

structure MomentFits (moments : HighComputeMoments) (pair : ℤ × ℤ) : Prop where
  left : pair.1 * pair.1 < 2 ^ 63
  right : pair.2 * pair.2 < 2 ^ 63
  dot : FitsInt64 (moments.dot + pair.1 * pair.2)
  leftSquare : moments.leftSquare + (pair.1 * pair.1).toNat < 2 ^ 64
  rightSquare : moments.rightSquare + (pair.2 * pair.2).toNat < 2 ^ 64

theorem abs_mul_lt {left right bound : ℤ} (low : left * left < bound) (high : right * right < bound) :
    -bound < left * right ∧ left * right < bound := by
  constructor <;> nlinarith [sq_nonneg (left + right), sq_nonneg (left - right)]

theorem highComputeCentered_exact {sample count sum : ℤ} (value : |sample| ≤ 2 ^ 31) (few : |count| ≤ 16)
    (total : |sum| ≤ 2 ^ 35) : highComputeCentered sample count sum = pure (sample * count - sum) := by
  have product : |sample * count| ≤ 2 ^ 35 := by
    rw [abs_mul]
    calc |sample| * |count| ≤ 2 ^ 31 * 16 := mul_le_mul value few (abs_nonneg _) (by norm_num)
      _ = 2 ^ 35 := by norm_num
  rw [abs_le] at product total
  unfold highComputeCentered
  rw [signed_fits (by omega) (by omega), pure_bind, signed_fits (by omega) (by omega)]

variable {count leftSum rightSum : ℤ} {moments : HighComputeMoments} {samples : ℤ × ℤ}

def centredPair (count leftSum rightSum : ℤ) (samples : ℤ × ℤ) : ℤ × ℤ :=
  (samples.1 * count - leftSum, samples.2 * count - rightSum)

theorem highComputeMoments_turn
    (left : highComputeCentered samples.1 count leftSum = pure (centredPair count leftSum rightSum samples).1)
    (right : highComputeCentered samples.2 count rightSum = pure (centredPair count leftSum rightSum samples).2)
    {β : Type} (follows : HighComputeMoments → Watched β) :
    (highComputeMoments count leftSum rightSum moments samples >>= follows).exact = true ↔
      MomentFits moments (centredPair count leftSum rightSum samples) ∧
        (follows (exactMoments moments (centredPair count leftSum rightSum samples))).exact = true := by
  unfold highComputeMoments
  rw [left, right]
  generalize centredPair count leftSum rightSum samples = pair
  have squares := mul_self_nonneg pair.1
  have others := mul_self_nonneg pair.2
  simp only [pure_bind, bind_assoc, signed_bind_exact, unsigned_bind_exact]
  constructor
  · rintro ⟨-, dot, leftSquare, -, leftTotal, rightSquare, -, rightTotal, rest⟩
    refine ⟨⟨leftSquare.2, rightSquare.2, dot, ?_, ?_⟩, rest⟩
    · have := leftTotal.2
      omega
    · have := rightTotal.2
      omega
  · rintro ⟨fits, rest⟩
    have product := abs_mul_lt fits.left fits.right
    have leftSquare := fits.left
    have rightSquare := fits.right
    have leftTotal := fits.leftSquare
    have rightTotal := fits.rightSquare
    refine ⟨⟨by omega, product.2⟩, fits.dot, ⟨by omega, fits.left⟩, ⟨squares, by omega⟩, ⟨by omega, by omega⟩,
      ⟨by omega, fits.right⟩, ⟨others, by omega⟩, ⟨by omega, by omega⟩, rest⟩

theorem highComputeMoments_loop {pairs : List (ℤ × ℤ)}
    (centred : ∀ samples ∈ pairs,
      highComputeCentered samples.1 count leftSum = pure (centredPair count leftSum rightSum samples).1 ∧
      highComputeCentered samples.2 count rightSum = pure (centredPair count leftSum rightSum samples).2)
    {β : Type} (follows : HighComputeMoments → Watched β) :
    (pairs.foldlM (highComputeMoments count leftSum rightSum) moments >>= follows).exact = true ↔
      (∀ done pair rest, pairs.map (centredPair count leftSum rightSum) = done ++ pair :: rest →
        MomentFits (done.foldl exactMoments moments) pair) ∧
      (follows ((pairs.map (centredPair count leftSum rightSum)).foldl exactMoments moments)).exact = true := by
  induction pairs generalizing moments with
  | nil => simp
  | cons samples pairs ih =>
    obtain ⟨left, right⟩ := centred samples (by simp)
    rw [List.foldlM_cons, bind_assoc, highComputeMoments_turn left right,
      ih fun other member => centred other (by simp [member]), List.map_cons, List.foldl_cons, ← and_assoc]
    apply and_congr_left
    intro _
    constructor
    · rintro ⟨first, later⟩ done pair others split
      rcases done with _ | ⟨front, done⟩
      · obtain ⟨rfl, -⟩ := List.cons.inj split
        exact first
      · obtain ⟨rfl, tail⟩ := List.cons.inj split
        exact later done pair others tail
    · intro all
      exact ⟨all [] _ _ rfl, fun done pair others split => all (_ :: done) pair others (by rw [split]; rfl)⟩

end moments

section fits

def dotProduct (pairs : List (ℤ × ℤ)) : ℤ := (pairs.map fun pair => pair.1 * pair.2).sum

def energy (values : List ℤ) : ℕ := (values.map fun value => value.natAbs * value.natAbs).sum

def centredPairs (left right : HighComputeWindow) : List (ℤ × ℤ) :=
  (left.values.zip right.values).map (centredPair left.samples.length left.values.sum right.values.sum)

/-- What the centred samples of two windows must satisfy: 3037000499 is the largest root of a 64-bit square. -/
structure FusionFits (pairs : List (ℤ × ℤ)) : Prop where
  left : ∀ pair ∈ pairs, pair.1.natAbs ≤ 3037000499
  right : ∀ pair ∈ pairs, pair.2.natAbs ≤ 3037000499
  leftEnergy : energy (pairs.map Prod.fst) < 2 ^ 64
  rightEnergy : energy (pairs.map Prod.snd) < 2 ^ 64
  dot : ∀ earlier later, pairs = earlier ++ later → FitsInt64 (dotProduct earlier)
  scaled : FitsInt64 (dotProduct pairs * highComputeCorrelationScale)
  roots : Nat.sqrt (energy (pairs.map Prod.fst)) * Nat.sqrt (energy (pairs.map Prod.snd)) < 2 ^ 63

theorem toNat_mul_self (value : ℤ) : (value * value).toNat = value.natAbs * value.natAbs := by
  rw [← Int.natAbs_mul_self, Int.toNat_natCast]

theorem square_fits_iff (value : ℤ) : value * value < 2 ^ 63 ↔ value.natAbs ≤ 3037000499 := by
  rw [← Int.natAbs_mul_self]
  constructor
  · intro below
    by_contra above
    have root : 3037000500 ≤ value.natAbs := by omega
    have square := Nat.mul_le_mul root root
    norm_cast at below
    omega
  · intro root
    have square := Nat.mul_le_mul root root
    norm_cast
    omega

theorem energy_append (front back : List ℤ) : energy (front ++ back) = energy front + energy back := by
  simp [energy]

theorem exactMoments_fold (pairs : List (ℤ × ℤ)) (moments : HighComputeMoments) :
    pairs.foldl exactMoments moments = ⟨moments.dot + dotProduct pairs,
      moments.leftSquare + energy (pairs.map Prod.fst), moments.rightSquare + energy (pairs.map Prod.snd)⟩ := by
  induction pairs generalizing moments with
  | nil => simp [dotProduct, energy]
  | cons pair pairs ih =>
    rw [List.foldl_cons, ih]
    simp only [exactMoments, dotProduct, energy, toNat_mul_self, List.map_cons, List.sum_cons, add_assoc]

/-- The turns of the loop fit exactly where the whole sums, the parts of the product and each square do. -/
theorem moments_fit_iff (pairs : List (ℤ × ℤ)) :
    (∀ done pair rest, pairs = done ++ pair :: rest → MomentFits (done.foldl exactMoments ⟨0, 0, 0⟩) pair) ↔
      (∀ pair ∈ pairs, pair.1.natAbs ≤ 3037000499) ∧ (∀ pair ∈ pairs, pair.2.natAbs ≤ 3037000499) ∧
      energy (pairs.map Prod.fst) < 2 ^ 64 ∧ energy (pairs.map Prod.snd) < 2 ^ 64 ∧
      ∀ earlier later, pairs = earlier ++ later → FitsInt64 (dotProduct earlier) := by
  constructor
  · intro turns
    have last (property : List (ℤ × ℤ) → Prop) (none : property [])
        (some : ∀ done pair rest, pairs = done ++ pair :: rest → property (done ++ [pair])) (earlier later)
        (split : pairs = earlier ++ later) : property earlier := by
      rcases List.eq_nil_or_concat earlier with rfl | ⟨front, pair, rfl⟩
      · exact none
      · rw [List.concat_eq_append] at split ⊢
        exact some front pair later (by rw [split, List.append_assoc]; rfl)
    refine ⟨fun pair member => ?_, fun pair member => ?_, ?_, ?_, ?_⟩
    · obtain ⟨done, rest, split⟩ := List.append_of_mem member
      exact (square_fits_iff _).mp (turns done pair rest split).left
    · obtain ⟨done, rest, split⟩ := List.append_of_mem member
      exact (square_fits_iff _).mp (turns done pair rest split).right
    · refine last (fun earlier => energy (earlier.map Prod.fst) < 2 ^ 64) (by simp [energy])
        (fun done pair rest split => ?_) pairs [] (by simp)
      have turn := (turns done pair rest split).leftSquare
      rw [exactMoments_fold, toNat_mul_self] at turn
      simpa [energy] using turn
    · refine last (fun earlier => energy (earlier.map Prod.snd) < 2 ^ 64) (by simp [energy])
        (fun done pair rest split => ?_) pairs [] (by simp)
      have turn := (turns done pair rest split).rightSquare
      rw [exactMoments_fold, toNat_mul_self] at turn
      simpa [energy] using turn
    · refine last (fun earlier => FitsInt64 (dotProduct earlier)) (by simp [dotProduct, FitsInt64]) fun done pair rest split => ?_
      have turn := (turns done pair rest split).dot
      rw [exactMoments_fold] at turn
      simpa [dotProduct] using turn
  · rintro ⟨left, right, leftEnergy, rightEnergy, dot⟩ done pair rest rfl
    rw [exactMoments_fold]
    simp only [List.map_append, List.map_cons, energy_append] at leftEnergy rightEnergy
    refine ⟨(square_fits_iff _).mpr (left pair (by simp)), (square_fits_iff _).mpr (right pair (by simp)), ?_, ?_, ?_⟩
    · have parts := dot (done ++ [pair]) rest (by simp)
      simpa [dotProduct] using parts
    · simp only [energy, List.map_cons, List.sum_cons] at leftEnergy
      simp only [toNat_mul_self, zero_add, energy]
      omega
    · simp only [energy, List.map_cons, List.sum_cons] at rightEnergy
      simp only [toNat_mul_self, zero_add, energy]
      omega

end fits

section fusion

variable {node : HighComputeNode} {left right : HighComputeWindow} {leftAnalysis rightAnalysis : HighComputeAnalysis}

theorem toInt_abs_le (value : U32) : |value.toInt| ≤ 2 ^ 31 := by
  rw [abs_le]
  have low := BitVec.le_toInt value
  have high := @BitVec.toInt_lt 32 value
  constructor <;> omega

theorem sqrt_lt {value : ℕ} (fits : value < 2 ^ 64) : Nat.sqrt value < 2 ^ 32 :=
  Nat.sqrt_lt'.mpr (by rw [← pow_mul]; exact fits)

theorem tdiv_of_nonpos {dividend : ℤ} (below : dividend ≤ 0) (divisor : ℤ) :
    dividend.tdiv divisor = -(-dividend / divisor) := by
  have flipped := Int.neg_tdiv (-dividend) divisor
  rw [neg_neg] at flipped
  rw [flipped, Int.tdiv_eq_ediv_of_nonneg (by omega)]

theorem highComputeDivide_exact {dividend divisor : ℤ} (fits : FitsInt64 dividend) (positive : 0 < divisor) :
    highComputeDivide dividend divisor = pure (dividend.tdiv divisor) := by
  have small : (dividend.tdiv divisor).natAbs ≤ dividend.natAbs := by
    rw [Int.natAbs_tdiv]
    exact Nat.div_le_self _ _
  have low : -2 ^ 63 ≤ dividend.tdiv divisor := by
    obtain ⟨low, high⟩ := fits
    omega
  have high : dividend.tdiv divisor < 2 ^ 63 := by
    obtain ⟨low, high⟩ := fits
    rcases Int.le_total 0 dividend with above | below
    · omega
    · rw [tdiv_of_nonpos below]
      have sign : 0 ≤ -dividend / divisor := Int.ediv_nonneg (by omega) positive.le
      omega
  unfold highComputeDivide
  rw [signed_fits low high, pure_bind, decide_eq_true positive.ne']
  rfl

theorem highComputeClamp_bounds (correlation : ℤ) :
    -1000 ≤ highComputeClamp correlation ∧ highComputeClamp correlation ≤ 1000 := by
  unfold highComputeClamp highComputeCorrelationScale
  split_ifs <;> omega

theorem highComputeFuse_exact (node : HighComputeNode) (leftAnalysis rightAnalysis : HighComputeAnalysis)
    {moments : HighComputeMoments} (leftFits : moments.leftSquare < 2 ^ 64) (rightFits : moments.rightSquare < 2 ^ 64)
    (leftSome : moments.leftSquare ≠ 0) (rightSome : moments.rightSquare ≠ 0)
    (scaled : FitsInt64 (moments.dot * highComputeCorrelationScale))
    (roots : Nat.sqrt moments.leftSquare * Nat.sqrt moments.rightSquare < 2 ^ 63) :
    let correlation := highComputeClamp ((moments.dot * highComputeCorrelationScale).tdiv
      (Nat.sqrt moments.leftSquare * Nat.sqrt moments.rightSquare : ℕ))
    highComputeFuse node leftAnalysis rightAnalysis moments = pure (.ok,
      { correlationMilli := correlation
        fusedMeanMilli := (leftAnalysis.meanMilli.toInt + rightAnalysis.meanMilli.toInt).tdiv 2
        contradictionDetected := if correlation < node.policy.minimumCorrelationMilli.toInt then 1 else 0
        actuationAuthorized := highComputeAuthorityNone }) := by
  intro correlation
  have leftRoot : 0 < Nat.sqrt moments.leftSquare := Nat.sqrt_pos.mpr (by omega)
  have rightRoot : 0 < Nat.sqrt moments.rightSquare := Nat.sqrt_pos.mpr (by omega)
  have positive := Nat.mul_pos leftRoot rightRoot
  have clamped := highComputeClamp_bounds ((moments.dot * highComputeCorrelationScale).tdiv
    (Nat.sqrt moments.leftSquare * Nat.sqrt moments.rightSquare : ℕ))
  have leftMean := abs_le.mp (toInt_abs_le leftAnalysis.meanMilli)
  have rightMean := abs_le.mp (toInt_abs_le rightAnalysis.meanMilli)
  have mean : -2 ^ 31 ≤ (leftAnalysis.meanMilli.toInt + rightAnalysis.meanMilli.toInt).tdiv 2 ∧
      (leftAnalysis.meanMilli.toInt + rightAnalysis.meanMilli.toInt).tdiv 2 < 2 ^ 31 := by
    have leftHigh := @BitVec.toInt_lt 32 leftAnalysis.meanMilli
    have rightHigh := @BitVec.toInt_lt 32 rightAnalysis.meanMilli
    rcases Int.le_total 0 (leftAnalysis.meanMilli.toInt + rightAnalysis.meanMilli.toInt) with above | below
    · rw [Int.tdiv_eq_ediv_of_nonneg above]
      omega
    · rw [tdiv_of_nonpos below]
      omega
  unfold highComputeFuse
  rw [highComputeIsqrt_exact leftFits, pure_bind, highComputeIsqrt_exact rightFits, pure_bind,
    unsigned_fits rfl (by omega), pure_bind, if_neg positive.ne', signed_fits scaled.1 scaled.2, pure_bind,
    signed_fits (by omega) (by omega), pure_bind, highComputeDivide_exact scaled (by omega), pure_bind,
    signed_fits (by omega) (by omega), pure_bind, signed_fits (by omega) (by omega), pure_bind,
    signed_fits mean.1 mean.2, pure_bind]

theorem highComputeFuse_exact_iff (node : HighComputeNode) (leftAnalysis rightAnalysis : HighComputeAnalysis)
    {moments : HighComputeMoments} (leftFits : moments.leftSquare < 2 ^ 64) (rightFits : moments.rightSquare < 2 ^ 64)
    (leftSome : moments.leftSquare ≠ 0) (rightSome : moments.rightSquare ≠ 0) :
    (highComputeFuse node leftAnalysis rightAnalysis moments).exact = true ↔
      FitsInt64 (moments.dot * highComputeCorrelationScale) ∧
        Nat.sqrt moments.leftSquare * Nat.sqrt moments.rightSquare < 2 ^ 63 := by
  constructor
  · intro exact
    have leftRoot : 0 < Nat.sqrt moments.leftSquare := Nat.sqrt_pos.mpr (by omega)
    have rightRoot : 0 < Nat.sqrt moments.rightSquare := Nat.sqrt_pos.mpr (by omega)
    have positive := Nat.mul_pos leftRoot rightRoot
    have product : Nat.sqrt moments.leftSquare * Nat.sqrt moments.rightSquare < 2 ^ 64 := by
      calc _ ≤ 2 ^ 32 * Nat.sqrt moments.rightSquare := Nat.mul_le_mul_right _ (sqrt_lt leftFits).le
        _ < 2 ^ 32 * 2 ^ 32 := Nat.mul_lt_mul_of_pos_left (sqrt_lt rightFits) (by norm_num)
        _ = 2 ^ 64 := by norm_num
    unfold highComputeFuse at exact
    rw [highComputeIsqrt_exact leftFits, pure_bind, highComputeIsqrt_exact rightFits, pure_bind,
      unsigned_fits rfl product, pure_bind, if_neg positive.ne', signed_bind_exact, signed_bind_exact] at exact
    obtain ⟨scaled, roots, -⟩ := exact
    exact ⟨scaled, by exact_mod_cast roots.2⟩
  · rintro ⟨scaled, roots⟩
    rw [highComputeFuse_exact node leftAnalysis rightAnalysis leftFits rightFits leftSome rightSome scaled roots]
    rfl

theorem highComputeAdmits_ok (admitted : highComputeAdmits node left right leftAnalysis rightAnalysis = .ok) :
    left.samples.length ≤ 16 ∧ left.samples.length = right.samples.length := by
  unfold highComputeAdmits highComputeWindowBasicValid highComputeMaxSamples at admitted
  split_ifs at admitted <;> simp_all

theorem values_bounded (window : HighComputeWindow) : ∀ value ∈ window.values, |value| ≤ 2 ^ 31 := by
  intro value member
  obtain ⟨sample, -, rfl⟩ := List.mem_map.mp member
  exact toInt_abs_le _

theorem dotProduct_of_energy {pairs : List (ℤ × ℤ)}
    (silent : energy (pairs.map Prod.fst) = 0 ∨ energy (pairs.map Prod.snd) = 0) : dotProduct pairs = 0 := by
  unfold dotProduct
  apply List.sum_eq_zero
  intro product member
  obtain ⟨pair, inside, rfl⟩ := List.mem_map.mp member
  rcases silent with silent | silent <;> unfold energy at silent <;> rw [List.sum_eq_zero_iff] at silent
  · have zero := silent (pair.1.natAbs * pair.1.natAbs)
      (List.mem_map.mpr ⟨pair.1, List.mem_map.mpr ⟨pair, inside, rfl⟩, rfl⟩)
    have none : pair.1 = 0 := by simpa using zero
    rw [none, zero_mul]
  · have zero := silent (pair.2.natAbs * pair.2.natAbs)
      (List.mem_map.mpr ⟨pair.2, List.mem_map.mpr ⟨pair, inside, rfl⟩, rfl⟩)
    have none : pair.2 = 0 := by simpa using zero
    rw [none, mul_zero]

theorem fusion_loops (admitted : highComputeAdmits node left right leftAnalysis rightAnalysis = .ok)
    {β : Type} (follows : HighComputeMoments → Watched β) :
    (highComputeLoops left right >>= follows).exact = true ↔
      (∀ done pair rest, centredPairs left right = done ++ pair :: rest →
        MomentFits (done.foldl exactMoments ⟨0, 0, 0⟩) pair) ∧
      (follows ⟨dotProduct (centredPairs left right), energy ((centredPairs left right).map Prod.fst),
        energy ((centredPairs left right).map Prod.snd)⟩).exact = true := by
  obtain ⟨few, same⟩ := highComputeAdmits_ok admitted
  have lengths : left.values.length = left.samples.length ∧ right.values.length = left.samples.length := by
    simp [HighComputeWindow.values, same]
  have leftSum := abs_sum_le (values_bounded left)
  have rightSum := abs_sum_le (values_bounded right)
  rw [lengths.1] at leftSum
  rw [lengths.2] at rightSum
  unfold highComputeLoops
  rw [highComputeSum_exact (values_bounded left) (by rw [lengths.1]; omega), pure_bind,
    highComputeSum_exact (values_bounded right) (by rw [lengths.2]; omega), pure_bind, highComputeMoments_loop, exactMoments_fold, zero_add, zero_add, zero_add]
  · rfl
  · intro samples member
    obtain ⟨inLeft, inRight⟩ := List.of_mem_zip member
    have count : |(left.samples.length : ℤ)| ≤ 16 := by
      rw [abs_le]
      omega
    exact ⟨highComputeCentered_exact (values_bounded left _ inLeft) count (by omega),
      highComputeCentered_exact (values_bounded right _ inRight) count (by omega)⟩

theorem fusion_exact_iff :
    (highComputeCorrelateAndFuse node left right leftAnalysis rightAnalysis).exact = true ↔
      (highComputeAdmits node left right leftAnalysis rightAnalysis = .ok → FusionFits (centredPairs left right)) := by
  unfold highComputeCorrelateAndFuse
  by_cases admitted : highComputeAdmits node left right leftAnalysis rightAnalysis = .ok
  · rw [admitted, imp_iff_right rfl]
    dsimp only
    rw [fusion_loops admitted, moments_fit_iff]
    constructor
    · rintro ⟨⟨leftSmall, rightSmall, leftFits, rightFits, dot⟩, follows⟩
      refine ⟨leftSmall, rightSmall, leftFits, rightFits, dot, ?_, ?_⟩
      all_goals
        by_cases silent : energy ((centredPairs left right).map Prod.fst) = 0 ∨
          energy ((centredPairs left right).map Prod.snd) = 0
      · rw [dotProduct_of_energy silent]
        constructor <;> norm_num
      · rw [if_neg silent] at follows
        rw [not_or] at silent
        exact ((highComputeFuse_exact_iff node leftAnalysis rightAnalysis leftFits rightFits silent.1 silent.2).mp follows).1
      · rcases silent with silent | silent <;> rw [silent] <;> norm_num
      · rw [if_neg silent] at follows
        rw [not_or] at silent
        exact ((highComputeFuse_exact_iff node leftAnalysis rightAnalysis leftFits rightFits silent.1 silent.2).mp follows).2
    · intro fits
      refine ⟨⟨fits.left, fits.right, fits.leftEnergy, fits.rightEnergy, fits.dot⟩, ?_⟩
      by_cases silent : energy ((centredPairs left right).map Prod.fst) = 0 ∨
          energy ((centredPairs left right).map Prod.snd) = 0
      · rw [if_pos silent]
        rfl
      · rw [if_neg silent]
        rw [not_or] at silent
        exact (highComputeFuse_exact_iff node leftAnalysis rightAnalysis fits.leftEnergy fits.rightEnergy silent.1
          silent.2).mpr ⟨fits.scaled, fits.roots⟩
  · refine ⟨fun _ ok => absurd ok admitted, fun _ => ?_⟩
    cases result : highComputeAdmits node left right leftAnalysis rightAnalysis with
    | ok => exact absurd result admitted
    | _ => rfl

def HighComputeWindow.InRange (window : HighComputeWindow) : Prop :=
  ∀ value ∈ window.values, |value| ≤ highComputeNormalizedLimitMilli

instance (window : HighComputeWindow) : Decidable window.InRange :=
  inferInstanceAs (Decidable (∀ value ∈ window.values, |value| ≤ highComputeNormalizedLimitMilli))

theorem centredPair_bounded {count leftSum rightSum : ℤ} {samples : ℤ × ℤ} (few : |count| ≤ 16)
    (left : |samples.1| ≤ 100000) (right : |samples.2| ≤ 100000) (leftTotal : |leftSum| ≤ 1600000)
    (rightTotal : |rightSum| ≤ 1600000) :
    |(centredPair count leftSum rightSum samples).1| ≤ 3200000 ∧
      |(centredPair count leftSum rightSum samples).2| ≤ 3200000 := by
  have one {sample sum : ℤ} (value : |sample| ≤ 100000) (total : |sum| ≤ 1600000) : |sample * count - sum| ≤ 3200000 := by
    calc |sample * count - sum| ≤ |sample * count| + |sum| := abs_sub _ _
      _ = |sample| * |count| + |sum| := by rw [abs_mul]
      _ ≤ 100000 * 16 + 1600000 := add_le_add (mul_le_mul value few (abs_nonneg _) (by norm_num)) total
      _ = 3200000 := by norm_num
  exact ⟨one left leftTotal, one right rightTotal⟩

theorem energy_le {values : List ℤ} (bounded : ∀ value ∈ values, |value| ≤ 3200000) :
    energy values ≤ values.length * 10240000000000 := by
  have each : ∀ square ∈ values.map (fun value => value.natAbs * value.natAbs), square ≤ 10240000000000 := by
    intro square member
    obtain ⟨value, inside, rfl⟩ := List.mem_map.mp member
    have small : value.natAbs ≤ 3200000 := by
      have bound := abs_le.mp (bounded value inside)
      omega
    calc value.natAbs * value.natAbs ≤ 3200000 * 3200000 := Nat.mul_le_mul small small
      _ = 10240000000000 := by norm_num
  have total := List.sum_le_card_nsmul _ _ each
  simpa [energy] using total

theorem fits_of_bounded {pairs : List (ℤ × ℤ)} (few : pairs.length ≤ 16)
    (bounded : ∀ pair ∈ pairs, |pair.1| ≤ 3200000 ∧ |pair.2| ≤ 3200000) : FusionFits pairs := by
  have leftEnergy : energy (pairs.map Prod.fst) ≤ 16 * 10240000000000 := by
    have total : energy (pairs.map Prod.fst) ≤ (pairs.map Prod.fst).length * 10240000000000 := energy_le fun value member => by
      obtain ⟨pair, inside, rfl⟩ := List.mem_map.mp member
      exact (bounded pair inside).1
    rw [List.length_map] at total
    exact total.trans (Nat.mul_le_mul_right _ few)
  have rightEnergy : energy (pairs.map Prod.snd) ≤ 16 * 10240000000000 := by
    have total : energy (pairs.map Prod.snd) ≤ (pairs.map Prod.snd).length * 10240000000000 := energy_le fun value member => by
      obtain ⟨pair, inside, rfl⟩ := List.mem_map.mp member
      exact (bounded pair inside).2
    rw [List.length_map] at total
    exact total.trans (Nat.mul_le_mul_right _ few)
  have dots (earlier later) (split : pairs = earlier ++ later) : |dotProduct earlier| ≤ 16 * 10240000000000 := by
    have each : ∀ product ∈ earlier.map (fun pair => pair.1 * pair.2), |product| ≤ 10240000000000 := by
      intro product member
      obtain ⟨pair, inside, rfl⟩ := List.mem_map.mp member
      obtain ⟨left, right⟩ := bounded pair (by simp [split, inside])
      calc |pair.1 * pair.2| = |pair.1| * |pair.2| := abs_mul _ _
        _ ≤ 3200000 * 3200000 := mul_le_mul left right (abs_nonneg _) (by norm_num)
        _ = 10240000000000 := by norm_num
    have total := abs_sum_le each
    have short : earlier.length ≤ 16 := by
      have lengths := congrArg List.length split
      simp at lengths
      omega
    rw [List.length_map] at total
    unfold dotProduct
    omega
  have root {sum : ℕ} (small : sum ≤ 16 * 10240000000000) : Nat.sqrt sum < 2 ^ 31 := Nat.sqrt_lt'.mpr (by omega)
  refine ⟨fun pair member => ?_, fun pair member => ?_, by omega, by omega, fun earlier later split => ?_, ?_, ?_⟩
  · have bound := abs_le.mp (bounded pair member).1
    omega
  · have bound := abs_le.mp (bounded pair member).2
    omega
  · have bound := abs_le.mp (dots earlier later split)
    constructor <;> omega
  · have bound := abs_le.mp (dots pairs [] (by simp))
    unfold highComputeCorrelationScale
    constructor <;> omega
  · calc _ ≤ 2 ^ 31 * Nat.sqrt (energy (pairs.map Prod.snd)) := Nat.mul_le_mul_right _ (root leftEnergy).le
      _ < 2 ^ 31 * 2 ^ 31 := Nat.mul_lt_mul_of_pos_left (root rightEnergy) (by norm_num)
      _ ≤ 2 ^ 63 := by norm_num

theorem fits_of_range (admitted : highComputeAdmits node left right leftAnalysis rightAnalysis = .ok)
    (leftRange : left.InRange) (rightRange : right.InRange) : FusionFits (centredPairs left right) := by
  obtain ⟨few, same⟩ := highComputeAdmits_ok admitted
  have lengths : left.values.length = left.samples.length ∧ right.values.length = left.samples.length := by
    simp [HighComputeWindow.values, same]
  have leftSum := abs_sum_le leftRange
  have rightSum := abs_sum_le rightRange
  rw [lengths.1] at leftSum
  rw [lengths.2] at rightSum
  unfold highComputeNormalizedLimitMilli at leftSum rightSum
  have count : |(left.samples.length : ℤ)| ≤ 16 := by
    rw [abs_le]
    omega
  apply fits_of_bounded
  · simp [centredPairs, lengths]
    omega
  · intro pair member
    obtain ⟨samples, inside, rfl⟩ := List.mem_map.mp member
    obtain ⟨inLeft, inRight⟩ := List.of_mem_zip inside
    exact centredPair_bounded count (leftRange _ inLeft) (rightRange _ inRight) (by omega) (by omega)

/-- The fusion of two admitted windows overflows nowhere and divides by nothing exactly where the centred samples fit, and
they do wherever the samples are within the range that the analysis of a single window asks for. -/
theorem fusion_overflows_exactly (node : HighComputeNode) (left right : HighComputeWindow)
    (leftAnalysis rightAnalysis : HighComputeAnalysis) :
    ((highComputeCorrelateAndFuse node left right leftAnalysis rightAnalysis).exact = true ↔
      (highComputeAdmits node left right leftAnalysis rightAnalysis = .ok → FusionFits (centredPairs left right))) ∧
    (highComputeAdmits node left right leftAnalysis rightAnalysis = .ok → left.InRange → right.InRange →
      FusionFits (centredPairs left right)) :=
  ⟨fusion_exact_iff, fits_of_range⟩

def configuredComputeNode : HighComputeNode :=
  (highComputeConfigure highComputeInit ⟨5, 5, 5, roleHighComputeProcessing, authorityObserve,
    capObservation ||| capSignalProcessing⟩ ⟨50, 100, 0⟩).2

def extremeWindow : HighComputeWindow := ⟨2, 2, 1, 1, 0, [⟨1, 1, 0x7FFFFFFF, 90, 0⟩, ⟨2, 2, 0x80000000, 90, 0⟩]⟩

def twoSampleAnalysis : HighComputeAnalysis := { zeroHighComputeAnalysis with sampleCount := 2 }

/-- The square of a centred extreme sample does not fit. -/
theorem fusion_overflows :
    highComputeAdmits configuredComputeNode extremeWindow extremeWindow twoSampleAnalysis twoSampleAnalysis = .ok ∧
    (highComputeCorrelateAndFuse configuredComputeNode extremeWindow extremeWindow twoSampleAnalysis
      twoSampleAnalysis).exact = false := by
  have admitted : highComputeAdmits configuredComputeNode extremeWindow extremeWindow twoSampleAnalysis
      twoSampleAnalysis = .ok := by decide
  refine ⟨admitted, Bool.eq_false_iff.mpr fun exact => ?_⟩
  have fits := fusion_exact_iff.mp exact admitted
  have small := fits.left (4294967295, 4294967295) (by decide)
  revert small
  decide

theorem highComputeSamplesResult_range {policy : HighComputePolicy} {samples : List HighComputeSample}
    {previous : Option HighComputeSample} (accepted : highComputeSamplesResult policy previous samples = .ok) :
    ∀ sample ∈ samples, |sample.normalizedMilli.toInt| ≤ highComputeNormalizedLimitMilli := by
  induction samples generalizing previous with
  | nil => simp
  | cons sample samples ih =>
    intro other member
    unfold highComputeSamplesResult at accepted
    cases first : highComputeSampleResult policy previous sample with
    | ok =>
      rw [first] at accepted
      rcases List.mem_cons.mp member with rfl | member
      · unfold highComputeSampleResult at first
        rw [abs_le]
        split_ifs at first with _ range
        all_goals omega
      · exact ih accepted other member
    | _ => simp [first] at accepted

theorem highComputeAnalyze_range {window : HighComputeWindow}
    (accepted : (highComputeAnalyze node window).value.1 = .ok) : window.InRange := by
  intro value member
  obtain ⟨sample, inside, rfl⟩ := List.mem_map.mp member
  unfold highComputeAnalyze at accepted
  by_cases fresh : node.initialized ≠ 1
  · rw [if_pos fresh] at accepted
    cases accepted
  rw [if_neg fresh] at accepted
  by_cases basic : (!highComputeWindowBasicValid window) = true
  · rw [if_pos basic] at accepted
    cases accepted
  rw [if_neg basic] at accepted
  cases result : highComputeSamplesResult node.policy none window.samples with
  | ok => exact highComputeSamplesResult_range result sample inside
  | _ =>
    rw [result] at accepted
    cases accepted

theorem highComputeCorrelateAndFuse_value
    (admitted : highComputeAdmits node left right leftAnalysis rightAnalysis = .ok) (leftRange : left.InRange)
    (rightRange : right.InRange) (leftVaries : energy ((centredPairs left right).map Prod.fst) ≠ 0)
    (rightVaries : energy ((centredPairs left right).map Prod.snd) ≠ 0) :
    let correlation := highComputeClamp ((dotProduct (centredPairs left right) * highComputeCorrelationScale).tdiv
      (Nat.sqrt (energy ((centredPairs left right).map Prod.fst)) *
        Nat.sqrt (energy ((centredPairs left right).map Prod.snd)) : ℕ))
    highComputeCorrelateAndFuse node left right leftAnalysis rightAnalysis = pure (.ok,
      { correlationMilli := correlation
        fusedMeanMilli := (leftAnalysis.meanMilli.toInt + rightAnalysis.meanMilli.toInt).tdiv 2
        contradictionDetected := if correlation < node.policy.minimumCorrelationMilli.toInt then 1 else 0
        actuationAuthorized := highComputeAuthorityNone }) := by
  intro correlation
  have fits := fits_of_range admitted leftRange rightRange
  have turns := (moments_fit_iff _).mpr ⟨fits.left, fits.right, fits.leftEnergy, fits.rightEnergy, fits.dot⟩
  have loops : highComputeLoops left right = pure ⟨dotProduct (centredPairs left right),
      energy ((centredPairs left right).map Prod.fst), energy ((centredPairs left right).map Prod.snd)⟩ :=
    eq_pure ((fusion_loops admitted _).mpr ⟨turns, decide_eq_true rfl⟩)
  unfold highComputeCorrelateAndFuse
  rw [admitted]
  dsimp only
  rw [loops, pure_bind, if_neg (by simp [leftVaries, rightVaries])]
  exact highComputeFuse_exact node leftAnalysis rightAnalysis fits.leftEnergy fits.rightEnergy leftVaries rightVaries
    fits.scaled fits.roots

end fusion

end Guardian.MultiNode
