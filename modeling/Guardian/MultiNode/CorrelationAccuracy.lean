import Mathlib.Analysis.SpecialFunctions.Sqrt
import Guardian.MultiNode.HighComputeExact

namespace Guardian.MultiNode

open Word Watched

local instance correlationThousand : Nat.AtLeastTwo 1000 := ⟨by decide⟩

noncomputable def exactCorrelation (pairs : List (ℤ × ℤ)) : ℝ :=
  1000 * dotProduct pairs / (√(energy (pairs.map Prod.fst)) * √(energy (pairs.map Prod.snd)))

theorem cross_term_le {left right dot leftEnergy rightEnergy : ℤ} (leftPositive : 0 ≤ leftEnergy)
    (rightPositive : 0 ≤ rightEnergy) (schwarz : dot ^ 2 ≤ leftEnergy * rightEnergy) :
    2 * (left * right * dot) ≤ left ^ 2 * rightEnergy + right ^ 2 * leftEnergy := by
  have positive : 0 ≤ left ^ 2 * rightEnergy + right ^ 2 * leftEnergy := by positivity
  have scaled := mul_le_mul_of_nonneg_left schwarz (sq_nonneg (left * right))
  have squares : (2 * (left * right * dot)) ^ 2 ≤ (left ^ 2 * rightEnergy + right ^ 2 * leftEnergy) ^ 2 := by
    calc (2 * (left * right * dot)) ^ 2 = 4 * ((left * right) ^ 2 * dot ^ 2) := by ring
      _ ≤ 4 * ((left * right) ^ 2 * (leftEnergy * rightEnergy)) := by omega
      _ ≤ 4 * ((left * right) ^ 2 * (leftEnergy * rightEnergy)) +
          (left ^ 2 * rightEnergy - right ^ 2 * leftEnergy) ^ 2 := le_add_of_nonneg_right (sq_nonneg _)
      _ = (left ^ 2 * rightEnergy + right ^ 2 * leftEnergy) ^ 2 := by ring
  exact (abs_le_of_sq_le_sq' squares positive).2

theorem cauchy_schwarz (pairs : List (ℤ × ℤ)) :
    dotProduct pairs ^ 2 ≤ energy (pairs.map Prod.fst) * energy (pairs.map Prod.snd) := by
  induction pairs with
  | nil => simp [dotProduct, energy]
  | cons pair pairs ih =>
    obtain ⟨left, right⟩ := pair
    have cross := @cross_term_le left right _ _ _ (Int.natCast_nonneg _) (Int.natCast_nonneg _) ih
    simp only [dotProduct, energy, List.map_cons, List.sum_cons] at ih cross ⊢
    push_cast at ih cross ⊢
    simp only [abs_mul_abs_self] at ih cross ⊢
    nlinarith

/-- A published correlation beside the exact one: of its sign, of at least its whole part, and too large by no more than
the two truncated roots make it. -/
structure CorrelationClose (correlation : ℤ) (exact : ℝ) (leftRoot rightRoot : ℕ) : Prop where
  low : -1000 ≤ correlation
  high : correlation ≤ 1000
  sign : 0 ≤ correlation * exact
  atLeast : |exact| - 1 < |(correlation : ℝ)|
  atMost : |(correlation : ℝ)| ≤ |exact| * (1 + 1 / leftRoot) * (1 + 1 / rightRoot)
  near : 2001 ≤ leftRoot → 2001 ≤ rightRoot → |correlation - exact| < 1

section accuracy

theorem sqrt_between (value : ℕ) : (Nat.sqrt value : ℝ) ≤ √value ∧ √(value : ℝ) < Nat.sqrt value + 1 :=
  ⟨Real.nat_sqrt_le_real_sqrt, Real.real_sqrt_lt_nat_sqrt_succ⟩

theorem clamp_natAbs (correlation : ℤ) : (highComputeClamp correlation).natAbs = min 1000 correlation.natAbs := by
  unfold highComputeClamp highComputeCorrelationScale
  split_ifs <;> omega

variable {dividend leftRoot rightRoot : ℕ} {left right : ℝ}

theorem quotient_between (leftPositive : 0 < leftRoot) (rightPositive : 0 < rightRoot) (leftLow : leftRoot ≤ left)
    (leftHigh : left ≤ leftRoot + 1) (rightLow : rightRoot ≤ right) (rightHigh : right ≤ rightRoot + 1)
    (bounded : dividend / (left * right) ≤ 1000) :
    dividend / (left * right) - 1 < (min 1000 (dividend / (leftRoot * rightRoot)) : ℕ) ∧
      ((min 1000 (dividend / (leftRoot * rightRoot)) : ℕ) : ℝ) ≤
        dividend / (left * right) * (1 + 1 / leftRoot) * (1 + 1 / rightRoot) := by
  have leftSome : (0 : ℝ) < leftRoot := by exact_mod_cast leftPositive
  have rightSome : (0 : ℝ) < rightRoot := by exact_mod_cast rightPositive
  have product : (0 : ℝ) < leftRoot * rightRoot := mul_pos leftSome rightSome
  have larger : (leftRoot : ℝ) * rightRoot ≤ left * right := mul_le_mul leftLow rightLow rightSome.le (leftSome.le.trans leftLow)
  have positive : 0 < left * right := product.trans_le larger
  have none : (0 : ℝ) ≤ dividend := Nat.cast_nonneg _
  have up : dividend / (left * right) ≤ dividend / (leftRoot * rightRoot : ℝ) :=
    div_le_div_of_nonneg_left none product larger
  constructor
  · rw [Nat.cast_min, lt_min_iff]
    constructor
    · push_cast
      linarith
    · have next : dividend < leftRoot * rightRoot * (dividend / (leftRoot * rightRoot) + 1) :=
        Nat.lt_mul_div_succ _ (Nat.mul_pos leftPositive rightPositive)
      have real : (dividend : ℝ) < leftRoot * rightRoot * ((dividend / (leftRoot * rightRoot) : ℕ) + 1) := by
        exact_mod_cast next
      have below : dividend / (leftRoot * rightRoot : ℝ) < (dividend / (leftRoot * rightRoot) : ℕ) + 1 := by
        rw [div_lt_iff₀ product]
        linarith
      linarith
  · have truncated : ((dividend / (leftRoot * rightRoot) : ℕ) : ℝ) ≤ dividend / (leftRoot * rightRoot : ℝ) := by
      have cast := @Nat.cast_div_le ℝ _ _ _ dividend (leftRoot * rightRoot)
      push_cast at cast
      exact cast
    have factors : left * right ≤ leftRoot * rightRoot * ((1 + 1 / leftRoot) * (1 + 1 / rightRoot)) := by
      calc left * right ≤ (leftRoot + 1) * (rightRoot + 1) :=
            mul_le_mul leftHigh rightHigh (rightSome.le.trans rightLow) (by positivity)
        _ = leftRoot * rightRoot * ((1 + 1 / leftRoot) * (1 + 1 / rightRoot)) := by field_simp
    have quotient : dividend / (leftRoot * rightRoot : ℝ) ≤
        dividend / (left * right) * ((1 + 1 / leftRoot) * (1 + 1 / rightRoot)) := by
      rw [div_mul_eq_mul_div, div_le_div_iff₀ product positive, mul_assoc (dividend : ℝ)]
      apply mul_le_mul_of_nonneg_left _ none
      linarith
    rw [mul_assoc]
    calc ((min 1000 (dividend / (leftRoot * rightRoot)) : ℕ) : ℝ)
        ≤ (dividend / (leftRoot * rightRoot) : ℕ) := by exact_mod_cast min_le_right _ _
      _ ≤ _ := truncated.trans quotient

/-- With roots from 2001 on, the truncated roots move a value of at most a thousand by less than one. -/
theorem factors_small {exact : ℝ} (positive : 0 ≤ exact) (bounded : exact ≤ 1000) (leftLarge : 2001 ≤ leftRoot)
    (rightLarge : 2001 ≤ rightRoot) : exact * (1 + 1 / leftRoot) * (1 + 1 / rightRoot) < exact + 1 := by
  have one {root : ℕ} (large : 2001 ≤ root) : (1 : ℝ) + 1 / root ≤ 1 + 1 / 2001 := by
    have cast : (2001 : ℝ) ≤ root := by exact_mod_cast large
    have small : (1 : ℝ) / root ≤ 1 / 2001 := one_div_le_one_div_of_le (by norm_num) cast
    linarith
  have nonneg {root : ℕ} : (0 : ℝ) ≤ 1 + 1 / root := by positivity
  calc exact * (1 + 1 / leftRoot) * (1 + 1 / rightRoot)
      ≤ exact * (1 + 1 / 2001) * (1 + 1 / 2001) :=
        mul_le_mul (mul_le_mul_of_nonneg_left (one leftLarge) positive) (one rightLarge) nonneg (by positivity)
    _ < exact + 1 := by nlinarith

theorem exactCorrelation_abs (pairs : List (ℤ × ℤ)) : |exactCorrelation pairs| =
    (1000 * (dotProduct pairs).natAbs : ℕ) / (√(energy (pairs.map Prod.fst)) * √(energy (pairs.map Prod.snd))) := by
  unfold exactCorrelation
  rw [abs_div, abs_mul, abs_of_nonneg (by positivity : (0 : ℝ) ≤ 1000), abs_of_nonneg (by positivity : (0 : ℝ) ≤ _ * _),
    Nat.cast_mul, Nat.cast_natAbs, Int.cast_abs]
  rfl

theorem exactCorrelation_le (pairs : List (ℤ × ℤ)) : |exactCorrelation pairs| ≤ 1000 := by
  have schwarz : ((dotProduct pairs : ℤ) : ℝ) ^ 2 ≤ energy (pairs.map Prod.fst) * energy (pairs.map Prod.snd) := by
    exact_mod_cast cauchy_schwarz pairs
  have root := Real.abs_le_sqrt schwarz
  rw [Real.sqrt_mul (Nat.cast_nonneg _)] at root
  rw [exactCorrelation_abs]
  apply div_le_of_le_mul₀ (by positivity) (by norm_num)
  rw [Nat.cast_mul, Nat.cast_natAbs, Int.cast_abs, Nat.cast_ofNat]
  linarith

theorem quotient_natAbs (dot : ℤ) (denominator : ℕ) :
    (highComputeClamp ((dot * highComputeCorrelationScale).tdiv denominator)).natAbs =
      min 1000 (1000 * dot.natAbs / denominator) := by
  rw [clamp_natAbs, Int.natAbs_tdiv, Int.natAbs_mul, Int.natAbs_natCast, mul_comm dot.natAbs]
  rfl

theorem quotient_sign (dot : ℤ) (denominator : ℕ) :
    0 ≤ dot ∧ 0 ≤ highComputeClamp ((dot * highComputeCorrelationScale).tdiv denominator) ∨
      dot ≤ 0 ∧ highComputeClamp ((dot * highComputeCorrelationScale).tdiv denominator) ≤ 0 := by
  have clamped (value : ℤ) : (0 ≤ value → 0 ≤ highComputeClamp value) ∧ (value ≤ 0 → highComputeClamp value ≤ 0) := by
    unfold highComputeClamp highComputeCorrelationScale
    constructor <;> intro sign <;> split_ifs <;> omega
  unfold highComputeCorrelationScale
  rcases Int.le_total 0 dot with above | below
  · refine .inl ⟨above, (clamped _).1 ?_⟩
    exact Int.tdiv_nonneg (by omega) (Int.natCast_nonneg _)
  · refine .inr ⟨below, (clamped _).2 ?_⟩
    rw [tdiv_of_nonpos (by omega)]
    have quotient : 0 ≤ -(dot * 1000) / (denominator : ℤ) := Int.ediv_nonneg (by omega) (Int.natCast_nonneg _)
    omega

theorem correlation_close {pairs : List (ℤ × ℤ)} (leftVaries : energy (pairs.map Prod.fst) ≠ 0)
    (rightVaries : energy (pairs.map Prod.snd) ≠ 0) :
    CorrelationClose (highComputeClamp ((dotProduct pairs * highComputeCorrelationScale).tdiv
        (Nat.sqrt (energy (pairs.map Prod.fst)) * Nat.sqrt (energy (pairs.map Prod.snd)) : ℕ)))
      (exactCorrelation pairs) (Nat.sqrt (energy (pairs.map Prod.fst))) (Nat.sqrt (energy (pairs.map Prod.snd))) := by
  have leftRoot : 0 < Nat.sqrt (energy (pairs.map Prod.fst)) := Nat.sqrt_pos.mpr (by omega)
  have rightRoot : 0 < Nat.sqrt (energy (pairs.map Prod.snd)) := Nat.sqrt_pos.mpr (by omega)
  have bounds := highComputeClamp_bounds ((dotProduct pairs * highComputeCorrelationScale).tdiv
    (Nat.sqrt (energy (pairs.map Prod.fst)) * Nat.sqrt (energy (pairs.map Prod.snd)) : ℕ))
  have magnitude := quotient_natAbs (dotProduct pairs)
    (Nat.sqrt (energy (pairs.map Prod.fst)) * Nat.sqrt (energy (pairs.map Prod.snd)))
  have signs := quotient_sign (dotProduct pairs)
    (Nat.sqrt (energy (pairs.map Prod.fst)) * Nat.sqrt (energy (pairs.map Prod.snd)))
  have bounded := exactCorrelation_le pairs
  have between := quotient_between leftRoot rightRoot (sqrt_between _).1 (sqrt_between _).2.le (sqrt_between _).1
    (sqrt_between _).2.le (by rw [← exactCorrelation_abs]; exact bounded)
  rw [← exactCorrelation_abs, ← magnitude] at between
  generalize highComputeClamp ((dotProduct pairs * highComputeCorrelationScale).tdiv
    (Nat.sqrt (energy (pairs.map Prod.fst)) * Nat.sqrt (energy (pairs.map Prod.snd)) : ℕ)) = correlation at *
  rw [Nat.cast_natAbs, Int.cast_abs] at between
  have same : 0 ≤ (correlation : ℝ) ∧ 0 ≤ exactCorrelation pairs ∨ (correlation : ℝ) ≤ 0 ∧ exactCorrelation pairs ≤ 0 := by
    rcases signs with ⟨dot, sign⟩ | ⟨dot, sign⟩
    · refine .inl ⟨by exact_mod_cast sign, ?_⟩
      have cast : (0 : ℝ) ≤ dotProduct pairs := by exact_mod_cast dot
      unfold exactCorrelation
      positivity
    · refine .inr ⟨by exact_mod_cast sign, ?_⟩
      have cast : (dotProduct pairs : ℝ) ≤ 0 := by exact_mod_cast dot
      unfold exactCorrelation
      exact div_nonpos_of_nonpos_of_nonneg (by linarith) (by positivity)
  refine ⟨bounds.1, bounds.2, ?_, between.1, between.2, fun leftLarge rightLarge => ?_⟩
  · rcases same with ⟨left, right⟩ | ⟨left, right⟩
    · exact mul_nonneg left right
    · exact mul_nonneg_of_nonpos_of_nonpos left right
  · have small := factors_small (abs_nonneg (exactCorrelation pairs)) bounded leftLarge rightLarge
    have distance : |(correlation : ℝ) - exactCorrelation pairs| = |(|(correlation : ℝ)| - |exactCorrelation pairs|)| := by
      rcases same with ⟨left, right⟩ | ⟨left, right⟩
      · rw [abs_of_nonneg left, abs_of_nonneg right]
      · rw [abs_of_nonpos left, abs_of_nonpos right, neg_sub_neg, abs_sub_comm]
    rw [distance, abs_lt]
    constructor <;> linarith [between.1, between.2]

end accuracy

section verdict

variable {node : HighComputeNode} {left right : HighComputeWindow} {leftAnalysis rightAnalysis : HighComputeAnalysis}

/-- For windows in range that vary, the published correlation is close to the exact one, and the verdict is the exact one
unless the threshold lies between the two, which large roots keep less than one apart. -/
theorem correlation_is_accurate
    (admitted : highComputeAdmits node left right leftAnalysis rightAnalysis = .ok) (leftRange : left.InRange)
    (rightRange : right.InRange) (leftVaries : energy ((centredPairs left right).map Prod.fst) ≠ 0)
    (rightVaries : energy ((centredPairs left right).map Prod.snd) ≠ 0) :
    ∃ fusion, highComputeCorrelateAndFuse node left right leftAnalysis rightAnalysis = pure (.ok, fusion) ∧
      CorrelationClose fusion.correlationMilli (exactCorrelation (centredPairs left right))
        (Nat.sqrt (energy ((centredPairs left right).map Prod.fst)))
        (Nat.sqrt (energy ((centredPairs left right).map Prod.snd))) ∧
      (¬ (fusion.contradictionDetected = 1 ↔
          exactCorrelation (centredPairs left right) < node.policy.minimumCorrelationMilli.toInt) →
        exactCorrelation (centredPairs left right) < node.policy.minimumCorrelationMilli.toInt ∧
            node.policy.minimumCorrelationMilli.toInt ≤ fusion.correlationMilli ∨
          fusion.correlationMilli < node.policy.minimumCorrelationMilli.toInt ∧
            node.policy.minimumCorrelationMilli.toInt ≤ exactCorrelation (centredPairs left right)) := by
  have close := correlation_close leftVaries rightVaries
  refine ⟨_, highComputeCorrelateAndFuse_value admitted leftRange rightRange leftVaries rightVaries, close, ?_⟩
  dsimp only
  generalize highComputeClamp _ = correlation
  generalize node.policy.minimumCorrelationMilli.toInt = threshold
  intro differs
  by_cases below : correlation < threshold
  · rw [if_pos below, iff_true_left rfl, not_lt] at differs
    exact .inr ⟨below, differs⟩
  · rw [if_neg below, iff_false_left (by decide), not_not] at differs
    exact .inl ⟨differs, not_lt.mp below⟩

end verdict

def threeSampleWindow (first second third : U32) : HighComputeWindow :=
  ⟨2, 2, 1, 1, 0, [⟨1, 1, first, 90, 0⟩, ⟨2, 2, second, 90, 0⟩, ⟨3, 3, third, 90, 0⟩]⟩

def threeSampleAnalysis : HighComputeAnalysis := { zeroHighComputeAnalysis with sampleCount := 3 }

/-- A node that calls a correlation below −0.6 a contradiction. -/
def exampleComputeNode : HighComputeNode :=
  (highComputeConfigure highComputeInit ⟨5, 5, 5, roleHighComputeProcessing, authorityObserve,
    capObservation ||| capSignalProcessing⟩ ⟨50, 100, BitVec.ofInt 32 (-600)⟩).2

theorem three_sample_roots : Nat.sqrt 6 = 2 := (Nat.eq_sqrt'.mpr ⟨by decide, by decide⟩).symm

theorem correlation_is_accurate_example : ∃ fusion,
    highComputeCorrelateAndFuse exampleComputeNode (threeSampleWindow 0 0 1) (threeSampleWindow 0 1 0)
      threeSampleAnalysis threeSampleAnalysis = pure (.ok, fusion) ∧
    CorrelationClose fusion.correlationMilli
      (exactCorrelation (centredPairs (threeSampleWindow 0 0 1) (threeSampleWindow 0 1 0))) 2 2 := by
  obtain ⟨fusion, computed, close, -⟩ := correlation_is_accurate
    (by decide : highComputeAdmits exampleComputeNode (threeSampleWindow 0 0 1) (threeSampleWindow 0 1 0)
      threeSampleAnalysis threeSampleAnalysis = .ok) (by decide) (by decide) (by decide) (by decide)
  have left : energy ((centredPairs (threeSampleWindow 0 0 1) (threeSampleWindow 0 1 0)).map Prod.fst) = 6 := by decide
  have right : energy ((centredPairs (threeSampleWindow 0 0 1) (threeSampleWindow 0 1 0)).map Prod.snd) = 6 := by decide
  rw [left, right, three_sample_roots] at close
  exact ⟨fusion, computed, close⟩

/-- Two small windows with the exact correlation −0.5 are published with −0.75, below a threshold that the exact one is
above. -/
theorem correlation_far_off : ∃ fusion,
    highComputeCorrelateAndFuse exampleComputeNode (threeSampleWindow 0 0 1) (threeSampleWindow 0 1 0)
      threeSampleAnalysis threeSampleAnalysis = pure (.ok, fusion) ∧
    fusion.correlationMilli = -750 ∧ fusion.contradictionDetected = 1 ∧
    exactCorrelation (centredPairs (threeSampleWindow 0 0 1) (threeSampleWindow 0 1 0)) = -500 ∧
    exampleComputeNode.policy.minimumCorrelationMilli.toInt = -600 := by
  have left : energy ((centredPairs (threeSampleWindow 0 0 1) (threeSampleWindow 0 1 0)).map Prod.fst) = 6 := by decide
  have right : energy ((centredPairs (threeSampleWindow 0 0 1) (threeSampleWindow 0 1 0)).map Prod.snd) = 6 := by decide
  have dot : dotProduct (centredPairs (threeSampleWindow 0 0 1) (threeSampleWindow 0 1 0)) = -3 := by decide
  have computed := highComputeCorrelateAndFuse_value
    (by decide : highComputeAdmits exampleComputeNode (threeSampleWindow 0 0 1) (threeSampleWindow 0 1 0)
      threeSampleAnalysis threeSampleAnalysis = .ok) (by decide) (by decide) (by decide) (by decide)
  refine ⟨_, computed, ?_, ?_, ?_, by decide⟩
  · rw [left, right, dot, three_sample_roots]
    decide
  · rw [left, right, dot, three_sample_roots]
    decide
  · unfold exactCorrelation
    rw [left, right, dot, Real.mul_self_sqrt (by norm_num)]
    norm_num

end Guardian.MultiNode
