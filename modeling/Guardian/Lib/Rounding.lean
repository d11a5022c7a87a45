import Mathlib.Algebra.Order.Floor.Semifield
import Mathlib.Algebra.Order.Ring.Cast
import Mathlib.Algebra.Order.Round
import Mathlib.Tactic.FieldSimp
import Mathlib.Tactic.Positivity
import Mathlib.Tactic.Ring

namespace Rounding

variable {α : Type*} [Field α] [LinearOrder α] [FloorRing α]

def halfEven (x : α) : ℤ :=
  if 2 * Int.fract x < 1 then ⌊x⌋
  else if 1 < 2 * Int.fract x then ⌊x⌋ + 1
  else if Even ⌊x⌋ then ⌊x⌋
  else ⌊x⌋ + 1

theorem halfEven_floor (x : α) : halfEven x = ⌊x⌋ ∨ halfEven x = ⌊x⌋ + 1 := by
  unfold halfEven
  split_ifs
  · exact Or.inl rfl
  · exact Or.inr rfl
  · exact Or.inl rfl
  · exact Or.inr rfl

theorem le_halfEven {n : ℤ} {x : α} (below : (n : α) ≤ x) : n ≤ halfEven x := by
  have floor : n ≤ ⌊x⌋ := Int.le_floor.mpr below
  have even := halfEven_floor x
  omega

variable [IsStrictOrderedRing α]

theorem halfUp_floor (x : α) : ⌊x + 1 / 2⌋ = ⌊x⌋ ∨ ⌊x + 1 / 2⌋ = ⌊x⌋ + 1 := by
  have low : ⌊x⌋ ≤ ⌊x + 1 / 2⌋ := Int.floor_mono (by linarith)
  have high : ⌊x + 1 / 2⌋ ≤ ⌊x + 1⌋ := Int.floor_mono (by linarith)
  rw [Int.floor_add_one] at high
  omega

theorem halfEven_near (x : α) : halfEven x ≤ ⌊x + 1 / 2⌋ + 1 ∧ ⌊x + 1 / 2⌋ ≤ halfEven x + 1 := by
  have even := halfEven_floor x
  have up := halfUp_floor x
  omega

theorem halfEven_le {n : ℤ} {x : α} (above : x ≤ n) : halfEven x ≤ n := by
  have floor : ⌊x⌋ ≤ n := by
    have mono := Int.floor_mono above
    rwa [Int.floor_intCast] at mono
  by_cases last : ⌊x⌋ = n
  · have whole : x = n := le_antisymm above (last ▸ Int.floor_le x)
    rw [halfEven, if_pos (by rw [whole, Int.fract_intCast, mul_zero]; exact one_pos)]
    exact floor
  · have even := halfEven_floor x
    omega

def towardZero (x : α) : ℤ := if 0 ≤ x then ⌊x⌋ else -⌊-x⌋

/-- Rounding to the nearest integer, with halves going away from zero. -/
def halfAway (x : α) : ℤ := if 0 ≤ x then ⌊x + 1 / 2⌋ else -⌊-x + 1 / 2⌋

section quotients

theorem halfUp_div (dividend divisor : ℕ) :
    ⌊(dividend : α) / divisor + 1 / 2⌋₊ = (dividend + divisor / 2) / divisor := by
  by_cases none : divisor = 0
  · subst none
    rw [Nat.cast_zero, div_zero, zero_add, Nat.div_zero]
    exact Nat.floor_eq_zero.mpr one_half_lt_one
  · have positive : (divisor : α) ≠ 0 := Nat.cast_ne_zero.mpr none
    have doubled : (dividend : α) / divisor + 1 / 2 = ((2 * dividend + divisor : ℕ) : α) / ((2 * divisor : ℕ) : α) := by
      push_cast
      field_simp
    rw [doubled, Nat.floor_div_eq_div, ← Nat.div_div_eq_div_mul]
    congr 1
    omega

theorem halfUp_div_int (dividend divisor : ℕ) :
    ⌊(dividend : α) / divisor + 1 / 2⌋ = ((dividend + divisor / 2) / divisor : ℕ) := by
  have positive : (0 : α) ≤ (dividend : α) / divisor + 1 / 2 := by positivity
  rw [← Int.natCast_floor_eq_floor positive, halfUp_div]

theorem towardZero_div (dividend : ℤ) (divisor : ℕ) : towardZero ((dividend : α) / divisor) = dividend.tdiv divisor := by
  have quotient (above : ℤ) : ⌊(above : α) / divisor⌋ = above / (divisor : ℤ) := by
    rw [Int.floor_div_natCast, Int.floor_intCast]
  unfold towardZero
  by_cases none : divisor = 0
  · subst none
    simp
  have positive : (0 : α) < divisor := Nat.cast_pos.mpr (Nat.pos_of_ne_zero none)
  by_cases sign : 0 ≤ dividend
  · rw [if_pos (div_nonneg (Int.cast_nonneg sign) positive.le), quotient, Int.tdiv_eq_ediv_of_nonneg sign]
  · have below : (dividend : α) / divisor < 0 := div_neg_of_neg_of_pos (Int.cast_lt_zero.mpr (not_le.mp sign)) positive
    rw [if_neg (not_le.mpr below), ← neg_div, ← Int.cast_neg, quotient,
      ← Int.tdiv_eq_ediv_of_nonneg (by omega : 0 ≤ -dividend), Int.neg_tdiv, neg_neg]

theorem towardZero_div_int (dividend divisor : ℤ) : towardZero ((dividend : α) / (divisor : α)) = dividend.tdiv divisor := by
  obtain ⟨size, rfl | rfl⟩ := Int.eq_nat_or_neg divisor
  · rw [Int.cast_natCast, towardZero_div]
  · rw [Int.cast_neg, Int.cast_natCast, div_neg, ← neg_div, ← Int.cast_neg, towardZero_div, Int.neg_tdiv, Int.tdiv_neg]

/-- Half the divisor, with the sign of the dividend, is added before a division that rounds away from zero. -/
theorem halfAway_div (dividend : ℤ) (divisor : ℕ) : halfAway ((dividend : α) / divisor) =
    (if dividend ≥ 0 then dividend + (divisor : ℤ).tdiv 2 else dividend - (divisor : ℤ).tdiv 2).tdiv divisor := by
  have half : (divisor : ℤ).tdiv 2 = ((divisor / 2 : ℕ) : ℤ) := rfl
  unfold halfAway
  rw [half]
  by_cases none : divisor = 0
  · subst none
    have small : ⌊(1 / 2 : α)⌋ = 0 := Int.floor_eq_zero_iff.mpr ⟨by positivity, one_half_lt_one⟩
    rw [Nat.cast_zero, div_zero, if_pos le_rfl, zero_add, small]
    exact (Int.tdiv_zero _).symm
  have positive : (0 : α) < divisor := Nat.cast_pos.mpr (Nat.pos_of_ne_zero none)
  by_cases sign : 0 ≤ dividend
  · obtain ⟨size, rfl⟩ := Int.eq_ofNat_of_zero_le sign
    rw [if_pos (div_nonneg (Int.cast_nonneg sign) positive.le), if_pos sign, Int.cast_natCast, halfUp_div_int]
    rfl
  · obtain ⟨size, negated⟩ := Int.eq_ofNat_of_zero_le (by omega : 0 ≤ -dividend)
    obtain rfl : dividend = -(size : ℤ) := by omega
    have below : ((-(size : ℤ) : ℤ) : α) / divisor < 0 :=
      div_neg_of_neg_of_pos (Int.cast_lt_zero.mpr (not_le.mp sign)) positive
    rw [if_neg (not_le.mpr below), if_neg sign, ← neg_div, Int.cast_neg, neg_neg, Int.cast_natCast, halfUp_div_int,
      show -(size : ℤ) - (divisor / 2 : ℕ) = -((size + divisor / 2 : ℕ) : ℤ) by push_cast; ring, Int.neg_tdiv]
    rfl

end quotients

section pairs

variable {x y : α} {n : ℕ}

def Half (x : α) : Prop := ∃ k : ℕ, x = k + 1 / 2

theorem halfUp_le (positive : 0 ≤ x) : (⌊x + 1 / 2⌋₊ : α) ≤ x + 1 / 2 := Nat.floor_le (by linarith)

/-- Two shares of a whole, each rounded half up, exceed it by one at most. -/
theorem halfUp_add_le (xPositive : 0 ≤ x) (yPositive : 0 ≤ y) (whole : x + y ≤ n) :
    ⌊x + 1 / 2⌋₊ + ⌊y + 1 / 2⌋₊ ≤ n + 1 := by
  have xBelow := halfUp_le xPositive
  have yBelow := halfUp_le yPositive
  have both : ((⌊x + 1 / 2⌋₊ + ⌊y + 1 / 2⌋₊ : ℕ) : α) ≤ ((n + 1 : ℕ) : α) := by
    push_cast
    linarith
  exact_mod_cast both

theorem Half.of_eq (positive : 0 ≤ x) (exact : (⌊x + 1 / 2⌋₊ : α) = x + 1 / 2) : Half x := by
  have nonzero : ⌊x + 1 / 2⌋₊ ≠ 0 := by
    intro zero
    rw [zero, Nat.cast_zero] at exact
    linarith
  obtain ⟨k, same⟩ := Nat.exists_eq_succ_of_ne_zero nonzero
  rw [same, Nat.cast_succ] at exact
  exact ⟨k, by linarith⟩

theorem Half.halfUp (half : Half x) : (⌊x + 1 / 2⌋₊ : α) = x + 1 / 2 := by
  obtain ⟨k, rfl⟩ := half
  have next : (k : α) + 1 / 2 + 1 / 2 = ((k + 1 : ℕ) : α) := by
    push_cast
    ring
  rw [next, Nat.floor_natCast]

/-- They exceed it where they make up the whole and both are halfway. -/
theorem halfUp_add_eq_iff (xPositive : 0 ≤ x) (yPositive : 0 ≤ y) (whole : x + y ≤ n) :
    ⌊x + 1 / 2⌋₊ + ⌊y + 1 / 2⌋₊ = n + 1 ↔ x + y = n ∧ Half x ∧ Half y := by
  have xBelow := halfUp_le xPositive
  have yBelow := halfUp_le yPositive
  constructor
  · intro exceeds
    have cast : (⌊x + 1 / 2⌋₊ : α) + ⌊y + 1 / 2⌋₊ = n + 1 := by exact_mod_cast exceeds
    exact ⟨by linarith, .of_eq xPositive (by linarith), .of_eq yPositive (by linarith)⟩
  · rintro ⟨exact, xHalf, yHalf⟩
    have cast : (⌊x + 1 / 2⌋₊ : α) + ⌊y + 1 / 2⌋₊ = n + 1 := by
      rw [xHalf.halfUp, yHalf.halfUp]
      linarith
    exact_mod_cast cast

end pairs

end Rounding
