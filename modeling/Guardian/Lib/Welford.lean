import Mathlib.Algebra.BigOperators.Group.List.Basic
import Mathlib.Algebra.Order.BigOperators.Group.List
import Mathlib.Algebra.Order.Field.Basic
import Mathlib.Tactic.FieldSimp
import Mathlib.Tactic.Linarith
import Mathlib.Tactic.Positivity
import Mathlib.Tactic.Ring

namespace Welford

variable {α : Type*} [Field α] [LinearOrder α] [IsStrictOrderedRing α] {mean sample limit : α} {count : Nat}

/-- The mean after one more sample, which is the `count`-th one. -/
def update (mean sample : α) (count : Nat) : α := mean + (sample - mean) / count

theorem update_share (positive : 0 < count) :
    update mean sample count = (1 - (count : α)⁻¹) * mean + (count : α)⁻¹ * sample := by
  have nonzero : (count : α) ≠ 0 := Nat.cast_ne_zero.mpr (by omega)
  unfold update
  field_simp
  ring

theorem share_within (positive : 0 < count) : 0 < (count : α)⁻¹ ∧ (count : α)⁻¹ ≤ 1 := by
  have one : (1 : α) ≤ count := by exact_mod_cast positive
  exact ⟨by positivity, inv_le_one_of_one_le₀ one⟩

theorem update_within (positive : 0 < count) (low : 0 ≤ mean) (high : mean ≤ limit) (least : 0 ≤ sample)
    (most : sample ≤ limit) : 0 ≤ update mean sample count ∧ update mean sample count ≤ limit := by
  obtain ⟨share, whole⟩ := share_within (α := α) positive
  have rest : 0 ≤ 1 - (count : α)⁻¹ := by linarith
  rw [update_share positive]
  constructor
  · have first := mul_nonneg rest low
    have second := mul_nonneg share.le least
    linarith
  · have first := mul_le_mul_of_nonneg_left high rest
    have second := mul_le_mul_of_nonneg_left most share.le
    calc (1 - (count : α)⁻¹) * mean + (count : α)⁻¹ * sample
        ≤ (1 - (count : α)⁻¹) * limit + (count : α)⁻¹ * limit := add_le_add first second
      _ = limit := by ring

/-- The sum of squared deviations grows by the square of the range at most, and not at all with the first sample. -/
theorem spread_within {spread : α} (positive : 0 < count) (low : 0 ≤ mean) (high : mean ≤ limit) (least : 0 ≤ sample)
    (most : sample ≤ limit) (bounded : spread ≤ (count - 1 - 1 : Nat) * limit ^ 2) :
    spread + (sample - mean) * (sample - update mean sample count) ≤ (count - 1 : Nat) * limit ^ 2 := by
  obtain ⟨share, whole⟩ := share_within (α := α) positive
  have growth : (sample - mean) * (sample - update mean sample count) =
      (1 - (count : α)⁻¹) * (sample - mean) ^ 2 := by
    rw [update_share positive]
    ring
  rw [growth]
  by_cases first : count = 1
  · rw [first] at bounded ⊢
    simpa using bounded
  · have counted : ((count - 1 : Nat) : α) = (count - 1 - 1 : Nat) + 1 := by
      rw [show count - 1 = count - 1 - 1 + 1 by omega]
      push_cast
      simp
    have square : (sample - mean) ^ 2 ≤ limit ^ 2 := by
      apply sq_le_sq'
      · linarith
      · linarith
    have shrunk : (1 - (count : α)⁻¹) * (sample - mean) ^ 2 ≤ 1 * (sample - mean) ^ 2 :=
      mul_le_mul_of_nonneg_right (by linarith) (sq_nonneg _)
    rw [counted]
    linarith

def batchMean (samples : List α) : α := samples.sum / samples.length

def batchSpread (samples : List α) : α := (samples.map fun sample => (sample - batchMean samples) ^ 2).sum

omit [LinearOrder α] [IsStrictOrderedRing α] in
theorem sum_deviations (samples : List α) (center : α) :
    (samples.map fun sample => (sample - center) ^ 2).sum =
      (samples.map (· ^ 2)).sum - 2 * center * samples.sum + samples.length * center ^ 2 := by
  induction samples with
  | nil => simp
  | cons sample samples ih =>
    simp only [List.map_cons, List.sum_cons, List.length_cons, ih]
    push_cast
    ring

theorem batchMean_snoc (samples : List α) (sample : α) :
    batchMean (samples ++ [sample]) = update (batchMean samples) sample (samples.length + 1) := by
  unfold batchMean update
  rw [List.sum_append, List.length_append]
  simp only [List.sum_singleton, List.length_singleton]
  have after : ((samples.length + 1 : Nat) : α) ≠ 0 := Nat.cast_ne_zero.mpr (by omega)
  by_cases first : samples.length = 0
  · rw [List.length_eq_zero_iff.mp first]
    simp
  · have before : (samples.length : α) ≠ 0 := Nat.cast_ne_zero.mpr first
    push_cast at after ⊢
    field_simp
    ring

theorem batchSpread_snoc (samples : List α) (sample : α) :
    batchSpread (samples ++ [sample]) = batchSpread samples +
      (sample - batchMean samples) * (sample - update (batchMean samples) sample (samples.length + 1)) := by
  have after : ((samples.length + 1 : Nat) : α) ≠ 0 := Nat.cast_ne_zero.mpr (by omega)
  unfold batchSpread
  rw [sum_deviations, sum_deviations, ← batchMean_snoc]
  unfold batchMean
  simp only [List.map_append, List.sum_append, List.map_singleton, List.sum_singleton, List.length_append,
    List.length_singleton]
  by_cases first : samples.length = 0
  · rw [List.length_eq_zero_iff.mp first]
    simp
    ring
  · have before : (samples.length : α) ≠ 0 := Nat.cast_ne_zero.mpr first
    push_cast at after ⊢
    field_simp
    ring

theorem batchSpread_nonneg (samples : List α) : 0 ≤ batchSpread samples := by
  apply List.sum_nonneg
  intro square member
  obtain ⟨sample, -, rfl⟩ := List.mem_map.mp member
  exact sq_nonneg _

end Welford
