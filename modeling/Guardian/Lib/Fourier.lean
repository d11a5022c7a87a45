import Mathlib.Algebra.BigOperators.Intervals
import Mathlib.Algebra.BigOperators.Ring.Finset
import Mathlib.Data.List.Nodup
import Mathlib.Tactic.Ring

namespace Fourier

variable {R : Type*} [CommRing R]

/-- Coefficient `k` of the transform of the first `count` values, at a root. -/
def transform (root : R) (count : ℕ) (values : ℕ → R) (k : ℕ) : R :=
  ∑ n ∈ Finset.range count, values n * root ^ (k * n)

theorem transform_one (root : R) (values : ℕ → R) (k : ℕ) : transform root 1 values k = values 0 := by
  simp [transform]

theorem sum_range_double (count : ℕ) (terms : ℕ → R) : ∑ n ∈ Finset.range (2 * count), terms n =
    ∑ n ∈ Finset.range count, terms (2 * n) + ∑ n ∈ Finset.range count, terms (2 * n + 1) := by
  induction count with
  | zero => simp
  | succ count ih =>
    rw [show 2 * (count + 1) = 2 * count + 1 + 1 by ring, Finset.sum_range_succ, Finset.sum_range_succ, ih,
      Finset.sum_range_succ, Finset.sum_range_succ]
    ring

theorem transform_double (root : R) (count : ℕ) (values : ℕ → R) (k : ℕ) :
    transform root (2 * count) values k = transform (root ^ 2) count (fun n => values (2 * n)) k +
      root ^ k * transform (root ^ 2) count (fun n => values (2 * n + 1)) k := by
  unfold transform
  rw [sum_range_double, Finset.mul_sum]
  congr 1
  · refine Finset.sum_congr rfl fun n _ => ?_
    rw [← pow_mul]
    ring_nf
  · refine Finset.sum_congr rfl fun n _ => ?_
    rw [← pow_mul]
    ring_nf

/-- The second half of the coefficients, where the root to the half is minus one. -/
theorem transform_half {root : R} {count : ℕ} (half : root ^ count = -1) (values : ℕ → R) (k : ℕ) :
    transform root (2 * count) values (k + count) = transform (root ^ 2) count (fun n => values (2 * n)) k -
      root ^ k * transform (root ^ 2) count (fun n => values (2 * n + 1)) k := by
  have whole : (root ^ 2) ^ count = 1 := by
    rw [← pow_mul, Nat.mul_comm, pow_mul, half]
    ring
  have turn (inner : ℕ → R) : transform (root ^ 2) count inner (k + count) = transform (root ^ 2) count inner k := by
    refine Finset.sum_congr rfl fun n _ => ?_
    rw [Nat.add_mul, pow_add, Nat.mul_comm count, Nat.mul_comm n, pow_mul _ count, whole, one_pow, mul_one]
  rw [transform_double, turn, turn, pow_add, half]
  ring

structure Butterfly (R : Type*) where
  even : ℕ
  odd : ℕ
  factor : R

def Butterfly.apply (cells : ℕ → R) (butterfly : Butterfly R) : ℕ → R :=
  let turned := butterfly.factor * cells butterfly.odd
  Function.update (Function.update cells butterfly.even (cells butterfly.even + turned)) butterfly.odd
    (cells butterfly.even - turned)

def touched (butterflies : List (Butterfly R)) : List ℕ :=
  butterflies.flatMap fun butterfly => [butterfly.even, butterfly.odd]

theorem apply_untouched {cells : ℕ → R} {butterfly : Butterfly R} {cell : ℕ} (even : cell ≠ butterfly.even)
    (odd : cell ≠ butterfly.odd) : butterfly.apply cells cell = cells cell := by
  rw [Butterfly.apply, Function.update_of_ne odd, Function.update_of_ne even]

theorem foldl_untouched (cells : ℕ → R) {butterflies : List (Butterfly R)} {cell : ℕ}
    (free : cell ∉ touched butterflies) : butterflies.foldl Butterfly.apply cells cell = cells cell := by
  induction butterflies generalizing cells with
  | nil => rfl
  | cons butterfly rest ih =>
    simp only [touched, List.flatMap_cons, List.mem_append, List.mem_cons, List.not_mem_nil, or_false, not_or] at free
    rw [List.foldl_cons, ih _ free.2, apply_untouched free.1.1 free.1.2]

/-- Butterflies that share no cell each act on the cells as they were. -/
theorem foldl_apply (cells : ℕ → R) {butterflies : List (Butterfly R)} (apart : (touched butterflies).Nodup)
    {butterfly : Butterfly R} (member : butterfly ∈ butterflies) :
    butterflies.foldl Butterfly.apply cells butterfly.even =
        cells butterfly.even + butterfly.factor * cells butterfly.odd ∧
      butterflies.foldl Butterfly.apply cells butterfly.odd =
        cells butterfly.even - butterfly.factor * cells butterfly.odd := by
  induction butterflies generalizing cells with
  | nil => cases member
  | cons first rest ih =>
    have split : touched (first :: rest) = [first.even, first.odd] ++ touched rest := rfl
    rw [split, List.nodup_append] at apart
    obtain ⟨pair, others, disjoint⟩ := apart
    rcases List.mem_cons.mp member with rfl | inside
    · have evenFree : butterfly.even ∉ touched rest := fun other => disjoint _ (by simp) _ other rfl
      have oddFree : butterfly.odd ∉ touched rest := fun other => disjoint _ (by simp) _ other rfl
      have differ : butterfly.even ≠ butterfly.odd := by simpa using pair
      rw [List.foldl_cons, foldl_untouched _ evenFree, foldl_untouched _ oddFree, Butterfly.apply]
      exact ⟨by rw [Function.update_of_ne differ, Function.update_self], Function.update_self ..⟩
    · have later (cell : ℕ) (here : cell = butterfly.even ∨ cell = butterfly.odd) : cell ∈ touched rest :=
        List.mem_flatMap.mpr ⟨butterfly, inside, by simpa using here⟩
      have kept (cell : ℕ) (here : cell = butterfly.even ∨ cell = butterfly.odd) :
          first.apply cells cell = cells cell :=
        apply_untouched (fun same => disjoint _ (by simp) cell (later cell here) same.symm)
          (fun same => disjoint _ (by simp) cell (later cell here) same.symm)
      have done := ih (first.apply cells) others inside
      rwa [kept _ (.inl rfl), kept _ (.inr rfl)] at done

end Fourier
