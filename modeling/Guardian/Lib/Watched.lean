import Mathlib.Algebra.Order.Group.Unbundled.Int
import Mathlib.Data.Int.Notation
import Mathlib.Order.Basic
import Mathlib.Tactic.NormNum

/-- A value as the machine computes it, and whether no operation on the way changed what it stands for. -/
structure Watched (α : Type) where
  value : α
  exact : Bool
  deriving DecidableEq, Repr

namespace Watched

variable {α β σ : Type}

instance : Monad Watched where
  pure value := ⟨value, true⟩
  bind watched follows := ⟨(follows watched.value).value, watched.exact && (follows watched.value).exact⟩

def unsigned (bits : ℕ) (result : ℤ) : Watched ℕ := ⟨(result % 2 ^ bits).toNat, decide (0 ≤ result ∧ result < 2 ^ bits)⟩

def signed (bits : ℕ) (result : ℤ) : Watched ℤ :=
  ⟨result.bmod (2 ^ bits), decide (-2 ^ (bits - 1) ≤ result ∧ result < 2 ^ (bits - 1))⟩

theorem start (value : α) (follows : α → Watched β) : (pure value >>= follows) = follows value :=
  congrArg (Watched.mk _) (Bool.true_and _)

instance : LawfulMonad Watched :=
  LawfulMonad.mk' Watched (fun watched => congrArg (Watched.mk _) (Bool.and_true _)) start
    fun _ _ _ => congrArg (Watched.mk _) (Bool.and_assoc _ _ _)

theorem bind_value (watched : Watched α) (follows : α → Watched β) :
    (watched >>= follows).value = (follows watched.value).value := rfl

theorem unsigned_fits {bits : ℕ} {result : ℤ} {value : ℕ} (same : result = value) (fits : value < 2 ^ bits) :
    unsigned bits result = pure value := by
  have small : (value : ℤ) < 2 ^ bits := by exact_mod_cast fits
  subst same
  unfold unsigned
  rw [Int.emod_eq_of_lt (Int.natCast_nonneg _) small, decide_eq_true ⟨Int.natCast_nonneg _, small⟩, Int.toNat_natCast]
  rfl

theorem signed_fits {bits : ℕ} {result : ℤ} (low : -2 ^ bits ≤ result) (high : result < 2 ^ bits) :
    signed (bits + 1) result = pure result := by
  have double : (2 : ℤ) ^ (bits + 1) = 2 * 2 ^ bits := by rw [pow_succ, mul_comm]
  have kept : result.bmod (2 ^ (bits + 1)) = result := by
    apply Int.bmod_eq_of_le
    · push_cast
      omega
    · push_cast
      omega
  unfold signed
  rw [kept, Nat.add_sub_cancel, decide_eq_true ⟨low, high⟩]
  rfl

theorem unsigned_bind_exact {bits : ℕ} {result : ℤ} (follows : ℕ → Watched β) :
    (unsigned bits result >>= follows).exact = true ↔
      (0 ≤ result ∧ result < 2 ^ bits) ∧ (follows result.toNat).exact = true := by
  change (_ && _) = true ↔ _
  rw [Bool.and_eq_true, unsigned, decide_eq_true_eq]
  apply and_congr_right
  rintro ⟨low, high⟩
  rw [Int.emod_eq_of_lt low high]

theorem signed_bind_exact {bits : ℕ} {result : ℤ} (follows : ℤ → Watched β) :
    (signed (bits + 1) result >>= follows).exact = true ↔
      (-2 ^ bits ≤ result ∧ result < 2 ^ bits) ∧ (follows result).exact = true := by
  by_cases fits : -2 ^ bits ≤ result ∧ result < 2 ^ bits
  · rw [signed_fits fits.1 fits.2, pure_bind]
    exact (and_iff_right fits).symm
  · have inexact : (signed (bits + 1) result).exact = false := by
      rw [signed, Nat.add_sub_cancel]
      exact decide_eq_false fits
    change (_ && _) = true ↔ _
    simp [inexact, fits]

theorem eq_pure [DecidableEq α] {watched : Watched α} {value : α}
    (known : (watched >>= fun got => (⟨(), decide (got = value)⟩ : Watched Unit)).exact = true) : watched = pure value := by
  change (_ && _) = true at known
  rw [Bool.and_eq_true, decide_eq_true_eq] at known
  obtain ⟨exact, same⟩ := known
  cases watched with
  | mk got flag =>
    cases exact
    cases same
    rfl

/-- A loop of the given number of turns, followed through the states that it is in. -/
theorem foldlM_range {step : σ → ℕ → Watched σ} (state : ℕ → σ) {turns : ℕ}
    (turn : ∀ index < turns, step (state index) index = pure (state (index + 1))) :
    (List.range turns).foldlM step (state 0) = pure (state turns) := by
  induction turns with
  | zero => rfl
  | succ turns ih =>
    have done := ih fun index before => turn index (by omega)
    rw [List.range_succ, List.foldlM_append, done, pure_bind, List.foldlM_cons, turn turns (Nat.lt_succ_self turns),
      pure_bind, List.foldlM_nil]

end Watched
