import Guardian.Lib.Word
import Mathlib.Data.Nat.Digits.Defs
import Mathlib.Tactic.Ring

namespace Guardian.LittleEndian

open Word

def number (bytes : List U8) : ℕ := Nat.ofDigits 256 (bytes.map BitVec.toNat)

@[simp] theorem number_nil : number [] = 0 := rfl

@[simp] theorem number_cons (byte : U8) (bytes : List U8) :
    number (byte :: bytes) = byte.toNat + 256 * number bytes := by
  simp [number, Nat.ofDigits_cons]

theorem number_append (left right : List U8) : number (left ++ right) = number left + 256 ^ left.length * number right := by
  simp [number, Nat.ofDigits_append]

theorem number_lt (bytes : List U8) : number bytes < 256 ^ bytes.length := by
  induction bytes with
  | nil => simp
  | cons byte bytes ih =>
    have small := byte.isLt
    rw [number_cons, List.length_cons, pow_succ]
    omega

/-- Two words joined: the bits of the higher one that leave the word are lost. -/
theorem toNat_or_shift {width count : ℕ} (low high : BitVec width) (below : low.toNat < 2 ^ count)
    (inside : count ≤ width) :
    (low ||| high <<< count).toNat = low.toNat + high.toNat % 2 ^ (width - count) * 2 ^ count := by
  have shifted : (high <<< count).toNat = (high.toNat % 2 ^ (width - count)) <<< count := by
    rw [BitVec.toNat_shiftLeft, Nat.shiftLeft_eq, Nat.shiftLeft_eq, Nat.mul_comm, Nat.mul_comm _ (2 ^ count),
      ← Nat.mul_mod_mul_left, ← pow_add, Nat.add_sub_cancel' inside]
  rw [BitVec.toNat_or, shifted, Nat.or_comm, ← Nat.shiftLeft_add_eq_or_of_lt below, Nat.add_comm, Nat.shiftLeft_eq]

def load24Le : List U8 → U32
  | b0 :: b1 :: b2 :: _ => b0.setWidth 32 ||| (b1.setWidth 32 <<< 8) ||| (b2.setWidth 32 <<< 16)
  | _ => 0

theorem load24Le_number (bytes : List U8) (enough : 3 ≤ bytes.length) :
    (load24Le bytes).toNat = number (bytes.take 3) := by
  rcases bytes with _ | ⟨b0, _ | ⟨b1, _ | ⟨b2, bytes⟩⟩⟩ <;> simp at enough
  have l0 := b0.isLt
  have l1 := b1.isLt
  have l2 := b2.isLt
  have wide (byte : U8) : (byte.setWidth 32).toNat = byte.toNat := by simp; omega
  have first := @toNat_or_shift 32 8 (b0.setWidth 32) (b1.setWidth 32) (by rw [wide]; omega) (by omega)
  rw [wide, wide] at first
  rw [load24Le, toNat_or_shift _ _ (by rw [first]; omega) (by omega), first, wide]
  simp only [List.take_succ_cons, List.take_zero, number_cons, number_nil]
  omega

theorem getU32Le_number (bytes : List U8) (enough : 4 ≤ bytes.length) :
    (getU32Le bytes).toNat = number (bytes.take 4) := by
  rcases bytes with _ | ⟨b0, _ | ⟨b1, _ | ⟨b2, _ | ⟨b3, bytes⟩⟩⟩⟩ <;> simp at enough
  have low := load24Le_number [b0, b1, b2] (by simp)
  have small := number_lt [b0, b1, b2]
  have l3 := b3.isLt
  have wide : (b3.setWidth 32).toNat = b3.toNat := by simp; omega
  have step := @toNat_or_shift 32 24 (load24Le [b0, b1, b2]) (b3.setWidth 32)
    (by rw [low]; exact lt_of_lt_of_le small (by norm_num)) (by omega)
  rw [getU32Le]
  simp only [load24Le] at step low
  rw [step, low, wide]
  simp only [List.take_succ_cons, List.take_zero, number_cons, number_nil]
  omega

theorem putU32Le_number (value : U32) : number (putU32Le value) = value.toNat := by
  have same := getU32Le_number (putU32Le value) (by simp)
  have back := getU32Le_put value []
  rw [List.append_nil] at back
  rw [back] at same
  exact same.symm

end Guardian.LittleEndian
