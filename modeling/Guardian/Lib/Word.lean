import Mathlib.Algebra.GroupWithZero.Nat
import Mathlib.Data.List.Basic
import Mathlib.Tactic.SplitIfs
import Mathlib.Data.Nat.Bitwise

namespace Word

abbrev U8 := BitVec 8
abbrev U16 := BitVec 16
abbrev U32 := BitVec 32
abbrev U64 := BitVec 64

abbrev Bytes (size : Nat) := { cells : List U8 // cells.length = size }

/-- The first `size` bytes, and zeros after the last of them. -/
def padded (size : Nat) (bytes : List U8) : Bytes size :=
  ⟨(bytes ++ List.replicate size 0).take size, by simp⟩

theorem padded_self {size : Nat} (bytes : Bytes size) (rest : List U8) : padded size (bytes.1 ++ rest) = bytes := by
  apply Subtype.ext
  change ((bytes.1 ++ rest) ++ List.replicate size 0).take size = bytes.1
  rw [List.append_assoc]
  exact List.take_left' bytes.2

theorem padded_short {size : Nat} {bytes : List U8} (short : bytes.length ≤ size) :
    (padded size bytes).1 = bytes ++ List.replicate (size - bytes.length) 0 := by
  unfold padded
  dsimp only
  rw [List.take_append, List.take_of_length_le short, List.take_replicate]
  congr 2
  omega

def putU16Be (value : U16) : List U8 := [(value >>> 8).setWidth 8, value.setWidth 8]

def putU32Be (value : U32) : List U8 :=
  [(value >>> 24).setWidth 8, (value >>> 16).setWidth 8, (value >>> 8).setWidth 8, value.setWidth 8]

def putU64Be (value : U64) : List U8 := putU32Be ((value >>> 32).setWidth 32) ++ putU32Be (value.setWidth 32)

def putU32Le (value : U32) : List U8 :=
  [value.setWidth 8, (value >>> 8).setWidth 8, (value >>> 16).setWidth 8, (value >>> 24).setWidth 8]

def putU64Le (value : U64) : List U8 := putU32Le (value.setWidth 32) ++ putU32Le ((value >>> 32).setWidth 32)

def getU16Be : List U8 → U16
  | high :: low :: _ => (high.setWidth 16 <<< 8) ||| low.setWidth 16
  | _ => 0

def getU32Be : List U8 → U32
  | b3 :: b2 :: b1 :: b0 :: _ =>
    (b3.setWidth 32 <<< 24) ||| (b2.setWidth 32 <<< 16) ||| (b1.setWidth 32 <<< 8) ||| b0.setWidth 32
  | _ => 0

def getU64Be (bytes : List U8) : U64 :=
  ((getU32Be bytes).setWidth 64 <<< 32) ||| (getU32Be (bytes.drop 4)).setWidth 64

def getU32Le : List U8 → U32
  | b0 :: b1 :: b2 :: b3 :: _ =>
    b0.setWidth 32 ||| (b1.setWidth 32 <<< 8) ||| (b2.setWidth 32 <<< 16) ||| (b3.setWidth 32 <<< 24)
  | _ => 0

def getU64Le (bytes : List U8) : U64 :=
  (getU32Le bytes).setWidth 64 ||| ((getU32Le (bytes.drop 4)).setWidth 64 <<< 32)

@[simp] theorem putU16Be_length (value : U16) : (putU16Be value).length = 2 := rfl
@[simp] theorem putU32Be_length (value : U32) : (putU32Be value).length = 4 := rfl
@[simp] theorem putU64Be_length (value : U64) : (putU64Be value).length = 8 := rfl
@[simp] theorem putU32Le_length (value : U32) : (putU32Le value).length = 4 := rfl

@[simp] theorem getU16Be_put (value : U16) (rest : List U8) : getU16Be (putU16Be value ++ rest) = value := by
  simp only [putU16Be, getU16Be, List.cons_append]
  ext i bound
  by_cases low : i < 8
  · simp [low, BitVec.getLsbD_eq_getElem bound]
  · simp [low, show i - 8 < 8 by omega, show 8 + (i - 8) = i by omega, BitVec.getLsbD_eq_getElem bound]

theorem bytes_join (value : U32) :
    (((value >>> 24).setWidth 8).setWidth 32 <<< 24) ||| (((value >>> 16).setWidth 8).setWidth 32 <<< 16) |||
      (((value >>> 8).setWidth 8).setWidth 32 <<< 8) ||| (value.setWidth 8).setWidth 32 = value := by
  ext i bound
  have same := BitVec.getLsbD_eq_getElem (x := value) bound
  by_cases b0 : i < 8
  · simp [b0, show i < 16 by omega, show i < 24 by omega, same]
  · by_cases b1 : i < 16
    · simp [b0, b1, show i < 24 by omega, show i - 8 < 8 by omega, show 8 + (i - 8) = i by omega, same]
    · by_cases b2 : i < 24
      · simp [b0, b1, b2, show ¬ i - 8 < 8 by omega, show i - 16 < 8 by omega,
          show 16 + (i - 16) = i by omega, same]
      · simp [b0, b1, b2, show ¬ i - 8 < 8 by omega, show ¬ i - 16 < 8 by omega,
          show i - 24 < 8 by omega, show 24 + (i - 24) = i by omega, same]

theorem or_reverse (a b c d : U32) : a ||| b ||| c ||| d = d ||| c ||| b ||| a := by ac_rfl

@[simp] theorem getU32Be_put (value : U32) (rest : List U8) : getU32Be (putU32Be value ++ rest) = value := by
  simp only [putU32Be, getU32Be, List.cons_append]
  exact bytes_join value

@[simp] theorem getU64Be_put (value : U64) (rest : List U8) : getU64Be (putU64Be value ++ rest) = value := by
  have high : getU32Be (putU64Be value ++ rest) = (value >>> 32).setWidth 32 := by
    rw [putU64Be, List.append_assoc, getU32Be_put]
  have low : getU32Be ((putU64Be value ++ rest).drop 4) = value.setWidth 32 := by
    rw [putU64Be, List.append_assoc, List.drop_left' (putU32Be_length _), getU32Be_put]
  rw [getU64Be, high, low]
  ext i bound
  have same := BitVec.getLsbD_eq_getElem (x := value) bound
  by_cases lower : i < 32
  · simp [lower, same]
  · simp [lower, show i - 32 < 32 by omega, show 32 + (i - 32) = i by omega, same]

@[simp] theorem getU32Le_put (value : U32) (rest : List U8) : getU32Le (putU32Le value ++ rest) = value := by
  simp only [putU32Le, getU32Le, List.cons_append]
  refine Eq.trans ?_ (bytes_join value)
  exact or_reverse _ _ _ _

theorem putU16Be_get (high low : U8) (rest : List U8) : putU16Be (getU16Be (high :: low :: rest)) = [high, low] := by
  simp only [putU16Be, getU16Be, List.cons.injEq, and_true]
  constructor
  · ext i bound
    have same := BitVec.getLsbD_eq_getElem (x := high) bound
    simp [show ¬ 8 + i < 8 by omega, show 8 + i < 16 by omega, same]
  · ext i bound
    simp

theorem putU32Be_get (b0 b1 b2 b3 : U8) (rest : List U8) :
    putU32Be (getU32Be (b0 :: b1 :: b2 :: b3 :: rest)) = [b0, b1, b2, b3] := by
  simp only [putU32Be, getU32Be, List.cons.injEq, and_true]
  refine ⟨?_, ?_, ?_, ?_⟩
  · ext i bound
    simp [show ¬ 24 + i < 16 by omega, show ¬ 24 + i < 24 by omega, show 24 + i < 32 by omega,
      BitVec.getLsbD_of_ge b1 (24 + i - 16) (by omega), BitVec.getLsbD_of_ge b2 (24 + i - 8) (by omega),
      BitVec.getLsbD_of_ge b3 (24 + i) (by omega), BitVec.getLsbD_eq_getElem bound]
  · ext i bound
    simp [show 16 + i < 24 by omega, show ¬ 16 + i < 16 by omega, show 16 + i < 32 by omega,
      BitVec.getLsbD_of_ge b2 (16 + i - 8) (by omega), BitVec.getLsbD_of_ge b3 (16 + i) (by omega),
      BitVec.getLsbD_eq_getElem bound]
  · ext i bound
    simp [show ¬ 8 + i < 8 by omega, show 8 + i < 24 by omega, show 8 + i < 16 by omega, show 8 + i < 32 by omega,
      show i < 32 by omega, BitVec.getLsbD_eq_getElem bound]
  · ext i bound
    simp

variable {width : Nat}

theorem toNat_ne_zero (word : BitVec width) : word.toNat ≠ 0 ↔ word ≠ 0 := by
  rw [ne_eq, ne_eq, ← BitVec.toNat_inj]
  simp only [BitVec.ofNat_eq_ofNat, BitVec.toNat_zero]

/-- A counter that stops at the largest word, and its unbounded counterpart. -/
theorem saturate_toNat (positive : 0 < width) (value : BitVec width) :
    (if value ≠ BitVec.allOnes width then value + 1 else value).toNat = min (2 ^ width - 1) (value.toNat + 1) := by
  have bound := value.isLt
  have wide : 1 < 2 ^ width := Nat.one_lt_two_pow (by omega)
  by_cases last : value = BitVec.allOnes width
  · rw [if_neg (not_not.mpr last), last, BitVec.toNat_allOnes]
    omega
  · have below : value.toNat ≠ 2 ^ width - 1 := fun same => last (BitVec.eq_of_toNat_eq (by rw [same, BitVec.toNat_allOnes]))
    rw [if_pos last, BitVec.toNat_add, BitVec.ofNat_eq_ofNat, BitVec.toNat_ofNat, Nat.mod_eq_of_lt wide,
      Nat.mod_eq_of_lt (by omega)]
    omega

theorem ldiff_toNat (word mask : BitVec width) : (word &&& ~~~mask).toNat = Nat.ldiff word.toNat mask.toNat := by
  apply Nat.eq_of_testBit_eq
  intro index
  rw [Nat.testBit_ldiff, BitVec.toNat_and, Nat.testBit_and, BitVec.testBit_toNat, BitVec.testBit_toNat,
    BitVec.testBit_toNat, BitVec.getLsbD_not]
  by_cases inside : index < width
  · simp [inside]
  · simp [inside, BitVec.getLsbD_of_ge _ _ (Nat.not_lt.mp inside)]

theorem toNat_and_mask (word : BitVec width) : word.toNat &&& (2 ^ width - 1) = word.toNat := by
  rw [Nat.and_two_pow_sub_one_eq_mod, Nat.mod_eq_of_lt word.isLt]

end Word
