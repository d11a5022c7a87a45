import Mathlib.Data.List.GetD
import Mathlib.Logic.Function.Iterate

namespace ShiftRegister

variable {width : Nat} (poly : BitVec width)

def step (x : BitVec width) : BitVec width := if x.getLsbD 0 then (x >>> 1) ^^^ poly else x >>> 1

theorem step_getLsbD (x : BitVec width) (i : Nat) :
    (step poly x).getLsbD i = (x.getLsbD (i + 1) ^^ (x.getLsbD 0 && poly.getLsbD i)) := by
  cases low : x.getLsbD 0 <;> simp [step, low, Nat.add_comm]

theorem step_xor (x y : BitVec width) : step poly (x ^^^ y) = step poly x ^^^ step poly y := by
  apply BitVec.eq_of_getLsbD_eq
  intro i _
  simp only [BitVec.getLsbD_xor, step_getLsbD]
  cases x.getLsbD (i + 1) <;> cases y.getLsbD (i + 1) <;> cases x.getLsbD 0 <;> cases y.getLsbD 0 <;> simp

theorem step_injective (top : poly.getLsbD (width - 1) = true) : Function.Injective (step poly) := by
  intro x y same
  have bits (i : Nat) : (step poly x).getLsbD i = (step poly y).getLsbD i := by rw [same]
  have low : x.getLsbD 0 = y.getLsbD 0 := by
    by_cases some : width = 0
    · rw [BitVec.getLsbD_of_ge x 0 (by omega), BitVec.getLsbD_of_ge y 0 (by omega)]
    · have last := bits (width - 1)
      simpa [step_getLsbD, top, show width - 1 + 1 = width by omega] using last
  apply BitVec.eq_of_getLsbD_eq
  intro i _
  cases i with
  | zero => exact low
  | succ i => simpa [step_getLsbD, low] using bits i

theorem iterate_xor (count : Nat) (x y : BitVec width) :
    (step poly)^[count] (x ^^^ y) = (step poly)^[count] x ^^^ (step poly)^[count] y := by
  induction count generalizing x y with
  | zero => rfl
  | succ count ih => simp only [Function.iterate_succ_apply, step_xor, ih]

theorem step_shift {x : BitVec width} (clear : x.getLsbD (width - 1) = false) : step poly (x <<< 1) = x := by
  have low : (x <<< 1).getLsbD 0 = false := by simp
  apply BitVec.eq_of_getLsbD_eq
  intro i bound
  rw [step_getLsbD, low, Bool.false_and, Bool.xor_false, BitVec.getLsbD_shiftLeft, Nat.add_sub_cancel]
  by_cases last : i + 1 < width
  · simp [last]
  · have position : i = width - 1 := by omega
    rw [position, clear, Bool.and_false]

theorem iterate_shift {x : BitVec width} {count : Nat} (clear : ∀ i, width ≤ i + count → x.getLsbD i = false) :
    (step poly)^[count] (x <<< count) = x := by
  induction count with
  | zero => simp
  | succ count ih =>
    have top : (x <<< count).getLsbD (width - 1) = false := by
      rw [BitVec.getLsbD_shiftLeft]
      by_cases short : width - 1 < count
      · simp [short]
      · rw [clear (width - 1 - count) (by omega), Bool.and_false]
    rw [Function.iterate_succ_apply, BitVec.shiftLeft_add, step_shift poly top]
    exact ih fun i above => clear i (by omega)

def absorb (register : BitVec width) (byte : BitVec 8) : BitVec width :=
  (step poly)^[8] (register ^^^ byte.setWidth width)

theorem absorb_injective (top : poly.getLsbD (width - 1) = true) (byte : BitVec 8) :
    Function.Injective fun register => absorb poly register byte := by
  intro left right same
  have mixed := (step_injective poly top).iterate 8 same
  exact (BitVec.xor_left_inj _).mp mixed

theorem foldl_absorb_injective (top : poly.getLsbD (width - 1) = true) (message : List (BitVec 8)) :
    Function.Injective fun register => message.foldl (absorb poly) register := by
  induction message with
  | nil => exact Function.injective_id
  | cons byte message ih => exact ih.comp (absorb_injective poly top byte)

/-- The bytes of a message that fits the register, the first one lowest. -/
def packed : List (BitVec 8) → BitVec width
  | [] => 0
  | byte :: message => byte.setWidth width ^^^ (packed message <<< 8)

theorem packed_getLsbD (message : List (BitVec 8)) (i : Nat) :
    (packed message : BitVec width).getLsbD i = (decide (i < width) && (message.getD (i / 8) 0).getLsbD (i % 8)) := by
  induction message generalizing i with
  | nil => simp [packed]
  | cons byte message ih =>
    by_cases low : i < 8
    · simp only [packed, BitVec.getLsbD_xor, BitVec.getLsbD_setWidth, BitVec.getLsbD_shiftLeft, low,
        Nat.div_eq_of_lt low, Nat.mod_eq_of_lt low, List.getD_cons_zero]
      simp
    · have next : i / 8 = (i - 8) / 8 + 1 := by omega
      have within : (i - 8) % 8 = i % 8 := by omega
      simp only [packed, BitVec.getLsbD_xor, BitVec.getLsbD_setWidth, BitVec.getLsbD_shiftLeft, low, ih, next, within,
        List.getD_cons_succ, BitVec.getLsbD_of_ge byte i (by omega)]
      by_cases bound : i < width
      · simp [bound, show i - 8 < width by omega]
      · simp [bound]

theorem packed_injective {left right : List (BitVec 8)} (same : left.length = right.length)
    (fits : 8 * left.length ≤ width) (equal : (packed left : BitVec width) = packed right) : left = right := by
  apply List.ext_getElem same
  intro j inLeft inRight
  apply BitVec.eq_of_getLsbD_eq
  intro i bound
  have bit : (packed left : BitVec width).getLsbD (8 * j + i) = (packed right : BitVec width).getLsbD (8 * j + i) := by
    rw [equal]
  have place : (8 * j + i) / 8 = j := by omega
  have rest : (8 * j + i) % 8 = i := by omega
  rw [packed_getLsbD, packed_getLsbD, place, rest, List.getD_eq_getElem _ _ inLeft, List.getD_eq_getElem _ _ inRight]
    at bit
  simpa [show 8 * j + i < width by omega] using bit

theorem foldl_absorb {message : List (BitVec 8)} (fits : 8 * message.length ≤ width) (register : BitVec width) :
    message.foldl (absorb poly) register = (step poly)^[8 * message.length] (register ^^^ packed message) := by
  induction message generalizing register with
  | nil => simp [packed]
  | cons byte message ih =>
    rw [List.length_cons] at fits ⊢
    have clear : ∀ i, width ≤ i + 8 → (packed message : BitVec width).getLsbD i = false := by
      intro i above
      rw [packed_getLsbD, List.getD_eq_default _ _ (by omega)]
      simp
    rw [List.foldl_cons, ih (by omega), absorb, packed, Nat.mul_succ, Function.iterate_add_apply, ← BitVec.xor_assoc,
      iterate_xor poly 8 _ (packed message <<< 8), iterate_shift poly clear]

/-- Two messages of one length that fit the register are told apart. -/
theorem foldl_absorb_separates (top : poly.getLsbD (width - 1) = true) {left right : List (BitVec 8)}
    (same : left.length = right.length) (fits : 8 * left.length ≤ width) (register : BitVec width)
    (equal : left.foldl (absorb poly) register = right.foldl (absorb poly) register) : left = right := by
  rw [foldl_absorb poly fits, foldl_absorb poly (same ▸ fits), ← same] at equal
  have mixed := (step_injective poly top).iterate _ equal
  exact packed_injective same fits ((BitVec.xor_right_inj _).mp mixed)

end ShiftRegister
