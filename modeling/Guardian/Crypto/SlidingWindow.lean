import Guardian.Lib.LittleEndian
import Mathlib.Data.Int.Interval
import Mathlib.Order.Interval.Finset.Nat
import Mathlib.Tactic.IntervalCases
import Mathlib.Tactic.LinearCombination

namespace Guardian.Crypto

open Word LittleEndian

def scalarBit (s : List U8) (i : ℤ) : ℤ :=
  if i < 0 then 0 else ((s.getD (i.toNat >>> 3) 0 >>> (i.toNat &&& 7)) &&& 1).toNat

structure SlideCtx where
  nextIndex : ℤ
  nextDigit : ℤ
  nextCheck : ℕ
deriving DecidableEq

def slideStart (scalar : List U8) : ℕ → ℕ
  | 0 => 0
  | i + 1 => if scalarBit scalar (i + 1) = 0 then slideStart scalar i else i + 1

def slideInit (scalar : List U8) : SlideCtx := ⟨-1, -1, (slideStart scalar 252 + 1) % 256⟩

/-- The bits of the window as a signed number, carried up from the bit below them. -/
def slideWindow (scalar : List U8) (w i : ℕ) : ℤ :=
  let v := -(scalarBit scalar i * 2 ^ (w - 1))
  let v := (List.range (w - 1)).foldl (fun v (j : ℕ) => v + scalarBit scalar (i - (w - 1) + j) * 2 ^ j) v
  v + scalarBit scalar (i - w)

/-- The position of the lowest bit, as far as a window can reach. -/
def lowestBit (v : ℤ) : ℕ :=
  let lsb : U32 := BitVec.ofInt 32 v &&& (~~~BitVec.ofInt 32 v + 1)
  (lsb &&& 0xAA != 0).toNat ||| ((lsb &&& 0xCC != 0).toNat <<< 1) ||| ((lsb &&& 0xF0 != 0).toNat <<< 2)

def slideCheck (ctx : SlideCtx) (width i : ℕ) (scalar : List U8) : SlideCtx :=
  if i = ctx.nextCheck then
    if scalarBit scalar i = scalarBit scalar (i - 1) then { ctx with nextCheck := (ctx.nextCheck + 255) % 256 }
    else
      let w := min width (i + 1)
      let v := slideWindow scalar w i
      let s := lowestBit v
      { nextIndex := (i - (w - 1) + s : ℤ).bmod (2 ^ 16)
        nextDigit := (v / 2 ^ s).bmod (2 ^ 8)
        nextCheck := (ctx.nextCheck + 256 - w) % 256 }
  else ctx

def slideStep (ctx : SlideCtx) (width i : ℕ) (scalar : List U8) : SlideCtx × ℤ :=
  let ctx := slideCheck ctx width i scalar
  (ctx, if i = ctx.nextIndex then ctx.nextDigit else 0)

/-- The bit below a place; there is none below the first. -/
theorem scalarBit_below (s : List U8) (place : ℕ) : scalarBit s (place - 1) = (2 * number s / 2 ^ place % 2 : ℕ) := by
  rcases place with _ | place
  · simp [scalarBit]
  · rw [show ((place + 1 : ℕ) : ℤ) - 1 = place by push_cast; ring, scalarBit, if_neg (by omega), Int.toNat_natCast,
      Nat.shiftRight_eq_div_pow, show place &&& 7 = place % 8 from Nat.and_two_pow_sub_one_eq_mod place 3,
      pow_succ' 2 place, Nat.mul_div_mul_left _ _ two_pos]
    norm_cast
    have unit : (1 : U8).toNat = 2 ^ 1 - 1 := rfl
    rw [BitVec.toNat_and, unit, Nat.and_two_pow_sub_one_eq_mod, BitVec.toNat_ushiftRight, Nat.shiftRight_eq_div_pow]
    have pieces : 2 ^ place = 256 ^ (place / 2 ^ 3) * 2 ^ (place % 8) := by
      rw [show 256 = 2 ^ 8 by rfl, ← pow_mul, ← pow_add]
      congr 1
      omega
    have reach : number s / 256 ^ (place / 2 ^ 3) % 256 = (s.getD (place / 2 ^ 3) 0).toNat := by
      generalize place / 2 ^ 3 = index
      induction s generalizing index with
      | nil => simp
      | cons byte s ih =>
        have small := byte.isLt
        rcases index with _ | index
        · simp [Nat.mod_eq_of_lt small]
        · rw [number_cons, pow_succ', ← Nat.div_div_eq_div_mul, List.getD_cons_succ, ← ih]
          congr 2
          omega
    rw [pieces, ← Nat.div_div_eq_div_mul, ← reach]
    generalize number s / 256 ^ (place / 2 ^ 3) = rest
    have low := Nat.mod_lt place (show 0 < 8 by norm_num)
    interval_cases place % 8 <;> omega

def rounded (n place : ℕ) : ℕ := (2 * n / 2 ^ place + 1) / 2

/-- A window is what rounding to its end gains over rounding to its start. -/
theorem slideWindow_eq {s : List U8} {w low i : ℕ} (size : low + w = i + 1) (few : 1 ≤ w ∧ w ≤ 5) :
    slideWindow s w i = rounded (number s) low - 2 ^ w * rounded (number s) (i + 1) ∧
      -2 ^ (w - 1) ≤ slideWindow s w i ∧ slideWindow s w i ≤ 2 ^ (w - 1) ∧
      (scalarBit s i ≠ scalarBit s (i - 1) → slideWindow s w i ≠ 0) := by
  have bits (count : ℕ) : scalarBit s (low + count - 1 : ℤ) = (2 * number s / 2 ^ low / 2 ^ count % 2 : ℕ) := by
    rw [Nat.div_div_eq_div_mul, ← pow_add, ← scalarBit_below]
    push_cast
    rfl
  have top : (i : ℤ) = low + w - 1 := by omega
  have last : (w : ℤ) - 1 = (w - 1 : ℕ) := by omega
  have next := bits (w - 1)
  rw [← last, show (low : ℤ) + (w - 1) - 1 = i - 1 by omega] at next
  simp only [slideWindow, rounded, ← size, pow_add, ← Nat.div_div_eq_div_mul]
  rw [next, show (i : ℤ) - w = low + (0 : ℕ) - 1 by omega, bits, top, bits]
  generalize 2 * number s / 2 ^ low = units at *
  have inner (start : ℤ) (count : ℕ) : (List.range count).foldl
      (fun v (j : ℕ) => v + scalarBit s (low + w - 1 - (w - 1) + j) * 2 ^ j) start =
      start + (units / 2 % 2 ^ count : ℕ) := by
    induction count with
    | zero => simp [Nat.mod_one]
    | succ count ih =>
      rw [List.range_succ, List.foldl_append, ih, Nat.mod_pow_succ, Nat.div_div_eq_div_mul, ← pow_succ']
      have bit := bits (count + 1)
      rw [show (low : ℤ) + (count + 1 : ℕ) - 1 = low + w - 1 - (w - 1) + count by push_cast; ring] at bit
      simp only [List.foldl_cons, List.foldl_nil, bit]
      push_cast
      ring
  rw [inner]
  clear inner bits
  rcases few with ⟨some, five⟩
  interval_cases w <;> norm_num <;> omega

/-- A digit that a table of odd multiples for windows of `width` bits has. -/
def Digit (width : ℕ) (digit : ℤ) : Prop := digit % 2 = 1 ∧ -2 ^ (width - 1) < digit ∧ digit < 2 ^ (width - 1)

theorem lowestBit_spec {v : ℤ} {w width : ℕ} (nonzero : v ≠ 0) (low : -2 ^ (w - 1) ≤ v) (high : v ≤ 2 ^ (w - 1))
    (some : 1 ≤ w) (inside : w ≤ width) (wide : 2 ≤ width) (few : width ≤ 5) :
    v / 2 ^ lowestBit v * 2 ^ lowestBit v = v ∧ lowestBit v < w ∧ Digit width (v / 2 ^ lowestBit v) := by
  have reach : (2 : ℤ) ^ (w - 1) ≤ 2 ^ 4 := pow_le_pow_right₀ (by norm_num) (by omega)
  have all : ∀ v ∈ Finset.Icc (-16 : ℤ) 16, ∀ w ∈ Finset.Icc 1 5, ∀ width ∈ Finset.Icc 2 5, v ≠ 0 → -2 ^ (w - 1) ≤ v →
      v ≤ 2 ^ (w - 1) → w ≤ width → v / 2 ^ lowestBit v * 2 ^ lowestBit v = v ∧ lowestBit v < w ∧
      v / 2 ^ lowestBit v % 2 = 1 ∧ -2 ^ (width - 1) < v / 2 ^ lowestBit v ∧ v / 2 ^ lowestBit v < 2 ^ (width - 1) := by
    decide +kernel
  exact all v (Finset.mem_Icc.mpr ⟨by omega, by omega⟩) w (Finset.mem_Icc.mpr ⟨some, by omega⟩) width
    (Finset.mem_Icc.mpr ⟨wide, few⟩) nonzero low high inside

/-- What the recoding of a scalar keeps above `left` places. The places from `free` up are in a window: their digits have
been taken, or the lowest one waits for its place. -/
structure Sliding (scalar : List U8) (width : ℕ) (ctx : SlideCtx) (left free : ℕ) (taken : ℤ) : Prop where
  inside : free ≤ left
  small : free ≤ 254
  check : ctx.nextCheck = (free + 255) % 256
  digits : (ctx.nextIndex < 0 ∨ left ≤ ctx.nextIndex) ∧ taken * 2 ^ left = 2 ^ free * rounded (number scalar) free ∨
    ∃ place : ℕ, free ≤ place ∧ place < left ∧ ctx.nextIndex = place ∧ Digit width ctx.nextDigit ∧
      taken * 2 ^ left + ctx.nextDigit * 2 ^ place = 2 ^ free * rounded (number scalar) free

variable {scalar : List U8} {width i free : ℕ} {ctx : SlideCtx} {taken : ℤ}

/-- The check of a place puts it in a window. -/
theorem Sliding.checked (wide : 2 ≤ width) (few : width ≤ 5) (below : i ≤ 253)
    (sliding : Sliding scalar width ctx (i + 1) free taken) :
    ∃ free ≤ i, Sliding scalar width (slideCheck ctx width i scalar) (i + 1) free taken := by
  rcases sliding with ⟨inside, small, check, digits⟩
  rw [slideCheck]
  split
  · rename_i here
    obtain rfl : free = i + 1 := by omega
    have done : (ctx.nextIndex < 0 ∨ (i + 1 : ℕ) ≤ ctx.nextIndex) ∧ taken = rounded (number scalar) (i + 1) := by
      rcases digits with ⟨idle, value⟩ | ⟨place, above, under, -⟩
      · rw [mul_comm] at value
        exact ⟨idle, mul_left_cancel₀ (by positivity) value⟩
      · omega
    rcases done with ⟨idle, value⟩
    split
    · rename_i same
      refine ⟨i, le_rfl, by omega, by omega, by simp only; omega, .inl ⟨idle, ?_⟩⟩
      have step : rounded (number scalar) i = 2 * rounded (number scalar) (i + 1) := by
        have current := scalarBit_below scalar (i + 1)
        rw [Nat.cast_succ, add_sub_cancel_right, same, scalarBit_below, Nat.cast_inj, pow_succ,
          ← Nat.div_div_eq_div_mul] at current
        rw [rounded, rounded, pow_succ, ← Nat.div_div_eq_div_mul]
        omega
      rw [value, step, pow_succ]
      push_cast
      ring
    · rename_i differ
      have size : i + 1 - min width (i + 1) + min width (i + 1) = i + 1 := by omega
      rcases slideWindow_eq (s := scalar) size ⟨by omega, by omega⟩ with ⟨window, low, high, nonzero⟩
      rcases lowestBit_spec (nonzero differ) low high (by omega) (Nat.min_le_left _ _) wide few with
        ⟨exact, position, digit⟩
      dsimp only
      generalize slideWindow scalar (min width (i + 1)) i = v at *
      have whole : (v / 2 ^ lowestBit v).bmod (2 ^ 8) = v / 2 ^ lowestBit v := by
        have most : (2 : ℤ) ^ (width - 1) ≤ 2 ^ 4 := pow_le_pow_right₀ (by norm_num) (by omega)
        have := digit.2
        exact Int.bmod_eq_of_le (by omega) (by omega)
      rw [whole]
      refine ⟨i + 1 - min width (i + 1), by omega, by omega, by omega, by dsimp only; omega,
        .inr ⟨i + 1 - min width (i + 1) + lowestBit v, by omega, by omega, ?_, digit, ?_⟩⟩
      · dsimp only
        rw [Int.bmod_eq_of_le (by omega) (by omega)]
        omega
      · have power : (2 : ℤ) ^ (i + 1) = 2 ^ (i + 1 - min width (i + 1)) * 2 ^ min width (i + 1) := by rw [← pow_add, size]
        dsimp only
        rw [pow_add _ _ (lowestBit v), mul_left_comm, exact, value, window, power]
        ring
  · exact ⟨free, by omega, inside, small, check, digits⟩

/-- A place passed: its digit, if it has one, is taken. -/
theorem Sliding.passed (below : free ≤ i) (sliding : Sliding scalar width ctx (i + 1) free taken) :
    Sliding scalar width ctx i free (2 * taken + if (i : ℤ) = ctx.nextIndex then ctx.nextDigit else 0) ∧
      ((i : ℤ) = ctx.nextIndex → Digit width ctx.nextDigit) := by
  rcases sliding with ⟨inside, small, check, ⟨idle, value⟩ | ⟨place, above, under, index, digit, value⟩⟩
  · have away : (i : ℤ) ≠ ctx.nextIndex := by omega
    refine ⟨⟨below, small, check, .inl ⟨by omega, ?_⟩⟩, fun here => absurd here away⟩
    rw [if_neg away, ← value, pow_succ]
    ring
  · by_cases here : (i : ℤ) = ctx.nextIndex
    · refine ⟨⟨below, small, check, .inl ⟨by omega, ?_⟩⟩, fun _ => digit⟩
      obtain rfl : i = place := by omega
      rw [if_pos here, ← value, pow_succ]
      ring
    · refine ⟨⟨below, small, check, .inr ⟨place, above, by omega, index, digit, ?_⟩⟩, fun same => absurd same here⟩
      rw [if_neg here, ← value, pow_succ]
      ring

/-- One step takes a digit that a table has, or none. -/
theorem Sliding.step (wide : 2 ≤ width) (few : width ≤ 5) (below : i ≤ 253)
    (sliding : Sliding scalar width ctx (i + 1) free taken) {next : SlideCtx} {digit : ℤ}
    (taking : slideStep ctx width i scalar = (next, digit)) :
    (∃ free, Sliding scalar width next i free (2 * taken + digit)) ∧ (digit = 0 ∨ Digit width digit) := by
  rcases sliding.checked wide few below with ⟨free, under, sliding⟩
  rcases sliding.passed under with ⟨passed, known⟩
  simp only [slideStep, Prod.mk.injEq] at taking
  rcases taking with ⟨rfl, rfl⟩
  refine ⟨⟨free, passed⟩, ?_⟩
  split
  · exact .inr (known ‹_›)
  · exact .inl rfl

/-- When no place is left, the whole scalar has been taken. -/
theorem Sliding.finished (sliding : Sliding scalar width ctx 0 free taken) : taken = number scalar := by
  rcases sliding with ⟨inside, -, -, ⟨-, value⟩ | ⟨place, -, under, -⟩⟩
  · obtain rfl : free = 0 := Nat.le_zero.mp inside
    have whole : rounded (number scalar) 0 = number scalar := by
      rw [rounded]
      omega
    simpa [whole] using value
  · omega

theorem slideStart_spec (start : ℕ) (small : number scalar < 2 ^ (start + 1)) :
    slideStart scalar start ≤ start ∧ number scalar < 2 ^ (slideStart scalar start + 1) := by
  induction start with
  | zero => exact ⟨le_rfl, small⟩
  | succ start ih =>
    have bit := scalarBit_below scalar (start + 2)
    rw [show ((start + 2 : ℕ) : ℤ) - 1 = start + 1 by push_cast; ring, pow_succ', Nat.mul_div_mul_left _ _ two_pos] at bit
    rw [slideStart]
    split
    · rename_i zero
      rw [zero] at bit
      have quotient : number scalar / 2 ^ (start + 1) < 2 := Nat.div_lt_of_lt_mul (by rw [← pow_succ]; exact small)
      have under : number scalar < 2 ^ (start + 1) := by
        refine Nat.lt_of_div_eq_zero (by positivity) ?_
        generalize number scalar / 2 ^ (start + 1) = top at *
        omega
      have := ih under
      omega
    · exact ⟨le_rfl, small⟩

/-- Before the first place of a scalar below `2^253`, nothing has been taken. -/
theorem slideInit_sliding (small : number scalar < 2 ^ 253) {left : ℕ} (far : (slideInit scalar).nextCheck < left) :
    ∃ free, Sliding scalar width (slideInit scalar) left free 0 := by
  rcases slideStart_spec 252 small with ⟨start, under⟩
  simp only [slideInit] at far
  refine ⟨slideStart scalar 252 + 2, by omega, by omega, by simp only [slideInit]; omega, .inl ⟨.inl (by norm_num [slideInit]), ?_⟩⟩
  have none : rounded (number scalar) (slideStart scalar 252 + 2) = 0 := by
    rw [rounded, pow_succ', Nat.mul_div_mul_left _ _ two_pos, Nat.div_eq_of_lt under]
  simp [none]

/-- The digits that the steps from place `left - 1` down return. -/
def slideSteps (width : ℕ) (scalar : List U8) : ℕ → SlideCtx → List ℤ
  | 0, _ => []
  | i + 1, ctx =>
    let (ctx, digit) := slideStep ctx width i scalar
    digit :: slideSteps width scalar i ctx

theorem slideSteps_taken (wide : 2 ≤ width) (few : width ≤ 5) {left : ℕ} (below : left ≤ 254)
    (sliding : ∃ free, Sliding scalar width ctx left free taken) :
    (slideSteps width scalar left ctx).foldl (fun taken digit => 2 * taken + digit) taken = number scalar ∧
      ∀ digit ∈ slideSteps width scalar left ctx, digit = 0 ∨ Digit width digit := by
  induction left generalizing ctx taken with
  | zero =>
    rcases sliding with ⟨free, sliding⟩
    exact ⟨sliding.finished, fun _ present => absurd present List.not_mem_nil⟩
  | succ i ih =>
    rcases sliding with ⟨free, sliding⟩
    rcases sliding.step wide few (by omega) rfl with ⟨next, known⟩
    rcases ih (by omega) next with ⟨value, rest⟩
    exact ⟨value, List.forall_mem_cons.mpr ⟨known, rest⟩⟩

/-- The digits of a scalar below `2^253` are zero or odd and below the width's bound, and make up the scalar. -/
theorem sliding_window_exact (width : ℕ) (wide : 2 ≤ width) (few : width ≤ 5) (scalar : Bytes 32)
    (small : number scalar.1 < 2 ^ 253) (left : ℕ) (far : (slideInit scalar.1).nextCheck < left) (below : left ≤ 254) :
    (slideSteps width scalar.1 left (slideInit scalar.1)).foldl (fun taken digit => 2 * taken + digit) (0 : ℤ) =
        number scalar.1 ∧
      ∀ digit ∈ slideSteps width scalar.1 left (slideInit scalar.1), digit = 0 ∨ Digit width digit :=
  slideSteps_taken wide few below (slideInit_sliding small far)

def signatureScalar : List U8 :=
  [95, 184, 130, 21, 144, 163, 59, 172, 198, 30, 57, 112, 28, 249, 180, 107, 210, 91, 245, 240, 89, 91, 190, 36, 101, 81,
    65, 67, 142, 122, 16, 11]

theorem sliding_window_exact_signature :
    (slideSteps 5 signatureScalar 253 (slideInit signatureScalar)).foldl (fun taken digit => 2 * taken + digit) (0 : ℤ) =
        number signatureScalar ∧
      (∀ digit ∈ slideSteps 5 signatureScalar 253 (slideInit signatureScalar), digit = 0 ∨ Digit 5 digit) ∧
      -15 ∈ slideSteps 5 signatureScalar 253 (slideInit signatureScalar) := by
  obtain ⟨value, digits⟩ := sliding_window_exact 5 (by norm_num) le_rfl ⟨signatureScalar, rfl⟩ (by decide +kernel) 253
    (by decide +kernel) (by norm_num)
  exact ⟨value, digits, by decide +kernel⟩

end Guardian.Crypto
