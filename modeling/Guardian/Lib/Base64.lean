import Mathlib.Tactic.IntervalCases
import Guardian.Lib.Word

namespace Base64

open Word

abbrev Sextet := BitVec 6

def high (first : U8) : Sextet := BitVec.ofNat 6 (first.toNat / 4)
def middle (first second : U8) : Sextet := BitVec.ofNat 6 (first.toNat % 4 * 16 + second.toNat / 16)
def lower (second third : U8) : Sextet := BitVec.ofNat 6 (second.toNat % 16 * 4 + third.toNat / 64)
def low (third : U8) : Sextet := BitVec.ofNat 6 (third.toNat % 64)

def sextets : List U8 → List Sextet
  | first :: second :: third :: rest =>
    high first :: middle first second :: lower second third :: low third :: sextets rest
  | [first, second] => [high first, middle first second, lower second 0]
  | [first] => [high first, middle first 0]
  | [] => []

def one (first second : Sextet) : U8 := BitVec.ofNat 8 (first.toNat * 4 + second.toNat / 16)
def two (second third : Sextet) : U8 := BitVec.ofNat 8 (second.toNat % 16 * 16 + third.toNat / 4)
def three (third fourth : Sextet) : U8 := BitVec.ofNat 8 (third.toNat % 4 * 64 + fourth.toNat)

/-- The bytes of groups of six bits. The bits left over at the end are dropped. -/
def octets : List Sextet → Option (List U8)
  | first :: second :: third :: fourth :: rest =>
    (octets rest).map fun bytes => one first second :: two second third :: three third fourth :: bytes
  | [first, second, third] => some [one first second, two second third]
  | [first, second] => some [one first second]
  | [_] => none
  | [] => some []

def ZeroTail : List Sextet → Prop
  | _ :: _ :: _ :: _ :: rest => ZeroTail rest
  | [_, _, third] => third.toNat % 4 = 0
  | [_, second] => second.toNat % 16 = 0
  | _ => True

theorem one_eq (first second : U8) : one (high first) (middle first second) = first := by
  apply BitVec.eq_of_toNat_eq
  simp only [one, high, middle, BitVec.toNat_ofNat]
  omega

theorem two_eq (first second third : U8) : two (middle first second) (lower second third) = second := by
  apply BitVec.eq_of_toNat_eq
  simp only [two, middle, lower, BitVec.toNat_ofNat]
  omega

theorem three_eq (second third : U8) : three (lower second third) (low third) = third := by
  apply BitVec.eq_of_toNat_eq
  simp only [three, lower, low, BitVec.toNat_ofNat]
  omega

theorem octets_sextets (bytes : List U8) : octets (sextets bytes) = some bytes := by
  induction bytes using sextets.induct with
  | case1 first second third rest ih => simp only [sextets, octets, ih, Option.map_some, one_eq, two_eq, three_eq]
  | case2 first second => simp only [sextets, octets, one_eq, two_eq]
  | case3 first => simp only [sextets, octets, one_eq]
  | case4 => rfl

theorem high_eq (first second : Sextet) : high (one first second) = first := by
  apply BitVec.eq_of_toNat_eq
  simp only [one, high, BitVec.toNat_ofNat]
  omega

theorem middle_eq (first second third : Sextet) : middle (one first second) (two second third) = second := by
  apply BitVec.eq_of_toNat_eq
  simp only [one, two, middle, BitVec.toNat_ofNat]
  omega

theorem lower_eq (second third fourth : Sextet) : lower (two second third) (three third fourth) = third := by
  apply BitVec.eq_of_toNat_eq
  simp only [two, three, lower, BitVec.toNat_ofNat]
  omega

theorem low_eq (third fourth : Sextet) : low (three third fourth) = fourth := by
  apply BitVec.eq_of_toNat_eq
  simp only [three, low, BitVec.toNat_ofNat]
  omega

theorem middle_last (first second : Sextet) : middle (one first second) 0 = second ↔ second.toNat % 16 = 0 := by
  rw [← BitVec.toNat_inj]
  simp only [one, middle, BitVec.toNat_ofNat, show (0 : U8).toNat = 0 from rfl]
  omega

theorem lower_last (second third : Sextet) : lower (two second third) 0 = third ↔ third.toNat % 4 = 0 := by
  rw [← BitVec.toNat_inj]
  simp only [two, lower, BitVec.toNat_ofNat, show (0 : U8).toNat = 0 from rfl]
  omega

/-- What is decoded encodes to the same groups exactly when the bits left over are zero. -/
theorem sextets_octets {groups : List Sextet} {bytes : List U8} (decoded : octets groups = some bytes) :
    sextets bytes = groups ↔ ZeroTail groups := by
  induction groups using octets.induct generalizing bytes with
  | case1 first second third fourth rest ih =>
    obtain ⟨tail, inside, rfl⟩ := Option.map_eq_some_iff.mp decoded
    simp only [sextets, high_eq, middle_eq, lower_eq, low_eq, ZeroTail, ← ih inside, List.cons.injEq, true_and]
  | case2 first second third =>
    obtain rfl := Option.some.inj decoded
    simp only [sextets, high_eq, middle_eq, ZeroTail, List.cons.injEq, true_and, and_true, lower_last]
  | case3 first second =>
    obtain rfl := Option.some.inj decoded
    simp only [sextets, high_eq, ZeroTail, List.cons.injEq, true_and, and_true, middle_last]
  | case4 => cases decoded
  | case5 =>
    obtain rfl := Option.some.inj decoded
    simp only [sextets, ZeroTail]

theorem sextets_zeroTail (bytes : List U8) : ZeroTail (sextets bytes) :=
  (sextets_octets (octets_sextets bytes)).mp rfl

theorem sextets_length (bytes : List U8) : (sextets bytes).length = (bytes.length * 4 + 2) / 3 := by
  induction bytes using sextets.induct with
  | case1 first second third rest ih =>
    simp only [sextets, List.length_cons, ih]
    omega
  | case2 first second => simp [sextets]
  | case3 first => simp [sextets]
  | case4 => rfl

theorem octets_length {groups : List Sextet} {bytes : List U8} (decoded : octets groups = some bytes) :
    bytes.length = groups.length * 3 / 4 ∧ groups.length % 4 ≠ 1 := by
  induction groups using octets.induct generalizing bytes with
  | case1 first second third fourth rest ih =>
    obtain ⟨tail, inside, rfl⟩ := Option.map_eq_some_iff.mp decoded
    have lengths := ih inside
    simp only [List.length_cons]
    omega
  | case2 first second third =>
    obtain rfl := Option.some.inj decoded
    simp
  | case3 first second =>
    obtain rfl := Option.some.inj decoded
    simp
  | case4 => cases decoded
  | case5 =>
    obtain rfl := Option.some.inj decoded
    simp

theorem octets_isSome {groups : List Sextet} (whole : groups.length % 4 ≠ 1) : (octets groups).isSome := by
  induction groups using octets.induct with
  | case1 first second third fourth rest ih =>
    simp only [octets, Option.isSome_map]
    apply ih
    simp only [List.length_cons] at whole
    omega
  | case2 first second third => rfl
  | case3 first second => rfl
  | case4 => exact absurd rfl whole
  | case5 => rfl

def character (group : Sextet) : ℕ :=
  if group.toNat < 26 then group.toNat + 65
  else if group.toNat < 52 then group.toNat - 26 + 97
  else if group.toNat < 62 then group.toNat - 52 + 48
  else if group.toNat = 62 then 43 else 47

def group? (code : ℕ) : Option Sextet :=
  if 65 ≤ code ∧ code ≤ 90 then some (BitVec.ofNat 6 (code - 65))
  else if 97 ≤ code ∧ code ≤ 122 then some (BitVec.ofNat 6 (code - 97 + 26))
  else if 48 ≤ code ∧ code ≤ 57 then some (BitVec.ofNat 6 (code - 48 + 52))
  else if code = 43 then some 62
  else if code = 47 then some 63
  else none

theorem character_of_group? {code : ℕ} {group : Sextet} (found : group? code = some group) :
    character group = code := by
  have high : code < 123 := by
    unfold group? at found
    split_ifs at found <;> omega
  have all : ∀ code < 123, ∀ group : Sextet, group? code = some group → character group = code := by decide
  exact all code high group found

end Base64
