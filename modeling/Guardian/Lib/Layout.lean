import Mathlib.Data.List.GetD
import Mathlib.Data.List.SplitLengths
import Guardian.Lib.ByteString

namespace ByteString

open Word

variable {α : Type}

/-- Fields of the same widths that make the same string are the same fields. -/
theorem fields_eq {left right : List (List α)} (widths : left.map List.length = right.map List.length)
    (same : left.flatten = right.flatten) : left = right := List.eq_iff_flatten_eq.mpr ⟨same, widths⟩

theorem fields_last_eq {left right : List (List α)} {last last' : List α}
    (widths : left.map List.length = right.map List.length) (same : left.flatten ++ last = right.flatten ++ last') :
    left = right ∧ last = last' := by
  have length : left.flatten.length = right.flatten.length := by
    rw [List.length_flatten, List.length_flatten, widths]
  obtain ⟨fields, rest⟩ := List.append_inj same length
  exact ⟨fields_eq widths fields, rest⟩

theorem splitLengths_take (widths : List Nat) (bytes : List α) :
    (widths.splitLengths (bytes.take widths.sum)).flatten = bytes.take widths.sum :=
  List.flatten_splitLengths _ _ (List.length_take_le _ _)

theorem take_getD (default : α) {count : Nat} {bytes : List α} (long : count ≤ bytes.length) :
    bytes.take count = (List.range count).map (bytes.getD · default) := by
  apply List.ext_getElem
  · rw [List.length_take_of_le long, List.length_map, List.length_range]
  · intro index within _
    have inside : index < bytes.length := (List.length_take_of_le long ▸ within).trans_le long
    rw [List.getElem_take, List.getElem_map, List.getElem_range, List.getD_eq_getElem bytes default inside]

theorem getD_take (default : α) {index count : Nat} (within : index < count) (bytes : List α) :
    (bytes.take count).getD index default = bytes.getD index default := by
  rw [List.getD_eq_getElem?_getD, List.getD_eq_getElem?_getD, List.getElem?_take_of_lt within]

theorem slice_take {start length count : Nat} (within : start + length ≤ count) (bytes : List α) :
    slice start length (bytes.take count) = slice start length bytes := by
  have few : length ≤ count - start := by omega
  rw [slice, slice, List.drop_take, List.take_take, Nat.min_eq_left few]

theorem getU32Le_take {count : Nat} (few : 4 ≤ count) (bytes : List U8) :
    getU32Le (bytes.take count) = getU32Le bytes := by
  obtain ⟨more, rfl⟩ := Nat.exists_eq_add_of_le' few
  match bytes with
  | [] | [_] | [_, _] | [_, _, _] => rfl
  | _ :: _ :: _ :: _ :: _ => rfl

theorem getU32Le_drop_take {start count : Nat} (within : start + 4 ≤ count) (bytes : List U8) :
    getU32Le ((bytes.take count).drop start) = getU32Le (bytes.drop start) := by
  have few : 4 ≤ count - start := by omega
  rw [List.drop_take, getU32Le_take few]

theorem putU16Be_getU16Be {bytes : List U8} (long : 2 ≤ bytes.length) : putU16Be (getU16Be bytes) = bytes.take 2 := by
  match bytes, long with
  | high :: low :: rest, _ => exact putU16Be_get high low rest

theorem putU32Be_getU32Be {bytes : List U8} (long : 4 ≤ bytes.length) : putU32Be (getU32Be bytes) = bytes.take 4 := by
  match bytes, long with
  | b0 :: b1 :: b2 :: b3 :: rest, _ => exact putU32Be_get b0 b1 b2 b3 rest

theorem putU32Le_eq (value : U32) : putU32Le value = (putU32Be value).reverse := rfl

theorem putU32Le_getU32Le {bytes : List U8} (long : 4 ≤ bytes.length) : putU32Le (getU32Le bytes) = bytes.take 4 := by
  match bytes, long with
  | b0 :: b1 :: b2 :: b3 :: rest, _ =>
    have reversed : getU32Le (b0 :: b1 :: b2 :: b3 :: rest) = getU32Be (b3 :: b2 :: b1 :: b0 :: rest) := by
      unfold getU32Le getU32Be
      exact or_reverse _ _ _ _
    rw [reversed, putU32Le_eq, putU32Be_get]
    rfl

theorem getU32Le_words {header : List U8} {start : Nat} (starts : header.length = start) (words : List U32)
    (rest : List U8) {index : Nat} (within : index < words.length) :
    getU32Le ((header ++ words.flatMap putU32Le ++ rest).drop (start + 4 * index)) = words[index] := by
  rw [List.append_assoc, ← List.drop_drop, List.drop_left' starts]
  induction words generalizing index with
  | nil => exact absurd within (Nat.not_lt_zero index)
  | cons word words ih =>
    rw [List.flatMap_cons, List.append_assoc]
    cases index with
    | zero => exact getU32Le_put word _
    | succ index =>
      have start : 4 * (index + 1) = (putU32Le word).length + 4 * index := by
        rw [putU32Le_length]
        omega
      rw [start, ← List.drop_drop, List.drop_left, List.getElem_cons_succ]
      exact ih (Nat.lt_of_succ_lt_succ within)

theorem putU16Be_injective : Function.Injective putU16Be := by
  intro left right same
  have read := getU16Be_put left []
  rw [same, getU16Be_put] at read
  exact read.symm

theorem putU32Be_injective : Function.Injective putU32Be := by
  intro left right same
  have read := getU32Be_put left []
  rw [same, getU32Be_put] at read
  exact read.symm

theorem putU64Be_injective : Function.Injective putU64Be := by
  intro left right same
  have read := getU64Be_put left []
  rw [same, getU64Be_put] at read
  exact read.symm

theorem cString_rest (buffer : List U8) : cString buffer ++ buffer.drop (cString buffer).length = buffer := by
  induction buffer with
  | nil => rfl
  | cons character rest ih =>
    by_cases nul : character = 0
    · rw [cString, if_pos nul]
      rfl
    · rw [cString, if_neg nul, List.length_cons, List.drop_succ_cons, List.cons_append, ih]

/-- A buffer with a terminated string: the string, its terminator and what follows. -/
theorem cString_split {buffer : List U8} (terminated : (cString buffer).length < buffer.length) :
    buffer = cString buffer ++ 0 :: buffer.drop ((cString buffer).length + 1) := by
  induction buffer with
  | nil => exact absurd terminated (Nat.lt_irrefl 0)
  | cons character rest ih =>
    by_cases nul : character = 0
    · rw [cString, if_pos nul, nul]
      rfl
    · rw [cString, if_neg nul] at terminated ⊢
      have shorter : (cString rest).length < rest.length := Nat.lt_of_succ_lt_succ terminated
      rw [List.length_cons, List.cons_append, List.drop_succ_cons, ← ih shorter]

theorem cString_zeros {buffer : List U8} (terminated : (cString buffer).length < buffer.length)
    (zeros : ∀ byte ∈ buffer.drop ((cString buffer).length + 1), byte = 0) :
    buffer = cString buffer ++ List.replicate (buffer.length - (cString buffer).length) 0 := by
  have split := cString_split terminated
  have tail := List.eq_replicate_of_mem zeros
  rw [List.length_drop] at tail
  have count : buffer.length - (cString buffer).length = buffer.length - ((cString buffer).length + 1) + 1 := by omega
  rw [tail, ← List.replicate_succ, ← count] at split
  exact split

end ByteString
