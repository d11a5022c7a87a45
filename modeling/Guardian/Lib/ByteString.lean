import Guardian.Lib.Word

namespace ByteString

open Word

variable {α : Type}

/-- The range `&bytes[offset]` of the given length. -/
def slice (offset length : Nat) (bytes : List α) : List α := (bytes.drop offset).take length

theorem slice_append_right {offset : Nat} (length : Nat) {left : List α} (right : List α)
    (beyond : left.length ≤ offset) :
    slice offset length (left ++ right) = slice (offset - left.length) length right := by
  rw [slice, slice, List.drop_append, List.drop_of_length_le beyond, List.nil_append]

theorem slice_append_left {offset length : Nat} {left : List α} (right : List α)
    (within : offset + length ≤ left.length) : slice offset length (left ++ right) = slice offset length left := by
  rw [slice, slice, List.drop_append_of_le_length (by omega), List.take_append_of_le_length (by simp; omega)]

theorem slice_all {length : Nat} {bytes : List α} (same : bytes.length = length) : slice 0 length bytes = bytes := by
  rw [slice, List.drop_zero, List.take_of_length_le (by omega)]

theorem slice_append_self {length : Nat} {left : List α} (right : List α) (same : left.length = length) :
    slice 0 length (left ++ right) = left := by
  rw [slice_append_left right (by omega), slice_all same]

theorem slice_length (offset length : Nat) (bytes : List α) (within : offset + length ≤ bytes.length) :
    (slice offset length bytes).length = length := by
  simp only [slice, List.length_take, List.length_drop]
  omega

/-- The cells after `data` was copied over their start. -/
def copied (data cells : List α) : List α := (data ++ cells.drop data.length).take cells.length

@[simp] theorem copied_length (data cells : List α) : (copied data cells).length = cells.length := by
  simp only [copied, List.length_take, List.length_append, List.length_drop]
  omega

theorem copied_take {data cells : List α} (fits : data.length ≤ cells.length) :
    (copied data cells).take data.length = data := by
  rw [copied, List.take_take, Nat.min_eq_left fits, List.take_left]

/-- A concatenation of fields, read from the start of its field number `index` on. -/
theorem drop_flatten {fields : List (List α)} (index : Nat) {offset : Nat}
    (start : ((fields.take index).map List.length).sum = offset) :
    fields.flatten.drop offset = (fields.drop index).flatten := by
  have split : fields.flatten = (fields.take index).flatten ++ (fields.drop index).flatten := by
    rw [← List.flatten_append, List.take_append_drop]
  rw [split, ← start, ← List.length_flatten, List.drop_left]

/-- Program cells from `offset` on. Programming can only clear bits of a cell. -/
def overlay : Nat → List U8 → List U8 → List U8
  | _, _, [] => []
  | 0, [], cells => cells
  | 0, value :: data, cell :: cells => (cell &&& value) :: overlay 0 data cells
  | offset + 1, data, cell :: cells => cell :: overlay offset data cells

@[simp] theorem overlay_length (offset : Nat) (data cells : List U8) :
    (overlay offset data cells).length = cells.length := by
  fun_induction overlay offset data cells <;> simp_all

@[simp] theorem overlay_nil (offset : Nat) (cells : List U8) : overlay offset [] cells = cells := by
  induction cells generalizing offset with
  | nil => rfl
  | cons cell cells ih => cases offset <;> simp [overlay, ih]

theorem overlay_append (data left right : List U8) :
    overlay left.length data (left ++ right) = left ++ overlay 0 data right := by
  induction left with
  | nil => rfl
  | cons cell left ih =>
    simp only [List.length_cons, List.cons_append, overlay, ih]

theorem overlay_cons (offset : Nat) (value : U8) (data cells : List U8) :
    overlay offset (value :: data) cells = overlay (offset + 1) data (cells.modify offset (· &&& value)) := by
  induction cells generalizing offset with
  | nil => cases offset <;> rfl
  | cons cell cells ih =>
    cases offset with
    | zero => rfl
    | succ offset => rw [overlay, ih, List.modify_succ_cons, overlay]

/-- What is programmed onto erased cells is what the cells then hold. -/
theorem overlay_erased (data : List U8) (spare : Nat) :
    overlay 0 data (List.replicate (data.length + spare) 0xFF) = data ++ List.replicate spare 0xFF := by
  induction data with
  | nil => simp
  | cons value data ih =>
    rw [List.length_cons, Nat.add_right_comm, List.replicate_succ, overlay, ih]
    have keep : (0xFF : U8) &&& value = value := BitVec.allOnes_and
    rw [keep]
    rfl

/-- The characters of a C string in a buffer: those before the first NUL. -/
def cString : List U8 → List U8
  | [] => []
  | character :: rest => if character = 0 then [] else character :: cString rest

/-- `strncmp(left, right, n) == 0` on two buffers of `n` bytes. -/
def strncmpEqual : List U8 → List U8 → Bool
  | a :: left, b :: right => if a ≠ b then false else if a = 0 then true else strncmpEqual left right
  | _, _ => true

theorem strncmpEqual_iff {left right : List U8} (size : left.length = right.length) :
    strncmpEqual left right = true ↔ cString left = cString right := by
  induction left generalizing right with
  | nil =>
    have empty : right = [] := List.length_eq_zero_iff.mp size.symm
    simp [empty, strncmpEqual]
  | cons a left ih =>
    cases right with
    | nil => simp at size
    | cons b right =>
      have tail : left.length = right.length := by simpa using size
      rw [strncmpEqual, cString, cString]
      by_cases same : a = b
      · subst b
        by_cases nul : a = 0
        · rw [if_neg (fun differ => differ rfl), if_pos nul, if_pos nul, if_pos nul]
          simp
        · rw [if_neg (fun differ => differ rfl), if_neg nul, if_neg nul, if_neg nul, ih tail]
          simp
      · rw [if_pos same]
        split_ifs with left0 right0 right0
        · exact absurd (left0.trans right0.symm) same
        · simp
        · simp
        · simp [same]

theorem cString_length_le (buffer : List U8) : (cString buffer).length ≤ buffer.length := by
  induction buffer with
  | nil => simp [cString]
  | cons character rest ih =>
    rw [cString]
    split_ifs
    · simp
    · simpa using ih

theorem cString_no_nul (buffer : List U8) : (0 : U8) ∉ cString buffer := by
  induction buffer with
  | nil => simp [cString]
  | cons character rest ih =>
    rw [cString]
    split_ifs with nul
    · simp
    · exact List.not_mem_cons_of_ne_of_not_mem (Ne.symm nul) ih

theorem cString_terminated {text : List U8} (noNul : (0 : U8) ∉ text) (rest : List U8) :
    cString (text ++ 0 :: rest) = text := by
  induction text with
  | nil => rfl
  | cons character text ih =>
    rw [List.mem_cons, not_or] at noNul
    rw [List.cons_append, cString, if_neg (Ne.symm noNul.1), ih noNul.2]

theorem cString_padded {text : List U8} (noNul : (0 : U8) ∉ text) (count : Nat) :
    cString (text ++ List.replicate count 0) = text := by
  cases count with
  | succ count => exact cString_terminated noNul _
  | zero =>
    rw [List.replicate_zero, List.append_nil]
    induction text with
    | nil => rfl
    | cons character text ih =>
      rw [List.mem_cons, not_or] at noNul
      rw [cString, if_neg (Ne.symm noNul.1), ih noNul.2]

end ByteString
