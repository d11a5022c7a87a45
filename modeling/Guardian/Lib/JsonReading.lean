import Mathlib.Data.List.TakeWhile
import Guardian.Lib.JsonText

namespace JsonText

variable {ε : Type}

theorem skipSpace_suffix (text : List Char) : skipSpace text <:+ text := List.dropWhile_suffix _

/-- The text of a string, in which every quote comes after a backslash. -/
inductive IsBody : List Char → Prop
  | nil : IsBody []
  | escaped {c body} (rest : IsBody body) : IsBody ('\\' :: c :: body)
  | plain {c body} (quote : c ≠ '"') (backslash : c ≠ '\\') (rest : IsBody body) : IsBody (c :: body)

theorem IsBody.split {body : List Char} (isBody : IsBody body) (rest : List Char) :
    splitString (body ++ '"' :: rest) = some (body, rest) := by
  induction isBody with
  | nil => rfl
  | escaped _ ih => simp [splitString, ih]
  | plain quote backslash _ ih =>
    rw [List.cons_append, splitString.eq_5 _ _ quote (fun is _ => backslash is) (fun _ _ is _ => backslash is), ih]
    rfl

theorem splitString_eq_some {text body rest : List Char} :
    splitString text = some (body, rest) ↔ IsBody body ∧ text = body ++ '"' :: rest := by
  constructor
  · intro split
    induction text using splitString.induct generalizing body with
    | case1 => cases split
    | case2 more =>
      cases split
      exact ⟨.nil, rfl⟩
    | case3 => cases split
    | case4 escaped more ih =>
      obtain ⟨⟨inner, tail⟩, found, same⟩ := Option.map_eq_some_iff.mp split
      cases same
      obtain ⟨isBody, rfl⟩ := ih found
      exact ⟨.escaped isBody, rfl⟩
    | case5 c more quote lone escape ih =>
      rw [splitString.eq_5 c more quote lone escape] at split
      obtain ⟨⟨inner, tail⟩, found, same⟩ := Option.map_eq_some_iff.mp split
      cases same
      obtain ⟨isBody, rfl⟩ := ih found
      refine ⟨.plain quote (fun backslash => ?_) isBody, rfl⟩
      obtain ⟨escaped, others, same⟩ : ∃ escaped others, inner ++ '"' :: rest = escaped :: others := by
        cases inner <;> simp
      exact escape escaped others backslash same
  · rintro ⟨isBody, rfl⟩
    exact isBody.split rest

theorem readString_eq_some {text rest : List Char} {codes : List ℕ} : readString text = some (codes, rest) ↔
    ∃ body, IsBody body ∧ readCodes body = some codes ∧ text = body ++ '"' :: rest := by
  simp only [readString, Option.bind_eq_some_iff, Option.map_eq_some_iff, Prod.mk.injEq, Prod.exists,
    splitString_eq_some]
  grind

theorem readString_suffix {text rest : List Char} {codes : List ℕ} (read : readString text = some (codes, rest)) :
    rest <:+ text := by
  obtain ⟨body, -, -, rfl⟩ := readString_eq_some.mp read
  exact ((rest.suffix_cons '"').trans (List.suffix_append _ _))

def isPlain (c : Char) : Bool := c ∉ ['"', '[', ']', '{', '}']

def Passes (text rest : List Char) : Prop := ∃ body, body ≠ [] ∧ text = body ++ rest ∧ ∀ c ∈ body, isPlain c

section passes

variable {text next rest : List Char}

theorem Passes.suffix (passes : Passes text rest) : rest <:+ text := by
  obtain ⟨body, -, rfl, -⟩ := passes
  exact List.suffix_append _ _

theorem Passes.shorter (passes : Passes text rest) : rest.length < text.length := by
  obtain ⟨body, some, rfl, -⟩ := passes
  have positive := List.length_pos_iff.mpr some
  rw [List.length_append]
  omega

theorem Passes.trans (first : Passes text next) (second : Passes next rest) : Passes text rest := by
  obtain ⟨body, some, rfl, plain⟩ := first
  obtain ⟨more, -, rfl, others⟩ := second
  refine ⟨body ++ more, by simp [some], (List.append_assoc _ _ _).symm, fun c member => ?_⟩
  rcases List.mem_append.mp member with here | there
  · exact plain c here
  · exact others c there

theorem Passes.one {c : Char} (plain : isPlain c) : Passes (c :: rest) rest := ⟨[c], by simp, rfl, by simp [plain]⟩

theorem isPlain_of_isDigit {c : Char} (digit : isDigit c) : isPlain c := by
  simp only [isPlain, List.mem_cons, List.not_mem_nil, or_false, decide_not, Bool.not_eq_true', decide_eq_false_iff_not]
  rintro (rfl | rfl | rfl | rfl | rfl) <;> exact absurd digit (by decide)

theorem Passes.digits {c : Char} (plain : isPlain c) : Passes (c :: rest) (rest.dropWhile isDigit) := by
  refine ⟨c :: rest.takeWhile isDigit, by simp, by simp, ?_⟩
  rw [List.forall_mem_cons]
  exact ⟨plain, fun d member => isPlain_of_isDigit (List.mem_takeWhile_imp member)⟩

theorem scanFraction_eq_some : scanFraction text = some rest ↔
    ∃ c more, text = '.' :: c :: more ∧ isDigit c ∧ rest = more.dropWhile isDigit := by
  unfold scanFraction
  split
  · rename_i c more
    split_ifs with digit
    · rw [Option.some.injEq]
      constructor
      · rintro rfl
        exact ⟨c, more, rfl, digit, rfl⟩
      · rintro ⟨_, _, ⟨⟩, -, rfl⟩
        rfl
    · constructor
      · nofun
      · rintro ⟨_, _, ⟨⟩, is, -⟩
        exact absurd is digit
  · rename_i other
    simp only [reduceCtorEq, false_iff, not_exists, not_and]
    exact fun c more same => (other c more same).elim

theorem scanFraction_passes (scanned : scanFraction text = some rest) : Passes text rest := by
  obtain ⟨c, more, rfl, digit, rfl⟩ := scanFraction_eq_some.mp scanned
  exact (Passes.one (by decide)).trans (.digits (isPlain_of_isDigit digit))

def signs : List (List Char) := [[], ['+'], ['-']]

theorem skipSign_eq_digit {digit : Char} {more : List Char} (is : isDigit digit) :
    skipSign text = digit :: more ↔ ∃ sign ∈ signs, text = sign ++ digit :: more := by
  have other : digit ≠ '+' ∧ digit ≠ '-' := by
    constructor <;> rintro rfl <;> exact absurd is (by decide)
  cases text with
  | nil => simp [skipSign, signs]
  | cons c tail =>
    rw [skipSign]
    split_ifs with sign
    · simp only [signs, List.mem_cons, List.not_mem_nil, or_false, exists_eq_or_imp, exists_eq_left,
        List.nil_append, List.cons_append, List.cons.injEq]
      grind
    · simp only [signs, List.mem_cons, List.not_mem_nil, or_false, exists_eq_or_imp, exists_eq_left,
        List.nil_append, List.cons_append, List.cons.injEq]
      grind

theorem scanExponent_eq_some : scanExponent text = some rest ↔ ∃ letter, (letter = 'e' ∨ letter = 'E') ∧
    ∃ sign ∈ signs, ∃ digit more, text = letter :: (sign ++ digit :: more) ∧ isDigit digit ∧
      rest = more.dropWhile isDigit := by
  constructor
  · intro scanned
    unfold scanExponent at scanned
    split at scanned
    · cases scanned
    · split_ifs at scanned with letter
      split at scanned
      · rename_i digit more same
        split_ifs at scanned with is
        cases scanned
        obtain ⟨sign, isSign, rfl⟩ := (skipSign_eq_digit is).mp same
        exact ⟨_, letter, sign, isSign, digit, more, rfl, is, rfl⟩
      · cases scanned
  · rintro ⟨letter, isLetter, sign, isSign, digit, more, rfl, is, rfl⟩
    have skipped : skipSign (sign ++ digit :: more) = digit :: more :=
      (skipSign_eq_digit is).mpr ⟨sign, isSign, rfl⟩
    simp [scanExponent, isLetter, skipped, is]

theorem scanExponent_passes (scanned : scanExponent text = some rest) : Passes text rest := by
  obtain ⟨letter, isLetter, sign, isSign, digit, more, rfl, isDigit, rfl⟩ := scanExponent_eq_some.mp scanned
  have number : Passes (digit :: more) (more.dropWhile JsonText.isDigit) := .digits (isPlain_of_isDigit isDigit)
  have signed : Passes (letter :: (sign ++ digit :: more)) (digit :: more) := by
    refine ⟨letter :: sign, by simp, by simp, ?_⟩
    simp only [signs, List.mem_cons, List.not_mem_nil, or_false] at isSign
    rcases isLetter with rfl | rfl <;> rcases isSign with rfl | rfl | rfl <;> simp [isPlain]
  exact signed.trans number

theorem scanDigits_passes {digits : List Char} (scanned : scanDigits text = some (digits, rest)) :
    Passes text rest := by
  unfold scanDigits at scanned
  split at scanned
  · cases scanned
  · split_ifs at scanned with zero digit
    · cases scanned
      exact .one (by rw [zero]; decide)
    · cases scanned
      exact .digits (isPlain_of_isDigit digit)

theorem scanUnsigned_passes {negative : Bool} {value : Value}
    (scanned : scanUnsigned negative text = some (value, rest)) : Passes text rest := by
  simp only [scanUnsigned, Option.bind_eq_some_iff] at scanned
  obtain ⟨⟨digits, tail⟩, digitsOf, scanned⟩ := scanned
  have whole := scanDigits_passes digitsOf
  dsimp only at scanned
  split at scanned
  · rename_i more fraction
    cases scanned
    have part := whole.trans (scanFraction_passes fraction)
    cases exponent : scanExponent more with
    | none => exact part
    | some last => exact part.trans (scanExponent_passes exponent)
  · split at scanned
    · rename_i more exponent
      cases scanned
      exact whole.trans (scanExponent_passes exponent)
    · split at scanned
      · cases scanned
      · cases scanned
        exact whole

theorem scanNumber_passes {value : Value} (scanned : scanNumber text = some (value, rest)) : Passes text rest := by
  unfold scanNumber at scanned
  split at scanned
  · cases scanned
  · split at scanned
    · rename_i minus
      exact (Passes.one (by rw [minus]; decide)).trans (scanUnsigned_passes scanned)
    · exact scanUnsigned_passes scanned

theorem scanConstant_passes {constant : List Char × Option Value}
    (scanned : scanConstant text = some (constant, rest)) :
    Passes text rest := by
  obtain ⟨other, listed, found⟩ := List.exists_of_findSome?_eq_some scanned
  rw [Option.map_eq_some_iff] at found
  obtain ⟨tail, dropped, same⟩ := found
  cases same
  obtain ⟨spelling, rfl, same⟩ := List.dropPrefix?_eq_some_iff.mp dropped
  rw [LawfulBEq.eq_of_beq same]
  refine ⟨constant.1, ?_, rfl, ?_⟩
  all_goals
    simp only [constants, List.mem_cons, List.not_mem_nil, or_false] at listed
    rcases listed with rfl | rfl | rfl | rfl | rfl | rfl <;> simp [isPlain]

theorem scanScalar_ok {hooks : Hooks ε} {value : Value} : scanScalar hooks text = .ok (value, rest) ↔
    (∃ spelling, scanConstant text = some ((spelling, some value), rest)) ∨
    (∃ spelling, scanConstant text = some ((spelling, none), rest) ∧ hooks.constant spelling = none ∧ value = .float) ∨
    scanConstant text = none ∧ scanNumber text = some (value, rest) := by
  unfold scanScalar
  split
  · rename_i constant
    simp [constant]
  · rename_i spelling tail constant
    cases allowed : hooks.constant spelling <;> simp [constant, allowed, and_comm, eq_comm]
  · rename_i none
    cases number : scanNumber text <;> simp [none]

theorem scanScalar_passes {hooks : Hooks ε} {value : Value} (scanned : scanScalar hooks text = .ok (value, rest)) :
    Passes text rest := by
  rcases scanScalar_ok.mp scanned with ⟨_, constant⟩ | ⟨_, constant, -⟩ | ⟨-, number⟩
  · exact scanConstant_passes constant
  · exact scanConstant_passes constant
  · exact scanNumber_passes number

end passes

inductive Part
  | value (value : Value)
  | members (members : List (List ℕ × Value))
  | items (items : List Value)

/-- A text begins with a value, or with the members or items that are left of a container and its end. -/
inductive Reads (hooks : Hooks ε) : Part → List Char → List Char → Prop
  | string {rest tail codes} (read : readString rest = some (codes, tail)) :
      Reads hooks (.value (.str codes)) ('"' :: rest) tail
  | emptyObject {rest tail value} (ends : skipSpace rest = '}' :: tail) (made : hooks.object [] = .ok value) :
      Reads hooks (.value value) ('{' :: rest) tail
  | object {rest tail members value} (inside : Reads hooks (.members members) (skipSpace rest) tail)
      (made : hooks.object members = .ok value) : Reads hooks (.value value) ('{' :: rest) tail
  | emptyArray {rest tail} (ends : skipSpace rest = ']' :: tail) :
      Reads hooks (.value (.list [])) ('[' :: rest) tail
  | array {rest tail items} (continues : ∀ tail, skipSpace rest ≠ ']' :: tail)
      (inside : Reads hooks (.items items) (skipSpace rest) tail) :
      Reads hooks (.value (.list items)) ('[' :: rest) tail
  | scalar {c rest tail value} (quote : c ≠ '"') (brace : c ≠ '{') (bracket : c ≠ '[')
      (scanned : scanScalar hooks (c :: rest) = .ok (value, tail)) : Reads hooks (.value value) (c :: rest) tail
  | lastMember {rest after key named value next tail} (read : readString rest = some (key, named))
      (colon : skipSpace named = ':' :: after) (here : Reads hooks (.value value) (skipSpace after) next)
      (ends : skipSpace next = '}' :: tail) : Reads hooks (.members [(key, value)]) ('"' :: rest) tail
  | member {rest after key named value next more members tail} (read : readString rest = some (key, named))
      (colon : skipSpace named = ':' :: after) (here : Reads hooks (.value value) (skipSpace after) next)
      (comma : skipSpace next = ',' :: more) (others : Reads hooks (.members members) (skipSpace more) tail) :
      Reads hooks (.members ((key, value) :: members)) ('"' :: rest) tail
  | lastItem {text value next tail} (here : Reads hooks (.value value) text next)
      (ends : skipSpace next = ']' :: tail) : Reads hooks (.items [value]) text tail
  | item {text value next more items tail} (here : Reads hooks (.value value) text next)
      (comma : skipSpace next = ',' :: more) (others : Reads hooks (.items items) (skipSpace more) tail) :
      Reads hooks (.items (value :: items)) text tail

variable {hooks : Hooks ε}

theorem Reads.cons {part : Part} {text rest : List Char} (reads : Reads hooks part text rest) :
    ∃ c more, text = c :: more ∧ rest <:+ more := by
  have after {next tail : List Char} {c : Char} (found : skipSpace next = c :: tail) : tail <:+ next := by
    have suffix := skipSpace_suffix next
    rw [found] at suffix
    exact (List.suffix_cons c tail).trans suffix
  have whole {text rest : List Char} (read : ∃ c more, text = c :: more ∧ rest <:+ more) : rest <:+ text := by
    obtain ⟨c, more, rfl, suffix⟩ := read
    exact suffix.trans (List.suffix_cons c more)
  induction reads with
  | string read => exact ⟨_, _, rfl, readString_suffix read⟩
  | emptyObject ends => exact ⟨_, _, rfl, after ends⟩
  | object _ _ ih => exact ⟨_, _, rfl, (whole ih).trans (skipSpace_suffix _)⟩
  | emptyArray ends => exact ⟨_, _, rfl, after ends⟩
  | array _ _ ih => exact ⟨_, _, rfl, (whole ih).trans (skipSpace_suffix _)⟩
  | scalar _ _ _ scanned =>
    obtain ⟨body, some, same, -⟩ := scanScalar_passes scanned
    obtain ⟨first, others, rfl⟩ := List.exists_cons_of_ne_nil some
    rw [List.cons_append, List.cons.injEq] at same
    exact ⟨_, _, rfl, same.2 ▸ List.suffix_append _ _⟩
  | lastMember read colon _ ends ih =>
    exact ⟨_, _, rfl, (after ends).trans ((whole ih).trans ((skipSpace_suffix _).trans ((after colon).trans
      (readString_suffix read))))⟩
  | member read colon _ comma _ ih others =>
    exact ⟨_, _, rfl, (whole others).trans ((skipSpace_suffix _).trans ((after comma).trans ((whole ih).trans
      ((skipSpace_suffix _).trans ((after colon).trans (readString_suffix read))))))⟩
  | lastItem _ ends ih =>
    obtain ⟨c, more, same, suffix⟩ := ih
    exact ⟨c, more, same, (after ends).trans suffix⟩
  | item _ comma _ ih others =>
    obtain ⟨c, more, same, suffix⟩ := ih
    exact ⟨c, more, same, (whole others).trans ((skipSpace_suffix _).trans ((after comma).trans suffix))⟩

theorem Reads.suffix {part : Part} {text rest : List Char} (reads : Reads hooks part text rest) : rest <:+ text := by
  obtain ⟨c, more, rfl, suffix⟩ := reads.cons
  exact suffix.trans (List.suffix_cons c more)

theorem closeObject_ok {members : List (List ℕ × Value)} {rest tail : List Char} {value : Value} :
    closeObject hooks members rest = .ok (value, tail) ↔ hooks.object members = .ok value ∧ rest = tail := by
  unfold closeObject
  cases hooks.object members <;> simp

theorem scan_reads (fuel : ℕ) :
    (∀ {text rest value}, scanOnce hooks fuel text = .ok (value, rest) → Reads hooks (.value value) text rest) ∧
    (∀ {text done rest value}, scanMembers hooks fuel text done = .ok (value, rest) →
      ∃ members, Reads hooks (.members members) text rest ∧ hooks.object (done ++ members) = .ok value) ∧
    ∀ {text done rest value}, scanItems hooks fuel text done = .ok (value, rest) →
      ∃ items, Reads hooks (.items items) text rest ∧ value = .list (done ++ items) := by
  induction fuel with
  | zero => exact ⟨nofun, nofun, nofun⟩
  | succ fuel ih =>
    obtain ⟨once, members, items⟩ := ih
    refine ⟨fun {text rest value} scanned => ?_, fun {text done rest value} scanned => ?_,
      fun {text done rest value} scanned => ?_⟩
    · cases text with
      | nil => cases scanned
      | cons c inside =>
        rw [scanOnce] at scanned
        split_ifs at scanned with quote brace bracket
        · subst quote
          split at scanned
          · cases scanned
            exact .string ‹_›
          · cases scanned
        · subst brace
          split at scanned
          · obtain ⟨made, rfl⟩ := closeObject_ok.mp scanned
            exact .emptyObject ‹_› made
          · obtain ⟨all, reads, made⟩ := members scanned
            exact .object reads made
        · subst bracket
          split at scanned
          · cases scanned
            exact .emptyArray ‹_›
          · obtain ⟨all, reads, rfl⟩ := items scanned
            exact .array ‹_› reads
        · exact .scalar quote brace bracket scanned
    · unfold scanMembers at scanned
      split at scanned
      · split at scanned
        · cases scanned
        · rename_i key named read
          split at scanned
          · rename_i after colon
            split at scanned
            · cases scanned
            · rename_i inner next here
              split at scanned
              · rename_i last ends
                obtain ⟨made, rfl⟩ := closeObject_ok.mp scanned
                exact ⟨_, .lastMember read colon (once here) ends, made⟩
              · rename_i more comma
                obtain ⟨others, reads, made⟩ := members scanned
                rw [List.append_assoc] at made
                exact ⟨_, .member read colon (once here) comma reads, made⟩
              · cases scanned
          · cases scanned
      · cases scanned
    · rw [scanItems] at scanned
      split at scanned
      · cases scanned
      · rename_i inner next here
        split at scanned
        · rename_i last ends
          cases scanned
          exact ⟨_, .lastItem (once here) ends, rfl⟩
        · rename_i more comma
          obtain ⟨others, reads, rfl⟩ := items scanned
          exact ⟨_, .item (once here) comma reads, by rw [List.append_assoc]; rfl⟩
        · cases scanned

theorem skipSpace_le {text rest : List Char} {c : Char} (found : skipSpace text = c :: rest) :
    rest.length + 1 ≤ text.length := by
  have short := (skipSpace_suffix text).length_le
  rw [found] at short
  exact short

/-- The fuel of `loads` is enough: with more, the scanner answers the same. -/
theorem scan_fuel (more fuel : ℕ) :
    (∀ text : List Char, 2 * text.length + 1 ≤ fuel →
      scanOnce hooks (fuel + more) text = scanOnce hooks fuel text) ∧
    (∀ (text : List Char) (done : List (List ℕ × Value)), 2 * text.length + 2 ≤ fuel →
      scanMembers hooks (fuel + more) text done = scanMembers hooks fuel text done) ∧
    ∀ (text : List Char) (done : List Value), 2 * text.length + 2 ≤ fuel →
      scanItems hooks (fuel + more) text done = scanItems hooks fuel text done := by
  induction fuel with
  | zero => exact ⟨by omega, by omega, by omega⟩
  | succ fuel ih =>
    obtain ⟨once, members, items⟩ := ih
    have skips (text : List Char) : (skipSpace text).length ≤ text.length := (skipSpace_suffix text).length_le
    rw [Nat.add_right_comm]
    refine ⟨fun text enough => ?_, fun text done enough => ?_, fun text done enough => ?_⟩
    · cases text with
      | nil => rfl
      | cons c inside =>
        rw [List.length_cons] at enough
        have short := skips inside
        have inside_members := members (skipSpace inside) [] (by omega)
        have inside_items := items (skipSpace inside) [] (by omega)
        rw [scanOnce, scanOnce]
        split_ifs
        · rfl
        · split
          · rfl
          · exact inside_members
        · split
          · rfl
          · exact inside_items
        · rfl
    · cases text with
      | nil => rfl
      | cons c inside =>
        rw [List.length_cons] at enough
        by_cases quote : c = '"'
        · subst quote
          rw [scanMembers, scanMembers]
          cases read : readString inside with
          | none => rfl
          | some found =>
            obtain ⟨key, named⟩ := found
            have named := (readString_suffix read).length_le
            dsimp only
            split
            · rename_i after colon
              have after_le := skipSpace_le colon
              have short := skips after
              rw [once _ (by omega)]
              cases here : scanOnce hooks fuel (skipSpace after) with
              | error error => rfl
              | ok found =>
                obtain ⟨value, next⟩ := found
                have next_le := ((scan_reads fuel).1 here).suffix.length_le
                dsimp only
                split
                · rfl
                · rename_i others comma
                  have others_le := skipSpace_le comma
                  have short := skips others
                  rw [members _ _ (by omega)]
                · rfl
            · rfl
        · rw [scanMembers.eq_3 _ _ _ _ (by simp [quote]), scanMembers.eq_3 _ _ _ _ (by simp [quote])]
    · rw [scanItems, scanItems, once _ (by omega)]
      cases here : scanOnce hooks fuel text with
      | error error => rfl
      | ok found =>
        obtain ⟨value, next⟩ := found
        have next_le := ((scan_reads fuel).1 here).suffix.length_le
        dsimp only
        split
        · rfl
        · rename_i others comma
          have others_le := skipSpace_le comma
          have short := skips others
          rw [items _ _ (by omega)]
        · rfl

def Scanned (hooks : Hooks ε) (fuel : ℕ) (text rest : List Char) : Part → Prop
  | .value value => scanOnce hooks fuel text = .ok (value, rest)
  | .members members => ∀ done, scanMembers hooks fuel text done = closeObject hooks (done ++ members) rest
  | .items items => ∀ done, scanItems hooks fuel text done = .ok (.list (done ++ items), rest)

def Part.need (text : List Char) : Part → ℕ
  | .value _ => 2 * text.length + 1
  | _ => 2 * text.length + 2

theorem Part.need_pos {part : Part} {text : List Char} {fuel : ℕ} (enough : part.need text ≤ fuel) :
    ∃ less, fuel = less + 1 := by
  apply Nat.exists_eq_succ_of_ne_zero
  cases part <;> simp only [Part.need] at enough <;> omega

theorem Reads.members_quote {members : List (List ℕ × Value)} {text rest : List Char}
    (reads : Reads hooks (.members members) text rest) : ∃ inside, text = '"' :: inside := by
  cases reads with
  | lastMember => exact ⟨_, rfl⟩
  | member => exact ⟨_, rfl⟩

theorem Reads.scanned {part : Part} {text rest : List Char} (reads : Reads hooks part text rest) :
    ∀ fuel, part.need text ≤ fuel → Scanned hooks fuel text rest part := by
  have skips (text : List Char) : (skipSpace text).length ≤ text.length := (skipSpace_suffix text).length_le
  induction reads with
  | string read =>
    intro fuel enough
    obtain ⟨fuel, rfl⟩ := Part.need_pos enough
    simp [Scanned, scanOnce, read]
  | emptyObject ends made =>
    intro fuel enough
    obtain ⟨fuel, rfl⟩ := Part.need_pos enough
    simp [Scanned, scanOnce, ends, closeObject, made]
  | @object rest tail members value inside made ih =>
    intro fuel enough
    obtain ⟨fuel, rfl⟩ := Part.need_pos enough
    obtain ⟨named, quote⟩ := inside.members_quote
    have short := skips rest
    have here := ih fuel (by simp only [Part.need, List.length_cons] at enough ⊢; omega) []
    rw [quote] at here
    simp [Scanned, scanOnce, quote, here, closeObject, made]
  | emptyArray ends =>
    intro fuel enough
    obtain ⟨fuel, rfl⟩ := Part.need_pos enough
    simp [Scanned, scanOnce, ends]
  | @array rest tail items continues inside ih =>
    intro fuel enough
    obtain ⟨fuel, rfl⟩ := Part.need_pos enough
    have short := skips rest
    have here := ih fuel (by simp only [Part.need, List.length_cons] at enough ⊢; omega) []
    simp only [Scanned, scanOnce, Char.reduceEq, if_true, if_false]
    exact here
  | scalar quote brace bracket scanned =>
    intro fuel enough
    obtain ⟨fuel, rfl⟩ := Part.need_pos enough
    simp [Scanned, scanOnce, quote, brace, bracket, scanned]
  | @lastMember rest after key named value next tail read colon here ends ih =>
    intro fuel enough
    obtain ⟨fuel, rfl⟩ := Part.need_pos enough
    have named_le := (readString_suffix read).length_le
    have after_le := skipSpace_le colon
    have short := skips after
    have value := ih fuel (by simp only [Part.need, List.length_cons] at enough ⊢; omega)
    simp only [Scanned] at value
    simp [Scanned, scanMembers, read, colon, value, ends]
  | @member rest after key named value next more members tail read colon here comma others ih othersIh =>
    intro fuel enough
    obtain ⟨fuel, rfl⟩ := Part.need_pos enough
    have named_le := (readString_suffix read).length_le
    have after_le := skipSpace_le colon
    have short := skips after
    have next_le := here.suffix.length_le
    have more_le := skipSpace_le comma
    have shorter := skips more
    have value := ih fuel (by simp only [Part.need, List.length_cons] at enough ⊢; omega)
    have rest := othersIh fuel (by simp only [Part.need, List.length_cons] at enough ⊢; omega)
    simp only [Scanned] at value rest
    simp [Scanned, scanMembers, read, colon, value, comma, rest]
  | @lastItem text value next tail here ends ih =>
    intro fuel enough
    obtain ⟨fuel, rfl⟩ := Part.need_pos enough
    have value := ih fuel (by simp only [Part.need] at enough ⊢; omega)
    simp only [Scanned] at value
    simp [Scanned, scanItems, value, ends]
  | @item text value next more items tail here comma others ih othersIh =>
    intro fuel enough
    obtain ⟨fuel, rfl⟩ := Part.need_pos enough
    have next_le := here.suffix.length_le
    have more_le := skipSpace_le comma
    have shorter := skips more
    have value := ih fuel (by simp only [Part.need] at enough ⊢; omega)
    have rest := othersIh fuel (by simp only [Part.need] at enough ⊢; omega)
    simp only [Scanned] at value rest
    simp [Scanned, scanItems, value, comma, rest]

theorem Reads.unique {value other : Value} {text rest tail : List Char} (reads : Reads hooks (.value value) text rest)
    (again : Reads hooks (.value other) text tail) : value = other ∧ rest = tail := by
  have first := reads.scanned _ le_rfl
  have second := again.scanned _ le_rfl
  simp only [Scanned, Part.need] at first second
  rw [first] at second
  exact Prod.mk.injEq .. ▸ Except.ok.inj second

theorem loads_ok {text : List Char} {value : Value} : loads hooks text = .ok value ↔
    text.head? ≠ some '\uFEFF' ∧ ∃ rest, Reads hooks (.value value) (skipSpace text) rest ∧ skipSpace rest = [] := by
  unfold loads
  split_ifs with mark
  · simp [mark]
  · constructor
    · intro loaded
      split at loaded
      · cases loaded
      · rename_i found rest scanned
        split_ifs at loaded with ends
        cases loaded
        exact ⟨mark, rest, (scan_reads _).1 scanned, ends⟩
    · rintro ⟨-, rest, reads, ends⟩
      have short := (skipSpace_suffix text).length_le
      have scanned := reads.scanned (2 * text.length + 1) (by simp only [Part.need]; omega)
      simp only [Scanned] at scanned
      rw [scanned]
      simp only [ends, if_true]

def Hooks.Raises (hooks : Hooks ε) (error : ε) : Prop :=
  (∃ members, hooks.object members = .error error) ∨ ∃ spelling, hooks.constant spelling = some error

theorem closeObject_hook {members : List (List ℕ × Value)} {rest : List Char} {error : ε}
    (refused : closeObject hooks members rest = .error (.hook error)) : hooks.Raises error := by
  unfold closeObject at refused
  split at refused
  · cases refused
  · cases refused
    exact .inl ⟨_, ‹_›⟩

theorem scanScalar_hook {text : List Char} {error : ε} (refused : scanScalar hooks text = .error (.hook error)) :
    hooks.Raises error := by
  unfold scanScalar at refused
  split at refused
  · cases refused
  · split at refused
    · cases refused
      exact .inr ⟨_, ‹_›⟩
    · cases refused
  · split at refused <;> cases refused

theorem scan_hook {error : ε} (fuel : ℕ) :
    (∀ {text}, scanOnce hooks fuel text = .error (.hook error) → hooks.Raises error) ∧
    (∀ {text done}, scanMembers hooks fuel text done = .error (.hook error) → hooks.Raises error) ∧
    ∀ {text done}, scanItems hooks fuel text done = .error (.hook error) → hooks.Raises error := by
  induction fuel with
  | zero => exact ⟨nofun, nofun, nofun⟩
  | succ fuel ih =>
    obtain ⟨once, members, items⟩ := ih
    refine ⟨fun {text} refused => ?_, fun {text done} refused => ?_, fun {text done} refused => ?_⟩
    · cases text with
      | nil => cases refused
      | cons c inside =>
        rw [scanOnce] at refused
        split_ifs at refused
        · split at refused <;> cases refused
        · split at refused
          · exact closeObject_hook refused
          · exact members refused
        · split at refused
          · cases refused
          · exact items refused
        · exact scanScalar_hook refused
    · unfold scanMembers at refused
      split at refused
      · split at refused
        · cases refused
        · split at refused
          · split at refused
            · cases refused
              exact once ‹_›
            · split at refused
              · exact closeObject_hook refused
              · exact members refused
              · cases refused
          · cases refused
      · cases refused
    · rw [scanItems] at refused
      split at refused
      · cases refused
        exact once ‹_›
      · split at refused
        · cases refused
        · exact items refused
        · cases refused

theorem loads_hook {text : List Char} {error : ε} (refused : loads hooks text = .error (.hook error)) :
    hooks.Raises error := by
  unfold loads at refused
  split at refused
  · cases refused
  · split at refused
    · cases refused
      exact (scan_hook _).1 ‹_›
    · split at refused <;> cases refused

end JsonText
