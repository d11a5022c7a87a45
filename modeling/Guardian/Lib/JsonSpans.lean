import Guardian.Lib.JsonReading

namespace JsonText

variable {ε : Type} {hooks : Hooks ε}

/-- What lies before a suffix that goes on with a given end goes on with that end too. -/
theorem ends_of_suffix {kept last text : List Char} (suffix : kept ++ last <:+ text) :
    ∃ front, text = front ++ last := by
  obtain ⟨front, rfl⟩ := suffix
  exact ⟨front ++ kept, (List.append_assoc _ _ _).symm⟩

theorem cons_of_shorter {c : Char} {rest text last kept : List Char} (same : c :: rest = text ++ last)
    (suffix : kept ++ last <:+ rest) : ∃ front, text = c :: front ∧ rest = front ++ last := by
  cases text with
  | nil =>
    have long := suffix.length_le
    rw [List.nil_append] at same
    rw [← same, List.length_append, List.length_cons] at long
    omega
  | cons d front =>
    rw [List.cons_append, List.cons.injEq] at same
    obtain ⟨rfl, rfl⟩ := same
    exact ⟨front, rfl, rfl⟩

theorem dropWhile_cut {p : Char → Bool} {text kept last : List Char}
    (dropped : (text ++ last).dropWhile p = kept ++ last) :
    text.dropWhile p = kept ∧ (text ++ last).takeWhile p = text.takeWhile p := by
  induction text with
  | nil =>
    have whole := congrArg List.length (List.takeWhile_append_dropWhile (p := p) (l := last))
    rw [List.nil_append] at dropped ⊢
    rw [dropped, List.length_append, List.length_append] at whole
    exact ⟨(List.length_eq_zero_iff.mp (by omega)).symm, List.length_eq_zero_iff.mp (by omega)⟩
  | cons c text ih =>
    rw [List.cons_append, List.dropWhile_cons] at dropped
    rw [List.cons_append, List.dropWhile_cons, List.takeWhile_cons, List.takeWhile_cons]
    split at dropped
    · rename_i passes
      rw [if_pos passes, if_pos passes, if_pos passes]
      exact ⟨(ih dropped).1, congrArg _ (ih dropped).2⟩
    · rename_i stays
      rw [if_neg stays, if_neg stays, if_neg stays]
      exact ⟨List.append_cancel_right dropped, rfl⟩

theorem skipSpace_cut {text kept last : List Char} (skipped : skipSpace (text ++ last) = kept ++ last) :
    skipSpace text = kept := (dropWhile_cut skipped).1

section scanners

variable {text kept last : List Char}

theorem readString_cut {codes : List ℕ} (read : readString (text ++ last) = some (codes, kept ++ last)) :
    readString text = some (codes, kept) := by
  rw [readString_eq_some] at read ⊢
  obtain ⟨body, isBody, decoded, whole⟩ := read
  exact ⟨body, isBody, decoded,
    List.append_cancel_right (whole.trans (List.append_assoc body ('"' :: kept) last).symm)⟩

theorem Passes.front (passes : Passes (text ++ last) (kept ++ last)) : ∃ c front, text = c :: front := by
  have short := passes.shorter
  rw [List.length_append, List.length_append] at short
  cases text with
  | nil => exact absurd short (by simp)
  | cons c front => exact ⟨c, front, rfl⟩

theorem scanDigits_cut {digits : List Char} (scanned : scanDigits (text ++ last) = some (digits, kept ++ last)) :
    scanDigits text = some (digits, kept) := by
  obtain ⟨c, front, rfl⟩ := (scanDigits_passes scanned).front
  rw [List.cons_append, scanDigits] at scanned
  rw [scanDigits]
  split_ifs at scanned ⊢
  · simp_all
  · simp only [Option.some.injEq, Prod.mk.injEq] at scanned ⊢
    obtain ⟨rfl, dropped⟩ := scanned
    obtain ⟨same, taken⟩ := dropWhile_cut dropped
    exact ⟨congrArg _ taken.symm, same⟩

theorem scanFraction_cut (scanned : scanFraction (text ++ last) = some (kept ++ last)) :
    scanFraction text = some kept := by
  obtain ⟨c, more, same, digit, ends⟩ := scanFraction_eq_some.mp scanned
  have suffix : kept ++ last <:+ more := ends ▸ List.dropWhile_suffix _
  obtain ⟨front, rfl, tailed⟩ := cons_of_shorter same.symm (suffix.trans (List.suffix_cons c more))
  obtain ⟨front, rfl, rfl⟩ := cons_of_shorter tailed suffix
  exact scanFraction_eq_some.mpr ⟨c, front, rfl, digit, (dropWhile_cut ends.symm).1.symm⟩

theorem scanFraction_none (scanned : scanFraction (text ++ last) = none) : scanFraction text = none := by
  by_contra some
  obtain ⟨rest, is⟩ := Option.ne_none_iff_exists'.mp some
  obtain ⟨c, more, rfl, digit, -⟩ := scanFraction_eq_some.mp is
  have whole := scanFraction_eq_some.mpr ⟨c, more ++ last, rfl, digit, rfl⟩
  rw [← List.cons_append, ← List.cons_append, scanned] at whole
  cases whole

theorem scanExponent_cut (scanned : scanExponent (text ++ last) = some (kept ++ last)) :
    scanExponent text = some kept := by
  obtain ⟨letter, isLetter, sign, isSign, digit, more, same, is, ends⟩ := scanExponent_eq_some.mp scanned
  have suffix : kept ++ last <:+ more := ends ▸ List.dropWhile_suffix _
  have signed : kept ++ last <:+ sign ++ digit :: more :=
    suffix.trans ((List.suffix_cons digit more).trans (List.suffix_append _ _))
  obtain ⟨number, rfl, tailed⟩ := cons_of_shorter same.symm signed
  obtain ⟨front, rfl⟩ := ends_of_suffix suffix
  rw [← List.cons_append, ← List.append_assoc] at tailed
  rw [← List.append_cancel_right tailed]
  exact scanExponent_eq_some.mpr
    ⟨letter, isLetter, sign, isSign, digit, front, rfl, is, (dropWhile_cut ends.symm).1.symm⟩

theorem scanExponent_none (scanned : scanExponent (text ++ last) = none) : scanExponent text = none := by
  by_contra some
  obtain ⟨rest, is⟩ := Option.ne_none_iff_exists'.mp some
  obtain ⟨letter, isLetter, sign, isSign, digit, more, rfl, is, -⟩ := scanExponent_eq_some.mp is
  have whole := scanExponent_eq_some.mpr
    ⟨letter, isLetter, sign, isSign, digit, more ++ last, rfl, is, rfl⟩
  simp only [List.cons_append, List.append_assoc] at scanned
  rw [scanned] at whole
  cases whole

theorem scanUnsigned_cut {negative : Bool} {value : Value}
    (scanned : scanUnsigned negative (text ++ last) = some (value, kept ++ last)) :
    scanUnsigned negative text = some (value, kept) := by
  simp only [scanUnsigned, Option.bind_eq_some_iff] at scanned ⊢
  obtain ⟨⟨digits, tail⟩, digitsOf, scanned⟩ := scanned
  dsimp only at scanned
  cases fraction : scanFraction tail with
  | some more =>
    simp only [fraction, Option.some.injEq, Prod.mk.injEq] at scanned
    obtain ⟨rfl, ends⟩ := scanned
    cases exponent : scanExponent more with
    | some left =>
      rw [exponent, Option.getD_some] at ends
      subst ends
      obtain ⟨fraction_end, rfl⟩ := ends_of_suffix (scanExponent_passes exponent).suffix
      obtain ⟨digits_end, rfl⟩ := ends_of_suffix (scanFraction_passes fraction).suffix
      refine ⟨(digits, digits_end), scanDigits_cut digitsOf, ?_⟩
      simp [scanFraction_cut fraction, scanExponent_cut exponent]
    | none =>
      rw [exponent, Option.getD_none] at ends
      subst ends
      obtain ⟨digits_end, rfl⟩ := ends_of_suffix (scanFraction_passes fraction).suffix
      refine ⟨(digits, digits_end), scanDigits_cut digitsOf, ?_⟩
      simp [scanFraction_cut fraction, scanExponent_none exponent]
  | none =>
    cases exponent : scanExponent tail with
    | some left =>
      simp only [fraction, exponent, Option.some.injEq, Prod.mk.injEq] at scanned
      obtain ⟨rfl, rfl⟩ := scanned
      obtain ⟨digits_end, rfl⟩ := ends_of_suffix (scanExponent_passes exponent).suffix
      refine ⟨(digits, digits_end), scanDigits_cut digitsOf, ?_⟩
      simp [scanFraction_none fraction, scanExponent_cut exponent]
    | none =>
      simp only [fraction, exponent] at scanned
      rw [ite_eq_iff, or_iff_right (by simp)] at scanned
      obtain ⟨few, same⟩ := scanned
      cases same
      refine ⟨(digits, kept), scanDigits_cut digitsOf, ?_⟩
      simp [scanFraction_none fraction, scanExponent_none exponent, few]

theorem scanNumber_cut {value : Value} (scanned : scanNumber (text ++ last) = some (value, kept ++ last)) :
    scanNumber text = some (value, kept) := by
  obtain ⟨c, front, rfl⟩ := (scanNumber_passes scanned).front
  rw [List.cons_append, scanNumber] at scanned
  rw [scanNumber]
  split_ifs at scanned ⊢
  · exact scanUnsigned_cut scanned
  · exact @scanUnsigned_cut (c :: front) _ _ _ _ scanned

theorem dropPrefix?_none {spelling : List Char} (absent : (text ++ last).dropPrefix? spelling = none) :
    text.dropPrefix? spelling = none := by
  by_contra there
  obtain ⟨rest, dropped⟩ := Option.ne_none_iff_exists'.mp there
  obtain ⟨first, rfl, is⟩ := List.dropPrefix?_eq_some_iff.mp dropped
  have whole : (first ++ rest ++ last).dropPrefix? spelling = some (rest ++ last) :=
    List.dropPrefix?_eq_some_iff.mpr ⟨first, List.append_assoc _ _ _, is⟩
  rw [absent] at whole
  cases whole

theorem scanConstant_cut {constant : List Char × Option Value}
    (scanned : scanConstant (text ++ last) = some (constant, kept ++ last)) :
    scanConstant text = some (constant, kept) := by
  unfold scanConstant at scanned ⊢
  rw [List.findSome?_eq_some_iff] at scanned ⊢
  obtain ⟨before, found, after, listed, here, none⟩ := scanned
  refine ⟨before, found, after, listed, ?_, fun other member => ?_⟩
  · rw [Option.map_eq_some_iff] at here ⊢
    obtain ⟨rest, dropped, same⟩ := here
    cases same
    obtain ⟨first, same, is⟩ := List.dropPrefix?_eq_some_iff.mp dropped
    rw [← List.append_assoc] at same
    exact ⟨kept, List.dropPrefix?_eq_some_iff.mpr ⟨first, List.append_cancel_right same, is⟩, rfl⟩
  · exact Option.map_eq_none_iff.mpr (dropPrefix?_none (Option.map_eq_none_iff.mp (none other member)))

theorem scanConstant_none (scanned : scanConstant (text ++ last) = none) : scanConstant text = none := by
  unfold scanConstant at scanned ⊢
  rw [List.findSome?_eq_none_iff] at scanned ⊢
  intro constant member
  exact Option.map_eq_none_iff.mpr (dropPrefix?_none (Option.map_eq_none_iff.mp (scanned constant member)))

theorem scanScalar_cut {value : Value} (scanned : scanScalar hooks (text ++ last) = .ok (value, kept ++ last)) :
    scanScalar hooks text = .ok (value, kept) := by
  rw [scanScalar_ok] at scanned ⊢
  rcases scanned with ⟨spelling, constant⟩ | ⟨spelling, constant, allowed, rfl⟩ | ⟨none, number⟩
  · exact .inl ⟨spelling, scanConstant_cut constant⟩
  · exact .inr (.inl ⟨spelling, scanConstant_cut constant, allowed, rfl⟩)
  · exact .inr (.inr ⟨scanConstant_none none, scanNumber_cut number⟩)

end scanners

section front

variable {text front last : List Char}

theorem skipSpace_front (skipped : skipSpace text = front ++ last) :
    ∃ before, text = before ++ last ∧ skipSpace before = front := by
  obtain ⟨before, rfl⟩ := ends_of_suffix (skipped ▸ skipSpace_suffix text)
  exact ⟨before, rfl, skipSpace_cut skipped⟩

theorem skipSpace_front_cons {c : Char} (skipped : skipSpace text = c :: (front ++ last)) :
    ∃ before, text = before ++ last ∧ skipSpace before = c :: front :=
  skipSpace_front skipped

theorem front_of_append {c : Char} (same : c :: (front ++ last) = text ++ last) : c :: front = text :=
  List.append_cancel_right (show (c :: front) ++ last = text ++ last from same)

theorem readString_front {codes : List ℕ} (read : readString text = some (codes, front ++ last)) :
    ∃ before, text = before ++ last ∧ readString before = some (codes, front) := by
  obtain ⟨before, rfl⟩ := ends_of_suffix (readString_suffix read)
  exact ⟨before, rfl, readString_cut read⟩

end front

theorem Reads.cut {part : Part} {whole rest : List Char} (reads : Reads hooks part whole rest) :
    ∀ {text kept last : List Char}, whole = text ++ last → rest = kept ++ last → Reads hooks part text kept := by
  induction reads with
  | string read =>
    rintro text kept last same rfl
    obtain ⟨body, rfl, string⟩ := readString_front read
    obtain rfl := front_of_append same
    exact .string string
  | emptyObject ends made =>
    rintro text kept last same rfl
    obtain ⟨inside, rfl, closes⟩ := skipSpace_front_cons ends
    obtain rfl := front_of_append same
    exact .emptyObject closes made
  | object reads made ih =>
    rintro text kept last same rfl
    obtain ⟨front, first⟩ := ends_of_suffix reads.suffix
    obtain ⟨inside, rfl, skipped⟩ := skipSpace_front first
    obtain rfl := front_of_append same
    exact .object (skipped ▸ ih first rfl) made
  | emptyArray ends =>
    rintro text kept last same rfl
    obtain ⟨inside, rfl, closes⟩ := skipSpace_front_cons ends
    obtain rfl := front_of_append same
    exact .emptyArray closes
  | array continues reads ih =>
    rintro text kept last same rfl
    obtain ⟨front, first⟩ := ends_of_suffix reads.suffix
    obtain ⟨inside, rfl, skipped⟩ := skipSpace_front first
    obtain rfl := front_of_append same
    refine .array (fun tail closes => continues (tail ++ last) ?_) (skipped ▸ ih first rfl)
    rw [first, ← skipped, closes]
    rfl
  | @scalar c rest tail value quote brace bracket scanned =>
    rintro text kept last same rfl
    obtain ⟨d, front, rfl⟩ := (same ▸ scanScalar_passes scanned).front
    rw [same] at scanned
    obtain ⟨rfl, -⟩ := List.cons.inj same
    exact .scalar quote brace bracket (scanScalar_cut scanned)
  | lastMember read colon reads ends ih =>
    rintro text kept last same rfl
    obtain ⟨next, rfl, closes⟩ := skipSpace_front_cons ends
    obtain ⟨front, first⟩ := ends_of_suffix reads.suffix
    obtain ⟨after, rfl, skipped⟩ := skipSpace_front first
    obtain ⟨key, rfl, names⟩ := skipSpace_front_cons colon
    obtain ⟨body, rfl, string⟩ := readString_front read
    obtain rfl := front_of_append same
    exact .lastMember string names (skipped ▸ ih first rfl) closes
  | member read colon reads comma others ih othersIh =>
    rintro text kept last same rfl
    obtain ⟨rear, second⟩ := ends_of_suffix others.suffix
    obtain ⟨more, rfl, spaced⟩ := skipSpace_front second
    obtain ⟨next, rfl, separates⟩ := skipSpace_front_cons comma
    obtain ⟨front, first⟩ := ends_of_suffix reads.suffix
    obtain ⟨after, rfl, skipped⟩ := skipSpace_front first
    obtain ⟨key, rfl, names⟩ := skipSpace_front_cons colon
    obtain ⟨body, rfl, string⟩ := readString_front read
    obtain rfl := front_of_append same
    exact .member string names (skipped ▸ ih first rfl) separates (spaced ▸ othersIh second rfl)
  | lastItem reads ends ih =>
    rintro text kept last same rfl
    obtain ⟨next, rfl, closes⟩ := skipSpace_front_cons ends
    exact .lastItem (ih same rfl) closes
  | item reads comma others ih othersIh =>
    rintro text kept last same rfl
    obtain ⟨rear, second⟩ := ends_of_suffix others.suffix
    obtain ⟨more, rfl, spaced⟩ := skipSpace_front second
    obtain ⟨next, rfl, separates⟩ := skipSpace_front_cons comma
    exact .item (ih same rfl) separates (spaced ▸ othersIh second rfl)

def Value.IsLeaf : Value → Prop
  | .null | .bool _ | .int _ | .float => True
  | _ => False

theorem scanNumber_leaf {text rest : List Char} {value : Value} (scanned : scanNumber text = some (value, rest)) :
    value.IsLeaf := by
  have unsigned {negative : Bool} {text : List Char} (scanned : scanUnsigned negative text = some (value, rest)) :
      value.IsLeaf := by
    simp only [scanUnsigned, Option.bind_eq_some_iff] at scanned
    obtain ⟨digits, -, scanned⟩ := scanned
    split at scanned
    · cases scanned
      trivial
    · split at scanned
      · cases scanned
        trivial
      · split at scanned
        · cases scanned
        · cases scanned
          trivial
  unfold scanNumber at scanned
  split at scanned
  · cases scanned
  · split at scanned <;> exact unsigned scanned

theorem scanScalar_leaf {text rest : List Char} {value : Value}
    (scanned : scanScalar hooks text = .ok (value, rest)) : value.IsLeaf := by
  rcases scanScalar_ok.mp scanned with ⟨spelling, constant⟩ | ⟨-, -, -, rfl⟩ | ⟨-, number⟩
  · obtain ⟨other, listed, found⟩ := List.exists_of_findSome?_eq_some constant
    rw [Option.map_eq_some_iff] at found
    obtain ⟨tail, dropped, same⟩ := found
    cases same
    simp only [constants, List.mem_cons, Prod.mk.injEq, Option.some.injEq, reduceCtorEq, and_false, List.not_mem_nil,
      or_false] at listed
    rcases listed with ⟨-, rfl⟩ | ⟨-, rfl⟩ | ⟨-, rfl⟩ <;> trivial
  · trivial
  · exact scanNumber_leaf number

section hooks

variable {ε' : Type} {other : Hooks ε'} {related : Value → Value → Prop}

abbrev MembersRelated (related : Value → Value → Prop) : List (List ℕ × Value) → List (List ℕ × Value) → Prop :=
  List.Forall₂ fun member member' => member.1 = member'.1 ∧ related member.2 member'.2

theorem membersRelated_names {members others : List (List ℕ × Value)} (same : MembersRelated related members others) :
    members.map Prod.fst = others.map Prod.fst := by
  induction same with
  | nil => rfl
  | cons first _ ih => rw [List.map_cons, List.map_cons, first.1, ih]

theorem membersRelated_lookup {members others : List (List ℕ × Value)} (same : MembersRelated related members others)
    {key : List ℕ} {value : Value} (found : members.lookup key = some value) :
    ∃ value', others.lookup key = some value' ∧ related value value' := by
  induction same with
  | nil => cases found
  | @cons member other _ _ first _ ih =>
    rw [List.lookup_cons] at found ⊢
    rw [← first.1]
    split at found
    · cases found
      exact ⟨_, rfl, first.2⟩
    · exact ih found

/-- What one reader accepts another accepts, with related values. -/
structure Hooks.Simulates (hooks : Hooks ε) (other : Hooks ε') (related : Value → Value → Prop) : Prop where
  refl : ∀ value, related value value
  list : ∀ {items items'}, List.Forall₂ related items items' → related (.list items) (.list items')
  object : ∀ {members members' value}, MembersRelated related members members' →
    hooks.object members = .ok value → ∃ value', other.object members' = .ok value' ∧ related value value'
  constant : ∀ spelling, hooks.constant spelling = none → other.constant spelling = none

inductive Part.Related (related : Value → Value → Prop) : Part → Part → Prop
  | value {value value'} (same : related value value') : Related related (.value value) (.value value')
  | members {members members'} (same : MembersRelated related members members') :
      Related related (.members members) (.members members')
  | items {items items'} (same : List.Forall₂ related items items') : Related related (.items items) (.items items')

theorem Hooks.Simulates.scalar (simulates : hooks.Simulates other related) {text rest : List Char} {value : Value}
    (scanned : scanScalar hooks text = .ok (value, rest)) : scanScalar other text = .ok (value, rest) := by
  rw [scanScalar_ok] at scanned ⊢
  rcases scanned with constant | ⟨spelling, constant, allowed, float⟩ | number
  · exact .inl constant
  · exact .inr (.inl ⟨spelling, constant, simulates.constant _ allowed, float⟩)
  · exact .inr (.inr number)

theorem Reads.rehook (simulates : hooks.Simulates other related) {part : Part} {text rest : List Char}
    (reads : Reads hooks part text rest) : ∃ part', Reads other part' text rest ∧ Part.Related related part part' := by
  induction reads with
  | string read => exact ⟨_, .string read, .value (simulates.refl _)⟩
  | emptyObject ends made =>
    obtain ⟨value', made', same⟩ := simulates.object .nil made
    exact ⟨_, .emptyObject ends made', .value same⟩
  | object _ made ih =>
    obtain ⟨_, inside, agrees⟩ := ih
    cases agrees with | members members =>
    obtain ⟨value', made', same⟩ := simulates.object members made
    exact ⟨_, .object inside made', .value same⟩
  | emptyArray ends => exact ⟨_, .emptyArray ends, .value (simulates.refl _)⟩
  | array continues _ ih =>
    obtain ⟨_, inside, agrees⟩ := ih
    cases agrees with | items items =>
    exact ⟨_, .array continues inside, .value (simulates.list items)⟩
  | scalar quote brace bracket scanned =>
    exact ⟨_, .scalar quote brace bracket (simulates.scalar scanned), .value (simulates.refl _)⟩
  | lastMember read colon _ ends ih =>
    obtain ⟨_, here, ⟨same⟩⟩ := ih
    exact ⟨_, .lastMember read colon here ends, .members (.cons ⟨rfl, same⟩ .nil)⟩
  | member read colon _ comma _ ih othersIh =>
    obtain ⟨_, here, ⟨same⟩⟩ := ih
    obtain ⟨_, others, agrees⟩ := othersIh
    cases agrees with | members rest =>
    exact ⟨_, .member read colon here comma others, .members (.cons ⟨rfl, same⟩ rest)⟩
  | lastItem _ ends ih =>
    obtain ⟨_, here, ⟨same⟩⟩ := ih
    exact ⟨_, .lastItem here ends, .items (.cons same .nil)⟩
  | item _ comma _ ih othersIh =>
    obtain ⟨_, here, ⟨same⟩⟩ := ih
    obtain ⟨_, others, agrees⟩ := othersIh
    cases agrees with | items rest =>
    exact ⟨_, .item here comma others, .items (.cons same rest)⟩

end hooks

end JsonText
