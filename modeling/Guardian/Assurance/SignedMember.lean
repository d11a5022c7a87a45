import Guardian.Lib.JsonSpans
import Guardian.Assurance.SignedText

namespace Guardian.Assurance

open JsonText Raising Word

variable {ε η : Type} {scanner : MemberScanner ε} {hooks : Hooks η}

theorem stringEnd_body {body : List Char} (isBody : IsBody body) (rest : List Char) :
    stringEnd scanner false (body ++ '"' :: rest) = .ok rest := by
  induction isBody with
  | nil => simp [stringEnd]
  | escaped _ ih => simpa [stringEnd] using ih
  | plain quote backslash _ ih => simpa [stringEnd, quote, backslash] using ih

theorem containerEnd_body {body : List Char} (isBody : IsBody body) (stack rest : List Char) :
    containerEnd scanner stack true false (body ++ '"' :: rest) = containerEnd scanner stack false false rest := by
  induction isBody with
  | nil => simp [containerEnd]
  | escaped _ ih => simpa [containerEnd] using ih
  | plain quote backslash _ ih => simpa [containerEnd, quote, backslash] using ih

theorem containerEnd_plain {c : Char} (plain : isPlain c) (stack rest : List Char) :
    containerEnd scanner stack false false (c :: rest) = containerEnd scanner stack false false rest := by
  simp only [isPlain, List.mem_cons, List.not_mem_nil, or_false, not_or, decide_eq_true_eq] at plain
  obtain ⟨quote, opens, closes, brace, ends⟩ := plain
  rw [containerEnd.eq_def]
  simp only [quote, opens, closes, brace, ends, or_self, if_false]

theorem containerEnd_passes {stack text rest : List Char} (passes : Passes text rest) :
    containerEnd scanner stack false false text = containerEnd scanner stack false false rest := by
  obtain ⟨body, -, rfl, plain⟩ := passes
  induction body with
  | nil => rfl
  | cons c body ih =>
    rw [List.forall_mem_cons] at plain
    rw [List.cons_append, containerEnd_plain plain.1, ih plain.2]

theorem containerEnd_skipSpace (stack text : List Char) :
    containerEnd scanner stack false false (skipSpace text) = containerEnd scanner stack false false text := by
  induction text with
  | nil => rfl
  | cons c text ih =>
    rw [skipSpace, List.dropWhile_cons]
    split
    · rename_i space
      have plain : isPlain c := by
        simp only [isSpace, Bool.or_eq_true, decide_eq_true_eq] at space
        rcases space with ((rfl | rfl) | rfl) | rfl <;> decide
      rw [containerEnd_plain plain]
      exact ih
    · rfl

/-- What follows a container, when the brackets around it are given. -/
def afterContainer (scanner : MemberScanner ε) (stack rest : List Char) : Raises ε (List Char) :=
  if stack = [] then .ok rest else containerEnd scanner stack false false rest

def Spans (scanner : MemberScanner ε) (text rest : List Char) : Part → Prop
  | .value _ => ∀ stack, stack ≠ [] →
    containerEnd scanner stack false false text = containerEnd scanner stack false false rest
  | .members _ => ∀ stack, containerEnd scanner ('{' :: stack) false false text = afterContainer scanner stack rest
  | .items _ => ∀ stack, containerEnd scanner ('[' :: stack) false false text = afterContainer scanner stack rest

theorem containerEnd_opens {opener : Char} (stack rest : List Char) (known : opener = '[' ∨ opener = '{') :
    containerEnd scanner stack false false (opener :: rest) =
      containerEnd scanner (opener :: stack) false false (skipSpace rest) := by
  rw [containerEnd_skipSpace]
  rcases known with rfl | rfl <;> simp [containerEnd]

theorem containerEnd_closes {opener : Char} (stack rest : List Char) (known : opener = '[' ∨ opener = '{') :
    containerEnd scanner (opener :: stack) false false (closerOf opener :: rest) =
      afterContainer scanner stack rest := by
  rcases known with rfl | rfl <;> simp [containerEnd, closerOf, afterContainer]

theorem containerEnd_string {text rest : List Char} {codes : List ℕ} (read : readString text = some (codes, rest))
    (stack : List Char) :
    containerEnd scanner stack false false ('"' :: text) = containerEnd scanner stack false false rest := by
  obtain ⟨body, isBody, -, rfl⟩ := readString_eq_some.mp read
  rw [← containerEnd_body isBody stack rest]
  simp [containerEnd]

theorem containerEnd_separator {c : Char} {text rest : List Char} (found : skipSpace text = c :: rest)
    (plain : isPlain c) (stack : List Char) :
    containerEnd scanner stack false false text = containerEnd scanner stack false false (skipSpace rest) := by
  rw [← containerEnd_skipSpace, found, containerEnd_plain plain, containerEnd_skipSpace]

theorem containerEnd_closer {opener : Char} {text rest : List Char} (found : skipSpace text = closerOf opener :: rest)
    (known : opener = '[' ∨ opener = '{') (stack : List Char) :
    containerEnd scanner (opener :: stack) false false text = afterContainer scanner stack rest := by
  rw [← containerEnd_skipSpace, found, containerEnd_closes stack rest known]

theorem spans_of_reads {part : Part} {text rest : List Char} (reads : Reads hooks part text rest) :
    Spans scanner text rest part := by
  induction reads with
  | string read => exact fun stack _ => containerEnd_string read stack
  | emptyObject ends _ =>
    intro stack inside
    rw [containerEnd_opens stack _ (.inr rfl), containerEnd_skipSpace, containerEnd_closer ends (.inr rfl),
      afterContainer, if_neg inside]
  | object _ _ ih =>
    intro stack inside
    rw [containerEnd_opens stack _ (.inr rfl), ih stack, afterContainer, if_neg inside]
  | emptyArray ends =>
    intro stack inside
    rw [containerEnd_opens stack _ (.inl rfl), containerEnd_skipSpace, containerEnd_closer ends (.inl rfl),
      afterContainer, if_neg inside]
  | array _ _ ih =>
    intro stack inside
    rw [containerEnd_opens stack _ (.inl rfl), ih stack, afterContainer, if_neg inside]
  | scalar _ _ _ scanned => exact fun _ _ => containerEnd_passes (scanScalar_passes scanned)
  | lastMember read colon _ ends ih =>
    intro stack
    rw [containerEnd_string read, containerEnd_separator colon (by decide), ih _ (by simp),
      containerEnd_closer ends (.inr rfl)]
  | member read colon _ comma _ ih others =>
    intro stack
    rw [containerEnd_string read, containerEnd_separator colon (by decide), ih _ (by simp),
      containerEnd_separator comma (by decide), others stack]
  | lastItem _ ends ih =>
    intro stack
    rw [ih _ (by simp), containerEnd_closer ends (.inl rfl)]
  | item _ comma _ ih others =>
    intro stack
    rw [ih _ (by simp), containerEnd_separator comma (by decide), others stack]

theorem scanValueEnd_reads {value : Value} {c : Char} {text rest : List Char}
    (reads : Reads hooks (.value value) (c :: text) rest) (known : c = '"' ∨ c = '[' ∨ c = '{') :
    scanValueEnd scanner (c :: text) = .ok rest := by
  cases reads with
  | string read =>
    obtain ⟨body, isBody, -, rfl⟩ := readString_eq_some.mp read
    simpa [scanValueEnd, scanStringEnd] using stringEnd_body isBody rest
  | emptyObject ends _ =>
    have whole : containerEnd scanner ['{'] false false _ = _ := containerEnd_closer ends (.inr rfl) []
    simpa [scanValueEnd, afterContainer] using whole
  | object inside _ =>
    have whole : Spans scanner _ _ _ := spans_of_reads inside
    have ends := whole []
    simpa [scanValueEnd, afterContainer, containerEnd_skipSpace] using ends
  | emptyArray ends =>
    have whole : containerEnd scanner ['['] false false _ = _ := containerEnd_closer ends (.inl rfl) []
    simpa [scanValueEnd, afterContainer] using whole
  | array _ inside =>
    have whole : Spans scanner _ _ _ := spans_of_reads inside
    have ends := whole []
    simpa [scanValueEnd, afterContainer, containerEnd_skipSpace] using ends
  | scalar quote brace bracket _ => rcases known with rfl | rfl | rfl <;> contradiction

theorem reads_text {codes : PyString} {text rest : List Char}
    (reads : Reads plainHooks (.value (.str codes)) text rest) : ∃ inside, text = '"' :: inside := by
  cases reads with
  | string => exact ⟨_, rfl⟩
  | emptyObject _ made => cases made
  | object _ made => cases made
  | scalar _ _ _ scanned => exact (scanScalar_leaf scanned).elim

theorem upTo_append (source rest : List Char) : upTo (source ++ rest) rest = source := by
  rw [upTo, List.length_append, Nat.add_sub_cancel, List.take_left]

theorem loadName_reads {text rest : List Char} {key : PyString} (read : readString text = some (key, rest)) :
    loadName scanner (upTo ('"' :: text) rest) = .ok (.str key) := by
  obtain ⟨body, isBody, decoded, rfl⟩ := readString_eq_some.mp read
  have name : upTo ('"' :: (body ++ '"' :: rest)) rest = '"' :: (body ++ ['"']) := by
    rw [← upTo_append ('"' :: (body ++ ['"'])) rest]
    simp
  have loaded : loads plainHooks ('"' :: (body ++ ['"'])) = .ok (.str key) :=
    loads_ok.mpr ⟨by simp, [], .string (readString_eq_some.mpr ⟨body, isBody, decoded, rfl⟩), rfl⟩
  rw [loadName, name, loaded]

/-- A piece of text that was cut out where a value is read: if it is an object, it is that value. -/
structure CutOut (value : Value) (source : List Char) : Prop where
  tight : skipSpace source = source
  object : source.head? = some '{' → Reads plainHooks (.value value) source []

theorem skipSpace_take (text : List Char) (count : ℕ) :
    skipSpace ((skipSpace text).take count) = (skipSpace text).take count := by
  have tight := List.head?_dropWhile_not isSpace text
  cases same : skipSpace text with
  | nil => simp [skipSpace]
  | cons c rest =>
    cases count with
    | zero => rfl
    | succ count =>
      rw [← skipSpace, same] at tight
      rw [List.take_succ_cons, skipSpace, List.dropWhile_cons, if_neg (Bool.eq_false_iff.mp tight)]

theorem cutOut_reads {text next after : List Char} {value : Value}
    (reads : Reads plainHooks (.value value) (skipSpace text) next)
    (found : scanValueEnd scanner (skipSpace text) = .ok after) : CutOut value (upTo (skipSpace text) after) := by
  refine ⟨skipSpace_take _ _, fun brace => ?_⟩
  obtain ⟨c, more, same, -⟩ := reads.cons
  rw [same] at brace found reads ⊢
  have isBrace : c = '{' := by
    rw [upTo] at brace
    generalize (c :: more).length - after.length = count at brace
    cases count with
    | zero => cases brace
    | succ count => simpa using brace
  rw [scanValueEnd_reads reads (.inr (.inr isBrace)), Except.ok.injEq] at found
  obtain ⟨source, whole⟩ := reads.suffix
  rw [← found, ← whole, upTo_append]
  exact reads.cut whole.symm rfl

variable {target : PyString}

theorem extractMember_member {fuel : ℕ} {text inside named after : List Char} {key : PyString}
    (quote : skipSpace text = '"' :: inside) (read : readString inside = some (key, named))
    (colon : skipSpace named = ':' :: after) : extractMember scanner target (fuel + 1) text =
      (scanValueEnd scanner (skipSpace after) >>= fun valueEnd =>
        if key = target then return upTo (skipSpace after) valueEnd
        else match skipSpace valueEnd with
          | ',' :: rest => extractMember scanner target fuel rest
          | '}' :: _ => raise scanner.missingMember
          | _ => raise scanner.invalidSeparator) := by
  have ends : scanStringEnd scanner ('"' :: inside) = .ok named := by
    obtain ⟨body, isBody, -, rfl⟩ := readString_eq_some.mp read
    exact stringEnd_body isBody named
  have name : loadName scanner (upTo ('"' :: inside) named) = .ok (.str key) := loadName_reads read
  rw [extractMember, quote]
  split
  · rename_i empty
    cases empty
  · rename_i brace
    cases brace
  · have bound {α β : Type} (value : α) (follows : α → Raises ε β) :
        (.ok value >>= follows : Raises ε β) = follows value := rfl
    rw [ends, bound, name, bound, colon]
    refine congrArg (scanValueEnd scanner (skipSpace after) >>= ·) (funext fun valueEnd => ?_)
    have isTarget : isText (.str key) target = true ↔ key = target := decide_eq_true_iff
    by_cases same : key = target
    · exact (if_pos (isTarget.mpr same)).trans (if_pos same).symm
    · exact (if_neg (isTarget.not.mpr same)).trans (if_neg same).symm

theorem extractMember_reads {members : Members} {fuel : ℕ} {text rest source : List Char}
    (reads : Reads plainHooks (.members members) (skipSpace text) rest)
    (strings : ∀ key value, (key, value) ∈ members → key ≠ target → ∃ codes, value = .str codes)
    (found : extractMember scanner target fuel text = .ok source) :
    ∃ value, members.lookup target = some value ∧ CutOut value source := by
  induction fuel generalizing text members with
  | zero => cases found
  | succ fuel ih =>
    obtain ⟨inside, quote⟩ := reads.members_quote
    rw [quote] at reads
    cases reads with
    | @lastMember _ after key named value next _ read colon here ends =>
      rw [extractMember_member quote read colon, Check.bound] at found
      obtain ⟨valueEnd, scanned, found⟩ := found
      split_ifs at found with same
      · cases found
        exact ⟨value, by simp [same], cutOut_reads here scanned⟩
      · obtain ⟨codes, rfl⟩ := strings key value (by simp) same
        obtain ⟨string, is⟩ := reads_text here
        rw [is, scanValueEnd_reads (is ▸ here) (.inl rfl), Except.ok.injEq] at scanned
        rw [← scanned, ends] at found
        cases found
    | @member _ after key named value next more members _ read colon here comma others =>
      rw [extractMember_member quote read colon, Check.bound] at found
      obtain ⟨valueEnd, scanned, found⟩ := found
      split_ifs at found with same
      · cases found
        exact ⟨value, by simp [same], cutOut_reads here scanned⟩
      · obtain ⟨codes, rfl⟩ := strings key value (by simp) same
        obtain ⟨string, is⟩ := reads_text here
        rw [is, scanValueEnd_reads (is ▸ here) (.inl rfl), Except.ok.injEq] at scanned
        rw [← scanned, comma] at found
        obtain ⟨found, is, cut⟩ := ih others (fun name other member => strings name other (by simp [member])) found
        refine ⟨found, ?_, cut⟩
        rw [List.lookup_cons, beq_false_of_ne (Ne.symm same)]
        exact is

theorem extractTopLevelMemberRaw_brace {text source : List Char}
    (found : extractTopLevelMemberRaw scanner text target = .ok source) : ∃ inside, skipSpace text = '{' :: inside := by
  unfold extractTopLevelMemberRaw at found
  split at found
  · exact ⟨_, ‹_›⟩
  · cases found

theorem extractTopLevelMemberRaw_reads {members : Members} {text source : List Char}
    (loaded : loads plainHooks text = .ok (.dict members))
    (strings : ∀ key value, (key, value) ∈ members → key ≠ target → ∃ codes, value = .str codes)
    (found : extractTopLevelMemberRaw scanner text target = .ok source) :
    ∃ value, members.lookup target = some value ∧ CutOut value source := by
  obtain ⟨-, rest, reads, -⟩ := loads_ok.mp loaded
  obtain ⟨inside, brace⟩ := extractTopLevelMemberRaw_brace found
  rw [brace] at reads
  rw [extractTopLevelMemberRaw, brace] at found
  cases reads with
  | emptyObject ends made =>
    simp only [extractMember, ends] at found
    cases found
  | object inside made =>
    cases made
    exact extractMember_reads inside strings found
  | scalar _ opens => exact absurd rfl opens

/-- Two values that are the same string if one of them is a string. -/
def SameText (value other : Value) : Prop := ∀ codes, value = .str codes ↔ other = .str codes

theorem pairHooks_simulates (constant : List Char → Option (Raised ε)) :
    (pairHooks constant).Simulates plainHooks SameText where
  refl _ _ := Iff.rfl
  list _ _ := by simp
  object _ made := by
    cases made
    exact ⟨_, rfl, by simp [SameText]⟩
  constant spelling allowed := rfl

theorem uniqueMembers_ok {duplicate : PyString → ε} {result pairs members : Members}
    (unique : uniqueMembers duplicate result pairs = .ok members) :
    members = result ++ pairs ∧ ((result.map Prod.fst).Nodup → (members.map Prod.fst).Nodup) := by
  induction pairs generalizing result with
  | nil =>
    cases unique
    simp
  | cons pair pairs ih =>
    obtain ⟨key, value⟩ := pair
    rw [uniqueMembers] at unique
    split_ifs at unique with known
    · cases unique
    obtain ⟨rfl, nodup⟩ := ih unique
    refine ⟨by simp, fun before => nodup ?_⟩
    rw [List.map_append, List.nodup_append]
    simpa using ⟨before, fun name value member => by rintro rfl; exact known (List.mem_map.mpr ⟨_, member, rfl⟩)⟩

theorem dictHooks_simulates (duplicate : PyString → ε) (constant : List Char → Option (Raised ε)) :
    (dictHooks duplicate constant).Simulates plainHooks Eq where
  refl _ := rfl
  list same := by rw [List.forall₂_eq_eq_eq] at same; rw [same]
  object {members members' value} same made := by
    have equal : members = members' := by
      rw [← List.forall₂_eq_eq_eq]
      exact same.imp fun _ _ ⟨name, value⟩ => Prod.ext name value
    change (uniqueMembers duplicate [] members).map Value.dict = .ok value at made
    cases unique : uniqueMembers duplicate [] members with
    | error raised => simp [unique, Except.map] at made
    | ok result =>
      obtain ⟨rfl, -⟩ := uniqueMembers_ok unique
      rw [unique] at made
      cases made
      exact ⟨_, rfl, by rw [← equal]⟩
  constant spelling allowed := rfl

theorem loads_strict {duplicate : PyString → ε} {constant : List Char → Option (Raised ε)} {text : List Char}
    {value : Value} (loaded : loads (dictHooks duplicate constant) text = .ok value) :
    loads plainHooks text = .ok value := by
  obtain ⟨mark, rest, reads, ends⟩ := loads_ok.mp loaded
  obtain ⟨_, reads, same⟩ := reads.rehook (dictHooks_simulates duplicate constant)
  cases same with | value same =>
  rw [← same] at reads
  exact loads_ok.mpr ⟨mark, rest, reads, ends⟩

theorem CutOut.strict {value : Value} {source : List Char} {members : Members} (cut : CutOut value source)
    (loaded : loads plainHooks source = .ok (.dict members)) : value = .dict members := by
  obtain ⟨-, rest, reads, -⟩ := loads_ok.mp loaded
  rw [cut.tight] at reads
  have brace : source.head? = some '{' := by
    generalize is : Value.dict members = read at reads
    cases reads with
    | string => cases is
    | emptyObject => rfl
    | object => rfl
    | emptyArray => cases is
    | array => cases is
    | scalar _ _ _ scanned =>
      rw [← is] at scanned
      exact (scanScalar_leaf scanned).elim
  exact ((cut.object brace).unique reads).1

/-- The members that `json.loads` reads in a document, each name once. -/
def DocumentMembers (raw : ByteArray) (members : Members) : Prop :=
  (∃ text, raw.utf8Decode? = some text ∧ loads plainHooks text.toList = .ok (.dict members)) ∧
    (members.map Prod.fst).Nodup

theorem loads_pairs {constant : List Char → Option (Raised ε)} {text inside : List Char} {items : List Value}
    (loaded : loads (pairHooks constant) text = .ok (.list items)) (brace : skipSpace text = '{' :: inside) :
    ∃ pairs members : Members, items = pairs.map (fun pair => .pair pair.1 pair.2) ∧
      loads plainHooks text = .ok (.dict members) ∧ MembersRelated SameText pairs members := by
  obtain ⟨mark, rest, reads, ends⟩ := loads_ok.mp loaded
  rw [brace] at reads
  cases reads with
  | emptyObject closes made =>
    cases made
    exact ⟨[], [], rfl, loads_ok.mpr ⟨mark, rest, brace ▸ .emptyObject closes rfl, ends⟩, .nil⟩
  | @object _ _ pairs _ inner made =>
    cases made
    obtain ⟨_, inner, same⟩ := inner.rehook (pairHooks_simulates constant)
    cases same with | members same =>
    exact ⟨pairs, _, rfl, loads_ok.mpr ⟨mark, rest, brace ▸ .object inner rfl, ends⟩, same⟩
  | scalar _ opens => exact absurd rfl opens

theorem lookup_of_mem {members : Members} {key : PyString} {value : Value} (nodup : (members.map Prod.fst).Nodup)
    (member : (key, value) ∈ members) : members.lookup key = some value := by
  obtain ⟨before, after, rfl⟩ := List.append_of_mem member
  refine List.lookup_eq_some_iff.mpr ⟨before, after, rfl, fun other earlier => ?_⟩
  rw [List.map_append, List.map_cons, List.nodup_append] at nodup
  have apart := nodup.2.2 other.1 (List.mem_map_of_mem earlier) key (by simp)
  simpa using apart.symm

theorem envelope_cut {constant : List Char → Option (Raised η)} {text source : List Char} {items : List Value}
    {pairs : Members} {keys : List PyString} {target : PyString}
    (loaded : loads (pairHooks constant) text = .ok (.list items))
    (unpacked : ∀ others : Members, items = others.map (fun pair => .pair pair.1 pair.2) →
      pairs = others ∧ (others.map Prod.fst).Nodup) (exactly : HasExactly keys pairs)
    (texts : ∀ key ∈ keys, key ≠ target → ∃ codes, pairs.lookup key = some (.str codes))
    (found : extractTopLevelMemberRaw scanner text target = .ok source) :
    ∃ members value, (loads plainHooks text = .ok (.dict members) ∧ (members.map Prod.fst).Nodup) ∧
      members.lookup target = some value ∧ CutOut value source ∧ ∀ key codes, pairs.lookup key = some (.str codes) →
        members.lookup key = some (.str codes) := by
  obtain ⟨inside, brace⟩ := extractTopLevelMemberRaw_brace found
  obtain ⟨others, members, is, plain, same⟩ := loads_pairs loaded brace
  obtain ⟨rfl, nodup⟩ := unpacked others is
  have names := membersRelated_names same
  have text {key : PyString} {codes : PyString} (is : pairs.lookup key = some (.str codes)) :
      members.lookup key = some (.str codes) := by
    obtain ⟨value, there, same⟩ := membersRelated_lookup same is
    rw [there, (same codes).mp rfl]
  have strings : ∀ key value, (key, value) ∈ members → key ≠ target → ∃ codes, value = .str codes := by
    intro key value member other
    have name : key ∈ pairs.map Prod.fst := names ▸ List.mem_map_of_mem member
    obtain ⟨codes, is⟩ := texts key (exactly.1 key name) other
    have there := lookup_of_mem (names ▸ nodup) member
    rw [text is, Option.some.injEq] at there
    exact ⟨codes, there.symm⟩
  obtain ⟨value, there, cut⟩ := extractTopLevelMemberRaw_reads plain strings found
  exact ⟨members, value, ⟨plain, names ▸ nodup⟩, there, cut, fun key codes => text⟩

theorem isText_eq {value : Value} {codes : PyString} (is : isText value codes = true) : value = .str codes := by
  cases value <;> simp_all [isText]

theorem decodeSignature_ok {decode : PyString → Except String (List U8)} {error : String → ε} {value : Value}
    {bytes : List U8} (is : decodeSignature decode error value = .ok bytes) :
    value = .str (textOf value) ∧ decode (textOf value) = .ok bytes := by
  unfold decodeSignature at is
  split at is
  · split at is
    · cases is
      exact ⟨rfl, ‹_›⟩
    · cases is
  · cases is

theorem validateKeyId_text {value : Value} {bytes : List U8} (is : validateKeyId value = .ok bytes) :
    value = .str (textOf value) := by
  unfold validateKeyId at is
  split at is
  · rfl
  · cases is

theorem decodeUtf8_ok {error : ε} {raw : ByteArray} {text : List Char} (is : decodeUtf8 error raw = .ok text) :
    ∃ decoded, raw.utf8Decode? = some decoded ∧ text = decoded.toList := by
  unfold decodeUtf8 at is
  split at is
  · cases is
    exact ⟨_, ‹_›, rfl⟩
  · cases is

theorem loadJson_ok {hooks : Hooks (Raised ε)} {text : List Char} {value : Value}
    (is : loadJson hooks text = .ok value) : loads hooks text = .ok value := by
  unfold loadJson at is
  split at is
  · cases is
    assumption
  · cases is
  · cases is

/-- What a parser has found in an envelope: the value at the place of the member that it cut out, and its fields. -/
structure EnvelopeRead (decode : PyString → Except String (List U8)) (raw : ByteArray) (target : PyString)
    (opened : OpenedWrapper) (members : Members) (value : Value) : Prop where
  document : DocumentMembers raw members
  member : members.lookup target = some value
  cut : CutOut value opened.source
  keyId : members.lookup (py "key_id") = some (.str opened.keyId)
  signature : members.lookup (py "signature") = some (.str opened.signature)
  decoded : decode opened.signature = .ok opened.signatureBytes

theorem mapM_pair? (pairs : Members) : (pairs.map fun pair => Value.pair pair.1 pair.2).mapM pair? = some pairs := by
  induction pairs with
  | nil => rfl
  | cons pair pairs ih =>
    rw [List.map_cons, List.mapM_cons, ih]
    rfl

theorem wrapperPairs_ok {text : List Char} {pairs : Members} (is : wrapperPairs text = .ok pairs) :
    ∃ items, loads (pairHooks fun _ => some (.valueError : Raised SignedWrapperError)) text = .ok (.list items) ∧
      items.mapM pair? = some pairs := by
  simp only [wrapperPairs, Check.bound, onValueError_ok] at is
  obtain ⟨value, loaded, is⟩ := is
  split at is
  · rename_i items
    split at is
    · cases is
      exact ⟨items, loadJson_ok loaded, ‹_›⟩
    · cases is
  · cases is

theorem openSignedWrapper_read {raw : ByteArray} {opened : OpenedWrapper} (is : openSignedWrapper raw = .ok opened) :
    ∃ members value,
      EnvelopeRead decodeSignatureBase64url raw (py "assurance_object") opened members value := by
  simp only [openSignedWrapper, wrapperTopLevel, Check.bound, require_ok, rewrap_ok, item_ok] at is
  obtain ⟨-, -, text, decoded, pairs, itemsOf, wrapper, ⟨_, unique, -, exactly, ⟨⟩⟩, version, versionAt, -, isVersion,
    algorithm, algorithmAt, -, isAlgorithm, keyId, keyIdAt, keyIdBytes, isKeyId, signature, signatureAt, bytes,
    isSignature, source, found, ⟨⟩⟩ := is
  obtain ⟨items, loaded, paired⟩ := wrapperPairs_ok itemsOf
  obtain ⟨rfl, nodup⟩ := uniqueMembers_ok unique
  obtain ⟨signatureText, decodes⟩ := decodeSignature_ok isSignature
  rw [isText_eq isVersion] at versionAt
  rw [isText_eq isAlgorithm] at algorithmAt
  rw [validateKeyId_text isKeyId] at keyIdAt
  rw [signatureText] at signatureAt
  obtain ⟨members, value, plain, member, cut, texts⟩ := envelope_cut loaded (fun others same => by
      rw [same, mapM_pair?, Option.some.injEq] at paired
      exact ⟨paired.symm, paired ▸ nodup List.nodup_nil⟩) exactly (by
      intro key known other
      simp only [wrapperKeys, List.mem_cons, List.not_mem_nil, or_false] at known
      rcases known with rfl | rfl | rfl | rfl | rfl
      · exact ⟨_, versionAt⟩
      · exact ⟨_, algorithmAt⟩
      · exact ⟨_, keyIdAt⟩
      · exact absurd rfl other
      · exact ⟨_, signatureAt⟩) found
  obtain ⟨document, is, rfl⟩ := decodeUtf8_ok decoded
  exact ⟨members, value,
    { document := ⟨⟨document, is, plain.1⟩, plain.2⟩
      member := member
      cut := cut
      keyId := texts _ _ keyIdAt
      signature := texts _ _ signatureAt
      decoded := decodes }⟩

theorem unpackItems_pairs (result pairs : Members) :
    (pairs.map fun pair => Value.pair pair.1 pair.2).foldlM unpackItem result =
      uniqueMembers (fun name => ⟨.duplicateKey, .about "duplicate envelope member " name⟩) result pairs := by
  induction pairs generalizing result with
  | nil => rfl
  | cons pair pairs ih =>
    obtain ⟨key, value⟩ := pair
    rw [List.map_cons, List.foldlM_cons, uniqueMembers]
    have taken : unpackItem result (.pair key value) = (do
        require (key ∉ result.map Prod.fst) ⟨.duplicateKey, .about "duplicate envelope member " key⟩
        return result ++ [(key, value)]) := rfl
    rw [taken, require]
    by_cases known : key ∈ result.map Prod.fst
    · rw [if_pos known, if_neg (not_not.mpr known)]
      rfl
    · rw [if_neg known, if_pos known, ← ih]
      rfl

theorem validateFieldText_ok {field : String} {grammar : PyString → Bool} {value : Value} {codes : PyString} :
    validateFieldText field grammar value = .ok codes ↔ value = .str codes ∧ grammar codes = true := by
  cases value with
  | str other => simp only [validateFieldText, requireText_ok]
  | _ => simp [validateFieldText, raise]

theorem authorizationItems_ok {text : List Char} {items : List Value} (is : authorizationItems text = .ok items) :
    loads (pairHooks fun spelling => some (.own (⟨.invalidJson, constantDetail spelling⟩ : SignedAuthorizationError)))
      text = .ok (.list items) := by
  simp only [authorizationItems, Check.bound, onValueError_ok] at is
  obtain ⟨value, loaded, is⟩ := is
  split at is
  · cases is
    exact loadJson_ok loaded
  · cases is

theorem openSignedAuthorization_read {raw : ByteArray} {opened : OpenedAuthorization}
    (is : openSignedAuthorization raw = .ok opened) : ∃ members value,
      EnvelopeRead decodeAuthorizationSignatureBase64url raw (py "authorization_object") opened.toOpenedWrapper
        members value ∧ members.lookup (py "authority_id") = some (.str opened.authorityId) := by
  simp only [openSignedAuthorization, decodeSignedAuthorization, openAuthorizationItems, authorizationTopLevel,
    Check.bound, require_ok, rewrap_ok, item_ok] at is
  obtain ⟨⟨text, items⟩, ⟨-, -, _, decoded, _, itemsOf, ⟨⟩⟩, envelope, ⟨_, unpacked, -, exactly, ⟨⟩⟩, version,
    versionAt, -, isVersion, algorithm, algorithmAt, -, isAlgorithm, authorityValue, authorityAt, authority, isAuthority, keyId,
    keyIdAt, keyIdBytes, isKeyId, signature, signatureAt, bytes, isSignature, source, found, ⟨⟩⟩ := is
  rw [validateAuthorityId, validateFieldText_ok] at isAuthority
  obtain ⟨signatureText, decodes⟩ := decodeSignature_ok isSignature
  rw [isText_eq isVersion] at versionAt
  rw [isText_eq isAlgorithm] at algorithmAt
  rw [isAuthority.1] at authorityAt
  rw [validateKeyId_text isKeyId] at keyIdAt
  rw [signatureText] at signatureAt
  obtain ⟨members, value, plain, member, cut, texts⟩ := envelope_cut (authorizationItems_ok itemsOf)
    (fun others same => by
      rw [same, unpackItems_pairs] at unpacked
      obtain ⟨rfl, nodup⟩ := uniqueMembers_ok unpacked
      exact ⟨rfl, nodup List.nodup_nil⟩) exactly (by
      intro key known other
      simp only [authorizationEnvelopeKeys, List.mem_cons, List.not_mem_nil, or_false] at known
      rcases known with rfl | rfl | rfl | rfl | rfl | rfl
      · exact ⟨_, versionAt⟩
      · exact ⟨_, algorithmAt⟩
      · exact ⟨_, authorityAt⟩
      · exact ⟨_, keyIdAt⟩
      · exact absurd rfl other
      · exact ⟨_, signatureAt⟩) found
  obtain ⟨document, is, rfl⟩ := decodeUtf8_ok decoded
  exact ⟨members, value,
    { document := ⟨⟨document, is, plain.1⟩, plain.2⟩
      member := member
      cut := cut
      keyId := texts _ _ keyIdAt
      signature := texts _ _ signatureAt
      decoded := decodes }, texts _ _ authorityAt⟩

end Guardian.Assurance
