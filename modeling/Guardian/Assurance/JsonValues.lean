import Guardian.Lib.JsonReading
import Guardian.Lib.Raising
import Guardian.Assurance.EncodedKeys

namespace Guardian.Assurance

open JsonText Raising Word

abbrev Members := List (PyString × Value)

theorem pyString_lawfulBEq : LawfulBEq PyString := inferInstance

attribute [local instance] pyString_lawfulBEq

variable {ε : Type}

def py (literal : String) : PyString := literal.toList.map Char.toNat

/-- `raw.decode("utf-8", errors="strict")`. -/
def decodeUtf8 (error : ε) (raw : ByteArray) : Raises ε (List Char) :=
  match raw.utf8Decode? with
  | some text => .ok text.toList
  | none => raise error

theorem decodeUtf8_ofList (error : ε) (text : List Char) : decodeUtf8 error (String.ofList text).toUTF8 = .ok text := by
  simp [decodeUtf8, String.toUTF8]

/-- The dictionary of an object without duplicate member names. -/
def uniqueMembers (duplicate : PyString → ε) : Members → Members → Raises ε Members
  | result, [] => .ok result
  | result, (key, value) :: pairs =>
    if key ∈ result.map Prod.fst then raise (duplicate key)
    else uniqueMembers duplicate (result ++ [(key, value)]) pairs

/-- `json.loads`, whose `JSONDecodeError` is a `ValueError`. -/
def loadJson (hooks : Hooks (Raised ε)) (text : List Char) : Raises ε Value :=
  match loads hooks text with
  | .ok value => .ok value
  | .error .decode => .error .valueError
  | .error (.hook raised) => .error raised

/-- The hooks of a reader of dictionaries that refuses duplicate member names. -/
def dictHooks (duplicate : PyString → ε) (constant : List Char → Option (Raised ε)) : Hooks (Raised ε) where
  object pairs := (uniqueMembers duplicate [] pairs).map Value.dict
  constant := constant

/-- `frozenset(value) == keys`. -/
def HasExactly (keys : List PyString) (members : Members) : Prop :=
  (∀ name ∈ members.map Prod.fst, name ∈ keys) ∧ ∀ key ∈ keys, key ∈ members.map Prod.fst

instance (keys : List PyString) (members : Members) : Decidable (HasExactly keys members) :=
  inferInstanceAs (Decidable (_ ∧ _))

/-- `members[key]`. -/
def item (members : Members) (key : PyString) : Raises ε Value :=
  match members.lookup key with
  | some value => .ok value
  | none => .error .keyError

theorem item_ok {members : Members} {key : PyString} {value : Value} :
    (item members key : Raises ε Value) = .ok value ↔ members.lookup key = some value := by
  unfold item
  cases members.lookup key <;> simp

def isText (value : Value) (expected : PyString) : Bool :=
  match value with
  | .str codes => codes = expected
  | _ => false

def requireText (grammar : PyString → Bool) (error : ε) (value : Value) : Raises ε PyString :=
  match value with
  | .str codes => if grammar codes then .ok codes else raise error
  | _ => raise error

def hashable : Value → Bool
  | .list _ | .dict _ => false
  | .pair _ value => hashable value
  | _ => true

/-- Membership in a `frozenset` of strings, which needs the value's hash. -/
def memberOf (allowed : List PyString) (value : Value) : Raises ε Bool :=
  if hashable value then .ok (allowed.any (isText value)) else .error .typeError

/-- `key, value = item`. -/
def unpackTwo : Value → Raises ε (Value × Value)
  | .list [first, second] => .ok (first, second)
  | .str [first, second] => .ok (.str [first], .str [second])
  | .dict [(first, _), (second, _)] => .ok (.str first, .str second)
  | .pair key value => .ok (.str key, value)
  | .list _ | .str _ | .dict _ => .error .valueError
  | _ => .error .typeError

def isSurrogate (code : ℕ) : Bool := 0xD800 ≤ code ∧ code ≤ 0xDFFF

def utf8Octets (code : ℕ) : List U8 :=
  if code < 0x80 then [BitVec.ofNat 8 code]
  else if code < 0x800 then [BitVec.ofNat 8 (0xC0 + code / 0x40), BitVec.ofNat 8 (0x80 + code % 0x40)]
  else if code < 0x10000 then
    [BitVec.ofNat 8 (0xE0 + code / 0x1000), BitVec.ofNat 8 (0x80 + code / 0x40 % 0x40),
      BitVec.ofNat 8 (0x80 + code % 0x40)]
  else
    [BitVec.ofNat 8 (0xF0 + code / 0x40000), BitVec.ofNat 8 (0x80 + code / 0x1000 % 0x40),
      BitVec.ofNat 8 (0x80 + code / 0x40 % 0x40), BitVec.ofNat 8 (0x80 + code % 0x40)]

/-- `encode("utf-8")`. -/
def encodeUtf8 (codes : PyString) : Raises ε (List U8) :=
  if codes.any isSurrogate then .error .unicodeEncodeError else .ok (codes.flatMap utf8Octets)

def isIdentifierCode (code : ℕ) : Bool :=
  65 ≤ code ∧ code ≤ 90 ∨ 97 ≤ code ∧ code ≤ 122 ∨ 48 ≤ code ∧ code ≤ 57 ∨ code = 46 ∨ code = 95 ∨ code = 58 ∨
    code = 45

/-- `[A-Za-z0-9._:-]{1,maximum}`. -/
def isIdentifier (maximum : ℕ) (codes : PyString) : Bool :=
  1 ≤ codes.length ∧ codes.length ≤ maximum ∧ codes.all isIdentifierCode

def isLowerHexCode (code : ℕ) : Bool := 48 ≤ code ∧ code ≤ 57 ∨ 97 ≤ code ∧ code ≤ 102

/-- `[0-9a-f]{length}`. -/
def isLowerHex (length : ℕ) (codes : PyString) : Bool := codes.length = length ∧ codes.all isLowerHexCode

@[simp]
theorem not_escapes_decodeUtf8 {error : ε} {raw : ByteArray} : ¬ Escapes (decodeUtf8 error raw) := by
  unfold decodeUtf8
  split <;> simp

@[simp]
theorem not_escapes_uniqueMembers {duplicate : PyString → ε} {result pairs : Members} :
    ¬ Escapes (uniqueMembers duplicate result pairs) := by
  induction pairs generalizing result with
  | nil => simp [uniqueMembers]
  | cons pair pairs ih =>
    rw [uniqueMembers]
    split
    · simp
    · exact ih

@[simp]
theorem not_escapes_requireText {grammar : PyString → Bool} {error : ε} {value : Value} :
    ¬ Escapes (requireText grammar error value) := by
  unfold requireText
  split
  · split <;> simp
  · simp

theorem requireText_ok {grammar : PyString → Bool} {error : ε} {value : Value} {codes : PyString} :
    requireText grammar error value = .ok codes ↔ value = .str codes ∧ grammar codes = true := by
  cases value with
  | str other =>
    rw [requireText, Value.str.injEq]
    split
    · constructor
      · rintro ⟨⟩
        exact ⟨rfl, ‹_›⟩
      · rintro ⟨rfl, -⟩
        rfl
    · constructor
      · rintro ⟨⟩
      · rintro ⟨rfl, admitted⟩
        contradiction
  | _ => simp [requireText, raise]

theorem item_of_hasExactly {keys : List PyString} {members : Members} {key : PyString}
    (exactly : HasExactly keys members) (required : key ∈ keys) :
    ∃ value, (item members key : Raises ε Value) = .ok value ∧ (key, value) ∈ members := by
  obtain ⟨⟨name, value⟩, member, rfl⟩ := List.mem_map.mp (exactly.2 key required)
  have present : (members.lookup name).isSome := List.lookup_isSome_iff.mpr ⟨(name, value), member, by simp⟩
  obtain ⟨found, is⟩ := Option.isSome_iff_exists.mp present
  refine ⟨found, by rw [item, is], ?_⟩
  obtain ⟨before, after, same, -⟩ := List.lookup_eq_some_iff.mp is
  rw [same]
  simp

theorem not_escapes_item {keys : List PyString} {members : Members} {key : PyString}
    (exactly : HasExactly keys members) (required : key ∈ keys) : ¬ Escapes (item members key : Raises ε Value) := by
  obtain ⟨value, is, -⟩ := item_of_hasExactly (ε := ε) exactly required
  rw [is]
  exact not_escapes_ok value

theorem not_escapes_item_bind {α : Type} {keys : List PyString} {members : Members} {key : PyString}
    {follows : Value → Raises ε α} (exactly : HasExactly keys members) (required : key ∈ keys)
    (rest : ∀ value, ¬ Escapes (follows value)) : ¬ Escapes (item members key >>= follows) :=
  not_escapes_bind (not_escapes_item exactly required) fun value _ => rest value

theorem not_escapes_textItem_bind {α : Type} {keys : List PyString} {members : Members} {key : PyString}
    {grammar : PyString → Bool} {error : ε} {follows : PyString → Raises ε α} (exactly : HasExactly keys members)
    (required : key ∈ keys) (rest : ∀ codes, ¬ Escapes (follows codes)) :
    ¬ Escapes (item members key >>= fun value => requireText grammar error value >>= follows) := by
  apply not_escapes_item_bind exactly required
  intro value
  exact not_escapes_bind not_escapes_requireText fun codes _ => rest codes

theorem loadJson_foreign {hooks : Hooks (Raised ε)} {text : List Char}
    (object : ∀ members raised, hooks.object members = .error raised → raised.Foreign → raised = .valueError)
    (constant : ∀ spelling raised, hooks.constant spelling = some raised → raised.Foreign → raised = .valueError) :
    ∀ raised, loadJson hooks text = .error raised → raised.Foreign → raised = .valueError := by
  intro raised is foreign
  unfold loadJson at is
  split at is
  · cases is
  · cases is
    rfl
  · rename_i error loaded
    cases is
    rcases loads_hook loaded with ⟨members, made⟩ | ⟨spelling, refused⟩
    · exact object members _ made foreign
    · exact constant spelling _ refused foreign

theorem not_escapes_loadDict {duplicate : PyString → ε} {constant : List Char → Option (Raised ε)} {text : List Char}
    {error : ε}
    (constants : ∀ spelling raised, constant spelling = some raised → raised.Foreign → raised = .valueError) :
    ¬ Escapes (onValueError error (loadJson (dictHooks duplicate constant) text)) := by
  apply not_escapes_onValueError
  apply loadJson_foreign
  · intro members raised refused foreign
    have contained : ¬ Escapes (uniqueMembers duplicate [] members) := not_escapes_uniqueMembers
    exfalso
    apply contained
    change (uniqueMembers duplicate [] members).map Value.dict = .error raised at refused
    cases made : uniqueMembers duplicate [] members with
    | ok value => simp [made, Except.map] at refused
    | error other =>
      rw [made] at refused
      cases refused
      exact ⟨raised, rfl, foreign⟩
  · exact constants

end Guardian.Assurance
