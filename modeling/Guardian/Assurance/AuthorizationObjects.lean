import Guardian.Assurance.FreshnessState
import Guardian.Assurance.Envelopes

namespace Guardian.Assurance

open JsonText Raising

structure AuthorizationFieldError where
  text : String
  deriving DecidableEq

/-- `validate_authority_id` and `validate_authorization_id`. -/
def validateFieldText (field : String) (grammar : PyString → Bool) (value : Value) :
    Raises AuthorizationFieldError PyString :=
  match value with
  | .str _ => requireText grammar ⟨"invalid " ++ field⟩ value
  | _ => raise ⟨field ++ " must be a string"⟩

def validateAuthorityId : Value → Raises AuthorizationFieldError PyString :=
  validateFieldText "authority_id" (isIdentifier 128)

def validateAuthorizationId : Value → Raises AuthorizationFieldError PyString :=
  validateFieldText "authorization_id" (isLowerHex 32)

abbrev Uint64 := { value : ℕ // value ≤ uint64Max }

def isDecimalCode (code : ℕ) : Bool := 48 ≤ code ∧ code ≤ 57

/-- `int(value, 10)` of decimal digits. -/
def intOfDigits {ε : Type} (codes : PyString) : Raises ε ℕ :=
  if maxDigits < codes.length then .error .valueError
  else .ok (codes.foldl (fun value code => value * 10 + (code - 48)) 0)

def parseUint64DecimalWire (value : Value) (fieldName : String) : Raises AuthorizationFieldError Uint64 :=
  match value with
  | .str codes =>
    if codes = py "0" then .ok ⟨0, Nat.zero_le _⟩
    else if codes = [] then raise ⟨"invalid " ++ fieldName⟩
    else if codes.head? = some 48 then raise ⟨"invalid " ++ fieldName⟩
    else if ¬ codes.all (· < 128) ∨ ¬ codes.all isDecimalCode then raise ⟨"invalid " ++ fieldName⟩
    else do
      let parsed ← intOfDigits codes
      if fits : parsed ≤ uint64Max then return ⟨parsed, fits⟩ else raise ⟨"invalid " ++ fieldName⟩
  | _ => raise ⟨"invalid " ++ fieldName⟩

inductive AuthorizationObjectErrorCode
  | rawLimit
  | invalidUtf8
  | invalidJson
  | duplicateKey
  | structureLimit
  | schema
  deriving DecidableEq, Repr

structure AuthorizationObjectError where
  code : AuthorizationObjectErrorCode
  detail : Detail
  deriving DecidableEq

def objectError (text : String) : AuthorizationObjectError := ⟨.schema, .text text⟩

def authorizationObjectMaxRawBytes : ℕ := 16384

/-- The rules of `_validate_structure`. -/
def authorizationRules : StructureRules AuthorizationObjectError where
  maxNodes := 256
  maxDepth := 8
  maxMembers := 32
  maxItems := 16
  maxStringBytes := 512
  nodeError := ⟨.structureLimit, .text "structural node limit exceeded"⟩
  depthError := ⟨.structureLimit, .text "nesting depth limit exceeded"⟩
  memberError := ⟨.structureLimit, .text "object-member limit exceeded"⟩
  itemError := ⟨.structureLimit, .text "array-item limit exceeded"⟩
  stringError := ⟨.structureLimit, .text "UTF-8 string limit exceeded"⟩
  leafError
    | .float => some (objectError "floating-point values are prohibited")
    | .pair _ _ => some (objectError "unsupported JSON value")
    | _ => none

def validateAuthorizationStructure (value : Value) : Raises AuthorizationObjectError Unit := do
  let _ ← visitValue authorizationRules value 0 0
  return ()

def commonKeys : List PyString :=
  [py "schema_version", py "authorization_type", py "authorization_id", py "authority_id", py "producer_id",
    py "authorization_sequence"]

def bootstrapKeys : List PyString :=
  commonKeys ++ [py "producer_epoch", py "initial_high_water_state", py "initial_logical_time"]

def epochTransitionKeys : List PyString := commonKeys ++ [py "from_epoch", py "to_epoch", py "transition_sequence"]

def bootstrapSchemaVersion : PyString := py "guardian-f401:m15:bootstrap-authorization:v1"

def epochTransitionSchemaVersion : PyString := py "guardian-f401:m15:epoch-transition-authorization:v1"

def bootstrapType : PyString := py "bootstrap"

def epochTransitionType : PyString := py "epoch-transition"

def requireExactMembers (members : Members) (expected : List PyString) (authorizationType : String) :
    Raises AuthorizationObjectError Unit :=
  require (HasExactly expected members)
    (objectError (authorizationType ++ " authorization members do not match schema"))

/-- `_exact_text`. -/
def exactObjectText (members : Members) (field : String) (expected : PyString) :
    Raises AuthorizationObjectError PyString := do
  requireText (· = expected) (objectError ("invalid " ++ field)) (← item members (py field))

/-- `_field_call` on a member, for each of the two classes of errors that it catches. -/
def fieldCall {ε α : Type} (function : Value → Raises ε α) (members : Members) (field : String) :
    Raises AuthorizationObjectError α := do
  rewrap (fun _ => objectError ("invalid " ++ field)) (function (← item members (py field)))

/-- The high-water state of a bootstrap authorization and its logical time. -/
def initialHighWater (highWater logicalTime : Value) : Raises AuthorizationObjectError (Option LogicalTime) :=
  if isText highWater (py "HIGH_WATER_UNSET") then match logicalTime with
    | .null => return none
    | _ => raise (objectError "HIGH_WATER_UNSET requires null initial_logical_time")
  else if isText highWater (py "HIGH_WATER_ESTABLISHED") then do
    let time ← rewrap (fun _ => objectError "invalid initial_logical_time") (validateLogicalTime logicalTime)
    return some time
  else raise (objectError "invalid initial_high_water_state")

def validateBootstrap (members : Members) : Raises AuthorizationObjectError (BootstrapAuthorization PyString) := do
  requireExactMembers members bootstrapKeys "bootstrap"
  let _ ← exactObjectText members "schema_version" bootstrapSchemaVersion
  let _ ← exactObjectText members "authorization_type" bootstrapType
  let authorizationId ← fieldCall validateAuthorizationId members "authorization_id"
  let authorityId ← fieldCall validateAuthorityId members "authority_id"
  let producerId ← fieldCall validateProducerId members "producer_id"
  let sequence ← fieldCall (parseUint64DecimalWire · "authorization_sequence") members "authorization_sequence"
  let producerEpoch ← fieldCall validateProducerEpoch members "producer_epoch"
  let highWater ← item members (py "initial_high_water_state")
  let logicalTime ← item members (py "initial_logical_time")
  let initial ← initialHighWater highWater logicalTime
  return ⟨authorizationId, authorityId, producerId, sequence.1, producerEpoch, initial, sequence.2⟩

def validateEpochTransition (members : Members) :
    Raises AuthorizationObjectError (EpochTransitionAuthorization PyString) := do
  requireExactMembers members epochTransitionKeys "epoch-transition"
  let _ ← exactObjectText members "schema_version" epochTransitionSchemaVersion
  let _ ← exactObjectText members "authorization_type" epochTransitionType
  let authorizationId ← fieldCall validateAuthorizationId members "authorization_id"
  let authorityId ← fieldCall validateAuthorityId members "authority_id"
  let producerId ← fieldCall validateProducerId members "producer_id"
  let sequence ← fieldCall (parseUint64DecimalWire · "authorization_sequence") members "authorization_sequence"
  let fromEpoch ← fieldCall validateProducerEpoch members "from_epoch"
  let toEpoch ← fieldCall validateProducerEpoch members "to_epoch"
  if same : fromEpoch = toEpoch then raise (objectError "from_epoch must differ from to_epoch")
  else do
    let transition ← fieldCall (parseUint64DecimalWire · "transition_sequence") members "transition_sequence"
    return ⟨authorizationId, authorityId, producerId, sequence.1, fromEpoch, toEpoch, transition.1, sequence.2, same,
      transition.2⟩

def validateAuthorizationObject (value : Value) : Raises AuthorizationObjectError (AuthorizationObject PyString) :=
  match value with
  | .dict members =>
    let authorizationType := (members.lookup (py "authorization_type")).getD .null
    if isText authorizationType bootstrapType then AuthorizationObject.bootstrap <$> validateBootstrap members
    else if isText authorizationType epochTransitionType then
      AuthorizationObject.epochTransition <$> validateEpochTransition members
    else raise (objectError "unsupported authorization_type")
  | _ => raise (objectError "authorization object must be an object")

/-- The text of an error about `NaN` or an infinity. -/
def constantDetail (spelling : List Char) : Detail := .text ("non-standard JSON constant: " ++ String.ofList spelling)

def authorizationObjectHooks : Hooks (Raised AuthorizationObjectError) :=
  dictHooks (fun key => ⟨.duplicateKey, .about "duplicate member " key⟩)
    fun spelling => some (.own ⟨.invalidJson, constantDetail spelling⟩)

def decodeAuthorizationObject (raw : ByteArray) : Raises AuthorizationObjectError Value := do
  let text ← decodeUtf8 ⟨.invalidUtf8, .text "authorization object is not strict UTF-8"⟩ raw
  onValueError ⟨.invalidJson, .text "authorization object is not valid JSON"⟩ (loadJson authorizationObjectHooks text)

def parseAndValidateAuthorizationObject (raw : ByteArray) :
    Raises AuthorizationObjectError (AuthorizationObject PyString) := do
  require (raw.size ≤ authorizationObjectMaxRawBytes)
    ⟨.rawLimit, .text "authorization object raw-byte limit exceeded"⟩
  let value ← decodeAuthorizationObject raw
  validateAuthorizationStructure value
  validateAuthorizationObject value

@[simp]
theorem not_escapes_decodeAuthorizationObject {raw : ByteArray} : ¬ Escapes (decodeAuthorizationObject raw) := by
  apply not_escapes_bind not_escapes_decodeUtf8
  intro text _
  apply not_escapes_loadDict
  rintro spelling _ ⟨⟩ foreign
  exact foreign.elim

@[simp]
theorem not_escapes_validateFieldText {field : String} {grammar : PyString → Bool} {value : Value} :
    ¬ Escapes (validateFieldText field grammar value) := by
  unfold validateFieldText
  split <;> simp

/-- The digits of a string that `int` takes. -/
def ShortText : Value → Prop
  | .str codes => codes.length ≤ maxDigits
  | _ => True

theorem not_escapes_parseUint64DecimalWire {value : Value} {fieldName : String} (short : ShortText value) :
    ¬ Escapes (parseUint64DecimalWire value fieldName) := by
  unfold parseUint64DecimalWire
  split
  · rename_i codes
    split_ifs
    any_goals simp
    have read : (intOfDigits codes : Raises AuthorizationFieldError ℕ) =
        .ok (codes.foldl (fun value code => value * 10 + (code - 48)) 0) := by
      rw [intOfDigits, if_neg (Nat.not_lt.mpr short)]
    rw [read]
    change ¬ Escapes (if fits : _ then _ else _)
    split <;> simp
  · simp

section schemas

variable {ε α β : Type} {keys : List PyString} {members : Members} {field : String}

theorem not_escapes_exactObjectText_bind {expected : PyString} {follows : PyString → Raises AuthorizationObjectError β}
    (exactly : HasExactly keys members) (required : py field ∈ keys) (rest : ∀ codes, ¬ Escapes (follows codes)) :
    ¬ Escapes (exactObjectText members field expected >>= follows) := by
  apply not_escapes_bind
  · apply not_escapes_item_bind exactly required
    exact fun _ => not_escapes_requireText
  · exact fun codes _ => rest codes

theorem not_escapes_fieldCall_bind {function : Value → Raises ε α} {follows : α → Raises AuthorizationObjectError β}
    (exactly : HasExactly keys members) (required : py field ∈ keys)
    (checks : ∀ value, (py field, value) ∈ members → ¬ Escapes (function value))
    (rest : ∀ result, ¬ Escapes (follows result)) : ¬ Escapes (fieldCall function members field >>= follows) := by
  apply not_escapes_bind
  · obtain ⟨value, is, member⟩ := item_of_hasExactly (ε := AuthorizationObjectError) exactly required
    rw [fieldCall, is]
    exact fun escapes => checks value member (escapes_rewrap.mp escapes)
  · exact fun result _ => rest result

end schemas

theorem not_escapes_initialHighWater {highWater logicalTime : Value} :
    ¬ Escapes (initialHighWater highWater logicalTime) := by
  unfold initialHighWater
  split_ifs
  · split <;> simp
  · simp
  · simp

/-- No member is a string too long for `int`. -/
def ShortMembers (members : Members) : Prop := ∀ key value, (key, value) ∈ members → ShortText value

theorem not_escapes_validateBootstrap {members : Members} (short : ShortMembers members) :
    ¬ Escapes (validateBootstrap members) := by
  apply not_escapes_require_bind; intro exactly
  apply not_escapes_exactObjectText_bind exactly (by simp [bootstrapKeys, commonKeys]); intro _
  apply not_escapes_exactObjectText_bind exactly (by simp [bootstrapKeys, commonKeys]); intro _
  apply not_escapes_fieldCall_bind exactly (by simp [bootstrapKeys, commonKeys])
    fun _ _ => not_escapes_validateFieldText; intro _
  apply not_escapes_fieldCall_bind exactly (by simp [bootstrapKeys, commonKeys])
    fun _ _ => not_escapes_validateFieldText; intro _
  apply not_escapes_fieldCall_bind exactly (by simp [bootstrapKeys, commonKeys])
    fun _ _ => not_escapes_requireText; intro _
  apply not_escapes_fieldCall_bind exactly (by simp [bootstrapKeys, commonKeys])
    fun _ member => not_escapes_parseUint64DecimalWire (short _ _ member); intro _
  apply not_escapes_fieldCall_bind exactly (by simp [bootstrapKeys])
    fun _ _ => not_escapes_requireText; intro _
  apply not_escapes_item_bind exactly (by simp [bootstrapKeys]); intro _
  apply not_escapes_item_bind exactly (by simp [bootstrapKeys]); intro _
  apply not_escapes_bind not_escapes_initialHighWater; intro _ _
  simp

theorem not_escapes_validateEpochTransition {members : Members} (short : ShortMembers members) :
    ¬ Escapes (validateEpochTransition members) := by
  apply not_escapes_require_bind; intro exactly
  apply not_escapes_exactObjectText_bind exactly (by simp [epochTransitionKeys, commonKeys]); intro _
  apply not_escapes_exactObjectText_bind exactly (by simp [epochTransitionKeys, commonKeys]); intro _
  apply not_escapes_fieldCall_bind exactly (by simp [epochTransitionKeys, commonKeys])
    fun _ _ => not_escapes_validateFieldText; intro _
  apply not_escapes_fieldCall_bind exactly (by simp [epochTransitionKeys, commonKeys])
    fun _ _ => not_escapes_validateFieldText; intro _
  apply not_escapes_fieldCall_bind exactly (by simp [epochTransitionKeys, commonKeys])
    fun _ _ => not_escapes_requireText; intro _
  apply not_escapes_fieldCall_bind exactly (by simp [epochTransitionKeys, commonKeys])
    fun _ member => not_escapes_parseUint64DecimalWire (short _ _ member); intro _
  apply not_escapes_fieldCall_bind exactly (by simp [epochTransitionKeys])
    fun _ _ => not_escapes_requireText; intro _
  apply not_escapes_fieldCall_bind exactly (by simp [epochTransitionKeys])
    fun _ _ => not_escapes_requireText; intro _
  split
  · simp
  · apply not_escapes_fieldCall_bind exactly (by simp [epochTransitionKeys])
      fun _ member => not_escapes_parseUint64DecimalWire (short _ _ member)
    simp

theorem shortMembers_of_visited {members : Members}
    (visited : validateAuthorizationStructure (.dict members) = .ok ()) : ShortMembers members := by
  have atLeast (codes : PyString) : codes.length ≤ (codes.flatMap utf8Octets).length := by
    induction codes with
    | nil => simp
    | cons code codes ih =>
      have some : 1 ≤ (utf8Octets code).length := by
        unfold utf8Octets
        split_ifs <;> simp
      simp only [List.length_cons, List.flatMap_cons, List.length_append]
      omega
  rw [validateAuthorizationStructure, visitValue_eq, Check.bound] at visited
  obtain ⟨reached, performed, -⟩ := visited
  have allowed := ((foldlM_perform_ok (Nat.zero_le _)).mp performed).1
  intro key value member
  cases value with
  | str codes =>
    have inside : Visit.string codes ∈ memberVisits members 1 := by
      clear performed allowed
      induction members with
      | nil => cases member
      | cons first members ih =>
        obtain ⟨name, child⟩ := first
        rw [memberVisits]
        rcases List.mem_cons.mp member with same | later
        · cases same
          simp [visits]
        · simp [ih later]
    have here := allowed (.string codes) (by simp [visits, inside])
    have bytes := atLeast codes
    simp only [StructureRules.Allows, authorizationRules] at here
    simp only [ShortText, maxDigits]
    omega
  | _ => trivial

theorem not_escapes_validateAuthorizationObject {value : Value}
    (visited : validateAuthorizationStructure value = .ok ()) : ¬ Escapes (validateAuthorizationObject value) := by
  unfold validateAuthorizationObject
  split
  · have short := shortMembers_of_visited visited
    dsimp only
    split_ifs
    · simp [not_escapes_validateBootstrap short]
    · simp [not_escapes_validateEpochTransition short]
    · simp
  · simp

/-- The same as `EnvelopeMeetsSurrogate`, for an authorization object. -/
def AuthorizationMeetsSurrogate (raw : ByteArray) : Prop :=
  raw.size ≤ authorizationObjectMaxRawBytes ∧
    ∃ value, decodeAuthorizationObject raw = .ok value ∧ authorizationRules.MeetsSurrogate (visits value 0)

theorem escapes_parseAndValidateAuthorizationObject {raw : ByteArray} :
    Escapes (parseAndValidateAuthorizationObject raw) ↔ AuthorizationMeetsSurrogate raw := by
  rw [parseAndValidateAuthorizationObject, escapes_require_bind,
    escapes_bind_of_not not_escapes_decodeAuthorizationObject]
  apply and_congr_right
  intro _
  apply exists_congr
  intro value
  apply and_congr_right
  intro _
  rw [escapes_bind]
  constructor
  · rintro (walk | ⟨_, visited, escapes⟩)
    · rw [validateAuthorizationStructure, escapes_bind, escapes_visitValue] at walk
      simpa using walk
    · exact absurd escapes (not_escapes_validateAuthorizationObject visited)
  · intro meets
    rw [validateAuthorizationStructure, escapes_bind, escapes_visitValue]
    exact .inl (.inl meets)

end Guardian.Assurance
