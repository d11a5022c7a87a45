import Guardian.Assurance.FreshnessState
import Guardian.Assurance.StructureWalk

namespace Guardian.Assurance

open JsonText Raising

attribute [local instance] pyString_lawfulBEq

inductive ErrorCode
  | rawLimit
  | invalidUtf8
  | invalidJson
  | duplicateKey
  | structuralLimit
  | schema
  | domain
  | canonicalization
  deriving DecidableEq, Repr

def ErrorCode.value : ErrorCode → String
  | .rawLimit => "RAW_LIMIT"
  | .invalidUtf8 => "INVALID_UTF8"
  | .invalidJson => "INVALID_JSON"
  | .duplicateKey => "DUPLICATE_KEY"
  | .structuralLimit => "STRUCTURAL_LIMIT"
  | .schema => "SCHEMA"
  | .domain => "DOMAIN"
  | .canonicalization => "CANONICALIZATION"

/-- The text of an error, which may go on with a name from the input. -/
inductive Detail
  | text (text : String)
  | about (text : String) (name : PyString)
  deriving DecidableEq

structure AssuranceError where
  code : ErrorCode
  detail : Detail
  deriving DecidableEq

structure AssuranceLimits where
  maxRawBytes : ℕ := 65536
  maxDepth : ℕ := 16
  maxNodes : ℕ := 2048
  maxObjectMembers : ℕ := 128
  maxArrayItems : ℕ := 256
  maxStringUtf8Bytes : ℕ := 4096

def safeInteger : ℤ := 9007199254740991

inductive StrictJsonError
  | invalidUtf8
  | invalidJson
  | duplicateMember (key : PyString)
  deriving DecidableEq

def decodeStrictJson (raw : ByteArray) : Raises StrictJsonError Value := do
  let text ← decodeUtf8 .invalidUtf8 raw
  onValueError .invalidJson (loadJson (dictHooks .duplicateMember fun _ => none) text)

def schemaError (text : String) : AssuranceError := ⟨.schema, .text text⟩

/-- The rules of `_validate_structure`. -/
def assuranceRules (limits : AssuranceLimits) : StructureRules AssuranceError where
  maxNodes := limits.maxNodes
  maxDepth := limits.maxDepth
  maxMembers := limits.maxObjectMembers
  maxItems := limits.maxArrayItems
  maxStringBytes := limits.maxStringUtf8Bytes
  nodeError := ⟨.structuralLimit, .text "node limit exceeded"⟩
  depthError := ⟨.structuralLimit, .text "depth limit exceeded"⟩
  memberError := ⟨.structuralLimit, .text "member limit exceeded"⟩
  itemError := ⟨.structuralLimit, .text "array limit exceeded"⟩
  stringError := ⟨.structuralLimit, .text "string limit exceeded"⟩
  leafError
    | .int value =>
      if -safeInteger ≤ value ∧ value ≤ safeInteger then none else some (schemaError "integer outside safe range")
    | .float => some (schemaError "floating-point values are prohibited")
    | _ => none

def validateStructure (value : Value) (limits : AssuranceLimits) : Raises AssuranceError Unit := do
  let _ ← visitValue (assuranceRules limits) value 1 0
  return ()

def validateProducerId : Value → Raises AssuranceError PyString :=
  requireText (isIdentifier 128) (schemaError "invalid producer_id")

def validateProducerEpoch : Value → Raises AssuranceError PyString :=
  requireText (isLowerHex 32) (schemaError "invalid producer_epoch")

def validateLogicalTime : Value → Raises AssuranceError LogicalTime
  | .int value =>
    if inside : 0 ≤ value ∧ value ≤ safeInteger then .ok ⟨value.toNat, by unfold safeInteger at inside; omega⟩
    else raise (schemaError "invalid logical_time")
  | _ => raise (schemaError "invalid logical_time")

def exactMembers (payload : Members) (expected : List PyString) : Raises AssuranceError Unit :=
  require (HasExactly expected payload) (schemaError "payload members do not match schema")

def invalidField (field : String) : AssuranceError := schemaError ("invalid " ++ field)

def identifier (value : Value) (field : String) (maximum : ℕ) : Raises AssuranceError PyString :=
  requireText (isIdentifier maximum) (invalidField field) value

def exactText (value : Value) (field : String) (expected : PyString) : Raises AssuranceError PyString :=
  requireText (· = expected) (invalidField field) value

def enum (value : Value) (field : String) (allowed : List PyString) : Raises AssuranceError PyString :=
  requireText (· ∈ allowed) (invalidField field) value

def hex (value : Value) (field : String) (length : ℕ) : Raises AssuranceError PyString :=
  requireText (isLowerHex length) (invalidField field) value

def uniqueItems (check : Value → Raises AssuranceError PyString) (field : String) :
    List PyString → List Value → Raises AssuranceError Unit
  | _, [] => return ()
  | seen, value :: items => do
    let checked ← check value
    require (checked ∉ seen) (schemaError ("duplicate " ++ field ++ " item"))
    uniqueItems check field (checked :: seen) items

def uniqueArray (value : Value) (field : String) (minimum maximum : ℕ)
    (check : Value → Raises AssuranceError PyString) : Raises AssuranceError Unit :=
  match value with
  | .list items => do
    require (minimum ≤ items.length ∧ items.length ≤ maximum) (schemaError ("invalid " ++ field ++ " cardinality"))
    uniqueItems check field [] items
  | _ => raise (schemaError ("invalid " ++ field ++ " cardinality"))

def observationResults : List PyString := [py "PRESENT", py "ABSENT", py "UNKNOWN", py "CONFLICTING"]

def decisionResults : List PyString :=
  [py "CONFIRMED", py "NOT_CONFIRMED", py "INSUFFICIENT_EVIDENCE", py "CONFLICTING_EVIDENCE",
    py "POSSIBLE_CROSS_SITE_ATTACK", py "HUMAN_REVIEW_REQUIRED"]

def observationKeys : List PyString :=
  [py "schema_version", py "subject_id", py "claim", py "result", py "evidence_digest"]

def decisionKeys : List PyString :=
  [py "schema_version", py "policy_id", py "result", py "reason_codes", py "evidence_ids"]

def witnessKeys : List PyString :=
  [py "schema_version", py "subject_id", py "result", py "observed_object_ids", py "evidence_digest"]

def observation (payload : Members) : Raises AssuranceError Unit := do
  exactMembers payload observationKeys
  let _ ← exactText (← item payload (py "schema_version")) "schema_version" (py "m14.observation.v1")
  let _ ← identifier (← item payload (py "subject_id")) "subject_id" 128
  let _ ← identifier (← item payload (py "claim")) "claim" 64
  let _ ← enum (← item payload (py "result")) "result" observationResults
  let _ ← hex (← item payload (py "evidence_digest")) "evidence_digest" 64
  return ()

def decision (payload : Members) : Raises AssuranceError Unit := do
  exactMembers payload decisionKeys
  let _ ← exactText (← item payload (py "schema_version")) "schema_version" (py "m14.decision.v1")
  let _ ← identifier (← item payload (py "policy_id")) "policy_id" 128
  let _ ← enum (← item payload (py "result")) "result" decisionResults
  uniqueArray (← item payload (py "reason_codes")) "reason_codes" 1 16 (identifier · "reason_codes" 64)
  uniqueArray (← item payload (py "evidence_ids")) "evidence_ids" 1 32 (hex · "evidence_ids" 32)

def witness (payload : Members) : Raises AssuranceError Unit := do
  exactMembers payload witnessKeys
  let _ ← exactText (← item payload (py "schema_version")) "schema_version" (py "m14.witness.v1")
  let _ ← identifier (← item payload (py "subject_id")) "subject_id" 128
  let _ ← enum (← item payload (py "result")) "result" decisionResults
  uniqueArray (← item payload (py "observed_object_ids")) "observed_object_ids" 1 32 (hex · "observed_object_ids" 32)
  let _ ← hex (← item payload (py "evidence_digest")) "evidence_digest" 64
  return ()

def validatePayload (objectType : PyString) (payload : Value) : Raises AssuranceError Unit :=
  match payload with
  | .dict members =>
    if objectType = py "observation" then observation members
    else if objectType = py "decision" then decision members
    else if objectType = py "witness" then witness members
    else raise (schemaError "unsupported object_type")
  | _ => raise (schemaError "payload must be an object")

def objectTypes : List PyString := [py "observation", py "decision", py "witness"]

def envelopeKeys : List PyString :=
  [py "domain", py "object_type", py "producer_id", py "producer_epoch", py "object_id", py "logical_time",
    py "payload"]

def expectedDomain (objectType : PyString) : PyString := py "guardian-f401:m14:assurance:v1:" ++ objectType

def validateEnvelope (value : Value) : Raises AssuranceError Members :=
  match value with
  | .dict members => do
    require (HasExactly envelopeKeys members) (schemaError "envelope must contain exactly the defined members")
    let objectType ← requireText (fun _ => true) (schemaError "invalid object_type")
      (← item members (py "object_type"))
    require (objectType ∈ objectTypes) (schemaError "unsupported object_type")
    let _ ← validateProducerId (← item members (py "producer_id"))
    let _ ← validateProducerEpoch (← item members (py "producer_epoch"))
    let _ ← requireText (isLowerHex 32) (schemaError "invalid object_id") (← item members (py "object_id"))
    let _ ← validateLogicalTime (← item members (py "logical_time"))
    let domain ← item members (py "domain")
    require (isText domain (expectedDomain objectType)) ⟨.domain, .text "domain does not match object_type"⟩
    validatePayload objectType (← item members (py "payload"))
    return members
  | _ => raise (schemaError "envelope must contain exactly the defined members")

/-- How `parse_and_validate_envelope` reports what strict decoding refuses. -/
def StrictJsonError.assurance : StrictJsonError → AssuranceError
  | .invalidUtf8 => ⟨.invalidUtf8, .text "input is not strict UTF-8"⟩
  | .duplicateMember key => ⟨.duplicateKey, .about "duplicate member " key⟩
  | .invalidJson => ⟨.invalidJson, .text "input is not valid JSON"⟩

def parseAndValidateEnvelope (raw : ByteArray) (limits : AssuranceLimits := {}) : Raises AssuranceError Members := do
  require (raw.size ≤ limits.maxRawBytes) ⟨.rawLimit, .text "raw byte limit exceeded"⟩
  let value ← rewrap StrictJsonError.assurance (decodeStrictJson raw)
  validateStructure value limits
  validateEnvelope value

@[simp]
theorem not_escapes_decodeStrictJson {raw : ByteArray} : ¬ Escapes (decodeStrictJson raw) := by
  apply not_escapes_bind not_escapes_decodeUtf8
  intro text _
  apply not_escapes_loadDict
  nofun

@[simp]
theorem not_escapes_validateLogicalTime {value : Value} : ¬ Escapes (validateLogicalTime value) := by
  unfold validateLogicalTime
  split
  · split <;> simp
  · simp

section payloads

variable {check : Value → Raises AssuranceError PyString} {field : String} {payload : Members}

theorem not_escapes_uniqueItems {seen : List PyString} {items : List Value}
    (checks : ∀ value, ¬ Escapes (check value)) :
    ¬ Escapes (uniqueItems check field seen items) := by
  induction items generalizing seen with
  | nil => simp [uniqueItems]
  | cons value items ih =>
    apply not_escapes_bind (checks value)
    intro checked _
    apply not_escapes_require_bind
    exact fun _ => ih

theorem not_escapes_uniqueArray {value : Value} {minimum maximum : ℕ} (checks : ∀ value, ¬ Escapes (check value)) :
    ¬ Escapes (uniqueArray value field minimum maximum check) := by
  unfold uniqueArray
  split
  · apply not_escapes_require_bind
    exact fun _ => not_escapes_uniqueItems checks
  · simp

@[simp]
theorem not_escapes_observation : ¬ Escapes (observation payload) := by
  apply not_escapes_require_bind
  intro exactly
  apply not_escapes_textItem_bind exactly (by simp [observationKeys]); intro _
  apply not_escapes_textItem_bind exactly (by simp [observationKeys]); intro _
  apply not_escapes_textItem_bind exactly (by simp [observationKeys]); intro _
  apply not_escapes_textItem_bind exactly (by simp [observationKeys]); intro _
  apply not_escapes_textItem_bind exactly (by simp [observationKeys]); intro _
  simp

@[simp]
theorem not_escapes_decision : ¬ Escapes (decision payload) := by
  apply not_escapes_require_bind
  intro exactly
  apply not_escapes_textItem_bind exactly (by simp [decisionKeys]); intro _
  apply not_escapes_textItem_bind exactly (by simp [decisionKeys]); intro _
  apply not_escapes_textItem_bind exactly (by simp [decisionKeys]); intro _
  apply not_escapes_item_bind exactly (by simp [decisionKeys]); intro _
  apply not_escapes_bind (not_escapes_uniqueArray fun _ => not_escapes_requireText); intro _ _
  apply not_escapes_item_bind exactly (by simp [decisionKeys]); intro _
  exact not_escapes_uniqueArray fun _ => not_escapes_requireText

@[simp]
theorem not_escapes_witness : ¬ Escapes (witness payload) := by
  apply not_escapes_require_bind
  intro exactly
  apply not_escapes_textItem_bind exactly (by simp [witnessKeys]); intro _
  apply not_escapes_textItem_bind exactly (by simp [witnessKeys]); intro _
  apply not_escapes_textItem_bind exactly (by simp [witnessKeys]); intro _
  apply not_escapes_item_bind exactly (by simp [witnessKeys]); intro _
  apply not_escapes_bind (not_escapes_uniqueArray fun _ => not_escapes_requireText); intro _ _
  apply not_escapes_textItem_bind exactly (by simp [witnessKeys]); intro _
  simp

end payloads

@[simp]
theorem not_escapes_validatePayload {objectType : PyString} {payload : Value} :
    ¬ Escapes (validatePayload objectType payload) := by
  unfold validatePayload
  split
  · split_ifs <;> simp
  · simp

@[simp]
theorem not_escapes_validateEnvelope {value : Value} : ¬ Escapes (validateEnvelope value) := by
  unfold validateEnvelope
  split
  · rename_i members
    apply not_escapes_require_bind
    intro exactly
    apply not_escapes_textItem_bind exactly (by simp [envelopeKeys]); intro _
    apply not_escapes_require_bind; intro _
    apply not_escapes_textItem_bind exactly (by simp [envelopeKeys]); intro _
    apply not_escapes_textItem_bind exactly (by simp [envelopeKeys]); intro _
    apply not_escapes_textItem_bind exactly (by simp [envelopeKeys]); intro _
    apply not_escapes_item_bind exactly (by simp [envelopeKeys]); intro _
    apply not_escapes_bind not_escapes_validateLogicalTime; intro _ _
    apply not_escapes_item_bind exactly (by simp [envelopeKeys]); intro _
    apply not_escapes_require_bind; intro _
    apply not_escapes_item_bind exactly (by simp [envelopeKeys]); intro _
    apply not_escapes_bind not_escapes_validatePayload; intro _ _
    simp
  · simp

/-- A document of the right size is strict JSON, and the first thing that the walk does not allow in it is a string that
UTF-8 cannot encode. -/
def EnvelopeMeetsSurrogate (raw : ByteArray) (limits : AssuranceLimits) : Prop :=
  raw.size ≤ limits.maxRawBytes ∧
    ∃ value, decodeStrictJson raw = .ok value ∧ (assuranceRules limits).MeetsSurrogate (visits value 1)

theorem escapes_parseAndValidateEnvelope {raw : ByteArray} {limits : AssuranceLimits} :
    Escapes (parseAndValidateEnvelope raw limits) ↔ EnvelopeMeetsSurrogate raw limits := by
  rw [parseAndValidateEnvelope, escapes_require_bind]
  simp only [validateStructure, EnvelopeMeetsSurrogate, escapes_bind, escapes_rewrap, rewrap_ok,
    not_escapes_decodeStrictJson, not_escapes_validateEnvelope, not_escapes_pure, escapes_visitValue, false_or,
    and_false, exists_false, or_false]

end Guardian.Assurance
