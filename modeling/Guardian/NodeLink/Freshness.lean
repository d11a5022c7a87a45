import Guardian.Lib.ByteString

namespace Guardian.NodeLink

open Word ByteString

/-- The buffer of a semantic reference, `GUARDIAN_NODE_LINK_SEMANTIC_REF_CAPACITY` bytes. -/
abbrev SemanticRef := Bytes 96

def signatureEd25519 : U8 := 1

@[ext] structure FreshnessIdentity where
  senderNodeId : U32
  producerId : U32
  keyId : U32
  signatureAlgorithm : U8
  producerSemanticProfileId : SemanticRef
  consumerSemanticProfileId : SemanticRef
  compatibilityContractId : SemanticRef
  deriving DecidableEq

inductive FreshnessCondition
  | uninitialized
  | active
  | unknown
  | rejoinRequired
  | sessionReplacementRequired
  deriving DecidableEq, Repr

inductive FreshnessResult
  | ok
  | errorNullArgument
  | errorInvalidCondition
  | errorInvalidState
  | errorInvalidPolicy
  | errorInvalidMessage
  | errorInvalidEvaluation
  deriving DecidableEq, Repr

structure FreshnessRuntime where
  condition : FreshnessCondition
  identity : FreshnessIdentity
  observedEpoch : U32
  observedSequence : U32
  acceptedEpoch : U32
  acceptedSequence : U32
  identityValid : U8
  observationValid : U8
  acceptedEpochValid : U8
  acceptedSequenceValid : U8
  deriving DecidableEq

/-- A buffer cleared to zero with `text` copied to its front. -/
def SemanticRef.ofText (text : List U8) : SemanticRef :=
  ⟨text.take 96 ++ List.replicate (96 - text.length) 0, by
    simp only [List.length_append, List.length_take, List.length_replicate]
    omega⟩

def zeroRef : SemanticRef := SemanticRef.ofText []

def zeroIdentity : FreshnessIdentity := ⟨0, 0, 0, 0, zeroRef, zeroRef, zeroRef⟩

def freshnessRuntimeInit : FreshnessRuntime := ⟨.uninitialized, zeroIdentity, 0, 0, 0, 0, 0, 0, 0, 0⟩

def freshnessRefValid (reference : SemanticRef) : Bool :=
  let length := (cString reference.1).length
  length != 0 && length < 96

def freshnessIdentityStructurallyValid (identity : FreshnessIdentity) : Bool :=
  if identity.senderNodeId = 0 ∨ identity.producerId = 0 ∨ identity.keyId = 0 ∨
      identity.signatureAlgorithm ≠ signatureEd25519 then false
  else if !freshnessRefValid identity.producerSemanticProfileId then false
  else if !freshnessRefValid identity.consumerSemanticProfileId then false
  else if !freshnessRefValid identity.compatibilityContractId then false
  else true

def freshnessRuntimeValidate (runtime : FreshnessRuntime) : FreshnessResult :=
  if runtime.identityValid > 1 ∨ runtime.observationValid > 1 ∨ runtime.acceptedEpochValid > 1 ∨
      runtime.acceptedSequenceValid > 1 then .errorInvalidState
  else if (runtime.observationValid ≠ 0 ∨ runtime.acceptedEpochValid ≠ 0 ∨ runtime.acceptedSequenceValid ≠ 0) ∧
      runtime.identityValid = 0 then .errorInvalidState
  else if runtime.identityValid ≠ 0 ∧ !freshnessIdentityStructurallyValid runtime.identity then .errorInvalidState
  else if runtime.observationValid ≠ 0 ∧ runtime.observedSequence = 0 then .errorInvalidState
  else if runtime.acceptedEpochValid ≠ 0 ∧ runtime.acceptedEpoch = 0 then .errorInvalidState
  else if runtime.acceptedSequenceValid ≠ 0 ∧ runtime.acceptedSequence = 0 then .errorInvalidState
  else if runtime.condition = .uninitialized then
    if runtime.acceptedEpochValid ≠ 0 ∨ runtime.acceptedSequenceValid ≠ 0 then .errorInvalidState else .ok
  else if runtime.acceptedSequenceValid ≠ 0 ∧ runtime.acceptedEpochValid = 0 then .errorInvalidState
  else if runtime.condition = .active then
    if runtime.identityValid = 0 ∨ runtime.acceptedEpochValid = 0 ∨ runtime.acceptedSequenceValid = 0 ∨
        runtime.acceptedSequence = 0 then .errorInvalidState else .ok
  else .ok

/-- `strncmp(left, right, GUARDIAN_NODE_LINK_SEMANTIC_REF_CAPACITY) == 0`. -/
def refTextEqual (left right : SemanticRef) : Bool := strncmpEqual left.1 right.1

/-- Every module has its own identity comparison; they differ in how two references are compared. -/
def identityFieldsEqual (refEqual : SemanticRef → SemanticRef → Bool) (left right : FreshnessIdentity) : Bool :=
  if left.senderNodeId ≠ right.senderNodeId ∨ left.producerId ≠ right.producerId ∨ left.keyId ≠ right.keyId ∨
      left.signatureAlgorithm ≠ right.signatureAlgorithm then false
  else if !refEqual left.producerSemanticProfileId right.producerSemanticProfileId then false
  else if !refEqual left.consumerSemanticProfileId right.consumerSemanticProfileId then false
  else refEqual left.compatibilityContractId right.compatibilityContractId

def freshnessIdentityEqual (left right : FreshnessIdentity) : Bool := identityFieldsEqual refTextEqual left right

inductive PersistenceStatus
  | invalid
  | validPersistedState
  | noPersistedState
  | corruptedState
  | tornOrIncompleteUpdate
  | rollbackSuspected
  | unavailableState
  deriving DecidableEq, Repr

structure PersistedRecord where
  schemaVersion : U32
  identity : FreshnessIdentity
  acceptedEpoch : U32
  acceptedSequence : U32
  recordGeneration : U32
  deriving DecidableEq

def zeroRecord : PersistedRecord := ⟨0, zeroIdentity, 0, 0, 0⟩

def persistenceSchemaVersion : U32 := 1

inductive PersistenceClassification
  | invalid
  | validatedRecordCandidate
  | noStateBootstrap
  | freshnessUnknown
  deriving DecidableEq, Repr

def persistenceClassify (providerStatus : PersistenceStatus) (record : PersistedRecord)
    (expectedIdentity : FreshnessIdentity) : FreshnessResult × PersistenceClassification :=
  if !freshnessIdentityStructurallyValid expectedIdentity then (.errorInvalidState, .invalid)
  else match providerStatus with
    | .noPersistedState => (.ok, .noStateBootstrap)
    | .corruptedState | .tornOrIncompleteUpdate | .rollbackSuspected | .unavailableState => (.ok, .freshnessUnknown)
    | .invalid => (.errorInvalidState, .invalid)
    | .validPersistedState =>
      if record.schemaVersion ≠ persistenceSchemaVersion then (.errorInvalidState, .invalid)
      else if !freshnessIdentityStructurallyValid record.identity then (.errorInvalidState, .invalid)
      else if !freshnessIdentityEqual record.identity expectedIdentity then (.errorInvalidState, .invalid)
      else if record.acceptedEpoch = 0 ∨ record.acceptedSequence = 0 then (.errorInvalidState, .invalid)
      else (.ok, .validatedRecordCandidate)

def SemanticRef.canonical (reference : SemanticRef) : SemanticRef := SemanticRef.ofText (cString reference.1)

def FreshnessIdentity.canonical (identity : FreshnessIdentity) : FreshnessIdentity :=
  { identity with
    producerSemanticProfileId := identity.producerSemanticProfileId.canonical
    consumerSemanticProfileId := identity.consumerSemanticProfileId.canonical
    compatibilityContractId := identity.compatibilityContractId.canonical }

def PersistedRecord.canonical (record : PersistedRecord) : PersistedRecord :=
  { record with identity := record.identity.canonical }

theorem refText_length (reference : SemanticRef) : (cString reference.1).length ≤ 96 := by
  simpa only [reference.2] using cString_length_le reference.1

theorem canonical_bytes (reference : SemanticRef) : reference.canonical.1 =
    cString reference.1 ++ List.replicate (96 - (cString reference.1).length) 0 := by
  simp only [SemanticRef.canonical, SemanticRef.ofText, List.take_of_length_le (refText_length reference)]

@[simp] theorem canonical_text (reference : SemanticRef) : cString reference.canonical.1 = cString reference.1 := by
  rw [canonical_bytes]
  exact cString_padded (cString_no_nul _) _

theorem SemanticRef.ofText_canonical {text : List U8} (fits : text.length ≤ 96) (noNul : (0 : U8) ∉ text) :
    (SemanticRef.ofText text).canonical = SemanticRef.ofText text := by
  have read : cString (SemanticRef.ofText text).1 = text := by
    simp only [SemanticRef.ofText, List.take_of_length_le fits]
    exact cString_padded noNul _
  rw [SemanticRef.canonical, read]

theorem canonicalRef_eq_iff {left right : SemanticRef} :
    left.canonical = right.canonical ↔ cString left.1 = cString right.1 := by
  constructor
  · intro same
    rw [← canonical_text left, ← canonical_text right, same]
  · intro same
    rw [SemanticRef.canonical, SemanticRef.canonical, same]

@[simp] theorem SemanticRef.canonical_canonical (reference : SemanticRef) :
    reference.canonical.canonical = reference.canonical := by
  rw [canonicalRef_eq_iff, canonical_text]

@[simp] theorem FreshnessIdentity.canonical_canonical (identity : FreshnessIdentity) :
    identity.canonical.canonical = identity.canonical := by
  simp [FreshnessIdentity.canonical]

@[simp] theorem PersistedRecord.canonical_canonical (record : PersistedRecord) :
    record.canonical.canonical = record.canonical := by
  simp [PersistedRecord.canonical]

@[simp] theorem freshnessRefValid_canonical (reference : SemanticRef) :
    freshnessRefValid reference.canonical = freshnessRefValid reference := by
  simp [freshnessRefValid]

theorem refTextEqual_iff (left right : SemanticRef) :
    refTextEqual left right = true ↔ left.canonical = right.canonical := by
  rw [refTextEqual, strncmpEqual_iff (left.2.trans right.2.symm), canonicalRef_eq_iff]

theorem identityFieldsEqual_iff {refEqual : SemanticRef → SemanticRef → Bool} (left right : FreshnessIdentity) :
    identityFieldsEqual refEqual left right = true ↔
      left.senderNodeId = right.senderNodeId ∧ left.producerId = right.producerId ∧ left.keyId = right.keyId ∧
      left.signatureAlgorithm = right.signatureAlgorithm ∧
      refEqual left.producerSemanticProfileId right.producerSemanticProfileId = true ∧
      refEqual left.consumerSemanticProfileId right.consumerSemanticProfileId = true ∧
      refEqual left.compatibilityContractId right.compatibilityContractId = true := by
  unfold identityFieldsEqual
  split_ifs <;> grind

theorem freshnessIdentityEqual_iff (left right : FreshnessIdentity) :
    freshnessIdentityEqual left right = true ↔ left.canonical = right.canonical := by
  rw [freshnessIdentityEqual, identityFieldsEqual_iff, refTextEqual_iff, refTextEqual_iff, refTextEqual_iff]
  simp only [FreshnessIdentity.canonical, FreshnessIdentity.mk.injEq]

theorem freshnessIdentityStructurallyValid_iff (identity : FreshnessIdentity) :
    freshnessIdentityStructurallyValid identity = true ↔
      identity.senderNodeId ≠ 0 ∧ identity.producerId ≠ 0 ∧ identity.keyId ≠ 0 ∧
      identity.signatureAlgorithm = signatureEd25519 ∧
      freshnessRefValid identity.producerSemanticProfileId = true ∧
      freshnessRefValid identity.consumerSemanticProfileId = true ∧
      freshnessRefValid identity.compatibilityContractId = true := by
  unfold freshnessIdentityStructurallyValid
  split_ifs <;> grind

@[simp] theorem freshnessIdentityStructurallyValid_canonical (identity : FreshnessIdentity) :
    freshnessIdentityStructurallyValid identity.canonical = freshnessIdentityStructurallyValid identity := by
  rw [Bool.eq_iff_iff, freshnessIdentityStructurallyValid_iff, freshnessIdentityStructurallyValid_iff]
  simp only [FreshnessIdentity.canonical, freshnessRefValid_canonical]

/-- What classification of a stored record as a candidate for `expectedIdentity` requires. -/
structure PersistedRecord.ValidFor (record : PersistedRecord) (expectedIdentity : FreshnessIdentity) : Prop where
  schema : record.schemaVersion = persistenceSchemaVersion
  identity : freshnessIdentityStructurallyValid record.identity = true
  expected : record.identity.canonical = expectedIdentity.canonical
  epoch : record.acceptedEpoch ≠ 0
  sequence : record.acceptedSequence ≠ 0

theorem persistenceClassify_valid {record : PersistedRecord} {expectedIdentity : FreshnessIdentity} :
    persistenceClassify .validPersistedState record expectedIdentity = (.ok, .validatedRecordCandidate) ↔
      record.ValidFor expectedIdentity := by
  have congruent : freshnessIdentityEqual record.identity expectedIdentity = true →
      freshnessIdentityStructurallyValid expectedIdentity = freshnessIdentityStructurallyValid record.identity := by
    intro equal
    rw [← freshnessIdentityStructurallyValid_canonical, ← (freshnessIdentityEqual_iff _ _).mp equal,
      freshnessIdentityStructurallyValid_canonical]
  constructor
  · intro accepted
    unfold persistenceClassify at accepted
    split_ifs at accepted <;> simp_all
    constructor <;> simp_all [← freshnessIdentityEqual_iff]
  · rintro ⟨schema, identity, expected, epoch, sequence⟩
    rw [← freshnessIdentityEqual_iff] at expected
    rw [persistenceClassify, if_neg (by simp [congruent expected, identity]), if_neg (by simp [schema]),
      if_neg (by simp [identity]), if_neg (by simp [expected]), if_neg (by simp only [epoch, sequence, or_self, not_false_eq_true])]

theorem PersistedRecord.ValidFor.canonical {record : PersistedRecord} {expectedIdentity : FreshnessIdentity}
    (valid : record.ValidFor expectedIdentity) : record.canonical.ValidFor expectedIdentity :=
  ⟨valid.schema, by simpa [PersistedRecord.canonical] using valid.identity,
    by simpa [PersistedRecord.canonical] using valid.expected, valid.epoch, valid.sequence⟩

theorem PersistedRecord.ValidFor.self {record : PersistedRecord} {expectedIdentity : FreshnessIdentity}
    (valid : record.ValidFor expectedIdentity) : record.ValidFor record.identity :=
  ⟨valid.schema, valid.identity, rfl, valid.epoch, valid.sequence⟩

end Guardian.NodeLink
