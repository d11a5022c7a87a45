import Guardian.Crypto.Sha256
import Guardian.Lib.SlotTable
import Guardian.MultiNode.Multinode

namespace Guardian.MultiNode

open Word Guardian.Crypto

def witnessSchemaVersion : U8 := 1
def witnessSignatureEd25519 : U8 := 1
def witnessAuthorityNone : U8 := 0
def witnessMaxPayload : Nat := 256
def witnessMaxSubjects : Nat := 5
def witnessTranscriptMaxSize : Nat := 128

/-- `GUARDIAN-F401:M17:EVIDENCE-WITNESS:V1`. -/
def witnessDomain : List U8 :=
  [0x47, 0x55, 0x41, 0x52, 0x44, 0x49, 0x41, 0x4E, 0x2D, 0x46, 0x34, 0x30, 0x31, 0x3A, 0x4D, 0x31, 0x37, 0x3A, 0x45,
   0x56, 0x49, 0x44, 0x45, 0x4E, 0x43, 0x45, 0x2D, 0x57, 0x49, 0x54, 0x4E, 0x45, 0x53, 0x53, 0x3A, 0x56, 0x31]

def witnessEvidenceInvalid : U8 := 0
def witnessEvidenceObservation : U8 := 1
def witnessEvidenceSupervision : U8 := 2
def witnessEvidenceRecoveryRequest : U8 := 4
def witnessEvidenceExecutionResult : U8 := 6

inductive ProviderResult
  | ok
  | signatureInvalid
  | keyUnknown
  | keyRevoked
  | unavailable
  | failure
  deriving DecidableEq, Repr

inductive WitnessResult
  | ok
  | invalidConfig
  | invalidEvidence
  | transcript
  | replayOrRegression
  | subjectTableFull
  | signatureInvalid
  | keyUnknown
  | keyRevoked
  | providerUnavailable
  | providerFailure
  deriving DecidableEq, Repr

def witnessMapProvider : ProviderResult → WitnessResult
  | .ok => .ok
  | .signatureInvalid => .signatureInvalid
  | .keyUnknown => .keyUnknown
  | .keyRevoked => .keyRevoked
  | .unavailable => .providerUnavailable
  | .failure => .providerFailure

structure WitnessRecord where
  schemaVersion : U8
  evidenceType : U8
  signatureAlgorithm : U8
  authorityFlags : U8
  witnessNodeId : U32
  witnessProducerId : U32
  witnessKeyId : U32
  subjectNodeId : U32
  subjectProducerId : U32
  subjectKeyId : U32
  epoch : U32
  sequence : U32
  payloadLength : U32
  payloadDigest : Bytes 32
  signature : Bytes 64
  deriving DecidableEq

structure WitnessInput where
  subjectNodeId : U32
  subjectProducerId : U32
  subjectKeyId : U32
  epoch : U32
  sequence : U32
  evidenceType : U8
  payload : List U8
  deriving DecidableEq

structure SubjectState where
  subjectNodeId : U32
  subjectProducerId : U32
  subjectKeyId : U32
  acceptedEpoch : U32
  acceptedSequence : U32
  active : Bool
  deriving DecidableEq

def SubjectState.empty : SubjectState := ⟨0, 0, 0, 0, 0, false⟩

def SubjectState.key (state : SubjectState) : Option ProducerKey :=
  if state.active then some (state.subjectNodeId, state.subjectProducerId, state.subjectKeyId) else none

/-- The provider's functions: a signature and its verification, by algorithm and key. -/
abbrev SignFunction := U8 → U32 → List U8 → ProviderResult × Bytes 64
abbrev VerifyFunction := U8 → U32 → List U8 → Bytes 64 → ProviderResult

/-- `signatureAlgorithm` is the provider's. -/
structure WitnessNode where
  self : MultinodeNode
  signatureAlgorithm : U8
  subjects : { slots : List SubjectState // slots.length = witnessMaxSubjects }
  subjectCount : Nat
  initialized : Bool

def witnessEvidenceTypeValid (type : U8) : Bool :=
  decide (type > witnessEvidenceInvalid) && decide (type ≤ witnessEvidenceExecutionResult)

def witnessRecordStructurallyValid (record : WitnessRecord) : Bool :=
  if record.schemaVersion ≠ witnessSchemaVersion then false
  else if !witnessEvidenceTypeValid record.evidenceType then false
  else if record.signatureAlgorithm ≠ witnessSignatureEd25519 then false
  else if record.authorityFlags ≠ witnessAuthorityNone then false
  else if record.witnessNodeId = 0 ∨ record.witnessProducerId = 0 ∨ record.witnessKeyId = 0 ∨
      record.subjectNodeId = 0 ∨ record.subjectProducerId = 0 ∨ record.subjectKeyId = 0 ∨
      record.epoch = 0 ∨ record.sequence = 0 then false
  else if record.payloadLength = 0 ∨ record.payloadLength.toNat > witnessMaxPayload then false
  else true

def witnessTranscript (record : WitnessRecord) : List U8 :=
  witnessDomain ++
    [record.schemaVersion, record.evidenceType, record.signatureAlgorithm, record.authorityFlags] ++
    putU32Be record.witnessNodeId ++ putU32Be record.witnessProducerId ++ putU32Be record.witnessKeyId ++
    putU32Be record.subjectNodeId ++ putU32Be record.subjectProducerId ++ putU32Be record.subjectKeyId ++
    putU32Be record.epoch ++ putU32Be record.sequence ++ putU32Be record.payloadLength ++ record.payloadDigest.1

/-- The transcript that is signed. Its fields always fit the buffer of every caller. -/
def witnessBuildTranscript (record : WitnessRecord) (capacity : Nat) : Except WitnessResult (List U8) :=
  if !witnessRecordStructurallyValid record then .error .invalidEvidence
  else if capacity < witnessTranscriptMaxSize then .error .transcript
  else .ok (witnessTranscript record)

def sha256Bytes (data : List U8) : Bytes 32 := ⟨sha256 data, sha256_length data⟩

def WitnessInput.key (input : WitnessInput) : ProducerKey :=
  (input.subjectNodeId, input.subjectProducerId, input.subjectKeyId)

def witnessUnsigned (node : WitnessNode) (input : WitnessInput) : WitnessRecord where
  schemaVersion := witnessSchemaVersion
  evidenceType := input.evidenceType
  signatureAlgorithm := node.signatureAlgorithm
  authorityFlags := witnessAuthorityNone
  witnessNodeId := node.self.nodeId
  witnessProducerId := node.self.producerId
  witnessKeyId := node.self.keyId
  subjectNodeId := input.subjectNodeId
  subjectProducerId := input.subjectProducerId
  subjectKeyId := input.subjectKeyId
  epoch := input.epoch
  sequence := input.sequence
  payloadLength := BitVec.ofNat 32 input.payload.length
  payloadDigest := sha256Bytes input.payload
  signature := ⟨List.replicate 64 0, List.length_replicate⟩

/-- The slot that the search found, and whether it is the subject's own. -/
def witnessAdmit (node : WitnessNode) (input : WitnessInput) : Except WitnessResult (Nat × Bool) :=
  match SlotTable.search SubjectState.key input.key node.subjects.1 0 none with
  | (some index, _) =>
    let state := node.subjects.1.getD index .empty
    if input.epoch < state.acceptedEpoch then .error .replayOrRegression
    else if input.epoch = state.acceptedEpoch ∧ input.sequence ≤ state.acceptedSequence then .error .replayOrRegression
    else .ok (index, true)
  | (none, some index) => .ok (index, false)
  | (none, none) => .error .subjectTableFull

/-- A subject's slot after the input; a new subject is named first. -/
def witnessNextState (state : SubjectState) (input : WitnessInput) (existing : Bool) : SubjectState :=
  if existing then { state with acceptedEpoch := input.epoch, acceptedSequence := input.sequence }
  else ⟨input.subjectNodeId, input.subjectProducerId, input.subjectKeyId, input.epoch, input.sequence, true⟩

def witnessStore (node : WitnessNode) (input : WitnessInput) (index : Nat) (existing : Bool) : WitnessNode :=
  { node with
    subjects := ⟨node.subjects.1.set index (witnessNextState (node.subjects.1.getD index .empty) input existing), by
      rw [List.length_set, node.subjects.2]⟩
    subjectCount :=
      if !existing && decide (node.subjectCount < witnessMaxSubjects) then node.subjectCount + 1 else node.subjectCount }

def witnessCreate (sign : SignFunction) (node : WitnessNode) (input : WitnessInput) :
    Except WitnessResult WitnessRecord × WitnessNode :=
  if !node.initialized then (.error .invalidConfig, node)
  else if input.subjectNodeId = 0 ∨ input.subjectProducerId = 0 ∨ input.subjectKeyId = 0 ∨ input.epoch = 0 ∨
      input.sequence = 0 ∨ input.payload.length = 0 ∨ input.payload.length > witnessMaxPayload ∨
      witnessEvidenceTypeValid input.evidenceType = false then
    (.error .invalidEvidence, node)
  else match witnessAdmit node input with
    | .error result => (.error result, node)
    | .ok (index, existing) =>
      match witnessBuildTranscript (witnessUnsigned node input) witnessTranscriptMaxSize with
      | .error result => (.error result, node)
      | .ok transcript =>
        match sign node.signatureAlgorithm node.self.keyId transcript with
        | (.ok, signature) =>
          (.ok { witnessUnsigned node input with signature }, witnessStore node input index existing)
        | (failed, _) => (.error (witnessMapProvider failed), node)

def witnessVerify (verify : VerifyFunction) (node : WitnessNode) (record : WitnessRecord) : WitnessResult :=
  if !node.initialized then .invalidConfig
  else if !witnessRecordStructurallyValid record then .invalidEvidence
  else if record.witnessNodeId ≠ node.self.nodeId ∨ record.witnessProducerId ≠ node.self.producerId ∨
      record.witnessKeyId ≠ node.self.keyId then .invalidEvidence
  else match witnessBuildTranscript record witnessTranscriptMaxSize with
    | .error result => result
    | .ok transcript =>
      witnessMapProvider (verify record.signatureAlgorithm record.witnessKeyId transcript record.signature)

end Guardian.MultiNode
