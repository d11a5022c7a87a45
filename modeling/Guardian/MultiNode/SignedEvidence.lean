import Guardian.MultiNode.SecurityWitness

namespace Guardian.MultiNode

open Word Guardian.Crypto

def evidenceSchemaVersion : U8 := 1
def evidenceAuthorityNone : U8 := 0
def evidenceMaxTrackedProducers : Nat := 5
def evidenceTranscriptMaxSize : Nat := 192
def evidenceDigestInputMaxSize : Nat := 320

/-- `GUARDIAN-F401:M17:SIGNED-EVIDENCE:V1`. -/
def evidenceDomain : List U8 :=
  [0x47, 0x55, 0x41, 0x52, 0x44, 0x49, 0x41, 0x4E, 0x2D, 0x46, 0x34, 0x30, 0x31, 0x3A, 0x4D, 0x31, 0x37, 0x3A, 0x53,
   0x49, 0x47, 0x4E, 0x45, 0x44, 0x2D, 0x45, 0x56, 0x49, 0x44, 0x45, 0x4E, 0x43, 0x45, 0x3A, 0x56, 0x31]

/-- `GUARDIAN-F401:M17:SIGNED-EVIDENCE-DIGEST:V1`. -/
def evidenceDigestDomain : List U8 :=
  [0x47, 0x55, 0x41, 0x52, 0x44, 0x49, 0x41, 0x4E, 0x2D, 0x46, 0x34, 0x30, 0x31, 0x3A, 0x4D, 0x31, 0x37, 0x3A, 0x53,
   0x49, 0x47, 0x4E, 0x45, 0x44, 0x2D, 0x45, 0x56, 0x49, 0x44, 0x45, 0x4E, 0x43, 0x45, 0x2D, 0x44, 0x49, 0x47, 0x45,
   0x53, 0x54, 0x3A, 0x56, 0x31]

def classInvalid : U8 := 0
def classMeasurement : U8 := 1
def classAnalysis : U8 := 2
def classFusion : U8 := 3
def classSupervision : U8 := 4
def classRecovery : U8 := 5

inductive EvidenceTrust
  | unknown
  | trusted
  | untrusted
  | revoked
  deriving DecidableEq, Repr

inductive EvidenceResult
  | ok
  | invalidConfig
  | invalidProducer
  | invalidEnvelope
  | transcript
  | signatureInvalid
  | keyUnknown
  | keyRevoked
  | providerUnavailable
  | providerFailure
  | untrusted
  | unauthorizedRole
  | chainMismatch
  | replayOrRegression
  | trackingTableFull
  deriving DecidableEq, Repr

structure EvidenceCore where
  schemaVersion : U8
  evidenceClass : U8
  producerRole : U8
  actuationAuthorized : U8
  producerNodeId : U32
  producerId : U32
  producerKeyId : U32
  epoch : U32
  sequence : U32
  payloadDigest : Bytes 32
  analysisDigest : Bytes 32
  previousEvidenceDigest : Bytes 32
  deriving DecidableEq

structure EvidenceEnvelope where
  core : EvidenceCore
  witnessRecord : WitnessRecord
  evidenceDigest : Bytes 32
  deriving DecidableEq

structure EvidenceVerdict where
  signatureValid : Bool
  trusted : Bool
  authorized : Bool
  chainValid : Bool
  fresh : Bool
  accepted : Bool
  actuationAuthorized : U8
  deriving DecidableEq, Repr

structure ProducerState where
  producerNodeId : U32
  producerId : U32
  producerKeyId : U32
  producerRole : U8
  acceptedEpoch : U32
  acceptedSequence : U32
  lastEvidenceDigest : Bytes 32
  active : Bool
  deriving DecidableEq

def zeroDigest : Bytes 32 := ⟨List.replicate 32 0, List.length_replicate⟩

def ProducerState.empty : ProducerState := ⟨0, 0, 0, 0, 0, 0, zeroDigest, false⟩

def ProducerState.key (state : ProducerState) : Option ProducerKey :=
  if state.active then some (state.producerNodeId, state.producerId, state.producerKeyId) else none

def EvidenceCore.key (core : EvidenceCore) : ProducerKey := (core.producerNodeId, core.producerId, core.producerKeyId)

/-- The witness and the lookup that the context refers to are arguments of the operations that use them. -/
structure SignedEvidence where
  producers : { slots : List ProducerState // slots.length = evidenceMaxTrackedProducers }
  producerCount : Nat
  initialized : Bool

abbrev LookupFunction := U32 → U32 → U32 → Option (MultinodeNode × EvidenceTrust)

def evidenceInit : SignedEvidence :=
  ⟨⟨List.replicate evidenceMaxTrackedProducers .empty, List.length_replicate⟩, 0, false⟩

def evidenceConfigure (context : SignedEvidence) (witness : WitnessNode) : EvidenceResult × SignedEvidence :=
  if !witness.initialized then (.invalidConfig, context) else (.ok, { evidenceInit with initialized := true })

def evidenceClassValid (evidenceClass : U8) : Bool :=
  decide (evidenceClass > classInvalid) && decide (evidenceClass ≤ classRecovery)

def evidenceWitnessType (evidenceClass : U8) : U8 :=
  if evidenceClass = classMeasurement then witnessEvidenceObservation
  else if evidenceClass = classAnalysis ∨ evidenceClass = classFusion then witnessEvidenceExecutionResult
  else if evidenceClass = classSupervision then witnessEvidenceSupervision
  else if evidenceClass = classRecovery then witnessEvidenceRecoveryRequest
  else witnessEvidenceInvalid

/-- A class that a node of one role may produce with one capability. -/
def evidenceProducedBy (resolved : MultinodeNode) (role : U8) (capability : U32) : Bool :=
  resolved.role == role && resolved.authorityClass == authorityObserve && resolved.capabilities &&& capability != 0

def evidenceRoleAuthorized (evidenceClass : U8) (resolved : MultinodeNode) : Bool :=
  if resolved.capabilities &&& capActuationGate ≠ 0 then false
  else if evidenceClass = classMeasurement then
    evidenceProducedBy resolved roleStMeasurementReference capSensorAcquisition
  else if evidenceClass = classAnalysis ∨ evidenceClass = classFusion then
    evidenceProducedBy resolved roleHighComputeProcessing capSignalProcessing
  else if evidenceClass = classSupervision then
    evidenceProducedBy resolved roleMcxn947SupervisoryPeer capSupervision
  else if evidenceClass = classRecovery then
    evidenceProducedBy resolved roleMcxn947SupervisoryPeer capRecoveryAssist
  else false

def evidenceMapWitnessResult : WitnessResult → EvidenceResult
  | .ok => .ok
  | .signatureInvalid => .signatureInvalid
  | .keyUnknown => .keyUnknown
  | .keyRevoked => .keyRevoked
  | .providerUnavailable => .providerUnavailable
  | .providerFailure => .providerFailure
  | _ => .invalidEnvelope

def evidenceTranscript (core : EvidenceCore) : List U8 :=
  evidenceDomain ++ [core.schemaVersion, core.evidenceClass, core.producerRole, core.actuationAuthorized] ++
    putU32Be core.producerNodeId ++ putU32Be core.producerId ++ putU32Be core.producerKeyId ++
    putU32Be core.epoch ++ putU32Be core.sequence ++
    core.payloadDigest.1 ++ core.analysisDigest.1 ++ core.previousEvidenceDigest.1

def evidenceBuildTranscript (core : EvidenceCore) (capacity : Nat) : Except EvidenceResult (List U8) :=
  if core.schemaVersion ≠ evidenceSchemaVersion ∨ evidenceClassValid core.evidenceClass = false ∨
      core.actuationAuthorized ≠ evidenceAuthorityNone ∨ core.producerRole = roleInvalid ∨ core.producerNodeId = 0 ∨
      core.producerId = 0 ∨ core.producerKeyId = 0 ∨ core.epoch = 0 ∨ core.sequence = 0 then .error .invalidEnvelope
  else if capacity < evidenceTranscriptMaxSize then .error .transcript
  else .ok (evidenceTranscript core)

def evidenceComputeDigest (core : EvidenceCore) (record : WitnessRecord) : Except EvidenceResult (Bytes 32) :=
  match evidenceBuildTranscript core evidenceTranscriptMaxSize with
  | .error result => .error result
  | .ok transcript =>
    let input := evidenceDigestDomain ++ transcript ++ record.signature.1
    if evidenceDigestDomain.length + transcript.length + 64 > evidenceDigestInputMaxSize then .error .transcript
    else .ok (sha256Bytes input)

structure EvidenceRequest where
  producer : MultinodeNode
  evidenceClass : U8
  epoch : U32
  sequence : U32
  payloadDigest : Bytes 32
  analysisDigest : Bytes 32
  previousEvidenceDigest : Bytes 32

def EvidenceRequest.core (request : EvidenceRequest) : EvidenceCore where
  schemaVersion := evidenceSchemaVersion
  evidenceClass := request.evidenceClass
  producerRole := request.producer.role
  actuationAuthorized := evidenceAuthorityNone
  producerNodeId := request.producer.nodeId
  producerId := request.producer.producerId
  producerKeyId := request.producer.keyId
  epoch := request.epoch
  sequence := request.sequence
  payloadDigest := request.payloadDigest
  analysisDigest := request.analysisDigest
  previousEvidenceDigest := request.previousEvidenceDigest

def EvidenceRequest.witnessInput (request : EvidenceRequest) (transcript : List U8) : WitnessInput where
  subjectNodeId := request.producer.nodeId
  subjectProducerId := request.producer.producerId
  subjectKeyId := request.producer.keyId
  epoch := request.epoch
  sequence := request.sequence
  evidenceType := evidenceWitnessType request.evidenceClass
  payload := transcript

def evidenceCreate (sign : SignFunction) (context : SignedEvidence) (witness : WitnessNode) (request : EvidenceRequest) :
    Except EvidenceResult EvidenceEnvelope × WitnessNode :=
  if !context.initialized then (.error .invalidConfig, witness)
  else if multinodeValidateNode request.producer ≠ .ok ∨ evidenceClassValid request.evidenceClass = false ∨
      request.epoch = 0 ∨ request.sequence = 0 then (.error .invalidProducer, witness)
  else match evidenceBuildTranscript request.core evidenceTranscriptMaxSize with
    | .error result => (.error result, witness)
    | .ok transcript =>
      match witnessCreate sign witness (request.witnessInput transcript) with
      | (.error result, witness) => (.error (evidenceMapWitnessResult result), witness)
      | (.ok record, witness) =>
        match evidenceComputeDigest request.core record with
        | .error result => (.error result, witness)
        | .ok digest => (.ok ⟨request.core, record, digest⟩, witness)

/-- The checks of the record and of both digests, with the verdict that each of them leaves. -/
def evidenceVerify (verify : VerifyFunction) (witness : WitnessNode) (envelope : EvidenceEnvelope)
    (verdict : EvidenceVerdict) : EvidenceResult × EvidenceVerdict :=
  match evidenceBuildTranscript envelope.core evidenceTranscriptMaxSize with
  | .error result => (result, verdict)
  | .ok transcript =>
    if envelope.witnessRecord.subjectNodeId ≠ envelope.core.producerNodeId ∨
        envelope.witnessRecord.subjectProducerId ≠ envelope.core.producerId ∨
        envelope.witnessRecord.subjectKeyId ≠ envelope.core.producerKeyId ∨
        envelope.witnessRecord.epoch ≠ envelope.core.epoch ∨
        envelope.witnessRecord.sequence ≠ envelope.core.sequence ∨
        envelope.witnessRecord.evidenceType ≠ evidenceWitnessType envelope.core.evidenceClass then
      (.invalidEnvelope, verdict)
    else if sha256Bytes transcript ≠ envelope.witnessRecord.payloadDigest then (.signatureInvalid, verdict)
    else match witnessVerify verify witness envelope.witnessRecord with
      | .ok =>
        let verdict := { verdict with signatureValid := true }
        match evidenceComputeDigest envelope.core envelope.witnessRecord with
        | .error result => (result, verdict)
        | .ok digest => if digest ≠ envelope.evidenceDigest then (.invalidEnvelope, verdict) else (.ok, verdict)
      | failed => (evidenceMapWitnessResult failed, verdict)

def evidenceAuthorize (lookup : LookupFunction) (core : EvidenceCore) (verdict : EvidenceVerdict) :
    EvidenceResult × EvidenceVerdict :=
  match lookup core.producerNodeId core.producerId core.producerKeyId with
  | none => (.keyUnknown, verdict)
  | some (resolved, trust) =>
    if trust = .revoked then (.keyRevoked, verdict)
    else if trust ≠ .trusted then (.untrusted, verdict)
    else
      let verdict := { verdict with trusted := true }
      if resolved.nodeId ≠ core.producerNodeId ∨ resolved.producerId ≠ core.producerId ∨
          resolved.keyId ≠ core.producerKeyId ∨ resolved.role ≠ core.producerRole ∨
          multinodeValidateNode resolved ≠ .ok ∨ evidenceRoleAuthorized core.evidenceClass resolved = false then
        (.unauthorizedRole, verdict)
      else (.ok, { verdict with authorized := true })

/-- The slot of the producer, if the envelope continues the producer's chain. -/
def evidenceChain (context : SignedEvidence) (core : EvidenceCore) (verdict : EvidenceVerdict) :
    Except EvidenceResult Nat × EvidenceVerdict :=
  match SlotTable.search ProducerState.key core.key context.producers.1 0 none with
  | (none, none) => (.error .trackingTableFull, verdict)
  | (none, some index) =>
    if core.previousEvidenceDigest ≠ zeroDigest then (.error .chainMismatch, verdict)
    else (.ok index, { verdict with chainValid := true, fresh := true })
  | (some index, _) =>
    let state := context.producers.1.getD index .empty
    if core.previousEvidenceDigest ≠ state.lastEvidenceDigest then (.error .chainMismatch, verdict)
    else
      let verdict := { verdict with chainValid := true }
      if core.epoch < state.acceptedEpoch ∨ core.epoch = state.acceptedEpoch ∧ core.sequence ≤ state.acceptedSequence then
        (.error .replayOrRegression, verdict)
      else (.ok index, { verdict with fresh := true })

/-- A slot after the envelope; a free one is named for its producer first. -/
def evidenceNextState (state : ProducerState) (envelope : EvidenceEnvelope) : ProducerState :=
  let named : ProducerState :=
    if state.active then state
    else ⟨envelope.core.producerNodeId, envelope.core.producerId, envelope.core.producerKeyId,
      envelope.core.producerRole, 0, 0, zeroDigest, true⟩
  { named with
    acceptedEpoch := envelope.core.epoch
    acceptedSequence := envelope.core.sequence
    lastEvidenceDigest := envelope.evidenceDigest }

def evidenceAccept (context : SignedEvidence) (envelope : EvidenceEnvelope) (index : Nat) : SignedEvidence :=
  let state := context.producers.1.getD index .empty
  { context with
    producers := ⟨context.producers.1.set index (evidenceNextState state envelope), by
      rw [List.length_set, context.producers.2]⟩
    producerCount := if state.active then context.producerCount else context.producerCount + 1 }

def evidenceVerifyAndAccept (verify : VerifyFunction) (lookup : LookupFunction) (witness : WitnessNode)
    (context : SignedEvidence) (envelope : EvidenceEnvelope) : EvidenceResult × EvidenceVerdict × SignedEvidence :=
  let verdict : EvidenceVerdict := ⟨false, false, false, false, false, false, 0⟩
  if !context.initialized then (.invalidConfig, verdict, context)
  else match evidenceVerify verify witness envelope { verdict with actuationAuthorized := evidenceAuthorityNone } with
    | (.ok, verdict) =>
      match evidenceAuthorize lookup envelope.core verdict with
      | (.ok, verdict) =>
        match evidenceChain context envelope.core verdict with
        | (.ok index, verdict) => (.ok, { verdict with accepted := true }, evidenceAccept context envelope index)
        | (.error result, verdict) => (result, verdict, context)
      | (result, verdict) => (result, verdict, context)
    | (result, verdict) => (result, verdict, context)

end Guardian.MultiNode
