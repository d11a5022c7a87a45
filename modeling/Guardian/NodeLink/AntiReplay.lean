import Guardian.NodeLink.PersistenceTransaction
import Guardian.NodeLink.RollbackAnchor

namespace Guardian.NodeLink

open Word Device

inductive AntiReplayResult
  | invalid
  | ok
  | bootstrapRequired
  | freshnessUnknown
  | rollbackSuspected
  | stateMismatch
  | providerUnavailable
  | stateUncertain
  | replayOrRegression
  | epochTransitionRequired
  | generationExhausted
  deriving DecidableEq, Repr

structure AntiReplayEvidence where
  persistenceStatus : PersistenceStatus
  persistenceClassification : PersistenceClassification
  anchorStatus : AnchorStatus
  anchorComparison : AnchorCompare
  acceptedEpoch : U32
  acceptedSequence : U32
  recordGeneration : U32
  runtimeRestored : U8
  persistenceCommitted : U8
  anchorAdvanced : U8
  anchorReadbackVerified : U8
  persistentAntiReplayValid : U8
  actuationAuthorized : U8
  deriving DecidableEq

def antiReplayEvidenceInit : AntiReplayEvidence := ⟨.invalid, .invalid, .invalid, .invalid, 0, 0, 0, 0, 0, 0, 0, 0, 0⟩

def mapPersistenceOperation : OperationResult → AntiReplayResult
  | .unavailable => .providerUnavailable
  | .generationExhausted => .generationExhausted
  | .stateUncertain | .ioFailure | .verifyFailure | .commitFailure => .stateUncertain
  | .ok => .ok
  | .invalid => .invalid

def mapAnchorProviderResult : AnchorProviderResult → AntiReplayResult
  | .ok => .ok
  | .unavailable => .providerUnavailable
  | .exhausted => .generationExhausted
  | .ioError | .integrityError | .conflict => .stateUncertain
  | .invalidArgument | .unsupported | .invalid => .invalid

def antiReplayIdentityEqual (left right : FreshnessIdentity) : Bool := identityFieldsEqual refTextEqual left right

def restoreRuntimeFromRecord (record : PersistedRecord) (runtime : FreshnessRuntime) :
    AntiReplayResult × FreshnessRuntime :=
  let candidate := { freshnessRuntimeInit with
    condition := .active
    identity := record.identity
    acceptedEpoch := record.acceptedEpoch
    acceptedSequence := record.acceptedSequence
    identityValid := 1
    acceptedEpochValid := 1
    acceptedSequenceValid := 1 }
  if freshnessRuntimeValidate candidate ≠ .ok then (.invalid, runtime) else (.ok, candidate)

/-- What a call returns and leaves behind its output pointers. `record` is the restored or the committed record. -/
structure AntiReplayOutput where
  result : AntiReplayResult
  runtime : FreshnessRuntime
  record : PersistedRecord
  evidence : AntiReplayEvidence
  deriving DecidableEq

def AntiReplayOutput.refused (runtime : FreshnessRuntime) (result : AntiReplayResult) (evidence : AntiReplayEvidence) :
    AntiReplayOutput := ⟨result, runtime, zeroRecord, evidence⟩

section Coordinator

variable {σ τ : Type} (persistenceProvider : PersistenceProvider σ) (anchorProvider : AnchorProvider τ)
variable (expectedIdentity : FreshnessIdentity)

def onPersistence {α : Type} (operation : Dev σ α) : Dev (σ × τ) α :=
  Dev.zoom Prod.fst (fun node persistence => (persistence, node.2)) operation

def onAnchor {α : Type} (operation : Dev τ α) : Dev (σ × τ) α :=
  Dev.zoom Prod.snd (fun node anchor => (node.1, anchor)) operation

section Recovery

def restoreCompared (loaded : PersistedRecord) (comparison : AnchorCompare) (evidence : AntiReplayEvidence) :
    AntiReplayOutput :=
  match comparison with
  | .matched =>
    let restored := restoreRuntimeFromRecord loaded freshnessRuntimeInit
    if restored.1 ≠ .ok then .refused freshnessRuntimeInit restored.1 evidence
    else ⟨.ok, restored.2, loaded, { evidence with
      acceptedEpoch := loaded.acceptedEpoch
      acceptedSequence := loaded.acceptedSequence
      recordGeneration := loaded.recordGeneration
      runtimeRestored := 1
      anchorReadbackVerified := 1
      persistentAntiReplayValid := 1
      actuationAuthorized := 0 }⟩
  | .behind => .refused freshnessRuntimeInit .rollbackSuspected evidence
  | .ahead => .refused freshnessRuntimeInit .stateUncertain evidence
  | .stateMismatch | .identityMismatch => .refused freshnessRuntimeInit .stateMismatch evidence
  | .invalid => .refused freshnessRuntimeInit .invalid evidence

def recoverAnchored (loaded : PersistedRecord) (evidence : AntiReplayEvidence) : Dev (σ × τ) AntiReplayOutput := do
  let read ← onAnchor (rollbackAnchorRead anchorProvider expectedIdentity)
  let evidence := { evidence with anchorStatus := read.2.2 }
  if read.1 ≠ .ok then pure (.refused freshnessRuntimeInit (mapAnchorProviderResult read.1) evidence)
  else if read.2.2 ≠ .valid then pure (.refused freshnessRuntimeInit .freshnessUnknown evidence)
  else
    let compared := rollbackAnchorCompare read.2.1 loaded
    let evidence := { evidence with anchorComparison := compared.2 }
    if compared.1 ≠ .ok then pure (.refused freshnessRuntimeInit (mapAnchorProviderResult compared.1) evidence)
    else pure (restoreCompared loaded compared.2 evidence)

def antiReplayRecover : Dev (σ × τ) AntiReplayOutput := do
  let load ← onPersistence persistenceProvider.load
  let evidence := { antiReplayEvidenceInit with persistenceStatus := load.2.1 }
  if load.1 ≠ .ok then pure (.refused freshnessRuntimeInit (mapPersistenceOperation load.1) evidence)
  else
    let classified := persistenceClassify load.2.1 load.2.2 expectedIdentity
    if classified.1 ≠ .ok then pure (.refused freshnessRuntimeInit .invalid evidence)
    else
      let evidence := { evidence with persistenceClassification := classified.2 }
      if classified.2 = .freshnessUnknown then pure (.refused freshnessRuntimeInit .freshnessUnknown evidence)
      else do
        let status ← onAnchor (rollbackAnchorStatus anchorProvider expectedIdentity)
        let evidence := { evidence with anchorStatus := status.2 }
        if status.1 ≠ .ok then pure (.refused freshnessRuntimeInit (mapAnchorProviderResult status.1) evidence)
        else if classified.2 = .noStateBootstrap then
          if status.2 = .unprovisioned then pure (.refused freshnessRuntimeInit .bootstrapRequired evidence)
          else if status.2 = .valid then pure (.refused freshnessRuntimeInit .rollbackSuspected evidence)
          else pure (.refused freshnessRuntimeInit .freshnessUnknown evidence)
        else if classified.2 ≠ .validatedRecordCandidate then pure (.refused freshnessRuntimeInit .invalid evidence)
        else if status.2 ≠ .valid then
          if status.2 = .unprovisioned then pure (.refused freshnessRuntimeInit .rollbackSuspected evidence)
          else pure (.refused freshnessRuntimeInit .freshnessUnknown evidence)
        else recoverAnchored anchorProvider expectedIdentity load.2.2 evidence

end Recovery

section Continuation

/-- The checks made before the anchor is read. `none` lets the continuation go on. -/
def admitContinuation (previousRecord : PersistedRecord) (runtime : FreshnessRuntime) : Option AntiReplayResult :=
  let classified := persistenceClassify .validPersistedState previousRecord expectedIdentity
  if classified.1 ≠ .ok then some .invalid
  else if classified.2 ≠ .validatedRecordCandidate then some .invalid
  else if freshnessRuntimeValidate runtime ≠ .ok ∨ runtime.condition ≠ .active ∨ runtime.identityValid = 0 ∨
      runtime.acceptedEpochValid = 0 ∨ runtime.acceptedSequenceValid = 0 ∨
      !antiReplayIdentityEqual runtime.identity expectedIdentity ∨
      runtime.acceptedEpoch ≠ previousRecord.acceptedEpoch ∨
      runtime.acceptedSequence ≠ previousRecord.acceptedSequence then some .stateMismatch
  else none

/-- The checks made on the comparison and on the request, before the transaction. -/
def admitRequest (compared : AnchorProviderResult × AnchorCompare) (previousRecord : PersistedRecord)
    (nextEpoch nextSequence : U32) : Option AntiReplayResult :=
  if compared.1 ≠ .ok then some (mapAnchorProviderResult compared.1)
  else if compared.2 = .behind then some .rollbackSuspected
  else if compared.2 ≠ .matched then some .stateMismatch
  else if nextEpoch ≠ previousRecord.acceptedEpoch then some .epochTransitionRequired
  else if nextSequence = 0 ∨ nextSequence ≤ previousRecord.acceptedSequence then some .replayOrRegression
  else if BitVec.allOnes 32 - 1 ≤ previousRecord.recordGeneration then some .generationExhausted
  else none

def continuationCandidate (previousRecord : PersistedRecord) (nextSequence : U32) : PersistedRecord :=
  { previousRecord with
    acceptedSequence := nextSequence
    recordGeneration := previousRecord.recordGeneration + 1 }

/-- The end of the continuation, from the read-back of the anchor on. -/
def finishContinuation (candidate : PersistedRecord) (runtime : FreshnessRuntime)
    (read : AnchorProviderResult × AnchorRecord × AnchorStatus) (evidence : AntiReplayEvidence) : AntiReplayOutput :=
  let evidence := { evidence with anchorStatus := read.2.2 }
  if read.1 ≠ .ok then .refused runtime (mapAnchorProviderResult read.1) evidence
  else if read.2.2 ≠ .valid then .refused runtime .stateUncertain evidence
  else
    let compared := rollbackAnchorCompare read.2.1 candidate
    let evidence := { evidence with anchorComparison := compared.2 }
    if compared.1 ≠ .ok ∨ compared.2 ≠ .matched then .refused runtime .stateUncertain evidence
    else
      let evidence := { evidence with anchorReadbackVerified := 1 }
      let restored := restoreRuntimeFromRecord candidate runtime
      if restored.1 ≠ .ok then .refused restored.2 restored.1 evidence
      else ⟨.ok, restored.2, candidate, { evidence with
        acceptedEpoch := candidate.acceptedEpoch
        acceptedSequence := candidate.acceptedSequence
        recordGeneration := candidate.recordGeneration
        runtimeRestored := 1
        persistentAntiReplayValid := 1
        actuationAuthorized := 0 }⟩

def advanceContinuation (previousRecord candidate : PersistedRecord) (runtime : FreshnessRuntime)
    (evidence : AntiReplayEvidence) : Dev (σ × τ) AntiReplayOutput :=
  let commitment := rollbackAnchorCommitmentFromRecord candidate
  if commitment.1 ≠ .ok then pure (.refused runtime (mapAnchorProviderResult commitment.1) evidence)
  else do
    let advanced ← onAnchor (rollbackAnchorAdvance anchorProvider expectedIdentity previousRecord.recordGeneration
      candidate.recordGeneration commitment.2)
    if advanced ≠ .ok then pure (.refused runtime (mapAnchorProviderResult advanced) evidence)
    else do
      let read ← onAnchor (rollbackAnchorRead anchorProvider expectedIdentity)
      pure (finishContinuation candidate runtime read { evidence with anchorAdvanced := 1 })

def transactContinuation (previousRecord : PersistedRecord) (nextSequence : U32) (runtime : FreshnessRuntime)
    (evidence : AntiReplayEvidence) : Dev (σ × τ) AntiReplayOutput := do
  let candidate := continuationCandidate previousRecord nextSequence
  let report ← onPersistence (transactCommit persistenceProvider (some previousRecord) expectedIdentity candidate)
  if report.1 ≠ .ok ∨ report.2 ≠ .committed then
    pure (.refused runtime (mapPersistenceOperation report.1) evidence)
  else
    advanceContinuation anchorProvider expectedIdentity previousRecord candidate runtime
      { evidence with persistenceCommitted := 1 }

def antiReplayCommitContinuation (previousRecord : PersistedRecord) (nextEpoch nextSequence : U32)
    (runtime : FreshnessRuntime) : Dev (σ × τ) AntiReplayOutput :=
  match admitContinuation expectedIdentity previousRecord runtime with
  | some result => pure (.refused runtime result antiReplayEvidenceInit)
  | none => do
    let read ← onAnchor (rollbackAnchorRead anchorProvider expectedIdentity)
    let evidence := { antiReplayEvidenceInit with anchorStatus := read.2.2 }
    if read.1 ≠ .ok then pure (.refused runtime (mapAnchorProviderResult read.1) evidence)
    else if read.2.2 ≠ .valid then pure (.refused runtime .freshnessUnknown evidence)
    else
      let compared := rollbackAnchorCompare read.2.1 previousRecord
      let evidence := { evidence with anchorComparison := compared.2 }
      match admitRequest compared previousRecord nextEpoch nextSequence with
      | some result => pure (.refused runtime result evidence)
      | none =>
        transactContinuation persistenceProvider anchorProvider expectedIdentity previousRecord nextSequence runtime
          evidence

end Continuation

end Coordinator

end Guardian.NodeLink
