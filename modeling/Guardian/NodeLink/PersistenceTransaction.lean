import Guardian.NodeLink.PersistenceBackend

namespace Guardian.NodeLink

open Word Device

inductive TransactionOutcome
  | invalid
  | committed
  | aborted
  | stateUncertain
  | generationExhausted
  deriving DecidableEq, Repr

inductive PersistenceStage
  | write
  | verify
  | commit
  deriving DecidableEq, Repr

/-- The provider callbacks. A callback may leave another record behind its candidate pointer. -/
structure PersistenceProvider (σ : Type) where
  load : Dev σ (OperationResult × PersistenceStatus × PersistedRecord)
  writeCandidate : PersistedRecord → Dev σ (OperationResult × PersistedRecord)
  verifyCandidate : PersistedRecord → Dev σ (OperationResult × PersistedRecord)
  commitCandidate : PersistedRecord → Dev σ (OperationResult × PersistedRecord)

def persistenceIdentityEqual (left right : FreshnessIdentity) : Bool := identityFieldsEqual refTextEqual left right

def recordEqual (left right : PersistedRecord) : Bool :=
  if left.schemaVersion ≠ right.schemaVersion ∨ left.acceptedEpoch ≠ right.acceptedEpoch ∨
      left.acceptedSequence ≠ right.acceptedSequence ∨ left.recordGeneration ≠ right.recordGeneration then false
  else persistenceIdentityEqual left.identity right.identity

def transitionValid (previousRecord : Option PersistedRecord) (candidate : PersistedRecord) : Bool :=
  match previousRecord with
  | none => true
  | some previous =>
    if candidate.acceptedEpoch ≠ previous.acceptedEpoch then false
    else if candidate.acceptedSequence ≤ previous.acceptedSequence then false
    else true

def resultValid : OperationResult → Bool
  | .ok | .unavailable | .ioFailure | .verifyFailure | .commitFailure | .stateUncertain | .generationExhausted => true
  | .invalid => false

def resultValidForStage (stage : PersistenceStage) (result : OperationResult) : Bool :=
  if !resultValid result then false
  else match stage with
    | .write => result = .ok ∨ result = .unavailable ∨ result = .ioFailure ∨ result = .stateUncertain
    | .verify =>
      result = .ok ∨ result = .unavailable ∨ result = .ioFailure ∨ result = .verifyFailure ∨ result = .stateUncertain
    | .commit =>
      result = .ok ∨ result = .unavailable ∨ result = .ioFailure ∨ result = .commitFailure ∨ result = .stateUncertain

def validateRecord (record : PersistedRecord) (expectedIdentity : FreshnessIdentity) : OperationResult :=
  let classified := persistenceClassify .validPersistedState record expectedIdentity
  if classified.1 ≠ .ok then .invalid
  else if classified.2 ≠ .validatedRecordCandidate then .invalid
  else .ok

def nextGeneration (previousRecord : Option PersistedRecord) : OperationResult × U32 :=
  match previousRecord with
  | none => (.ok, 0)
  | some previous =>
    if previous.recordGeneration = BitVec.allOnes 32 then (.generationExhausted, 0)
    else (.ok, previous.recordGeneration + 1)

def handleStageResult (stage : PersistenceStage) (result : OperationResult) (outcome : TransactionOutcome) :
    OperationResult × TransactionOutcome :=
  if !resultValidForStage stage result then (.invalid, .stateUncertain)
  else if result = .stateUncertain then (result, .stateUncertain)
  else if result ≠ .ok then (result, .aborted)
  else (.ok, outcome)

/-- The checks made before any provider callback. `none` lets the transaction start. -/
def admitTransaction (previousRecord : Option PersistedRecord) (expectedIdentity : FreshnessIdentity)
    (candidate : PersistedRecord) : Option (OperationResult × TransactionOutcome) :=
  let previousResult := (previousRecord.map fun previous => validateRecord previous expectedIdentity).getD .ok
  if previousResult ≠ .ok then some (previousResult, .aborted)
  else
    let candidateResult := validateRecord candidate expectedIdentity
    if candidateResult ≠ .ok then some (candidateResult, .aborted)
    else
      let expected := nextGeneration previousRecord
      if expected.1 = .generationExhausted then some (expected.1, .generationExhausted)
      else if expected.1 ≠ .ok then some (expected.1, .aborted)
      else if candidate.recordGeneration ≠ expected.2 then some (.invalid, .aborted)
      else if !transitionValid previousRecord candidate then some (.invalid, .aborted)
      else none

/-- What the transaction makes of one callback: its result, then the record left behind the pointer. -/
def settleStage (stage : PersistenceStage) (expectedIdentity : FreshnessIdentity) (validated : PersistedRecord)
    (returned : OperationResult × PersistedRecord) : OperationResult × TransactionOutcome :=
  let handled := handleStageResult stage returned.1 .invalid
  if handled.1 ≠ .ok then handled
  else if !recordEqual returned.2 validated then (.invalid, .stateUncertain)
  else if validateRecord returned.2 expectedIdentity ≠ .ok then (.invalid, .stateUncertain)
  else (.ok, .invalid)

section Transaction

variable {σ : Type} (provider : PersistenceProvider σ)

/-- The three callbacks on the transaction's own copy of the candidate. -/
def runStages (expectedIdentity : FreshnessIdentity) (candidate : PersistedRecord) :
    Dev σ (OperationResult × TransactionOutcome) := do
  let written ← provider.writeCandidate candidate
  let write := settleStage .write expectedIdentity candidate written
  if write.1 ≠ .ok then pure write
  else do
    let verified ← provider.verifyCandidate written.2
    let verify := settleStage .verify expectedIdentity candidate verified
    if verify.1 ≠ .ok then pure verify
    else do
      let committed ← provider.commitCandidate verified.2
      let commit := settleStage .commit expectedIdentity candidate committed
      if commit.1 ≠ .ok then pure commit
      else pure (.ok, .committed)

def transactCommit (previousRecord : Option PersistedRecord) (expectedIdentity : FreshnessIdentity)
    (candidate : PersistedRecord) : Dev σ (OperationResult × TransactionOutcome) :=
  match admitTransaction previousRecord expectedIdentity candidate with
  | some rejection => pure rejection
  | none => runStages provider expectedIdentity candidate

end Transaction

/-- The backend as a provider. Its callbacks leave the candidate as it is. -/
def physicalBackendMakeProvider {σ : Type} (media : PersistenceMedia σ) :
    PersistenceProvider (PhysicalBackend σ) where
  load := physicalBackendLoad media
  writeCandidate candidate := do
    let result ← physicalBackendWriteCandidate media candidate
    pure (result, candidate)
  verifyCandidate candidate := do
    let result ← physicalBackendVerifyCandidate media candidate
    pure (result, candidate)
  commitCandidate candidate := do
    let result ← physicalBackendCommitCandidate media candidate
    pure (result, candidate)

theorem recordEqual_iff (left right : PersistedRecord) :
    recordEqual left right = true ↔ left.canonical = right.canonical := by
  have identities := freshnessIdentityEqual_iff left.identity right.identity
  rw [freshnessIdentityEqual, ← persistenceIdentityEqual] at identities
  rcases left with ⟨_, _, _, _, _⟩
  rcases right with ⟨_, _, _, _, _⟩
  simp only [recordEqual, PersistedRecord.canonical, PersistedRecord.mk.injEq] at identities ⊢
  split_ifs <;> grind

theorem validateRecord_ok {record : PersistedRecord} {expectedIdentity : FreshnessIdentity} :
    validateRecord record expectedIdentity = .ok ↔ record.ValidFor expectedIdentity := by
  rw [← persistenceClassify_valid]
  unfold validateRecord
  rcases persistenceClassify .validPersistedState record expectedIdentity with ⟨result, classification⟩
  cases result <;> cases classification <;> decide

def TransactionOutcome.Refused (outcome : TransactionOutcome) : Prop :=
  outcome = .aborted ∨ outcome = .generationExhausted ∨ outcome = .stateUncertain

theorem TransactionOutcome.Refused.ne_committed {outcome : TransactionOutcome} (refused : outcome.Refused) :
    outcome ≠ .committed := by
  rcases refused with rfl | rfl | rfl <;> decide

theorem admitTransaction_refused {previousRecord : Option PersistedRecord} {expectedIdentity : FreshnessIdentity}
    {candidate : PersistedRecord} {rejection : OperationResult × TransactionOutcome}
    (rejected : admitTransaction previousRecord expectedIdentity candidate = some rejection) :
    rejection.2.Refused := by
  simp only [admitTransaction] at rejected
  split_ifs at rejected <;> cases rejected <;> simp [TransactionOutcome.Refused]

theorem admitTransaction_not_ok {previousRecord : Option PersistedRecord} {expectedIdentity : FreshnessIdentity}
    {candidate : PersistedRecord} {rejection : OperationResult × TransactionOutcome}
    (rejected : admitTransaction previousRecord expectedIdentity candidate = some rejection) : rejection.1 ≠ .ok := by
  simp only [admitTransaction] at rejected
  split_ifs at rejected with previous candidate exhausted failed <;> cases rejected
  · exact previous
  · exact candidate
  · rw [exhausted]
    decide
  · exact failed
  · decide
  · decide

theorem admitTransaction_valid {previousRecord : Option PersistedRecord} {expectedIdentity : FreshnessIdentity}
    {candidate : PersistedRecord} (admitted : admitTransaction previousRecord expectedIdentity candidate = none) :
    candidate.ValidFor expectedIdentity := by
  simp only [admitTransaction] at admitted
  split_ifs at admitted with _ invalid
  exact validateRecord_ok.mp (not_not.mp invalid)

/-- The generation and the sequence of a candidate go on from those of the previous record. -/
def PersistedRecord.Follows (candidate : PersistedRecord) : Option PersistedRecord → Prop
  | none => candidate.recordGeneration = 0
  | some previous => previous.recordGeneration ≠ BitVec.allOnes 32 ∧
      candidate.recordGeneration = previous.recordGeneration + 1 ∧
      candidate.acceptedEpoch = previous.acceptedEpoch ∧ previous.acceptedSequence < candidate.acceptedSequence

theorem admitTransaction_follows {previousRecord : Option PersistedRecord} {expectedIdentity : FreshnessIdentity}
    {candidate : PersistedRecord} (admitted : admitTransaction previousRecord expectedIdentity candidate = none) :
    candidate.Follows previousRecord := by
  simp only [admitTransaction] at admitted
  split_ifs at admitted with _ _ exhausted failed generation transition
  cases previousRecord with
  | none => exact not_not.mp generation
  | some previous =>
    simp only [nextGeneration] at exhausted failed generation
    by_cases last : previous.recordGeneration = BitVec.allOnes 32
    · rw [if_pos last] at exhausted
      exact absurd rfl exhausted
    · rw [if_neg last] at generation
      simp only [transitionValid] at transition
      split_ifs at transition with epoch replayed
      · exact absurd rfl transition
      · exact absurd rfl transition
      · exact ⟨last, not_not.mp generation, not_not.mp epoch, BitVec.not_le.mp replayed⟩

theorem handleStageResult_ok (stage : PersistenceStage) (outcome : TransactionOutcome) :
    handleStageResult stage .ok outcome = (.ok, outcome) := by
  cases stage <;> rfl

theorem handleStageResult_failed (stage : PersistenceStage) {result : OperationResult} (failed : result ≠ .ok)
    (outcome : TransactionOutcome) : (handleStageResult stage result outcome).1 ≠ .ok ∧
      (handleStageResult stage result outcome).2.Refused := by
  unfold handleStageResult TransactionOutcome.Refused
  split_ifs <;> simp_all

theorem settleStage_same (stage : PersistenceStage) {expectedIdentity : FreshnessIdentity}
    {candidate : PersistedRecord} (valid : candidate.ValidFor expectedIdentity) (result : OperationResult) :
    settleStage stage expectedIdentity candidate (result, candidate) = handleStageResult stage result .invalid := by
  have same : recordEqual candidate candidate = true := (recordEqual_iff _ _).mpr rfl
  have validated := validateRecord_ok.mpr valid
  by_cases success : result = .ok
  · subst success
    simp [settleStage, handleStageResult_ok, same, validated]
  · rw [settleStage, if_pos (handleStageResult_failed stage success _).1]

end Guardian.NodeLink
