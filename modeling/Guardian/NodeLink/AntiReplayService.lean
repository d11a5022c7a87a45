import Guardian.NodeLink.AntiReplayHistory
import Guardian.NodeLink.PersistenceRecovery

namespace Guardian.NodeLink

open Word Device Crypto

theorem restoredRuntime_valid {record : PersistedRecord} (valid : record.Valid) :
    freshnessRuntimeValidate (restoredRuntime record) = .ok := by
  have structural := valid.identity
  simp [freshnessRuntimeValidate, restoredRuntime, structural]
  exact (if_neg valid.epoch).trans ((if_neg valid.sequence).trans (if_neg valid.sequence))

theorem restoreRuntimeFromRecord_valid {record : PersistedRecord} (valid : record.Valid) (runtime : FreshnessRuntime) :
    restoreRuntimeFromRecord record runtime = (.ok, restoredRuntime record) :=
  if_neg (not_not.mpr (restoredRuntime_valid valid))

namespace AnchorStore

def Working (store : AnchorStore) : Prop := ∀ operation, store.schedule operation = .none

theorem Working.fault {store : AnchorStore} (working : store.Working) : store.fault = .none := working _

theorem status_working {store : AnchorStore} (working : store.Working) {identity : FreshnessIdentity}
    {anchor : AnchorRecord} (stored : store.anchor identity = some anchor) :
    rollbackAnchorStatus anchorStoreProvider identity store = (some (.ok, .valid), store.next) := by
  simp only [rollbackAnchorStatus, anchorStoreProvider, working.fault, stored]
  rfl

theorem read_working {store : AnchorStore} (working : store.Working) {identity : FreshnessIdentity}
    {anchor : AnchorRecord} (stored : store.anchor identity = some anchor) :
    rollbackAnchorRead anchorStoreProvider identity store = (some (.ok, anchor, .valid), store.next) := by
  simp only [rollbackAnchorRead, anchorStoreProvider, working.fault, stored]

/-- The store with the anchor of `identity` set. -/
def set (store : AnchorStore) (identity : FreshnessIdentity) (generation : U32) (commitment : AnchorCommitment) :
    AnchorStore where
  anchors := Function.update store.anchors identity.canonical (some ⟨identity, generation, commitment⟩)
  schedule := store.schedule
  operations := store.operations + 1
  advances := store.advances + 1

theorem advance_working {store : AnchorStore} (working : store.Working) {identity : FreshnessIdentity}
    {anchor : AnchorRecord} (stored : store.anchor identity = some anchor)
    (room : anchor.generation < BitVec.allOnes 32 - 1) (commitment : AnchorCommitment) :
    rollbackAnchorAdvance anchorStoreProvider identity anchor.generation (anchor.generation + 1) commitment store =
      (some .ok, store.set identity (anchor.generation + 1) commitment) := by
  have governed : rollbackAnchorNextGeneration anchor.generation = (.ok, anchor.generation + 1) :=
    if_neg (BitVec.not_le.mpr room)
  have kept : store.next.anchor identity = some anchor := stored
  simp only [rollbackAnchorAdvance, governed]
  rw [if_neg (by simp), if_neg (by simp)]
  simp only [anchorStoreProvider, working.fault, compareAndAdvance, kept]
  rw [if_neg (by simp)]
  rfl

end AnchorStore

section Service

variable {σ : Type} {persistenceProvider : PersistenceProvider σ} {expectedIdentity : FreshnessIdentity}

theorem onAnchor_value {α τ : Type} {operation : Dev τ α} {node : σ × τ} {value : α} {reached : τ}
    (run : operation node.2 = (some value, reached)) : onAnchor operation node = (some value, (node.1, reached)) := by
  rw [onAnchor_apply, run]

theorem onPersistence_value {α τ : Type} {operation : Dev σ α} {node : σ × τ} {value : α} {reached : σ}
    (run : operation node.1 = (some value, reached)) :
    onPersistence operation node = (some value, (reached, node.2)) := by
  rw [onPersistence_apply, run]

theorem antiReplayRecover_works {node : σ × AnchorStore} {record : PersistedRecord} {loaded : σ}
    (load : persistenceProvider.load node.1 = (some (.ok, .validPersistedState, record), loaded))
    (valid : record.ValidFor expectedIdentity) (working : node.2.Working) {anchor : AnchorRecord}
    (stored : node.2.anchor expectedIdentity = some anchor) (commits : anchor.CommitsTo record) :
    ∃ output, (antiReplayRecover persistenceProvider anchorStoreProvider expectedIdentity node).1 = some output ∧
      output.result = .ok ∧ output.record = record := by
  obtain ⟨medium, store⟩ := node
  have next : store.next.Working := fun operation => working operation
  have status : onAnchor (rollbackAnchorStatus anchorStoreProvider expectedIdentity) (loaded, store) = _ :=
    onAnchor_value (AnchorStore.status_working working stored)
  have read : onAnchor (rollbackAnchorRead anchorStoreProvider expectedIdentity) (loaded, store.next) = _ :=
    onAnchor_value (AnchorStore.read_working next stored)
  have matched := rollbackAnchorCompare_matched.mpr commits
  simp only [antiReplayRecover]
  rw [Dev.bind_value (onPersistence_value load), if_neg (by simp), persistenceClassify_valid.mpr valid,
    if_neg (by simp), if_neg (by simp), Dev.bind_value status, if_neg (by simp), if_neg (by simp),
    if_neg (by simp), if_neg (by simp), recoverAnchored, Dev.bind_value read, if_neg (by simp),
    if_neg (by simp), matched, if_neg (by simp)]
  refine ⟨_, rfl, ?_, ?_⟩ <;> simp only [restoreCompared, restoreRuntimeFromRecord_valid valid.self] <;> rfl

theorem admitContinuation_restored {record : PersistedRecord} (valid : record.ValidFor expectedIdentity) :
    admitContinuation expectedIdentity record (restoredRuntime record) = none := by
  have same : antiReplayIdentityEqual record.identity expectedIdentity = true :=
    (freshnessIdentityEqual_iff _ _).mpr valid.expected
  have runtime := restoredRuntime_valid valid.self
  simp only [admitContinuation, persistenceClassify_valid.mpr valid]
  rw [if_neg (by simp), if_neg (by simp), if_neg]
  rw [runtime]
  simp [restoredRuntime, same]

theorem continuationCandidate_valid {previousRecord : PersistedRecord} {nextSequence : U32}
    (valid : previousRecord.ValidFor expectedIdentity) (later : previousRecord.acceptedSequence < nextSequence) :
    (continuationCandidate previousRecord nextSequence).ValidFor expectedIdentity := by
  refine ⟨valid.schema, valid.identity, valid.expected, valid.epoch, ?_⟩
  rintro (rfl : nextSequence = 0)
  exact absurd later BitVec.not_lt_zero

theorem continuationCandidate_admitted {previousRecord : PersistedRecord} {nextSequence : U32}
    (valid : previousRecord.ValidFor expectedIdentity) (later : previousRecord.acceptedSequence < nextSequence)
    (room : previousRecord.recordGeneration < BitVec.allOnes 32 - 1) :
    admitTransaction (some previousRecord) expectedIdentity (continuationCandidate previousRecord nextSequence) = none := by
  have generation : nextGeneration (some previousRecord) = (.ok, previousRecord.recordGeneration + 1) := by
    refine if_neg fun last => ?_
    rw [last] at room
    exact absurd room (by decide)
  have transition : transitionValid (some previousRecord) (continuationCandidate previousRecord nextSequence) = true := by
    rw [transitionValid, if_neg (by simp [continuationCandidate])]
    exact if_neg (BitVec.not_le.mpr later)
  have previous := validateRecord_ok.mpr valid
  have candidate := validateRecord_ok.mpr (continuationCandidate_valid valid later)
  simp [admitTransaction, previous, candidate, generation, transition]
  rfl

theorem admitRequest_later {previousRecord : PersistedRecord} {nextSequence : U32}
    (later : previousRecord.acceptedSequence < nextSequence)
    (room : previousRecord.recordGeneration < BitVec.allOnes 32 - 1) :
    admitRequest (.ok, .matched) previousRecord previousRecord.acceptedEpoch nextSequence = none := by
  have started : nextSequence ≠ 0 := by
    rintro rfl
    exact absurd later BitVec.not_lt_zero
  rw [admitRequest, if_neg (by simp), if_neg (by simp), if_neg (by simp), if_neg (by simp), if_neg,
    if_neg (BitVec.not_le.mpr room)]
  rintro (zero | replay)
  · exact started zero
  · exact absurd later (BitVec.not_lt.mpr replay)

theorem finishContinuation_works {anchor : AnchorRecord} {candidate : PersistedRecord} (commits : anchor.CommitsTo candidate)
    (runtime : FreshnessRuntime) (evidence : AntiReplayEvidence) :
    (finishContinuation candidate runtime (.ok, anchor, .valid) evidence).result = .ok := by
  simp only [finishContinuation]
  rw [if_neg (by simp), if_neg (by simp), rollbackAnchorCompare_matched.mpr commits, if_neg (by simp),
    restoreRuntimeFromRecord_valid commits.valid, if_neg (by simp)]

theorem antiReplayCommitContinuation_works {node : σ × AnchorStore} {previousRecord : PersistedRecord}
    {nextSequence : U32} {runtime : FreshnessRuntime} {committed : σ}
    (admitted : admitContinuation expectedIdentity previousRecord runtime = none)
    (valid : previousRecord.ValidFor expectedIdentity) (working : node.2.Working) {anchor : AnchorRecord}
    (stored : node.2.anchor expectedIdentity = some anchor) (commits : anchor.CommitsTo previousRecord)
    (later : previousRecord.acceptedSequence < nextSequence)
    (room : previousRecord.recordGeneration < BitVec.allOnes 32 - 1)
    (transaction : continuationCommit persistenceProvider expectedIdentity previousRecord nextSequence node.1 =
      (some (.ok, .committed), committed)) :
    ∃ output, (antiReplayCommitContinuation persistenceProvider anchorStoreProvider expectedIdentity previousRecord
        previousRecord.acceptedEpoch nextSequence runtime node).1 = some output ∧ output.result = .ok ∧
      output.record = continuationCandidate previousRecord nextSequence := by
  obtain ⟨medium, store⟩ := node
  have candidate := continuationCandidate_valid valid later
  have next : store.next.Working := fun operation => working operation
  have read : onAnchor (rollbackAnchorRead anchorStoreProvider expectedIdentity) (medium, store) = _ :=
    onAnchor_value (AnchorStore.read_working working stored)
  have advance := AnchorStore.advance_working next stored (commits.generation ▸ room)
    (anchorCommitment (continuationCandidate previousRecord nextSequence))
  rw [commits.generation] at advance
  have advanced : onAnchor (rollbackAnchorAdvance anchorStoreProvider expectedIdentity previousRecord.recordGeneration
      (continuationCandidate previousRecord nextSequence).recordGeneration
      (anchorCommitment (continuationCandidate previousRecord nextSequence))) (committed, store.next) = _ :=
    onAnchor_value advance
  have after : (store.next.set expectedIdentity (previousRecord.recordGeneration + 1)
      (anchorCommitment (continuationCandidate previousRecord nextSequence))).Working := fun operation => working operation
  have present : (store.next.set expectedIdentity (previousRecord.recordGeneration + 1)
      (anchorCommitment (continuationCandidate previousRecord nextSequence))).anchor expectedIdentity =
        some ⟨expectedIdentity, previousRecord.recordGeneration + 1,
          anchorCommitment (continuationCandidate previousRecord nextSequence)⟩ := Function.update_self _ _ _
  generalize store.next.set expectedIdentity (previousRecord.recordGeneration + 1)
    (anchorCommitment (continuationCandidate previousRecord nextSequence)) = reached at advanced after present
  have reread : onAnchor (rollbackAnchorRead anchorStoreProvider expectedIdentity) (committed, reached) = _ :=
    onAnchor_value (AnchorStore.read_working after present)
  have transacted : onPersistence (transactCommit persistenceProvider (some previousRecord) expectedIdentity
      (continuationCandidate previousRecord nextSequence)) (medium, store.next) = _ := onPersistence_value transaction
  simp only [antiReplayCommitContinuation, admitted]
  rw [Dev.bind_value read, if_neg (by simp), if_neg (by simp), rollbackAnchorCompare_matched.mpr commits]
  simp only [admitRequest_later later room]
  rw [transactContinuation, Dev.bind_value transacted, if_neg (by simp)]
  simp only [advanceContinuation, rollbackAnchorCommitmentFromRecord_valid candidate.self]
  rw [if_neg (by simp), Dev.bind_value advanced, if_neg (by simp), Dev.bind_value reread]
  have recommits : AnchorRecord.CommitsTo ⟨expectedIdentity, previousRecord.recordGeneration + 1,
      anchorCommitment (continuationCandidate previousRecord nextSequence)⟩
      (continuationCandidate previousRecord nextSequence) := ⟨candidate.self, candidate.expected.symm, rfl, rfl⟩
  have finished := finishContinuation_works recommits runtime
  exact ⟨_, rfl, finished _, finishContinuation_ok (finished _)⟩

end Service

structure PowerUp.Working (powerUp : PowerUp) : Prop where
  media : ∀ operation, powerUp.media operation = .none
  provider : ∀ operation, powerUp.provider operation = .none

/-- The flash holds a record of `identity`, and the anchor commits to it. -/
structure System.Serves (system : System) (identity : FreshnessIdentity) (record : PersistedRecord) : Prop where
  settled : Settled system.slots (some record)
  valid : record.ValidFor identity
  anchor : ∃ anchor, system.anchors identity.canonical = some anchor ∧ anchor.CommitsTo record

namespace System

variable {system : System} {record : PersistedRecord}

theorem load_settled (settled : Settled system.slots (some record)) {powerUp : PowerUp} (working : powerUp.Working) :
    ∃ loaded, (physicalBackendMakeProvider flashMedia).load (system.node powerUp).1 =
      (some (.ok, .validPersistedState, record), loaded) := by
  have run := recoverInternal_run (system.node powerUp).1
  have flash : (system.node powerUp).1.context.Working := working.media
  rcases found : recoverInternal flashMedia (system.node powerUp).1 with ⟨recovery, reached⟩
  rw [found] at run
  cases run with
  | lost _ failure => exact absurd flash failure
  | unread _ broken => exact absurd ⟨flash.report 0, flash.report 1⟩ broken
  | surveyed =>
    cases settled with
    | holds slot holds =>
      obtain ⟨diagnostic, survey⟩ := holds.survey
      have surveyed : surveySlots (system.node powerUp).1.context.slots = _ := survey
      rw [surveyed] at found
      exact ⟨_, Dev.bind_value found⟩

theorem Serves.recovers {call : RecoverCall} (serves : system.Serves call.expectedIdentity record)
    (working : call.powerUp.Working) :
    ∃ output, (system.recover call).1 = some output ∧ output.result = .ok ∧ output.record = record := by
  obtain ⟨settled, valid, anchor, stored, commits⟩ := serves
  obtain ⟨loaded, load⟩ := load_settled settled working
  exact antiReplayRecover_works load valid working.provider stored commits

/-- A legal continuation of the record that a node serves, after the runtime was restored from it. -/
structure Legal (call : ContinuationCall) (record : PersistedRecord) : Prop where
  previous : call.previousRecord = record
  runtime : call.runtime = restoredRuntime record
  epoch : call.nextEpoch = record.acceptedEpoch
  later : record.acceptedSequence < call.nextSequence
  room : record.recordGeneration < BitVec.allOnes 32 - 1

/-- A node accepts every legal continuation of the record it serves, and then serves its candidate. -/
theorem Serves.continues {call : ContinuationCall} (serves : system.Serves call.expectedIdentity record)
    (legal : Legal call record) (working : call.powerUp.Working) :
    (∃ output, (system.commitContinuation call).1 = some output ∧ output.result = .ok ∧ output.record = call.candidate) ∧
      (system.step (.commitContinuation call)).Serves call.expectedIdentity call.candidate := by
  obtain ⟨settled, valid, anchor, stored, commits⟩ := serves
  obtain ⟨rfl, runtime, epoch, later, room⟩ := legal
  have canonical : call.previousRecord.canonical = call.previousRecord := by
    cases settled with
    | holds slot holds => exact holds.canonical.2
  have candidate : call.candidate.ValidFor call.expectedIdentity := continuationCandidate_valid valid later
  have same : call.candidate.canonical = call.candidate :=
    congrArg (fun identity => { call.candidate with identity }) (congrArg PersistedRecord.identity canonical)
  let medium : Medium := ⟨system.slots, some call.previousRecord⟩
  let commit : CommitCall := ⟨some call.previousRecord, call.expectedIdentity, call.candidate,
    call.powerUp.pendingSlot, call.powerUp.pendingValid, call.powerUp.media⟩
  have continues : Continues medium.committed commit :=
    ⟨continuationCandidate_admitted valid later room, rfl, fun record current => by cases current; rfl⟩
  have reported := continues.commits settled working.media
  have transaction : continuationCommit (physicalBackendMakeProvider flashMedia) call.expectedIdentity
      call.previousRecord call.nextSequence (system.node call.powerUp).1 = (some (.ok, .committed), _) :=
    Prod.ext reported rfl
  have anchors : (system.node call.powerUp).2.Working := working.provider
  obtain ⟨output, returned, success, record⟩ := antiReplayCommitContinuation_works (admitContinuation_restored valid)
    valid anchors stored commits later room transaction
  rw [← epoch, ← runtime] at returned
  refine ⟨⟨output, returned, success, record⟩, ?_, candidate, ?_⟩
  · have run := system.commitContinuation_run call
    rw [show system.commitContinuation call = (some output, (system.commitContinuation call).2) from
      Prod.ext returned rfl] at run
    cases run with
    | refused _ _ failed => exact absurd success (failed output rfl)
    | advanced _ _ _ _ _ _ _ committed =>
      have found := Medium.committed_settled reported
      rw [show commit.candidate.canonical = call.candidate from same] at found
      have slots : (system.commitContinuation call).2.1.context.slots = (medium.step commit).slots :=
        (congrArg (fun run => run.2.context.slots) committed).symm
      rwa [← slots] at found
  · rcases system.commitContinuation_cases call with ⟨failed, -⟩ | advance
    · exact absurd success (failed output returned)
    · refine ⟨_, (congrFun advance.anchors _).trans (Function.update_self _ _ _), ?_⟩
      exact ⟨candidate.self, candidate.expected.symm, rfl, rfl⟩

end System

/-- In every run, whatever was interrupted or rolled back in it, a recovery that succeeds restores the record that
    the anchor of its identity was last set to. No accepted record is ahead of it, and every other record that the
    anchor was set to is behind it. -/
theorem recover_restores_anchored (start : Provisioning) (events : List Event) (call : RecoverCall)
    (distinct : CommitmentsDistinct (start.after events).records) {output : AntiReplayOutput}
    (run : ((start.after events).recover call).1 = some output) (success : output.result = .ok) :
    ∃ record anchor, (start.after events).anchored call.expectedIdentity = some record ∧
      (start.after events).anchors call.expectedIdentity.canonical = some anchor ∧ anchor.CommitsTo output.record ∧
      output.record = record.canonical ∧ output.runtime = restoredRuntime output.record ∧
      (∀ accepted ∈ (start.after events).accepted,
        accepted.identity.canonical = call.expectedIdentity.canonical →
          accepted.acceptedEpoch = output.record.acceptedEpoch ∧
          accepted.acceptedSequence ≤ output.record.acceptedSequence) ∧
      ∀ older ∈ (start.after events).ledger, older.identity.canonical = call.expectedIdentity.canonical →
        older = record ∨ older.recordGeneration < output.record.recordGeneration := by
  have coherent := start.after_coherent events distinct
  generalize start.after events = system at *
  have found := antiReplayRecover_ok (Prod.ext run rfl) success
  obtain ⟨load, runtime, anchor, stored, commits⟩ := found
  obtain ⟨slot, state, holding⟩ := physicalBackendLoad_valid load
  obtain ⟨latest, anchored, same⟩ := coherent.anchors _ _ stored
  obtain ⟨member, identity⟩ := System.anchored_mem anchored
  have held : Among output.record system.records := holding ▸ coherent.slots slot state
  have canonical : output.record.canonical = output.record := holding ▸ (observeImage_valid state).2
  have restored : output.record = latest.canonical :=
    canonical.symm.trans (commits.unique distinct same held (coherent.ledger latest member))
  have behind (older : PersistedRecord) (kept : older ∈ system.ledger)
      (of : older.identity.canonical = call.expectedIdentity.canonical) : older = latest ∨
        older.acceptedEpoch = latest.acceptedEpoch ∧ older.acceptedSequence < latest.acceptedSequence ∧
        older.recordGeneration < latest.recordGeneration :=
    (pairwise_find? coherent.ordered anchored kept (decide_eq_true of)).imp id fun superseded =>
      superseded (identity.trans of.symm)
  refine ⟨latest, anchor, anchored, stored, commits, restored, runtime, fun accepted reported of => ?_,
    fun older kept of => ?_⟩
  · rw [restored]
    rcases behind accepted (coherent.accepted reported) of with rfl | ⟨epoch, sequence, -⟩
    · exact ⟨rfl, BitVec.le_refl _⟩
    · exact ⟨epoch, BitVec.le_of_lt sequence⟩
  · rw [restored]
    exact (behind older kept of).imp id fun superseded => superseded.2.2

def workingPowerUp : PowerUp := ⟨.a, 0, fun _ => .none, fun _ => .none⟩

theorem bootstrap_valid : bootstrapRecord.ValidFor bootstrapIdentity := admitTransaction_valid bootstrap_admitted

def bootstrapSlots : Slot → Image :=
  Function.update (fun _ => erasedImage) .a (programmedImage bootstrapRecord physicalImageSize)

def bootstrapProvisioning : Provisioning where
  slots := bootstrapSlots
  records := [bootstrapRecord]
  valid record member := by
    rw [List.mem_singleton.mp member]
    exact bootstrap_valid
  distinct := List.pairwise_singleton _ _

def sequenceTwoCall : ContinuationCall :=
  ⟨bootstrapIdentity, bootstrapRecord, 7, 2, restoredRuntime bootstrapRecord, workingPowerUp⟩

theorem bootstrapSlots_a : observeImage (bootstrapSlots .a).1 = ⟨.valid, bootstrapRecord⟩ := by
  rw [bootstrapSlots, Function.update_self, observe_committed bootstrap_valid.self, bootstrapRecord_canonical]

theorem bootstrapSlots_b : observeImage (bootstrapSlots .b).1 = ⟨.erased, zeroRecord⟩ := by
  rw [bootstrapSlots, Function.update_of_ne (by decide), observe_erased]

theorem bootstrapProvisioning_serves : bootstrapProvisioning.system.Serves bootstrapIdentity bootstrapRecord := by
  refine ⟨.holds .a ⟨?_, ?_, Or.inl ?_⟩, bootstrap_valid, ?_⟩
  · exact congrArg SlotObservation.state bootstrapSlots_a
  · exact congrArg SlotObservation.record bootstrapSlots_a
  · exact congrArg SlotObservation.state bootstrapSlots_b
  · refine ⟨⟨bootstrapIdentity, 0, anchorCommitment bootstrapRecord⟩, ?_, bootstrap_valid.self, rfl, rfl, rfl⟩
    rw [show bootstrapProvisioning.system.anchors = bootstrapProvisioning.anchors from rfl, Provisioning.anchors,
      FreshnessIdentity.canonical_canonical]
    rw [show bootstrapProvisioning.records = [bootstrapRecord] from rfl,
      List.find?_cons_of_pos (by rw [decide_eq_true_iff]; rfl)]
    rfl

theorem bootstrap_commitments_distinct : CommitmentsDistinct [bootstrapRecord, continuationRecord] := by
  have bootstrap : (sha256 (anchorPreimage bootstrapRecord)).head? = some 0xB9 := by decide +kernel
  have continuation : (sha256 (anchorPreimage continuationRecord)).head? = some 0x8D := by decide +kernel
  have different : sha256 (anchorPreimage bootstrapRecord) ≠ sha256 (anchorPreimage continuationRecord) := by
    intro same
    rw [same, continuation] at bootstrap
    exact absurd bootstrap (by decide)
  rintro _ ⟨left, leftMember, rfl⟩ _ ⟨right, rightMember, rfl⟩ same
  simp only [List.mem_cons, List.not_mem_nil, or_false] at leftMember rightMember
  rcases leftMember with rfl | rfl <;> rcases rightMember with rfl | rfl
  · rfl
  · exact absurd same different
  · exact absurd same.symm different
  · rfl

def bootstrapRecoverCall : RecoverCall := ⟨bootstrapIdentity, workingPowerUp⟩

theorem workingPowerUp_working : workingPowerUp.Working := ⟨fun _ => rfl, fun _ => rfl⟩

theorem sequenceTwo_continues :
    (∃ output, (bootstrapProvisioning.system.commitContinuation sequenceTwoCall).1 = some output ∧
        output.result = .ok ∧ output.record = continuationRecord) ∧
      (bootstrapProvisioning.after [.commitContinuation sequenceTwoCall]).Serves bootstrapIdentity continuationRecord := by
  have legal : System.Legal sequenceTwoCall bootstrapRecord := ⟨rfl, rfl, rfl, by decide, by decide⟩
  have serves : bootstrapProvisioning.system.Serves sequenceTwoCall.expectedIdentity bootstrapRecord :=
    bootstrapProvisioning_serves
  exact serves.continues legal workingPowerUp_working

theorem sequenceTwo_records : (bootstrapProvisioning.after [.commitContinuation sequenceTwoCall]).records ⊆
    [bootstrapRecord, continuationRecord] := by
  have held : heldRecords bootstrapSlots = [bootstrapRecord] := by
    simp [heldRecords, bootstrapSlots_a, bootstrapSlots_b]
  have start : bootstrapProvisioning.system.records = [bootstrapRecord, bootstrapRecord] :=
    congrArg ([bootstrapRecord] ++ ·) held
  intro record member
  rcases System.continued_records member with rfl | rfl | earlier
  · exact List.mem_cons_self
  · exact List.mem_cons_of_mem _ List.mem_cons_self
  · rw [start] at earlier
    simp only [List.mem_cons, List.not_mem_nil, or_false, or_self] at earlier
    rw [earlier]
    exact List.mem_cons_self

/-- The record accepted last is restored. -/
theorem recover_restores_continuation :
    let system := bootstrapProvisioning.after [.commitContinuation sequenceTwoCall]
    continuationRecord ∈ system.accepted ∧
      ∃ output, (system.recover bootstrapRecoverCall).1 = some output ∧ output.result = .ok ∧
        continuationRecord.acceptedSequence ≤ output.record.acceptedSequence := by
  intro system
  obtain ⟨⟨output, returned, success, record⟩, serves⟩ := sequenceTwo_continues
  have accepted : continuationRecord ∈ system.accepted := record ▸ System.continued_accepted returned success
  have served : system.Serves bootstrapRecoverCall.expectedIdentity continuationRecord := serves
  have working : bootstrapRecoverCall.powerUp.Working := workingPowerUp_working
  obtain ⟨restored, run, recovered, -⟩ := served.recovers working
  obtain ⟨-, -, -, -, -, -, -, ahead, -⟩ := recover_restores_anchored bootstrapProvisioning
    [.commitContinuation sequenceTwoCall] _ (bootstrap_commitments_distinct.mono sequenceTwo_records) run recovered
  exact ⟨accepted, restored, run, recovered, (ahead continuationRecord accepted rfl).2⟩

end Guardian.NodeLink
