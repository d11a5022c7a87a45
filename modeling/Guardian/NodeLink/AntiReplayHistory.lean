import Mathlib.Data.List.Induction
import Guardian.NodeLink.AntiReplayRun
import Guardian.NodeLink.PersistenceHistory

namespace Guardian.NodeLink

open Word Device

/-- The backend object a call starts from, and what happens to each operation on the flash and on the anchors. -/
structure PowerUp where
  pendingSlot : Slot
  pendingValid : U8
  media : Nat → Fault
  provider : Nat → AnchorFault

structure RecoverCall where
  expectedIdentity : FreshnessIdentity
  powerUp : PowerUp

structure ContinuationCall where
  expectedIdentity : FreshnessIdentity
  previousRecord : PersistedRecord
  nextEpoch : U32
  nextSequence : U32
  runtime : FreshnessRuntime
  powerUp : PowerUp

def ContinuationCall.candidate (call : ContinuationCall) : PersistedRecord :=
  continuationCandidate call.previousRecord call.nextSequence

/-- A call, or the attacker, who puts contents that a slot had earlier into each slot. -/
inductive Event
  | recover (call : RecoverCall)
  | commitContinuation (call : ContinuationCall)
  | rollBack (choice : Slot → Nat)

/-- `archive` holds the contents the slots had, `records` every record that was written or continued, `ledger` the
    records anchors were set to, newest first, and `accepted` those reported as accepted. -/
structure System where
  slots : Slot → Image
  anchors : FreshnessIdentity → Option AnchorRecord
  archive : List Image
  records : List PersistedRecord
  ledger : List PersistedRecord
  accepted : List PersistedRecord

namespace System

def node (system : System) (powerUp : PowerUp) : PhysicalBackend Flash × AnchorStore :=
  (⟨Flash.powerUp system.slots powerUp.media, powerUp.pendingSlot, powerUp.pendingValid⟩,
    AnchorStore.powerUp system.anchors powerUp.provider)

def recover (system : System) (call : RecoverCall) : Option AntiReplayOutput × (PhysicalBackend Flash × AnchorStore) :=
  antiReplayRecover (physicalBackendMakeProvider flashMedia) anchorStoreProvider call.expectedIdentity
    (system.node call.powerUp)

def commitContinuation (system : System) (call : ContinuationCall) :
    Option AntiReplayOutput × (PhysicalBackend Flash × AnchorStore) :=
  antiReplayCommitContinuation (physicalBackendMakeProvider flashMedia) anchorStoreProvider call.expectedIdentity
    call.previousRecord call.nextEpoch call.nextSequence call.runtime (system.node call.powerUp)

def store (system : System) (reached : PhysicalBackend Flash × AnchorStore) : System :=
  { system with
    slots := reached.1.context.slots
    anchors := reached.2.anchors
    archive := reached.1.context.slots .a :: reached.1.context.slots .b :: system.archive }

def step (system : System) : Event → System
  | .recover call => system.store (system.recover call).2
  | .commitContinuation call =>
    let run := system.commitContinuation call
    { system.store run.2 with
      records :=
        if run.2.1.context.programmed = 0 then system.records
        else call.previousRecord :: call.candidate :: system.records
      ledger := if run.2.2.advances = 0 then system.ledger else call.candidate :: system.ledger
      accepted := (run.1.filter (·.result = .ok)).toList.map AntiReplayOutput.record ++ system.accepted }
  | .rollBack choice => { system with slots := fun slot => system.archive.getD (choice slot) (system.slots slot) }

/-- The record that the anchor of `identity` was last set to. -/
def anchored (system : System) (identity : FreshnessIdentity) : Option PersistedRecord :=
  system.ledger.find? (·.identity.canonical = identity.canonical)

end System

def heldRecords (slots : Slot → Image) : List PersistedRecord :=
  ([Slot.a, Slot.b].map fun slot => observeImage (slots slot).1).filterMap fun observation =>
    if observation.state = .valid then some observation.record else none

/-- A node as it is provisioned: any flash, and anchors set to valid records of different identities. -/
structure Provisioning where
  slots : Slot → Image
  records : List PersistedRecord
  valid : ∀ record ∈ records, record.Valid
  distinct : records.Pairwise fun left right => left.identity.canonical ≠ right.identity.canonical

def Provisioning.anchors (start : Provisioning) (identity : FreshnessIdentity) : Option AnchorRecord :=
  (start.records.find? (·.identity.canonical = identity.canonical)).map fun record =>
    ⟨record.identity, record.recordGeneration, anchorCommitment record⟩

def Provisioning.system (start : Provisioning) : System where
  slots := start.slots
  anchors := start.anchors
  archive := [start.slots .a, start.slots .b]
  records := start.records ++ heldRecords start.slots
  ledger := start.records
  accepted := []

def Provisioning.after (start : Provisioning) (events : List Event) : System :=
  Run.after System.step events start.system

/-- A slot with these contents holds no record but one of `records`. -/
def Image.Explained (image : Image) (records : List PersistedRecord) : Prop :=
  (observeImage image.1).state = .valid → Among (observeImage image.1).record records

/-- `newer` goes on from `older` where both are of one identity. -/
def PersistedRecord.Supersedes (newer older : PersistedRecord) : Prop :=
  newer.identity.canonical = older.identity.canonical → older.acceptedEpoch = newer.acceptedEpoch ∧
    older.acceptedSequence < newer.acceptedSequence ∧ older.recordGeneration < newer.recordGeneration

structure System.Coherent (system : System) : Prop where
  slots : ∀ slot, (system.slots slot).Explained system.records
  archive : ∀ image ∈ system.archive, image.Explained system.records
  anchors : ∀ identity anchor, system.anchors identity.canonical = some anchor →
    ∃ record, system.anchored identity = some record ∧ anchor.CommitsTo record
  ledger : ∀ record ∈ system.ledger, Among record system.records
  ordered : system.ledger.Pairwise PersistedRecord.Supersedes
  accepted : system.accepted ⊆ system.ledger

theorem Image.Explained.mono {image : Image} {records more : List PersistedRecord} (explained : image.Explained records)
    (included : records ⊆ more) : image.Explained more := fun valid => (explained valid).mono included

theorem heldRecords_explained (slots : Slot → Image) (slot : Slot) : (slots slot).Explained (heldRecords slots) := by
  intro valid
  apply Among.of_mem
  rw [heldRecords, List.mem_filterMap]
  refine ⟨observeImage (slots slot).1, List.mem_map.mpr ⟨slot, by cases slot <;> decide, rfl⟩, ?_⟩
  rw [if_pos valid]

theorem programmedImage_explained {candidate : PersistedRecord} (valid : candidate.Valid) {count : Nat}
    (within : count ≤ physicalImageSize) {records : List PersistedRecord} (written : count ≠ 0 → candidate ∈ records) :
    (programmedImage candidate count).Explained records := by
  intro state
  rcases Nat.eq_zero_or_pos count with rfl | started
  · rw [programmedImage_zero, observe_erased] at state
    cases state
  rcases Nat.lt_or_ge physicalCommitOffset count with marker | body
  · rcases Nat.lt_or_eq_of_le within with partly | rfl
    · rw [observe_corrupted candidate marker partly] at state
      cases state
    · rw [observe_committed valid]
      exact ⟨candidate, written (by decide), candidate.canonical_canonical.symm⟩
  · rw [observe_torn candidate started body] at state
    cases state

theorem physicalBackendLoad_keeps :
    Dev.Keeps (fun backend : PhysicalBackend Flash => backend.context.slots)
      (physicalBackendMakeProvider flashMedia).load := by
  apply Dev.Keeps.bind
  · intro backend
    have run := recoverInternal_run backend
    rw [physicalBackendRecover]
    generalize (recoverInternal flashMedia backend).1 = recovery at run
    generalize (recoverInternal flashMedia backend).2 = reached at run
    cases run <;> rfl
  · intro recovery
    exact .pure _

theorem physicalBackendLoad_valid {backend : PhysicalBackend Flash} {record : PersistedRecord}
    (load : ((physicalBackendMakeProvider flashMedia).load backend).1 = some (.ok, .validPersistedState, record)) :
    ∃ slot, (observeImage (backend.context.slots slot).1).state = .valid ∧
      (observeImage (backend.context.slots slot).1).record = record := by
  have run := recoverInternal_run backend
  have loaded : ((recoverInternal flashMedia backend).1.map fun recovery =>
      (recovery.operation, recovery.status, recovery.record)) = some (.ok, .validPersistedState, record) := by
    rw [← load]
    exact (congrArg Prod.fst (Dev.bind_pure _ _ backend)).symm
  obtain ⟨recovery, found, outputs⟩ := Option.map_eq_some_iff.mp loaded
  rw [found] at run
  generalize (recoverInternal flashMedia backend).2 = reached at run
  cases run with
  | unread _ _ _ status => cases status.symm.trans (congrArg (fun outputs => outputs.2.1) outputs)
  | surveyed =>
    obtain ⟨slot, holds⟩ := surveySlots_valid (congrArg (fun outputs => outputs.2.1) outputs)
    exact ⟨slot, holds.state, holds.holding.trans (congrArg (fun outputs => outputs.2.2) outputs)⟩

inductive Rewritten (slots : Slot → Image) (candidate : PersistedRecord) (flash : Flash) : Prop
  | untouched (same : flash.slots = slots) (programmed : flash.programmed = 0)
  | programmed (target : Slot) (valid : candidate.Valid) (within : flash.programmed ≤ physicalImageSize)
      (written : flash.slots = Function.update slots target (programmedImage candidate flash.programmed))

theorem continuationCommit_rewritten (system : System) (call : ContinuationCall) :
    let run := continuationCommit (physicalBackendMakeProvider flashMedia) call.expectedIdentity call.previousRecord
      call.nextSequence (system.node call.powerUp).1
    Rewritten system.slots call.candidate run.2.context ∧
      (run.1 = some (.ok, .committed) → run.2.context.programmed ≠ 0) := by
  have cases := Medium.step_cases ⟨system.slots, none⟩ ⟨some call.previousRecord, call.expectedIdentity, call.candidate,
    call.powerUp.pendingSlot, call.powerUp.pendingValid, call.powerUp.media⟩
  rcases cases with ⟨same, programmed, refused⟩ | ⟨target, count, -, valid, within, programmed, step, reports⟩
  · refine ⟨.untouched (congrArg Medium.slots same) programmed, fun committed => ?_⟩
    exact absurd rfl (refused _ committed).ne_committed
  · have written := congrArg Medium.slots step
    rw [← programmed] at written within
    refine ⟨.programmed target valid within written, fun committed => ?_⟩
    rcases reports _ committed with ⟨-, whole⟩ | uncertain | ⟨refused, -⟩
    · intro nothing
      exact absurd ((programmed.trans whole).symm.trans nothing) (by decide)
    · cases uncertain
    · exact absurd rfl refused.ne_committed

theorem Rewritten.explained {slots : Slot → Image} {candidate : PersistedRecord} {flash : Flash}
    (rewritten : Rewritten slots candidate flash) {records : List PersistedRecord}
    (explained : ∀ slot, (slots slot).Explained records) (written : flash.programmed ≠ 0 → candidate ∈ records)
    (slot : Slot) : (flash.slots slot).Explained records := by
  cases rewritten with
  | untouched same =>
    rw [same]
    exact explained slot
  | programmed target valid within stored =>
    rw [stored]
    by_cases same : slot = target
    · rw [same, Function.update_self]
      exact programmedImage_explained valid within written
    · rw [Function.update_of_ne same]
      exact explained slot

theorem pairwise_find? {α : Type} {relation : α → α → Prop} {entries : List α} {wanted : α → Bool} {first other : α}
    (ordered : entries.Pairwise relation) (found : entries.find? wanted = some first) (member : other ∈ entries)
    (matching : wanted other = true) : other = first ∨ relation first other := by
  induction entries with
  | nil => cases found
  | cons head rest ih =>
    rw [List.pairwise_cons] at ordered
    cases heads : wanted head with
    | true =>
      rw [List.find?_cons_of_pos heads] at found
      cases found
      exact (List.mem_cons.mp member).imp id (ordered.1 other)
    | false =>
      rw [List.find?_cons_of_neg (by simp [heads])] at found
      rcases List.mem_cons.mp member with rfl | member
      · rw [matching] at heads
        cases heads
      · exact ih ordered.2 found member

namespace System

variable {system : System}

theorem anchored_mem {identity : FreshnessIdentity} {record : PersistedRecord}
    (anchored : system.anchored identity = some record) :
    record ∈ system.ledger ∧ record.identity.canonical = identity.canonical := by
  rw [System.anchored] at anchored
  have matching := List.find?_some anchored
  exact ⟨List.mem_of_find?_eq_some anchored, of_decide_eq_true matching⟩

theorem Coherent.archived (coherent : system.Coherent) {reached : PhysicalBackend Flash × AnchorStore}
    {more : List PersistedRecord} (slots : ∀ slot, (reached.1.context.slots slot).Explained more)
    (included : system.records ⊆ more) : ∀ image ∈ (system.store reached).archive, image.Explained more := by
  intro image member
  rcases List.mem_cons.mp member with rfl | member
  · exact slots .a
  rcases List.mem_cons.mp member with rfl | member
  · exact slots .b
  · exact (coherent.archive image member).mono included

theorem Coherent.store (coherent : system.Coherent) {reached : PhysicalBackend Flash × AnchorStore}
    {more : List PersistedRecord} (slots : ∀ slot, (reached.1.context.slots slot).Explained more)
    (anchors : reached.2.anchors = system.anchors) (included : system.records ⊆ more) :
    Coherent { system.store reached with records := more } where
  slots := slots
  archive := coherent.archived slots included
  anchors := by
    intro identity anchor stored
    exact coherent.anchors identity anchor ((congrFun anchors _).symm.trans stored)
  ledger := fun record member => (coherent.ledger record member).mono included
  ordered := coherent.ordered
  accepted := coherent.accepted

theorem Coherent.recover (coherent : system.Coherent) (call : RecoverCall) :
    (system.step (.recover call)).Coherent := by
  have kept : ((system.recover call).2.1.context.slots, (system.recover call).2.2.anchors) =
      (system.slots, system.anchors) := antiReplayRecover_keeps physicalBackendLoad_keeps (system.node call.powerUp)
  obtain ⟨slots, anchors⟩ := Prod.mk.inj kept
  refine coherent.store (fun slot => ?_) anchors (List.Subset.refl _)
  rw [slots]
  exact coherent.slots slot

theorem Coherent.rollBack (coherent : system.Coherent) (choice : Slot → Nat) :
    (system.step (.rollBack choice)).Coherent where
  slots := by
    intro slot
    change (system.archive.getD (choice slot) (system.slots slot)).Explained system.records
    rw [List.getD_eq_getElem?_getD]
    rcases chosen : system.archive[choice slot]? with _ | image
    · exact coherent.slots slot
    · exact coherent.archive image (List.mem_of_getElem? chosen)
  archive := coherent.archive
  anchors := coherent.anchors
  ledger := coherent.ledger
  ordered := coherent.ordered
  accepted := coherent.accepted

theorem commitContinuation_run (system : System) (call : ContinuationCall) :
    ContinuationRun (physicalBackendMakeProvider flashMedia) call.expectedIdentity call.previousRecord call.nextSequence
      (system.node call.powerUp) (system.commitContinuation call) :=
  antiReplayCommitContinuation_run _

theorem commitContinuation_rewritten (system : System) (call : ContinuationCall) :
    Rewritten system.slots call.candidate (system.commitContinuation call).2.1.context := by
  have rewritten := (continuationCommit_rewritten system call).1
  have run := system.commitContinuation_run call
  generalize system.commitContinuation call = outcome at run ⊢
  cases run with
  | refused output reached failed medium =>
    rcases medium with same | transacted
    · rw [show (output, reached).2.1 = reached.1 from rfl, same]
      exact .untouched rfl rfl
    · rw [show (output, reached).2.1 = reached.1 from rfl, transacted]
      exact rewritten
  | advanced output reached anchor stored commits later room committed =>
    rw [committed] at rewritten
    exact rewritten

/-- A continuation that advanced the anchor of its identity to its candidate. -/
structure Advance (system : System) (call : ContinuationCall) : Prop where
  anchored : ∃ anchor, system.anchors call.expectedIdentity.canonical = some anchor ∧
    anchor.CommitsTo call.previousRecord
  later : call.previousRecord.acceptedSequence < call.nextSequence
  room : call.previousRecord.recordGeneration < BitVec.allOnes 32 - 1
  valid : call.candidate.Valid
  written : (system.commitContinuation call).2.1.context.programmed ≠ 0
  anchors : (system.commitContinuation call).2.2.anchors = Function.update system.anchors call.expectedIdentity.canonical
    (some ⟨call.expectedIdentity, call.candidate.recordGeneration, anchorCommitment call.candidate⟩)
  advances : (system.commitContinuation call).2.2.advances ≠ 0
  record : ∀ output, (system.commitContinuation call).1 = some output → output.result = .ok →
    output.record = call.candidate

theorem commitContinuation_cases (system : System) (call : ContinuationCall) :
    ((∀ output, (system.commitContinuation call).1 = some output → output.result ≠ .ok) ∧
        (system.commitContinuation call).2.2.anchors = system.anchors ∧
        (system.commitContinuation call).2.2.advances = 0) ∨ system.Advance call := by
  have committing := (continuationCommit_rewritten system call).2
  have run := system.commitContinuation_run call
  rcases ran : system.commitContinuation call with ⟨output, reached⟩
  rw [ran] at run
  cases run with
  | refused _ _ failed _ anchors advances => exact Or.inl ⟨failed, anchors, advances⟩
  | advanced _ _ anchor stored commits later room committed valid anchors advances record =>
    rw [committed] at committing
    refine Or.inr ⟨⟨anchor, stored, commits⟩, later, room, valid, ?_, ?_, ?_, ?_⟩ <;> rw [ran]
    · exact committing rfl
    · exact anchors
    · exact fun nothing => Nat.succ_ne_zero _ (advances.symm.trans nothing)
    · exact record

/-- The record that a continuation goes on from is the one the anchor was last set to, so its candidate goes on from
    every record the anchor was set to. -/
theorem Advance.supersedes {call : ContinuationCall} (advance : system.Advance call) (coherent : system.Coherent)
    {records : List PersistedRecord} (included : system.records ⊆ records) (present : call.previousRecord ∈ records)
    (distinct : CommitmentsDistinct records) :
    call.candidate.identity.canonical = call.expectedIdentity.canonical ∧
      ∀ older ∈ system.ledger, call.candidate.Supersedes older := by
  obtain ⟨anchor, stored, commits⟩ := advance.anchored
  obtain ⟨latest, anchored, same⟩ := coherent.anchors _ _ stored
  obtain ⟨member, identity⟩ := anchored_mem anchored
  have equal := commits.unique distinct same (.of_mem present) ((coherent.ledger latest member).mono included)
  obtain ⟨-, identities, epochs, sequences, generations⟩ := PersistedRecord.mk.inj equal
  have later : latest.acceptedSequence < call.nextSequence := sequences ▸ advance.later
  have newer : latest.recordGeneration < call.previousRecord.recordGeneration + 1 := by
    have room := advance.room
    rw [generations] at room ⊢
    bv_omega
  refine ⟨identities.trans identity, fun older kept of => ?_⟩
  have matching : older.identity.canonical = call.expectedIdentity.canonical :=
    of.symm.trans (identities.trans identity)
  rcases pairwise_find? coherent.ordered anchored kept (decide_eq_true matching) with rfl | superseded
  · exact ⟨epochs.symm, later, newer⟩
  · obtain ⟨epoch, sequence, generation⟩ := superseded (identity.trans matching.symm)
    exact ⟨epoch.trans epochs.symm, BitVec.lt_trans sequence later, BitVec.lt_trans generation newer⟩

theorem Coherent.commitContinuation (coherent : system.Coherent) (call : ContinuationCall)
    (distinct : CommitmentsDistinct (system.step (.commitContinuation call)).records) :
    (system.step (.commitContinuation call)).Coherent := by
  have rewritten := system.commitContinuation_rewritten call
  have included : system.records ⊆ (system.step (.commitContinuation call)).records := by
    simp only [step]
    split_ifs
    · exact List.Subset.refl _
    · exact fun record member => List.mem_cons_of_mem _ (List.mem_cons_of_mem _ member)
  have written (programmed : (system.commitContinuation call).2.1.context.programmed ≠ 0) :
      call.previousRecord ∈ (system.step (.commitContinuation call)).records ∧
        call.candidate ∈ (system.step (.commitContinuation call)).records := by
    simp only [step, if_neg programmed]
    exact ⟨List.mem_cons_self, List.mem_cons_of_mem _ List.mem_cons_self⟩
  have slots (slot : Slot) := rewritten.explained (fun slot => (coherent.slots slot).mono included)
    (fun programmed => (written programmed).2) slot
  rcases system.commitContinuation_cases call with ⟨failed, anchors, advances⟩ | advance
  · have refused : (system.commitContinuation call).1.filter (·.result = .ok) = none :=
      Option.filter_eq_none_iff.mpr fun output returned => by simpa using failed output returned
    have same : system.step (.commitContinuation call) = { system.store (system.commitContinuation call).2 with
        records := (system.step (.commitContinuation call)).records } := by
      simp only [step, if_pos advances, refused]
      rfl
    rw [same]
    exact coherent.store slots anchors included
  · obtain ⟨previous, candidate⟩ := written advance.written
    obtain ⟨known, supersedes⟩ := advance.supersedes coherent included previous distinct
    have ledger : (system.step (.commitContinuation call)).ledger = call.candidate :: system.ledger := by
      simp only [step, if_neg advance.advances]
    refine ⟨slots, coherent.archived slots included, fun identity anchor stored => ?_, ?_, ?_, ?_⟩
    · change (system.commitContinuation call).2.2.anchors identity.canonical = some anchor at stored
      rw [System.anchored, ledger]
      rw [advance.anchors] at stored
      by_cases same : identity.canonical = call.expectedIdentity.canonical
      · rw [same, Function.update_self] at stored
        cases stored
        refine ⟨call.candidate, ?_, advance.valid, known.symm, rfl, rfl⟩
        exact List.find?_cons_of_pos (decide_eq_true (known.trans same.symm))
      · rw [Function.update_of_ne same] at stored
        obtain ⟨record, anchored, commits⟩ := coherent.anchors identity anchor stored
        refine ⟨record, ?_, commits⟩
        rw [List.find?_cons_of_neg (by simpa [known] using Ne.symm same)]
        exact anchored
    · rw [ledger]
      intro record member
      rcases List.mem_cons.mp member with rfl | member
      · exact .of_mem candidate
      · exact (coherent.ledger record member).mono included
    · rw [ledger]
      exact coherent.ordered.cons supersedes
    · rw [ledger]
      intro record member
      rcases List.mem_append.mp member with reported | earlier
      · obtain ⟨output, returned, rfl⟩ := List.mem_map.mp reported
        obtain ⟨returned, success⟩ := Option.mem_filter_iff.mp (Option.mem_toList.mp returned)
        rw [advance.record output returned (of_decide_eq_true success)]
        exact List.mem_cons_self
      · exact List.mem_cons_of_mem _ (coherent.accepted earlier)

theorem continued_records {call : ContinuationCall} {record : PersistedRecord}
    (member : record ∈ (system.step (.commitContinuation call)).records) :
    record = call.previousRecord ∨ record = call.candidate ∨ record ∈ system.records := by
  simp only [step] at member
  split_ifs at member
  · exact Or.inr (Or.inr member)
  · simpa only [List.mem_cons] using member

theorem continued_accepted {call : ContinuationCall} {output : AntiReplayOutput}
    (returned : (system.commitContinuation call).1 = some output) (success : output.result = .ok) :
    output.record ∈ (system.step (.commitContinuation call)).accepted := by
  apply List.mem_append_left
  apply List.mem_map_of_mem
  apply Option.mem_toList.mpr
  exact Option.mem_filter_iff.mpr ⟨returned, decide_eq_true success⟩

theorem step_records (system : System) (event : Event) : system.records ⊆ (system.step event).records := by
  cases event with
  | recover call => exact List.Subset.refl _
  | commitContinuation call =>
    simp only [step]
    split_ifs
    · exact List.Subset.refl _
    · exact fun record member => List.mem_cons_of_mem _ (List.mem_cons_of_mem _ member)
  | rollBack choice => exact List.Subset.refl _

theorem step_coherent {event : Event} (coherent : system.Coherent)
    (distinct : CommitmentsDistinct (system.step event).records) : (system.step event).Coherent := by
  cases event with
  | recover call => exact coherent.recover call
  | commitContinuation call => exact coherent.commitContinuation call distinct
  | rollBack choice => exact coherent.rollBack choice

end System

theorem CommitmentsDistinct.mono {records more : List PersistedRecord} (distinct : CommitmentsDistinct more)
    (included : records ⊆ more) : CommitmentsDistinct records := by
  apply Set.InjOn.mono _ distinct
  rintro _ ⟨record, member, rfl⟩
  exact ⟨record, included member, rfl⟩

theorem Provisioning.coherent (start : Provisioning) : start.system.Coherent where
  slots slot := (heldRecords_explained start.slots slot).mono (List.subset_append_right _ _)
  archive := by
    intro image member
    have held (slot : Slot) : (start.slots slot).Explained start.system.records :=
      (heldRecords_explained start.slots slot).mono (List.subset_append_right _ _)
    rcases List.mem_cons.mp member with rfl | member
    · exact held .a
    · rw [List.mem_singleton.mp member]
      exact held .b
  anchors := by
    intro identity anchor stored
    obtain ⟨record, found, rfl⟩ := Option.map_eq_some_iff.mp stored
    rw [FreshnessIdentity.canonical_canonical] at found
    exact ⟨record, found, start.valid record (List.mem_of_find?_eq_some found), rfl, rfl, rfl⟩
  ledger record member := .of_mem (List.mem_append_left _ member)
  ordered := start.distinct.imp fun different same => absurd same different
  accepted := List.nil_subset _

theorem Provisioning.after_coherent (start : Provisioning) (events : List Event)
    (distinct : CommitmentsDistinct (start.after events).records) : (start.after events).Coherent := by
  induction events using List.reverseRecOn with
  | nil => exact start.coherent
  | append_singleton events event ih =>
    rw [Provisioning.after, Run.after_snoc] at distinct ⊢
    exact System.step_coherent (ih (distinct.mono (System.step_records _ event))) distinct

end Guardian.NodeLink
