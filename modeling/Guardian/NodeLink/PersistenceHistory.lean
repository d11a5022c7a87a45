import Guardian.Lib.Run
import Guardian.NodeLink.PersistenceSlots
import Guardian.NodeLink.PersistenceTransactionRun

namespace Guardian.NodeLink

open Word ByteString Device

/-- A transaction, the backend object it starts from, and what happens to each of its media operations. -/
structure CommitCall where
  previousRecord : Option PersistedRecord
  expectedIdentity : FreshnessIdentity
  candidate : PersistedRecord
  pendingSlot : Slot
  pendingValid : U8
  schedule : Nat → Fault

/-- The medium, and the record whose image was last programmed as a whole, commit marker included. -/
structure Medium where
  slots : Slot → Image
  committed : Option PersistedRecord

def Medium.blank : Medium := ⟨fun _ => erasedImage, none⟩

def Medium.run (medium : Medium) (call : CommitCall) : TransactionRun :=
  physicalTransactCommit call.previousRecord call.expectedIdentity call.candidate
    ⟨Flash.powerUp medium.slots call.schedule, call.pendingSlot, call.pendingValid⟩

def Medium.report (medium : Medium) (call : CommitCall) : Option (OperationResult × TransactionOutcome) :=
  (medium.run call).1

def Medium.programmedBytes (medium : Medium) (call : CommitCall) : Nat := (medium.run call).2.context.programmed

def Medium.step (medium : Medium) (call : CommitCall) : Medium where
  slots := (medium.run call).2.context.slots
  committed := if medium.programmedBytes call = physicalImageSize then some call.candidate.canonical else medium.committed

def Medium.after (medium : Medium) (calls : List CommitCall) : Medium := Run.after Medium.step calls medium

def recovered (slots : Slot → Image) : Option Recovery :=
  (physicalBackendRecover flashMedia (physicalBackendInit (Flash.working slots))).1

theorem recovered_eq (slots : Slot → Image) : recovered slots = some (surveySlots slots) := by
  have run := recoverInternal_run (physicalBackendInit (Flash.working slots))
  have working : (Flash.working slots).Working := fun _ => rfl
  rw [recovered, physicalBackendRecover]
  generalize (recoverInternal flashMedia (physicalBackendInit (Flash.working slots))).1 = result at run
  generalize (recoverInternal flashMedia (physicalBackendInit (Flash.working slots))).2 = reached at run
  cases run with
  | lost _ failure => exact absurd working failure
  | unread _ broken => exact absurd ⟨working.report 0, working.report 1⟩ broken
  | surveyed => rfl

/-- Slot A was never programmed as a whole, and slot B was never programmed. -/
structure Vacant (slots : Slot → Image) : Prop where
  a : (observeImage (slots .a).1).state = .erased ∨ (observeImage (slots .a).1).state = .torn ∨
    (observeImage (slots .a).1).state = .corrupted
  b : (observeImage (slots .b).1).state = .erased

/-- `slot` holds `record` beside a slot whose commit marker was programmed in part. -/
structure Blocked (slots : Slot → Image) (slot : Slot) (record : PersistedRecord) : Prop where
  state : (observeImage (slots slot).1).state = .valid
  holding : (observeImage (slots slot).1).record = record
  peer : (observeImage (slots slot.other).1).state = .corrupted

/-- How the slots can stand when `committed` is the record last committed. -/
inductive Coherent (slots : Slot → Image) : (committed : Option PersistedRecord) → Prop
  | vacant (vacant : Vacant slots) : Coherent slots none
  | holds (slot : Slot) {record : PersistedRecord} (holds : Holds slots slot record) : Coherent slots (some record)
  | blocked (slot : Slot) {record : PersistedRecord} (blocked : Blocked slots slot record) :
      Coherent slots (some record)

/-- The slots stand so that recovery finds the record last committed. -/
inductive Settled (slots : Slot → Image) : (committed : Option PersistedRecord) → Prop
  | erased (a : (observeImage (slots .a).1).state = .erased) (b : (observeImage (slots .b).1).state = .erased) :
      Settled slots none
  | holds (slot : Slot) {record : PersistedRecord} (holds : Holds slots slot record) : Settled slots (some record)

theorem Settled.coherent {slots : Slot → Image} {committed : Option PersistedRecord}
    (settled : Settled slots committed) : Coherent slots committed := by
  cases settled with
  | erased a b => exact .vacant ⟨Or.inl a, b⟩
  | holds slot holds => exact .holds slot holds

theorem Holds.unique {slots : Slot → Image} {left right : Slot} {first second : PersistedRecord}
    (holds : Holds slots left first) (other : Holds slots right second) : first = second := by
  obtain ⟨_, survey⟩ := holds.survey
  obtain ⟨_, same⟩ := other.survey
  exact congrArg Recovery.record (survey.symm.trans same)

theorem Holds.not_blocked {slots : Slot → Image} {left right : Slot} {first second : PersistedRecord}
    (holds : Holds slots left first) (blocked : Blocked slots right second) : False := by
  rcases Slot.eq_or_other left right with rfl | rfl
  · have peer := holds.peer
    rcases peer with peer | peer | ⟨peer, -⟩ <;> rw [blocked.peer] at peer <;> cases peer
  · have state := holds.state
    rw [blocked.peer] at state
    cases state

theorem Vacant.not_valid {slots : Slot → Image} (vacant : Vacant slots) (slot : Slot) :
    (observeImage (slots slot).1).state ≠ .valid := by
  obtain ⟨a | a | a, b⟩ := vacant <;> cases slot <;> simp [a, b]

theorem Coherent.settled {slots : Slot → Image} {committed : Option PersistedRecord} {candidate : PersistedRecord}
    {target : Slot} (coherent : Coherent slots committed)
    (selected : targetSlot (surveySlots slots) candidate = .ok target) : Settled slots committed := by
  cases coherent with
  | vacant vacant =>
    rcases targetSlot_selected selected with ⟨a, b, -, -⟩ | ⟨record, holds, -⟩
    · exact .erased a b
    · exact absurd holds.state (vacant.not_valid _)
  | holds slot holds => exact .holds slot holds
  | blocked slot blocked =>
    rcases targetSlot_selected selected with ⟨a, b, -, -⟩ | ⟨record, holds, -⟩
    · exact absurd blocked.state (Vacant.not_valid ⟨Or.inl a, b⟩ slot)
    · exact (holds.not_blocked blocked).elim

/-- How far a slot was programmed when recovery no longer finds the record last committed: within the commit
    marker, or before it in the first image of all. -/
def Window (committed : Option PersistedRecord) (count : Nat) : Prop :=
  physicalCommitOffset < count ∧ count < physicalImageSize ∨
    committed = none ∧ 0 < count ∧ count ≤ physicalCommitOffset

/-- The record last committed once `count` bytes of the image of `candidate` are programmed. -/
def committedAfter (committed : Option PersistedRecord) (candidate : PersistedRecord) (count : Nat) :
    Option PersistedRecord :=
  if count = physicalImageSize then some candidate.canonical else committed

section Program

variable {slots : Slot → Image} {committed : Option PersistedRecord} {candidate : PersistedRecord} {target : Slot}

theorem Settled.first_target (settled : Settled slots none)
    (selected : targetSlot (surveySlots slots) candidate = .ok target) :
    target = .a ∧ (observeImage (slots .b).1).state = .erased := by
  cases settled with
  | erased a b =>
    rcases targetSlot_selected selected with ⟨-, -, -, first⟩ | ⟨record, holds, -⟩
    · exact ⟨first, b⟩
    · exact absurd holds.state (Vacant.not_valid ⟨Or.inl a, b⟩ _)

theorem Settled.next_target {record : PersistedRecord} (settled : Settled slots (some record))
    (selected : targetSlot (surveySlots slots) candidate = .ok target) : Holds slots target.other record := by
  cases settled with
  | holds slot holds =>
    rcases targetSlot_selected selected with ⟨a, b, -, -⟩ | ⟨current, selectedHolds, -⟩
    · exact absurd holds.state (Vacant.not_valid ⟨Or.inl a, b⟩ slot)
    · rwa [holds.unique selectedHolds]

theorem program_settled (settled : Settled slots committed) (valid : candidate.Valid)
    (selected : targetSlot (surveySlots slots) candidate = .ok target) {count : Nat}
    (within : count ≤ physicalImageSize) (outside : ¬ Window committed count) :
    Settled (Function.update slots target (programmedImage candidate count)) (committedAfter committed candidate count) := by
  by_cases whole : count = physicalImageSize
  · rw [committedAfter, if_pos whole, whole]
    exact .holds target (commit_holds valid selected)
  · rw [committedAfter, if_neg whole]
    have body : count ≤ physicalCommitOffset := by
      by_contra marker
      exact outside (Or.inl ⟨by omega, by omega⟩)
    cases committed with
    | none =>
      have nothing : count = 0 := by
        by_contra started
        exact outside (Or.inr ⟨rfl, by omega, body⟩)
      obtain ⟨rfl, b⟩ := settled.first_target selected
      rw [nothing, programmedImage_zero]
      exact .erased (by rw [Function.update_self, observe_erased]) (by rw [Function.update_of_ne (by decide)]; exact b)
    | some record => exact .holds target.other ((settled.next_target selected).stage candidate body)

/-- Programming an image up to a byte in the window leaves a medium that is coherent and not settled. -/
theorem program_unsettled (settled : Settled slots committed)
    (selected : targetSlot (surveySlots slots) candidate = .ok target) {count : Nat} (inside : Window committed count) :
    Coherent (Function.update slots target (programmedImage candidate count)) (committedAfter committed candidate count) ∧
      ¬ Settled (Function.update slots target (programmedImage candidate count))
        (committedAfter committed candidate count) := by
  have partly : count ≠ physicalImageSize := by
    rcases inside with ⟨-, marker⟩ | ⟨-, -, body⟩
    · exact Nat.ne_of_lt marker
    · exact Nat.ne_of_lt (Nat.lt_of_le_of_lt body (by decide))
  rw [committedAfter, if_neg partly]
  cases committed with
  | none =>
    obtain ⟨rfl, unwritten⟩ := settled.first_target selected
    have b : (observeImage (Function.update slots .a (programmedImage candidate count) .b).1).state = .erased := by
      rw [Function.update_of_ne (by decide)]
      exact unwritten
    rcases inside with ⟨marker, within⟩ | ⟨-, started, body⟩
    · have a : (observeImage (Function.update slots .a (programmedImage candidate count) .a).1).state = .corrupted := by
        rw [Function.update_self, observe_corrupted candidate marker within]
      refine ⟨.vacant ⟨Or.inr (Or.inr a), b⟩, fun found => ?_⟩
      cases found with
      | erased erased => exact absurd (a.symm.trans erased) (by decide)
    · have a : (observeImage (Function.update slots .a (programmedImage candidate count) .a).1).state = .torn := by
        rw [Function.update_self, observe_torn candidate started body]
      refine ⟨.vacant ⟨Or.inr (Or.inl a), b⟩, fun found => ?_⟩
      cases found with
      | erased erased => exact absurd (a.symm.trans erased) (by decide)
  | some record =>
    have holds := settled.next_target selected
    rcases inside with ⟨marker, within⟩ | ⟨impossible, -⟩
    · have kept : Function.update slots target (programmedImage candidate count) target.other = slots target.other :=
        Function.update_of_ne (Slot.other_ne target) _ _
      have blocked : Blocked (Function.update slots target (programmedImage candidate count)) target.other record := by
        refine ⟨by rw [kept]; exact holds.state, by rw [kept]; exact holds.holding, ?_⟩
        rw [Slot.other_other, Function.update_self, observe_corrupted candidate marker within]
      refine ⟨.blocked target.other blocked, fun found => ?_⟩
      cases found with
      | holds slot current => exact current.not_blocked blocked
    · cases impossible

end Program

theorem Medium.step_cases (medium : Medium) (call : CommitCall) :
    (medium.step call = medium ∧ medium.programmedBytes call = 0 ∧
        ∀ report, medium.report call = some report → report.2.Refused) ∨
      ∃ target count, targetSlot (surveySlots medium.slots) call.candidate = .ok target ∧ call.candidate.Valid ∧
        count ≤ physicalImageSize ∧ medium.programmedBytes call = count ∧
        medium.step call = ⟨Function.update medium.slots target (programmedImage call.candidate count),
          committedAfter medium.committed call.candidate count⟩ ∧
        ∀ report, medium.report call = some report → (report.2 = .committed ∧ count = physicalImageSize) ∨
          report.2 = .stateUncertain ∨ (report.2.Refused ∧ count ≤ physicalCommitOffset) := by
  have run := transactCommit_run call.previousRecord call.expectedIdentity call.candidate
    (Flash.powerUp medium.slots call.schedule) call.pendingSlot call.pendingValid
  have staged (target : Slot) (count operations : Nat)
      (reached : (medium.run call).2.context =
        (Flash.powerUp medium.slots call.schedule).staged target call.candidate count operations) :
      medium.programmedBytes call = count ∧
        medium.step call = ⟨Function.update medium.slots target (programmedImage call.candidate count),
          committedAfter medium.committed call.candidate count⟩ := by
    have programmed : medium.programmedBytes call = count := by
      rw [Medium.programmedBytes, reached]
      exact Nat.zero_add count
    refine ⟨programmed, ?_⟩
    rw [Medium.step, programmed, reached]
    rfl
  generalize result : (physicalTransactCommit call.previousRecord call.expectedIdentity call.candidate
    ⟨Flash.powerUp medium.slots call.schedule, call.pendingSlot, call.pendingValid⟩).1 = report at run
  generalize reached : (physicalTransactCommit call.previousRecord call.expectedIdentity call.candidate
    ⟨Flash.powerUp medium.slots call.schedule, call.pendingSlot, call.pendingValid⟩).2.context = flash at run
  cases run with
  | untouched _ operations refused =>
    have programmed : medium.programmedBytes call = 0 := congrArg Flash.programmed reached
    refine Or.inl ⟨?_, programmed, fun value reported => refused value (result.symm.trans reported)⟩
    rw [Medium.step, programmed, if_neg (by decide)]
    exact congrArg (Medium.mk · medium.committed) (congrArg Flash.slots reached)
  | staged _ target count operations selected valid within refused =>
    obtain ⟨programmed, step⟩ := staged target count operations reached
    exact Or.inr ⟨target, count, selected, valid, Nat.le_trans within (by decide), programmed, step,
      fun value reported => Or.inr (Or.inr ⟨refused value (result.symm.trans reported), within⟩)⟩
  | marked _ target count operations selected valid within uncertain =>
    obtain ⟨programmed, step⟩ := staged target count operations reached
    exact Or.inr ⟨target, count, selected, valid, within, programmed, step,
      fun value reported => Or.inr (Or.inl (uncertain value (result.symm.trans reported)))⟩
  | committed target operations selected valid =>
    obtain ⟨programmed, step⟩ := staged target physicalImageSize operations reached
    refine Or.inr ⟨target, physicalImageSize, selected, valid, Nat.le_refl _, programmed, step, fun value reported => ?_⟩
    cases result.symm.trans reported
    exact Or.inl ⟨rfl, rfl⟩

def Medium.Coherent (medium : Medium) : Prop := NodeLink.Coherent medium.slots medium.committed

theorem Medium.step_coherent (medium : Medium) (call : CommitCall) (coherent : medium.Coherent) :
    (medium.step call).Coherent := by
  rcases medium.step_cases call with ⟨same, -, -⟩ | ⟨target, count, selected, valid, within, -, step, -⟩
  · rwa [same]
  · have settled := NodeLink.Coherent.settled coherent selected
    rw [step]
    by_cases inside : Window medium.committed count
    · exact (program_unsettled settled selected inside).1
    · exact (program_settled settled valid selected within inside).coherent

theorem Medium.blank_settled : Settled Medium.blank.slots none :=
  .erased (congrArg SlotObservation.state observe_erased) (congrArg SlotObservation.state observe_erased)

theorem Medium.after_coherent (calls : List CommitCall) : (Medium.blank.after calls).Coherent :=
  Run.after_invariant Medium.step_coherent (Settled.coherent Medium.blank_settled : Medium.blank.Coherent) calls

end Guardian.NodeLink
