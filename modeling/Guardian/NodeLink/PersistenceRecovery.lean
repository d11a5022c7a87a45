import Guardian.NodeLink.PersistenceHistory

namespace Guardian.NodeLink

open Word ByteString Device

theorem Coherent.survey_valid {slots : Slot → Image} {committed : Option PersistedRecord}
    (coherent : Coherent slots committed) (status : (surveySlots slots).status = .validPersistedState) :
    committed = some (surveySlots slots).record := by
  obtain ⟨slot, holds⟩ := surveySlots_valid status
  cases coherent with
  | vacant vacant => exact absurd holds.state (vacant.not_valid slot)
  | holds other current => rw [holds.unique current]
  | blocked other blocked => exact (holds.not_blocked blocked).elim

theorem Coherent.survey_noState {slots : Slot → Image} {committed : Option PersistedRecord}
    (coherent : Coherent slots committed) (status : (surveySlots slots).status = .noPersistedState) :
    committed = none := by
  obtain ⟨a, b⟩ := resolveSlots_noState status
  cases coherent with
  | vacant vacant => rfl
  | holds slot holds => exact absurd holds.state (Vacant.not_valid ⟨Or.inl a, b⟩ slot)
  | blocked slot blocked => exact absurd blocked.state (Vacant.not_valid ⟨Or.inl a, b⟩ slot)

/-- The record last committed is the one committed before the transaction, or its candidate when the transaction
    reported that it committed it, reported that it is uncertain, or was interrupted. -/
theorem Medium.step_committed (medium : Medium) (call : CommitCall) :
    ((medium.step call).committed = medium.committed ∧
        ∀ operation, medium.report call ≠ some (operation, .committed)) ∨
      ((medium.step call).committed = some call.candidate.canonical ∧
        (medium.report call = none ∨ ∃ operation, medium.report call = some (operation, .committed) ∨
          medium.report call = some (operation, .stateUncertain))) := by
  rcases medium.step_cases call with ⟨same, -, refused⟩ | ⟨target, count, -, -, -, -, step, reported⟩
  · refine Or.inl ⟨by rw [same], fun operation report => ?_⟩
    exact (refused _ report).ne_committed rfl
  · by_cases whole : count = physicalImageSize
    · refine Or.inr ⟨by rw [step]; exact if_pos whole, ?_⟩
      rcases report : medium.report call with _ | ⟨operation, outcome⟩
      · exact Or.inl rfl
      · refine Or.inr ⟨operation, ?_⟩
        rcases reported _ report with ⟨committed, -⟩ | uncertain | ⟨-, body⟩
        · exact Or.inl (by rw [← committed])
        · exact Or.inr (by rw [← uncertain])
        · exact absurd body (by rw [whole]; decide)
    · refine Or.inl ⟨by rw [step]; exact if_neg whole, fun operation report => ?_⟩
      rcases reported _ report with ⟨-, all⟩ | uncertain | ⟨refused, -⟩
      · exact whole all
      · cases uncertain
      · exact refused.ne_committed rfl

/-- Recovery after a restart finds exactly this record, or no state. -/
def RecoversTo (slots : Slot → Image) (committed : Option PersistedRecord) : Prop :=
  ∃ recovery, recovered slots = some recovery ∧ recovery.operation = .ok ∧
    match committed with
    | none => recovery.status = .noPersistedState
    | some record => recovery.status = .validPersistedState ∧ recovery.record = record

theorem recoversTo_iff {slots : Slot → Image} {committed : Option PersistedRecord} :
    RecoversTo slots committed ↔ Settled slots committed := by
  constructor
  · rintro ⟨recovery, run, -, found⟩
    rw [recovered_eq] at run
    cases run
    cases committed with
    | none => exact .erased (resolveSlots_noState found).1 (resolveSlots_noState found).2
    | some record =>
      obtain ⟨status, rfl⟩ := found
      obtain ⟨slot, holds⟩ := surveySlots_valid status
      exact .holds slot holds
  · intro settled
    refine ⟨surveySlots slots, recovered_eq slots, ?_⟩
    cases settled with
    | erased a b =>
      rw [surveySlots_vacant a b]
      exact ⟨rfl, rfl⟩
    | holds slot holds =>
      obtain ⟨diagnostic, survey⟩ := holds.survey
      rw [survey]
      exact ⟨rfl, rfl, rfl⟩

/-- A transaction that legally continues `committed`, the first record of all when there is none. -/
structure Continues (committed : Option PersistedRecord) (call : CommitCall) : Prop where
  admitted : admitTransaction call.previousRecord call.expectedIdentity call.candidate = none
  previous : call.previousRecord = committed
  identity : ∀ record, committed = some record → call.candidate.identity = record.identity

theorem Continues.target {slots : Slot → Image} {committed : Option PersistedRecord} {call : CommitCall}
    (continues : Continues committed call) (settled : Settled slots committed) :
    ∃ target, targetSlot (surveySlots slots) call.candidate = .ok target := by
  obtain ⟨admitted, rfl, identity⟩ := continues
  have follows := admitTransaction_follows admitted
  generalize previous : call.previousRecord = committed at settled follows identity
  cases settled with
  | erased a b =>
    refine ⟨.a, ?_⟩
    rw [surveySlots_vacant a b, targetSlot, if_neg (by simp)]
    exact if_neg (not_not.mpr follows)
  | @holds slot record holds =>
    obtain ⟨room, generation, epoch, sequence⟩ := follows
    exact ⟨slot.other, holds.target (transitionIsAdjacent_iff.mpr
      ⟨(identity record rfl).symm, epoch.symm, room, generation, sequence⟩)⟩

theorem Continues.commits {medium : Medium} {call : CommitCall} (continues : Continues medium.committed call)
    (settled : Settled medium.slots medium.committed) (working : ∀ operation, call.schedule operation = .none) :
    medium.report call = some (.ok, .committed) := by
  obtain ⟨target, selected⟩ := continues.target settled
  have flash : (Flash.powerUp medium.slots call.schedule).Working := working
  exact transactCommit_working flash continues.admitted selected call.pendingSlot call.pendingValid

theorem Medium.committed_settled {medium : Medium} {call : CommitCall} {operation : OperationResult}
    (reported : medium.report call = some (operation, .committed)) :
    Settled (medium.step call).slots (some call.candidate.canonical) := by
  rcases medium.step_cases call with ⟨-, -, refused⟩ | ⟨target, count, selected, valid, -, -, step, reports⟩
  · exact absurd rfl (refused _ reported).ne_committed
  · rcases reports _ reported with ⟨-, all⟩ | uncertain | ⟨refused, -⟩
    · rw [step, all]
      exact .holds target (commit_holds valid selected)
    · cases uncertain
    · exact absurd rfl refused.ne_committed

/-- A transaction leaves a medium that recovers to the record last committed exactly when it found one and did not
    stop in the window. -/
theorem Medium.step_settled (medium : Medium) (call : CommitCall) (coherent : medium.Coherent) :
    Settled (medium.step call).slots (medium.step call).committed ↔
      Settled medium.slots medium.committed ∧ ¬ Window medium.committed (medium.programmedBytes call) := by
  rcases medium.step_cases call with ⟨same, nothing, -⟩ | ⟨target, count, selected, valid, within, programmed, step, -⟩
  · rw [same, nothing]
    have outside : ¬ Window medium.committed 0 := by
      rintro (⟨marker, -⟩ | ⟨-, started, -⟩)
      · exact absurd marker (by decide)
      · exact absurd started (by decide)
    exact ⟨fun settled => ⟨settled, outside⟩, And.left⟩
  · have settled := NodeLink.Coherent.settled coherent selected
    rw [step, programmed]
    constructor
    · exact fun recovers => ⟨settled, fun inside => (program_unsettled settled selected inside).2 recovers⟩
    · exact fun ⟨_, outside⟩ => program_settled settled valid selected within outside

theorem WriteRun.programmed_le {flash : Flash} {slot : Slot} {candidate : PersistedRecord}
    {result : Option OperationResult} {reached : PhysicalBackend Flash}
    (run : WriteRun flash slot candidate result reached) :
    reached.context.programmed ≤ flash.programmed + physicalCommitOffset := by
  cases run with
  | lostReading | unread | rejected | unbuildable => exact Nat.le_add_right _ _
  | eraseStopped target reached complete selected valid stopped erased =>
    rcases erased with rfl | rfl
    · exact Nat.le_add_right _ _
    · exact Nat.add_le_add_left (Nat.zero_le _) _
  | programStopped target count complete selected valid erased stopped within => exact Nat.add_le_add_left within _
  | written => exact Nat.le_refl _

/-- A transaction whose image is not programmed to its end does not reach the commit marker. -/
theorem Medium.programmedBytes_le (medium : Medium) {call : CommitCall} (stopped : (call.schedule 3).report ≠ some .ok) :
    medium.programmedBytes call ≤ physicalCommitOffset := by
  have write := writeCandidate_run call.candidate (Flash.powerUp medium.slots call.schedule) call.pendingSlot
    call.pendingValid
  unfold Medium.programmedBytes Medium.run
  rcases admitted : admitTransaction call.previousRecord call.expectedIdentity call.candidate with _ | rejection
  · rw [physicalTransactCommit_run admitted]
    rcases continueStage_cases .write (physicalBackendWriteCandidate flashMedia call.candidate
      ⟨Flash.powerUp medium.slots call.schedule, call.pendingSlot, call.pendingValid⟩) _ with
      ⟨success, -⟩ | ⟨-, reached, -⟩
    · obtain ⟨-, -, -, -, -, programmed, -⟩ := write.completed success
      exact absurd programmed stopped
    · rw [reached]
      simpa [Flash.powerUp] using write.programmed_le
  · rw [physicalTransactCommit, transactCommit, admitted]
    exact Nat.zero_le _

theorem Medium.step_kept {medium : Medium} {call : CommitCall} (short : medium.programmedBytes call ≠ physicalImageSize) :
    (medium.step call).committed = medium.committed := if_neg short

def bootstrapIdentity : FreshnessIdentity where
  senderNodeId := 1
  producerId := 2
  keyId := 3
  signatureAlgorithm := signatureEd25519
  producerSemanticProfileId := SemanticRef.ofText [0x70]
  consumerSemanticProfileId := SemanticRef.ofText [0x63]
  compatibilityContractId := SemanticRef.ofText [0x6B]

def bootstrapRecord : PersistedRecord := ⟨persistenceSchemaVersion, bootstrapIdentity, 7, 1, 0⟩

/-- The record that continues `bootstrapRecord`. -/
def continuationRecord : PersistedRecord := { bootstrapRecord with acceptedSequence := 2, recordGeneration := 1 }

def bootstrapCall (schedule : Nat → Fault) : CommitCall := ⟨none, bootstrapIdentity, bootstrapRecord, .a, 0, schedule⟩

def continuationCall (schedule : Nat → Fault) : CommitCall :=
  ⟨some bootstrapRecord, bootstrapIdentity, continuationRecord, .a, 0, schedule⟩

theorem bootstrap_admitted : admitTransaction none bootstrapIdentity bootstrapRecord = none := by decide +kernel

theorem continuation_admitted :
    admitTransaction (some bootstrapRecord) bootstrapIdentity continuationRecord = none := by decide +kernel

theorem bootstrap_continues (schedule : Nat → Fault) : Continues none (bootstrapCall schedule) :=
  ⟨bootstrap_admitted, rfl, fun _ impossible => by cases impossible⟩

theorem bootstrap_reported : Medium.blank.report (bootstrapCall fun _ => .none) = some (.ok, .committed) :=
  (bootstrap_continues _).commits Medium.blank_settled fun _ => rfl

def Medium.bootstrapped : Medium := Medium.blank.step (bootstrapCall fun _ => .none)

theorem bootstrapRecord_canonical : bootstrapRecord.canonical = bootstrapRecord := by
  simp only [PersistedRecord.canonical, FreshnessIdentity.canonical, bootstrapRecord, bootstrapIdentity,
    SemanticRef.ofText_canonical (show [(0x70 : U8)].length ≤ 96 by decide) (by decide),
    SemanticRef.ofText_canonical (show [(0x63 : U8)].length ≤ 96 by decide) (by decide),
    SemanticRef.ofText_canonical (show [(0x6B : U8)].length ≤ 96 by decide) (by decide)]

theorem bootstrapped_settled : Settled Medium.bootstrapped.slots (some bootstrapRecord) := by
  have settled := Medium.committed_settled bootstrap_reported
  rwa [show (bootstrapCall fun _ => .none).candidate = bootstrapRecord from rfl, bootstrapRecord_canonical] at settled

theorem bootstrapped_committed : Medium.bootstrapped.committed = some bootstrapRecord := by
  have coherent := Medium.step_coherent Medium.blank (bootstrapCall fun _ => .none) (Settled.coherent Medium.blank_settled)
  cases bootstrapped_settled with
  | holds slot holds =>
    obtain ⟨diagnostic, survey⟩ := holds.survey
    have found := NodeLink.Coherent.survey_valid coherent (congrArg Recovery.status survey)
    exact found.trans (congrArg (some ∘ Recovery.record) survey)

theorem bootstrapped_recovers : RecoversTo Medium.bootstrapped.slots Medium.bootstrapped.committed := by
  rw [bootstrapped_committed]
  exact recoversTo_iff.mpr bootstrapped_settled

theorem continuation_continues (schedule : Nat → Fault) :
    Continues Medium.bootstrapped.committed (continuationCall schedule) :=
  ⟨continuation_admitted, bootstrapped_committed.symm, fun record current => by
    rw [bootstrapped_committed] at current
    cases current
    rfl⟩

theorem continuation_reported : Medium.bootstrapped.report (continuationCall fun _ => .none) = some (.ok, .committed) := by
  exact (continuation_continues _).commits (recoversTo_iff.mp bootstrapped_recovers) fun _ => rfl

/-- After every history, whatever was interrupted in it, a valid record that recovery returns is the one last
    committed, and recovery finds a state once some record was committed. -/
theorem recover_after_history (calls : List CommitCall) (schedule : Nat → Fault) (slot : Slot) (pending : U8)
    {recovery : Recovery} (run : (physicalBackendRecover flashMedia
      ⟨Flash.powerUp (Medium.blank.after calls).slots schedule, slot, pending⟩).1 = some recovery) :
    (recovery.status = .validPersistedState → (Medium.blank.after calls).committed = some recovery.record) ∧
      ((Medium.blank.after calls).committed ≠ none → recovery.status ≠ .noPersistedState) ∧
      ∀ earlier call, calls = earlier ++ [call] →
        ((Medium.blank.after calls).committed = (Medium.blank.after earlier).committed ∧
            ∀ operation, (Medium.blank.after earlier).report call ≠ some (operation, .committed)) ∨
          ((Medium.blank.after calls).committed = some call.candidate.canonical ∧
            ((Medium.blank.after earlier).report call = none ∨
              ∃ operation, (Medium.blank.after earlier).report call = some (operation, .committed) ∨
                (Medium.blank.after earlier).report call = some (operation, .stateUncertain))) := by
  have coherent : Coherent _ _ := Medium.after_coherent calls
  have last (earlier : List CommitCall) (call : CommitCall) (split : calls = earlier ++ [call]) :
      Medium.blank.after calls = (Medium.blank.after earlier).step call := by
    rw [split]
    exact Run.after_snoc Medium.step earlier call Medium.blank
  refine ⟨?_, ?_, fun earlier call split => by rw [last earlier call split]; exact Medium.step_committed _ call⟩
  all_goals
    have recover := recoverInternal_run ⟨Flash.powerUp (Medium.blank.after calls).slots schedule, slot, pending⟩
    rw [physicalBackendRecover] at run
    rw [run] at recover
    generalize (recoverInternal flashMedia
      ⟨Flash.powerUp (Medium.blank.after calls).slots schedule, slot, pending⟩).2 = reached at recover
  · intro status
    cases recover with
    | unread _ _ _ unavailable => rw [unavailable] at status; cases status
    | surveyed => exact coherent.survey_valid status
  · intro committed status
    cases recover with
    | unread _ _ _ unavailable => rw [unavailable] at status; cases status
    | surveyed => exact committed (coherent.survey_noState status)

/-- Recovery after the first commit returns its record. -/
theorem recover_after_bootstrap :
    (Medium.blank.after [bootstrapCall fun _ => .none]).committed = some bootstrapRecord := by
  cases bootstrapped_settled with
  | holds slot holds =>
    obtain ⟨diagnostic, survey⟩ := holds.survey
    have found := (recover_after_history [bootstrapCall fun _ => .none] (fun _ => .none) .a 0 (recovered_eq _)).1
      (congrArg Recovery.status survey)
    exact found.trans (congrArg (some ∘ Recovery.record) survey)

/-- After every history, an interrupted transaction leaves a medium that recovers to the previous record or to its
    candidate, and that every legal continuation commits on, unless it stopped in the window. -/
theorem recover_after_interruption (earlier : List CommitCall) (call : CommitCall) :
    let before := Medium.blank.after earlier
    let after := before.step call
    (RecoversTo after.slots after.committed ↔
        RecoversTo before.slots before.committed ∧ ¬ Window before.committed (before.programmedBytes call)) ∧
      (after.committed = before.committed ∨ after.committed = some call.candidate.canonical) ∧
      ∀ continuation : CommitCall, RecoversTo after.slots after.committed → Continues after.committed continuation →
        (∀ operation, continuation.schedule operation = .none) →
        after.report continuation = some (.ok, .committed) := by
  intro before after
  refine ⟨?_, ?_, fun continuation recovers continues working => ?_⟩
  · rw [recoversTo_iff, recoversTo_iff]
    exact Medium.step_settled before call (Medium.after_coherent earlier)
  · exact (Medium.step_committed before call).imp And.left And.left
  · exact continues.commits (recoversTo_iff.mp recovers) working

/-- The second transaction loses power after 100 bytes of its image. -/
def cutContinuationCall : CommitCall := continuationCall fun operation => if operation = 3 then .powerLoss 100 else .none

/-- Recovery finds the first record again, and the second one commits at the next attempt. -/
theorem recover_after_cut :
    RecoversTo (Medium.bootstrapped.step cutContinuationCall).slots (some bootstrapRecord) ∧
      (Medium.bootstrapped.step cutContinuationCall).report (continuationCall fun _ => .none) =
        some (.ok, .committed) := by
  obtain ⟨recovers, -, commits⟩ := recover_after_interruption [bootstrapCall fun _ => .none] cutContinuationCall
  have programmed : Medium.bootstrapped.programmedBytes cutContinuationCall ≤ physicalCommitOffset :=
    Medium.bootstrapped.programmedBytes_le (by decide)
  have body : Medium.bootstrapped.programmedBytes cutContinuationCall ≠ physicalImageSize :=
    Nat.ne_of_lt (Nat.lt_of_le_of_lt programmed (by decide))
  have kept := Medium.step_kept body
  have outside : ¬ Window Medium.bootstrapped.committed (Medium.bootstrapped.programmedBytes cutContinuationCall) := by
    rintro (⟨marker, -⟩ | ⟨none, -⟩)
    · exact absurd marker (Nat.not_lt.mpr programmed)
    · rw [bootstrapped_committed] at none
      cases none
  have found := recovers.mpr ⟨bootstrapped_recovers, outside⟩
  refine ⟨?_, commits _ found ?_ fun _ => rfl⟩
  · rw [← bootstrapped_committed, ← kept]
    exact found
  · have continues := continuation_continues fun _ => .none
    rwa [← kept] at continues

/-- The first transaction loses power after the first byte of its image. -/
def tornBootstrapCall : CommitCall := bootstrapCall fun operation => if operation = 3 then .powerLoss 1 else .none

/-- Recovery reports the torn first image. It finds neither no state nor the record that was in flight. -/
theorem torn_bootstrap_not_recovered : ¬ ∀ (earlier : List CommitCall) (call : CommitCall),
    (Medium.blank.after earlier).report call = none →
      RecoversTo ((Medium.blank.after earlier).step call).slots (Medium.blank.after earlier).committed ∨
        RecoversTo ((Medium.blank.after earlier).step call).slots (some call.candidate.canonical) := by
  intro claim
  have lost : Medium.blank.report tornBootstrapCall = none := by decide +kernel
  have torn : (surveySlots ((Medium.blank.after []).step tornBootstrapCall).slots).status = .tornOrIncompleteUpdate := by
    decide +kernel
  rcases claim [] tornBootstrapCall lost with ⟨recovery, run, -, found⟩ | ⟨recovery, run, -, found, -⟩
  all_goals
    rw [← Option.some.inj ((recovered_eq _).symm.trans run), torn] at found
    cases found

/-- What a transaction reports is true of what recovery finds, on any medium: a refused transaction leaves the
    record that was there, a committed one leaves its candidate. -/
theorem recover_after_report (medium : Medium) (call : CommitCall) {operation : OperationResult}
    {outcome : TransactionOutcome} (reported : medium.report call = some (operation, outcome)) :
    (∀ record, RecoversTo medium.slots (some record) →
        (outcome = .aborted ∨ outcome = .generationExhausted → RecoversTo (medium.step call).slots (some record)) ∧
        (outcome = .committed → RecoversTo (medium.step call).slots (some call.candidate))) ∧
      (outcome = .committed → RecoversTo (medium.step call).slots (some call.candidate.canonical)) ∧
      (outcome = .committed ∨ outcome = .aborted ∨ outcome = .generationExhausted ∨ outcome = .stateUncertain) := by
  simp only [recoversTo_iff]
  rcases medium.step_cases call with ⟨same, -, refused⟩ | ⟨target, count, selected, valid, -, -, step, reports⟩
  · have refused := refused _ reported
    rw [same]
    refine ⟨fun record settled => ⟨fun _ => settled, fun committed => ?_⟩, fun committed => ?_, Or.inr refused⟩
    all_goals exact absurd committed refused.ne_committed
  · have whole (committed : outcome = .committed) :
        Settled (medium.step call).slots (some call.candidate.canonical) := by
      rw [committed] at reported
      exact Medium.committed_settled reported
    refine ⟨fun record settled => ⟨fun aborted => ?_, fun committed => ?_⟩, whole, ?_⟩
    · rcases reports _ reported with ⟨committed, -⟩ | uncertain | ⟨-, body⟩
      · rw [show outcome = .committed from committed] at aborted
        rcases aborted with aborted | aborted <;> cases aborted
      · rw [show outcome = .stateUncertain from uncertain] at aborted
        rcases aborted with aborted | aborted <;> cases aborted
      · rw [step]
        exact .holds target.other ((settled.next_target selected).stage call.candidate body)
    · have holds := settled.next_target selected
      rcases targetSlot_selected selected with ⟨a, b, -, -⟩ | ⟨current, currentHolds, adjacent⟩
      · exact absurd holds.state (Vacant.not_valid ⟨Or.inl a, b⟩ _)
      · have canonical := transitionIsAdjacent_canonical currentHolds.canonical.2 adjacent
        have found := whole committed
        rwa [canonical] at found
    · rcases reports _ reported with ⟨committed, -⟩ | uncertain | ⟨refused, -⟩
      · exact Or.inl committed
      · exact Or.inr (Or.inr (Or.inr uncertain))
      · exact Or.inr refused

/-- The second record is found after its commit is reported. -/
theorem recover_after_continuation :
    RecoversTo (Medium.bootstrapped.step (continuationCall fun _ => .none)).slots (some continuationRecord) :=
  ((recover_after_report Medium.bootstrapped _ continuation_reported).1 bootstrapRecord
    (recoversTo_iff.mpr bootstrapped_settled)).2 rfl

end Guardian.NodeLink
