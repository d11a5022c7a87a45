import Guardian.NodeLink.PersistenceRun
import Guardian.NodeLink.PersistenceTransaction

namespace Guardian.NodeLink

open Word Device

def physicalTransactCommit (previousRecord : Option PersistedRecord) (expectedIdentity : FreshnessIdentity)
    (candidate : PersistedRecord) : Dev (PhysicalBackend Flash) (OperationResult × TransactionOutcome) :=
  transactCommit (physicalBackendMakeProvider flashMedia) previousRecord expectedIdentity candidate

/-- The slots are as they were, or one of them was erased and programmed with a part of the candidate's image.
    Only the whole image makes a commit; no report but an uncertain one is made from within the commit marker. -/
inductive TransactRun (flash : Flash) (candidate : PersistedRecord) :
    Option (OperationResult × TransactionOutcome) → Flash → Prop
  | untouched (result : Option (OperationResult × TransactionOutcome)) (operations : Nat)
      (refused : ∀ report, result = some report → report.2.Refused) :
      TransactRun flash candidate result (flash.after operations)
  | staged (result : Option (OperationResult × TransactionOutcome)) (target : Slot) (count operations : Nat)
      (selected : targetSlot (surveySlots flash.slots) candidate = .ok target) (valid : candidate.Valid)
      (within : count ≤ physicalCommitOffset) (refused : ∀ report, result = some report → report.2.Refused) :
      TransactRun flash candidate result (flash.staged target candidate count operations)
  | marked (result : Option (OperationResult × TransactionOutcome)) (target : Slot) (count operations : Nat)
      (selected : targetSlot (surveySlots flash.slots) candidate = .ok target) (valid : candidate.Valid)
      (within : count ≤ physicalImageSize) (uncertain : ∀ report, result = some report → report.2 = .stateUncertain) :
      TransactRun flash candidate result (flash.staged target candidate count operations)
  | committed (target : Slot) (operations : Nat)
      (selected : targetSlot (surveySlots flash.slots) candidate = .ok target) (valid : candidate.Valid) :
      TransactRun flash candidate (some (.ok, .committed))
        (flash.staged target candidate physicalImageSize operations)

theorem Flash.staged_marked (flash : Flash) (target : Slot) (record : PersistedRecord) (before : Nat) {count : Nat}
    (within : count ≤ 4) (operations : Nat) :
    (flash.staged target record physicalCommitOffset before).marked target count operations =
      flash.staged target record (physicalCommitOffset + count) (before + operations) := by
  simp only [Flash.marked, Flash.staged, Function.update_self, Function.update_idem, program_marker record within,
    Nat.add_assoc]

theorem targetSlot_error {recovery : Recovery} {candidate : PersistedRecord} {rejection : OperationResult}
    (rejected : targetSlot recovery candidate = .error rejection) : rejection ≠ .ok := by
  unfold targetSlot at rejected
  by_cases failed : recovery.operation ≠ .ok
  · rw [if_pos failed] at rejected
    cases rejected
    exact failed
  · rw [if_neg failed] at rejected
    cases status : recovery.status <;> simp only [status] at rejected <;>
      try split_ifs at rejected
    all_goals cases rejected; decide

/-- A write callback that does not succeed leaves the slots as they were or an image without its marker. -/
theorem WriteRun.failed {flash : Flash} {slot : Slot} {candidate : PersistedRecord} {result : Option OperationResult}
    {reached : PhysicalBackend Flash} (run : WriteRun flash slot candidate result reached) (failed : result ≠ some .ok)
    (report : Option (OperationResult × TransactionOutcome))
    (refused : ∀ value, report = some value → value.2.Refused) :
    TransactRun flash candidate report reached.context := by
  cases run with
  | lostReading count => exact .untouched report count refused
  | unread operation => exact .untouched report 2 refused
  | rejected rejection => exact .untouched report 2 refused
  | unbuildable target => exact .untouched report 2 refused
  | eraseStopped target reached complete selected valid stopped erased =>
    rcases erased with rfl | rfl
    · exact .untouched report 3 refused
    · exact .staged report target 0 3 selected valid (Nat.zero_le _) refused
  | programStopped target count complete selected valid erased stopped within =>
    exact .staged report target count 4 selected valid within refused
  | written => exact absurd rfl failed

theorem WriteRun.completed {flash : Flash} {slot : Slot} {candidate : PersistedRecord} {result : Option OperationResult}
    {reached : PhysicalBackend Flash} (run : WriteRun flash slot candidate result reached)
    (success : result = some .ok) : ∃ target, flash.ReadsComplete ∧
      targetSlot (surveySlots flash.slots) candidate = .ok target ∧ candidate.Valid ∧ flash.report 2 = some .ok ∧
      flash.report 3 = some .ok ∧ reached = ⟨flash.staged target candidate physicalCommitOffset 4, target, 1⟩ := by
  cases run with
  | lostReading => cases success
  | unread operation broken unavailable =>
    cases success
    rcases unavailable with unavailable | unavailable <;> cases unavailable
  | rejected rejection complete target =>
    cases success
    exact absurd rfl (targetSlot_error target)
  | unbuildable => cases success
  | eraseStopped target reached complete selected valid stopped =>
    obtain ⟨report, stored, converted⟩ := Option.map_eq_some_iff.mp success
    exact absurd (by rw [stored, mediaResultToOperation_ok.mp converted]) stopped
  | programStopped target count complete selected valid erased stopped =>
    obtain ⟨report, stored, converted⟩ := Option.map_eq_some_iff.mp success
    exact absurd (by rw [stored, mediaResultToOperation_ok.mp converted]) stopped
  | written target complete selected valid erased programmed =>
    exact ⟨target, complete, selected, valid, erased, programmed, rfl⟩

theorem WriteRun.ok {flash : Flash} {slot : Slot} {candidate : PersistedRecord} {result : Option OperationResult}
    {reached : PhysicalBackend Flash} (run : WriteRun flash slot candidate result reached)
    (success : result = some .ok) : ∃ target, targetSlot (surveySlots flash.slots) candidate = .ok target ∧
      candidate.Valid ∧ reached = ⟨flash.staged target candidate physicalCommitOffset 4, target, 1⟩ := by
  obtain ⟨target, -, selected, valid, -, -, rfl⟩ := run.completed success
  exact ⟨target, selected, valid, rfl⟩

theorem WriteRun.succeeds {flash : Flash} {slot target : Slot} {candidate : PersistedRecord}
    {result : Option OperationResult} {reached : PhysicalBackend Flash}
    (run : WriteRun flash slot candidate result reached)
    (complete : flash.ReadsComplete) (selected : targetSlot (surveySlots flash.slots) candidate = .ok target)
    (valid : candidate.Valid) (erased : flash.report 2 = some .ok) (programmed : flash.report 3 = some .ok) :
    result = some .ok := by
  cases run with
  | lostReading _ _ broken => exact absurd complete broken
  | unread _ broken => exact absurd complete broken
  | rejected _ _ rejected => cases selected.symm.trans rejected
  | unbuildable _ _ _ invalid => exact absurd valid invalid
  | eraseStopped _ _ _ _ _ stopped => exact absurd erased stopped
  | programStopped _ _ _ _ _ _ stopped => exact absurd programmed stopped
  | written => rfl

/-- A report of a transaction, if power lasted, and the backend it leaves. -/
abbrev TransactionRun := Option (OperationResult × TransactionOutcome) × PhysicalBackend Flash

def continueStage (stage : PersistenceStage) (run : Option OperationResult × PhysicalBackend Flash)
    (next : PhysicalBackend Flash → TransactionRun) : TransactionRun :=
  match run.1 with
  | none => (none, run.2)
  | some result => if result = .ok then next run.2 else (some (handleStageResult stage result .invalid), run.2)

theorem stage_run {expectedIdentity : FreshnessIdentity} {candidate : PersistedRecord}
    (valid : candidate.ValidFor expectedIdentity) (stage : PersistenceStage)
    (callback : Dev (PhysicalBackend Flash) OperationResult)
    (next : OperationResult × PersistedRecord → Dev (PhysicalBackend Flash) (OperationResult × TransactionOutcome))
    (backend : PhysicalBackend Flash) :
    ((callback >>= fun result => pure (result, candidate)) >>= fun returned =>
      if (settleStage stage expectedIdentity candidate returned).1 ≠ .ok then
        pure (settleStage stage expectedIdentity candidate returned)
      else next returned) backend =
      continueStage stage (callback backend) fun reached => next (.ok, candidate) reached := by
  have returned := Dev.bind_pure callback (fun result => (result, candidate)) backend
  rcases run : callback backend with ⟨_ | result, reached⟩ <;> rw [run] at returned
  · exact Dev.bind_lost returned
  · refine (Dev.bind_value returned).trans ?_
    rw [settleStage_same stage valid]
    by_cases success : result = .ok
    · subst success
      rw [handleStageResult_ok]
      rfl
    · rw [if_pos (handleStageResult_failed stage success _).1]
      exact (if_neg success).symm

theorem runStages_run {expectedIdentity : FreshnessIdentity} {candidate : PersistedRecord}
    (valid : candidate.ValidFor expectedIdentity) (backend : PhysicalBackend Flash) :
    runStages (physicalBackendMakeProvider flashMedia) expectedIdentity candidate backend =
      continueStage .write (physicalBackendWriteCandidate flashMedia candidate backend) fun reached =>
        continueStage .verify (physicalBackendVerifyCandidate flashMedia candidate reached) fun reached =>
          continueStage .commit (physicalBackendCommitCandidate flashMedia candidate reached) fun reached =>
            (some (.ok, .committed), reached) := by
  refine (stage_run valid .write _ _ backend).trans (congrArg _ (funext fun reached => ?_))
  refine (stage_run valid .verify _ _ reached).trans (congrArg _ (funext fun reached => ?_))
  exact stage_run valid .commit _ _ reached

theorem physicalTransactCommit_run {previousRecord : Option PersistedRecord} {expectedIdentity : FreshnessIdentity}
    {candidate : PersistedRecord} (admitted : admitTransaction previousRecord expectedIdentity candidate = none)
    (backend : PhysicalBackend Flash) :
    physicalTransactCommit previousRecord expectedIdentity candidate backend =
      continueStage .write (physicalBackendWriteCandidate flashMedia candidate backend) fun reached =>
        continueStage .verify (physicalBackendVerifyCandidate flashMedia candidate reached) fun reached =>
          continueStage .commit (physicalBackendCommitCandidate flashMedia candidate reached) fun reached =>
            (some (.ok, .committed), reached) := by
  rw [physicalTransactCommit, transactCommit, admitted]
  exact runStages_run (admitTransaction_valid admitted) backend

theorem continueStage_ok {stage : PersistenceStage} {run : Option OperationResult × PhysicalBackend Flash}
    (success : run.1 = some .ok) (next : PhysicalBackend Flash → TransactionRun) :
    continueStage stage run next = next run.2 := by
  rw [continueStage, success]
  rfl

theorem continueStage_rejected {stage : PersistenceStage} {run : Option OperationResult × PhysicalBackend Flash}
    {rejection : OperationResult} (rejected : run.1 = some rejection) (failed : rejection ≠ .ok)
    (next : PhysicalBackend Flash → TransactionRun) :
    (continueStage stage run next).1 = some (handleStageResult stage rejection .invalid) := by
  rw [continueStage, rejected]
  exact congrArg Prod.fst (if_neg failed)

theorem continueStage_cases (stage : PersistenceStage) (run : Option OperationResult × PhysicalBackend Flash)
    (next : PhysicalBackend Flash → TransactionRun) :
    (run.1 = some .ok ∧ continueStage stage run next = next run.2) ∨
      (run.1 ≠ some .ok ∧ (continueStage stage run next).2 = run.2 ∧
        ∀ report, (continueStage stage run next).1 = some report → report.2.Refused ∧
          ∃ result, run.1 = some result ∧ report = handleStageResult stage result .invalid) := by
  rcases run with ⟨_ | result, reached⟩
  · exact Or.inr ⟨by simp, rfl, fun report impossible => by cases impossible⟩
  · by_cases success : result = .ok
    · exact Or.inl ⟨by rw [success], continueStage_ok (by rw [success]) next⟩
    · have ended : continueStage stage (some result, reached) next =
          (some (handleStageResult stage result .invalid), reached) := if_neg success
      refine Or.inr ⟨by simpa using success, by rw [ended], fun report reported => ?_⟩
      rw [ended] at reported
      cases reported
      exact ⟨(handleStageResult_failed stage success .invalid).2, result, rfl, rfl⟩

/-- A commit callback that does not succeed leaves the image without its marker, or is uncertain. -/
theorem CommitRun.failed {flash : Flash} {target : Slot} {candidate : PersistedRecord} {operations : Nat}
    {result : Option OperationResult} {reached : PhysicalBackend Flash}
    (selected : targetSlot (surveySlots flash.slots) candidate = .ok target) (valid : candidate.Valid)
    (run : CommitRun (flash.staged target candidate physicalCommitOffset operations) target candidate result reached)
    (failed : result ≠ some .ok) (report : Option (OperationResult × TransactionOutcome))
    (handled : ∀ value, report = some value → value.2.Refused ∧
      ∃ operation, result = some operation ∧ value = handleStageResult .commit operation .invalid) :
    TransactRun flash candidate report reached.context := by
  have refused (value) (reported : report = some value) : value.2.Refused := (handled value reported).1
  have uncertain (certain : ∀ operation, result = some operation → operation = .stateUncertain) (value)
      (reported : report = some value) : value.2 = .stateUncertain := by
    obtain ⟨-, operation, returned, rfl⟩ := handled value reported
    rw [certain operation returned]
    rfl
  cases run with
  | lostReading =>
    exact .staged report target physicalCommitOffset (operations + 1) selected valid (Nat.le_refl _) refused
  | unverified =>
    exact .staged report target physicalCommitOffset (operations + 1) selected valid (Nat.le_refl _) refused
  | markerStopped count pending read verified stopped within =>
    dsimp only
    rw [Flash.staged_marked flash target candidate operations within]
    refine .marked report target _ _ selected valid (Nat.add_le_add_left within _) (uncertain fun operation returned => ?_)
    obtain ⟨-, -, rfl⟩ := Option.map_eq_some_iff.mp returned
    rfl
  | marked pending read verified programmed =>
    dsimp only
    rw [Flash.staged_marked flash target candidate operations (Nat.le_refl 4)]
    refine .marked report target _ _ selected valid (Nat.le_refl _) (uncertain fun operation returned => ?_)
    obtain ⟨last, lastRead, rfl⟩ := Option.map_eq_some_iff.mp returned
    by_cases matched : last = .ok ∧ committedMatches
        (((flash.staged target candidate physicalCommitOffset operations).marked target 4 3).slots target) candidate
    · exact absurd (by rw [lastRead, Option.map_some, if_pos matched]) failed
    · exact if_neg matched

theorem CommitRun.ok {flash : Flash} {target : Slot} {candidate : PersistedRecord} {operations : Nat}
    {result : Option OperationResult} {reached : PhysicalBackend Flash}
    (run : CommitRun (flash.staged target candidate physicalCommitOffset operations) target candidate result reached)
    (success : result = some .ok) :
    reached.context = flash.staged target candidate physicalImageSize (operations + 3) := by
  cases run with
  | lostReading => cases success
  | unverified => cases success
  | markerStopped =>
    obtain ⟨-, -, impossible⟩ := Option.map_eq_some_iff.mp success
    cases impossible
  | marked => exact Flash.staged_marked flash target candidate operations (Nat.le_refl 4) 3

theorem transactCommit_run (previousRecord : Option PersistedRecord) (expectedIdentity : FreshnessIdentity)
    (candidate : PersistedRecord) (flash : Flash) (slot : Slot) (pending : U8) :
    TransactRun flash candidate
      (physicalTransactCommit previousRecord expectedIdentity candidate ⟨flash, slot, pending⟩).1
      (physicalTransactCommit previousRecord expectedIdentity candidate ⟨flash, slot, pending⟩).2.context := by
  rcases admitted : admitTransaction previousRecord expectedIdentity candidate with _ | rejection
  · have valid := admitTransaction_valid admitted
    have write := writeCandidate_run candidate flash slot pending
    rw [physicalTransactCommit_run admitted]
    rcases continueStage_cases .write (physicalBackendWriteCandidate flashMedia candidate ⟨flash, slot, pending⟩) _ with
      ⟨success, next⟩ | ⟨failed, reached, report⟩
    · obtain ⟨target, selected, storable, staged⟩ := write.ok success
      have verify := verifyCandidate_run candidate (flash.staged target candidate physicalCommitOffset 4) target
      have commit := commitCandidate_run candidate (flash.staged target candidate physicalCommitOffset 5) target
      rw [next, staged]
      rcases continueStage_cases .verify (physicalBackendVerifyCandidate flashMedia candidate
        ⟨flash.staged target candidate physicalCommitOffset 4, target, 1⟩) _ with
        ⟨success, next⟩ | ⟨failed, reached, report⟩
      · rw [next, verify]
        rcases continueStage_cases .commit (physicalBackendCommitCandidate flashMedia candidate
          ⟨flash.staged target candidate physicalCommitOffset 5, target, 1⟩) _ with
          ⟨success, next⟩ | ⟨failed, reached, report⟩
        · refine (congrArg (fun run : TransactionRun => TransactRun flash candidate run.1 run.2.context) next).mpr ?_
          dsimp only
          rw [commit.ok success]
          exact .committed target 8 selected storable
        · have run := commit.failed selected storable failed _ report
          rwa [← reached] at run
      · rw [reached, congrArg Prod.snd verify]
        exact .staged _ target physicalCommitOffset 5 selected storable (Nat.le_refl _)
          fun value reported => (report value reported).1
    · rw [reached]
      exact write.failed failed _ fun value reported => (report value reported).1
  · have run : physicalTransactCommit previousRecord expectedIdentity candidate ⟨flash, slot, pending⟩ =
        (some rejection, ⟨flash, slot, pending⟩) := by
      rw [physicalTransactCommit, transactCommit, admitted]
      rfl
    rw [run]
    refine .untouched _ 0 fun report reported => ?_
    cases reported
    exact admitTransaction_refused admitted

/-- On a medium without failures the write callback stages every valid candidate that has a target. -/
theorem WriteRun.working {flash : Flash} {slot target : Slot} {candidate : PersistedRecord}
    {result : Option OperationResult} {reached : PhysicalBackend Flash}
    (run : WriteRun flash slot candidate result reached) (working : flash.Working) (valid : candidate.Valid)
    (selected : targetSlot (surveySlots flash.slots) candidate = .ok target) : result = some .ok :=
  run.succeeds ⟨working.report 0, working.report 1⟩ selected valid (working.report 2) (working.report 3)

theorem CommitRun.working {flash : Flash} {target : Slot} {candidate : PersistedRecord} {operations : Nat}
    {result : Option OperationResult} {reached : PhysicalBackend Flash} (working : flash.Working)
    (valid : candidate.Valid)
    (run : CommitRun (flash.staged target candidate physicalCommitOffset operations) target candidate result reached) :
    result = some .ok := by
  have staged := working.staged target candidate physicalCommitOffset operations
  cases run with
  | lostReading lost => rw [staged.report] at lost; cases lost
  | unverified read report failed =>
    rw [staged.report] at report
    cases report
    refine absurd (verifyResult_ok.mpr ⟨rfl, ?_⟩) failed
    rw [Flash.staged_slot]
    exact stagedCandidateMatches_body valid
  | markerStopped _ _ _ _ stopped => exact absurd (staged.report 1) stopped
  | marked =>
    have image : ((flash.staged target candidate physicalCommitOffset operations).marked target 4 3).slots target =
        programmedImage candidate physicalImageSize := by
      rw [Flash.staged_marked flash target candidate operations (Nat.le_refl 4), Flash.staged_slot]
      rfl
    have equal := (recordsEqual_iff valid.canonical valid).mpr candidate.canonical_canonical
    rw [staged.report, Option.map_some, image, committedMatches, observe_committed valid, equal]
    rfl

/-- On a medium without failures every admitted transaction whose candidate has a target commits. -/
theorem transactCommit_working {previousRecord : Option PersistedRecord} {expectedIdentity : FreshnessIdentity}
    {candidate : PersistedRecord} {flash : Flash} {target : Slot} (working : flash.Working)
    (admitted : admitTransaction previousRecord expectedIdentity candidate = none)
    (selected : targetSlot (surveySlots flash.slots) candidate = .ok target) (slot : Slot) (pending : U8) :
    (physicalTransactCommit previousRecord expectedIdentity candidate ⟨flash, slot, pending⟩).1 =
      some (.ok, .committed) := by
  have valid := admitTransaction_valid admitted
  have write := writeCandidate_run candidate flash slot pending
  have written := write.working working valid.valid selected
  obtain ⟨staged, -, -, reached⟩ := write.ok written
  have verify := verifyCandidate_run candidate (flash.staged staged candidate physicalCommitOffset 4) staged
  have commit := commitCandidate_run candidate (flash.staged staged candidate physicalCommitOffset 5) staged
  have committed := CommitRun.working working valid.valid commit
  have verified : (physicalBackendVerifyCandidate flashMedia candidate
      ⟨flash.staged staged candidate physicalCommitOffset 4, staged, 1⟩).1 = some .ok := by
    rw [verify, (working.staged staged candidate physicalCommitOffset 4).report, Flash.staged_slot]
    exact congrArg some (verifyResult_ok.mpr ⟨rfl, stagedCandidateMatches_body valid.valid⟩)
  rw [physicalTransactCommit_run admitted, continueStage_ok written, reached, continueStage_ok verified,
    congrArg Prod.snd verify]
  exact congrArg Prod.fst (continueStage_ok committed _)

end Guardian.NodeLink
