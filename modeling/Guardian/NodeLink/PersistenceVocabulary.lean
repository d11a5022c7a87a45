import Guardian.NodeLink.PersistenceRecovery

namespace Guardian.NodeLink

open Word Device

/-- Every result that a callback returns is one the transaction admits at its stage. -/
def Admits (stage : PersistenceStage) (returned : Option OperationResult) : Prop :=
  ∀ result, returned = some result → resultValidForStage stage result = true

/-- The state found on the medium has a place for the candidate, and neither the erase nor the program of its image
    is answered with MEDIA_INVALID. -/
structure Flash.Accepts (flash : Flash) (candidate : PersistedRecord) : Prop where
  first : (surveySlots flash.slots).status = .noPersistedState → candidate.recordGeneration = 0
  next : (surveySlots flash.slots).status = .validPersistedState →
    transitionIsAdjacent (surveySlots flash.slots).record candidate = true
  writes : (surveySlots flash.slots).status = .noPersistedState ∨
      (surveySlots flash.slots).status = .validPersistedState →
    candidate.Valid ∧ flash.report 2 ≠ some .invalid ∧ (flash.report 2 = some .ok → flash.report 3 ≠ some .invalid)

theorem surveySlots_operation (slots : Slot → Image) : (surveySlots slots).operation = .ok ∨
    (surveySlots slots).operation = .stateUncertain ∧ (surveySlots slots).status = .unavailableState := by
  have resolved := resolveSlots_resolved (observeImage (slots .a).1) (observeImage (slots .b).1)
  unfold surveySlots
  generalize resolveSlots (.ok, observeImage (slots .a).1) (.ok, observeImage (slots .b).1) = recovery at resolved ⊢
  cases resolved with
  | vacant | left | right | damaged => exact Or.inl rfl
  | uncertain => exact Or.inr ⟨rfl, rfl⟩

theorem targetSlot_rejected {slots : Slot → Image} {candidate : PersistedRecord} {rejection : OperationResult}
    (rejected : targetSlot (surveySlots slots) candidate = .error rejection) :
    (rejection = .stateUncertain ∧ (surveySlots slots).status ≠ .noPersistedState ∧
        (surveySlots slots).status ≠ .validPersistedState) ∨
      ((rejection = .verifyFailure ∨ rejection = .generationExhausted) ∧
        ((surveySlots slots).status = .noPersistedState ∧ candidate.recordGeneration ≠ 0 ∨
          (surveySlots slots).status = .validPersistedState ∧
            transitionIsAdjacent (surveySlots slots).record candidate ≠ true)) := by
  unfold targetSlot at rejected
  rcases surveySlots_operation slots with done | ⟨uncertain, status⟩
  · rw [if_neg (not_not.mpr done)] at rejected
    cases status : (surveySlots slots).status <;> simp only [status] at rejected
    case noPersistedState =>
      split_ifs at rejected with generation
      cases rejected
      exact Or.inr ⟨Or.inl rfl, Or.inl ⟨rfl, generation⟩⟩
    case validPersistedState =>
      split_ifs at rejected with exhausted adjacent
      · cases rejected
        exact Or.inr ⟨Or.inr rfl, Or.inr ⟨rfl, fun adjacent => (transitionIsAdjacent_iff.mp adjacent).2.2.1 exhausted⟩⟩
      · cases rejected
        exact Or.inr ⟨Or.inl rfl, Or.inr ⟨rfl, by simpa using adjacent⟩⟩
    all_goals
      cases rejected
      exact Or.inl ⟨rfl, by decide, by decide⟩
  · rw [if_pos (by rw [uncertain]; decide)] at rejected
    cases rejected
    exact Or.inl ⟨uncertain, by rw [status]; decide, by rw [status]; decide⟩

/-- A medium that has a target for a candidate found no state or a valid record, and the candidate goes on from it. -/
theorem targetSlot_accepted {slots : Slot → Image} {candidate : PersistedRecord} {target : Slot}
    (selected : targetSlot (surveySlots slots) candidate = .ok target) :
    (surveySlots slots).status = .noPersistedState ∧ candidate.recordGeneration = 0 ∨
      (surveySlots slots).status = .validPersistedState ∧
        transitionIsAdjacent (surveySlots slots).record candidate = true := by
  rcases targetSlot_selected selected with ⟨a, b, generation, -⟩ | ⟨record, holds, adjacent⟩
  · rw [surveySlots_vacant a b]
    exact Or.inl ⟨rfl, generation⟩
  · obtain ⟨diagnostic, survey⟩ := holds.survey
    rw [survey]
    exact Or.inr ⟨rfl, adjacent⟩

theorem recover_admitted {backend reached : PhysicalBackend Flash} {recovery : Recovery}
    (run : RecoverRun backend (some recovery) reached) : resultValidForStage .write recovery.operation = true := by
  cases run with
  | unread _ _ operation => rcases operation with operation | operation <;> rw [operation] <;> decide
  | surveyed =>
    rcases surveySlots_operation backend.context.slots with done | ⟨uncertain, -⟩
    · rw [done]
      decide
    · rw [uncertain]
      decide

theorem mediaResult_admitted (stage : PersistenceStage) {result : MediaResult} (named : result ≠ .invalid) :
    resultValidForStage stage (mediaResultToOperation result) = true := by
  cases result <;> cases stage <;> first | rfl | exact absurd rfl named

theorem mediaResult_unnamed (stage : PersistenceStage) :
    resultValidForStage stage (mediaResultToOperation .invalid) = false := by
  cases stage <;> rfl

theorem Flash.accepts_of_selected {flash : Flash} {candidate : PersistedRecord} {target : Slot}
    (selected : targetSlot (surveySlots flash.slots) candidate = .ok target) (valid : candidate.Valid)
    (erase : flash.report 2 ≠ some .invalid) (program : flash.report 2 = some .ok → flash.report 3 ≠ some .invalid) :
    flash.Accepts candidate := by
  rcases targetSlot_accepted selected with ⟨status, generation⟩ | ⟨status, adjacent⟩
  · exact ⟨fun _ => generation, fun other => absurd (status.symm.trans other) (by decide), fun _ => ⟨valid, erase, program⟩⟩
  · exact ⟨fun other => absurd (status.symm.trans other) (by decide), fun _ => adjacent, fun _ => ⟨valid, erase, program⟩⟩

theorem Flash.Accepts.written {flash : Flash} {candidate : PersistedRecord} {target : Slot}
    (accepts : flash.Accepts candidate) (selected : targetSlot (surveySlots flash.slots) candidate = .ok target) :
    candidate.Valid ∧ flash.report 2 ≠ some .invalid ∧ (flash.report 2 = some .ok → flash.report 3 ≠ some .invalid) :=
  accepts.writes ((targetSlot_accepted selected).imp And.left And.left)

/-- The write callback returns a result that the transaction admits unless the medium does not accept the candidate. -/
theorem WriteRun.admitted_iff {flash : Flash} {slot : Slot} {candidate : PersistedRecord}
    {returned : Option OperationResult} {reached : PhysicalBackend Flash}
    (run : WriteRun flash slot candidate returned reached) :
    Admits .write returned ↔ (flash.ReadsComplete → flash.Accepts candidate) := by
  cases run with
  | lostReading _ _ broken =>
    exact ⟨fun _ complete => absurd complete broken, fun _ _ impossible => by cases impossible⟩
  | unread _ broken unavailable =>
    refine ⟨fun _ complete => absurd complete broken, fun _ result returned => ?_⟩
    cases returned
    rcases unavailable with unavailable | unavailable <;> rw [unavailable] <;> decide
  | rejected rejection complete rejected =>
    rcases targetSlot_rejected rejected with ⟨uncertain, noState, noRecord⟩ | ⟨refused, place⟩
    · constructor
      · exact fun _ _ => ⟨fun status => absurd status noState, fun status => absurd status noRecord, fun status =>
          status.elim (fun status => absurd status noState) (fun status => absurd status noRecord)⟩
      · intro _ result returned
        cases returned
        rw [uncertain]
        decide
    · constructor
      · intro admitted
        have admitted := admitted _ rfl
        rcases refused with refused | refused <;> rw [refused] at admitted <;> cases admitted
      · intro accepts
        rcases place with ⟨status, generation⟩ | ⟨status, adjacent⟩
        · exact absurd ((accepts complete).first status) generation
        · exact absurd ((accepts complete).next status) adjacent
  | unbuildable target complete selected invalid =>
    constructor
    · intro admitted
      have admitted := admitted _ rfl
      cases admitted
    · exact fun accepts => absurd ((accepts complete).written selected).1 invalid
  | eraseStopped target reached complete selected valid stopped =>
    constructor
    · intro admitted _
      refine Flash.accepts_of_selected selected valid (fun unnamed => ?_) (fun completed => absurd completed stopped)
      rw [unnamed] at admitted
      exact absurd (admitted _ rfl) (by rw [mediaResult_unnamed]; decide)
    · intro accepts result returned
      obtain ⟨report, reported, rfl⟩ := Option.map_eq_some_iff.mp returned
      refine mediaResult_admitted .write fun unnamed => ?_
      rw [unnamed] at reported
      exact ((accepts complete).written selected).2.1 reported
  | programStopped target count complete selected valid erased stopped =>
    constructor
    · intro admitted _
      refine Flash.accepts_of_selected selected valid (by rw [erased]; decide) (fun _ unnamed => ?_)
      rw [unnamed] at admitted
      exact absurd (admitted _ rfl) (by rw [mediaResult_unnamed]; decide)
    · intro accepts result returned
      obtain ⟨report, reported, rfl⟩ := Option.map_eq_some_iff.mp returned
      refine mediaResult_admitted .write fun unnamed => ?_
      rw [unnamed] at reported
      exact ((accepts complete).written selected).2.2 erased reported
  | written target complete selected valid erased programmed =>
    constructor
    · exact fun _ _ => Flash.accepts_of_selected selected valid (by rw [erased]; decide) (fun _ => by rw [programmed]; decide)
    · intro _ result returned
      cases returned
      rfl

theorem verify_admitted_iff (flash : Flash) (slot : Slot) (pending : U8) (candidate : PersistedRecord) :
    Admits .verify (physicalBackendVerifyCandidate flashMedia candidate ⟨flash, slot, pending⟩).1 ↔
      (pending = 1 → flash.report 0 ≠ some .invalid) := by
  by_cases idle : pending = 1
  · subst idle
    rw [verifyCandidate_run]
    dsimp only
    rcases report : flash.report 0 with _ | read
    · exact ⟨fun _ _ => by decide, fun _ _ impossible => by cases impossible⟩
    · constructor
      · rintro admitted - unnamed
        cases unnamed
        exact absurd (admitted _ rfl) (by rw [verifyResult, if_pos (by decide), mediaResult_unnamed]; decide)
      · intro named result returned
        cases returned
        by_cases success : read = .ok
        · rw [verifyResult, if_neg (not_not.mpr success)]
          split_ifs <;> rfl
        · rw [verifyResult, if_pos success]
          exact mediaResult_admitted .verify fun unnamed => named rfl (by rw [unnamed])
  · rw [verifyCandidate_idle candidate idle]
    refine ⟨fun _ busy => absurd busy idle, fun _ result returned => ?_⟩
    cases returned
    rfl

theorem CommitRun.admitted_iff {flash : Flash} {slot : Slot} {candidate : PersistedRecord}
    {returned : Option OperationResult} {reached : PhysicalBackend Flash}
    (run : CommitRun flash slot candidate returned reached) :
    Admits .commit returned ↔ ∀ read, flash.report 0 = some read →
      read = .ok ∧ stagedCandidateMatches (flash.slots slot).1 candidate = true := by
  cases run with
  | lostReading lost =>
    rw [lost]
    exact ⟨fun _ _ impossible => (by cases impossible), fun _ _ impossible => (by cases impossible)⟩
  | unverified read report failed =>
    constructor
    · intro admitted
      have admitted := admitted _ rfl
      cases admitted
    · exact fun verified => absurd (verifyResult_ok.mpr (verified read report)) failed
  | markerStopped count pending report verified =>
    constructor
    · intro _ read reported
      cases report.symm.trans reported
      exact ⟨rfl, verified⟩
    · intro _ result returned
      obtain ⟨-, -, rfl⟩ := Option.map_eq_some_iff.mp returned
      rfl
  | marked pending report verified =>
    constructor
    · intro _ read reported
      cases report.symm.trans reported
      exact ⟨rfl, verified⟩
    · intro _ result returned
      obtain ⟨-, -, rfl⟩ := Option.map_eq_some_iff.mp returned
      split_ifs <;> rfl

theorem commit_admitted_iff (flash : Flash) (slot : Slot) (pending : U8) (candidate : PersistedRecord) :
    Admits .commit (physicalBackendCommitCandidate flashMedia candidate ⟨flash, slot, pending⟩).1 ↔
      (pending = 1 → ∀ read, flash.report 0 = some read →
        read = .ok ∧ stagedCandidateMatches (flash.slots slot).1 candidate = true) := by
  by_cases idle : pending = 1
  · subst idle
    rw [(commitCandidate_run candidate flash slot).admitted_iff]
    exact ⟨fun verified _ => verified, fun verified => verified rfl⟩
  · have run : physicalBackendCommitCandidate flashMedia candidate ⟨flash, slot, pending⟩ =
        (some .commitFailure, ⟨flash, slot, pending⟩) := by
      rw [physicalBackendCommitCandidate, Dev.get_bind]
      exact congrFun (if_pos idle) _
    rw [run]
    refine ⟨fun _ busy => absurd busy idle, fun _ result returned => ?_⟩
    cases returned
    rfl

/-- The media with the power lost at the first erase or program. A callback that returns on them has only read. -/
def PersistenceMedia.unwritten {σ : Type} (media : PersistenceMedia σ) : PersistenceMedia σ :=
  { media with
    erase := fun _ state => (none, state)
    program := fun _ _ _ state => (none, state) }

/-- The callback of a stage of the transaction, reached after the stages before it succeeded, rejects the candidate
    without an erase or a program of its own. -/
inductive UntouchedRejection (candidate : PersistedRecord) (backend : PhysicalBackend Flash) :
    PersistenceStage → OperationResult → Prop
  | write (rejection : OperationResult) (failed : rejection ≠ .ok)
      (returned : (physicalBackendWriteCandidate flashMedia.unwritten candidate backend).1 = some rejection) :
      UntouchedRejection candidate backend .write rejection
  | verify (rejection : OperationResult) (staged : PhysicalBackend Flash) (failed : rejection ≠ .ok)
      (written : physicalBackendWriteCandidate flashMedia candidate backend = (some .ok, staged))
      (returned : (physicalBackendVerifyCandidate flashMedia.unwritten candidate staged).1 = some rejection) :
      UntouchedRejection candidate backend .verify rejection
  | commit (rejection : OperationResult) (staged verified : PhysicalBackend Flash) (failed : rejection ≠ .ok)
      (written : physicalBackendWriteCandidate flashMedia candidate backend = (some .ok, staged))
      (matched : physicalBackendVerifyCandidate flashMedia candidate staged = (some .ok, verified))
      (returned : (physicalBackendCommitCandidate flashMedia.unwritten candidate verified).1 = some rejection) :
      UntouchedRejection candidate backend .commit rejection

/-- A medium whose two slots can be read has a place for the candidate, and the reads that verify the staged image
    before its marker are not answered so that a callback rejects it with a result that its stage does not admit. -/
structure Flash.Carries (flash : Flash) (candidate : PersistedRecord) : Prop where
  place : flash.ReadsComplete →
    (surveySlots flash.slots).status = .noPersistedState ∧ candidate.recordGeneration = 0 ∨
      (surveySlots flash.slots).status = .validPersistedState ∧
        transitionIsAdjacent (surveySlots flash.slots).record candidate = true
  verified : flash.ReadsComplete → flash.report 2 = some .ok → flash.report 3 = some .ok →
    flash.report 4 ≠ some .invalid
  committed : flash.ReadsComplete → flash.report 2 = some .ok → flash.report 3 = some .ok →
    flash.report 4 = some .ok → ∀ read, flash.report 5 = some read → read = .ok

theorem mediaResult_unavailable {read : MediaResult} (failed : read ≠ .ok) (named : read ≠ .invalid) :
    mediaResultToOperation read = .unavailable ∨ mediaResultToOperation read = .ioFailure := by
  cases read with
  | invalid => exact absurd rfl named
  | ok => exact absurd rfl failed
  | unavailable => exact Or.inl rfl
  | ioFailure => exact Or.inr rfl

theorem stageImage_unwritten (target : Slot) (image : List U8) (backend : PhysicalBackend Flash) :
    (stageImage flashMedia.unwritten target image backend).1 = none := rfl

/-- The write callback returns without an erase where recovery ends and its outcome has no target for the candidate. -/
theorem writeCandidate_unwritten {candidate : PersistedRecord} (valid : candidate.Valid) (flash : Flash) (slot : Slot)
    (pending : U8) (result : OperationResult) :
    (physicalBackendWriteCandidate flashMedia.unwritten candidate ⟨flash, slot, pending⟩).1 = some result ↔
      ∃ recovery reached, recoverInternal flashMedia ⟨flash, slot, 0⟩ = (some recovery, reached) ∧
        targetSlot recovery candidate = .error result := by
  have reads : recoverInternal flashMedia.unwritten = recoverInternal flashMedia := rfl
  rw [physicalBackendWriteCandidate, Dev.modify_bind, reads]
  rcases recovered : recoverInternal flashMedia ⟨flash, slot, 0⟩ with ⟨_ | recovery, reached⟩
  · rw [Dev.bind_lost recovered]
    simp
  · rw [Dev.bind_value recovered]
    cases selected : targetSlot recovery candidate with
    | error rejection =>
      constructor
      · intro returned
        exact ⟨recovery, reached, rfl, by rw [selected, Dev.pure_value returned]⟩
      · rintro ⟨_, _, same, rejected⟩
        cases same
        cases selected.symm.trans rejected
        rfl
    | ok target =>
      constructor
      · intro returned
        rw [buildStagedImage_valid valid] at returned
        cases (stageImage_unwritten target _ _).symm.trans returned
      · rintro ⟨_, _, same, rejected⟩
        cases same
        cases selected.symm.trans rejected

theorem writeCandidate_rejected {flash : Flash} {slot : Slot} {pending : U8} {candidate : PersistedRecord}
    {recovery : Recovery} {reached : PhysicalBackend Flash} {rejection : OperationResult}
    (recovered : recoverInternal flashMedia ⟨flash, slot, 0⟩ = (some recovery, reached))
    (rejected : targetSlot recovery candidate = .error rejection) :
    (physicalBackendWriteCandidate flashMedia candidate ⟨flash, slot, pending⟩).1 = some rejection := by
  rw [physicalBackendWriteCandidate, Dev.modify_bind, Dev.bind_value recovered, rejected]
  rfl

theorem recoverInternal_complete {flash : Flash} (complete : flash.ReadsComplete) (slot : Slot) :
    ∃ reached, recoverInternal flashMedia ⟨flash, slot, 0⟩ = (some (surveySlots flash.slots), reached) := by
  have run := recoverInternal_run ⟨flash, slot, 0⟩
  rcases recovered : recoverInternal flashMedia ⟨flash, slot, 0⟩ with ⟨returned, reached⟩
  rw [recovered] at run
  cases run with
  | lost _ _ broken => exact absurd complete broken
  | unread _ broken => exact absurd complete broken
  | surveyed => exact ⟨_, rfl⟩

theorem commitCandidate_unwritten (candidate : PersistedRecord) (flash : Flash) (slot : Slot)
    (result : OperationResult) :
    (physicalBackendCommitCandidate flashMedia.unwritten candidate ⟨flash, slot, 1⟩).1 = some result ↔
      ∃ read, flash.report 0 = some read ∧ verifyResult (flash.slots slot) candidate read ≠ .ok ∧
        result = .verifyFailure := by
  have verify := verifyCandidate_run candidate flash slot
  have reads : physicalBackendVerifyCandidate flashMedia.unwritten candidate =
    physicalBackendVerifyCandidate flashMedia candidate := rfl
  rw [physicalBackendCommitCandidate, Dev.get_bind, if_neg (by simp), reads]
  rcases report : flash.report 0 with _ | read <;> rw [report] at verify
  · rw [Dev.bind_lost verify]
    simp
  · rw [Dev.bind_value verify]
    by_cases failed : verifyResult (flash.slots slot) candidate read ≠ .ok
    · rw [if_pos failed]
      constructor
      · intro returned
        exact ⟨read, rfl, failed, (Option.some.inj returned).symm⟩
      · rintro ⟨_, _, _, rfl⟩
        rfl
    · rw [if_neg failed]
      constructor
      · intro returned
        cases returned
      · rintro ⟨_, same, rejected, _⟩
        cases same
        exact absurd rejected failed

theorem commitCandidate_unverified {candidate : PersistedRecord} {flash : Flash} {slot : Slot} {read : MediaResult}
    (report : flash.report 0 = some read) (failed : verifyResult (flash.slots slot) candidate read ≠ .ok) :
    (physicalBackendCommitCandidate flashMedia candidate ⟨flash, slot, 1⟩).1 = some .verifyFailure := by
  have verify := verifyCandidate_run candidate flash slot
  rw [report] at verify
  rw [physicalBackendCommitCandidate, Dev.get_bind, if_neg (by simp), Dev.bind_value verify, if_pos failed]
  rfl

/-- The verify callback after a write reads the image that the write staged. -/
theorem verifyCandidate_staged (flash : Flash) (target : Slot) {candidate : PersistedRecord} (valid : candidate.Valid) :
    physicalBackendVerifyCandidate flashMedia candidate
        ⟨flash.staged target candidate physicalCommitOffset 4, target, 1⟩ =
      ((flash.report 4).map mediaResultToOperation,
        ⟨flash.staged target candidate physicalCommitOffset 5, target, 1⟩) := by
  rw [verifyCandidate_run, Flash.staged_slot]
  refine Prod.ext (congrArg (Option.map · (flash.report 4)) (funext fun read => ?_)) rfl
  rw [verifyResult, stagedCandidateMatches_body valid]
  cases read <;> rfl

theorem commit_staged_iff (flash : Flash) (target : Slot) {candidate : PersistedRecord} (valid : candidate.Valid)
    (result : OperationResult) :
    (physicalBackendCommitCandidate flashMedia.unwritten candidate
        ⟨flash.staged target candidate physicalCommitOffset 5, target, 1⟩).1 = some result ↔
      ∃ read, flash.report 5 = some read ∧ read ≠ .ok ∧ result = .verifyFailure := by
  have matched (read : MediaResult) :
      verifyResult ((flash.staged target candidate physicalCommitOffset 5).slots target) candidate read ≠ .ok ↔
        read ≠ .ok := by
    rw [Flash.staged_slot, ne_eq, verifyResult_ok, and_iff_left (stagedCandidateMatches_body valid)]
  rw [commitCandidate_unwritten]
  exact exists_congr fun read => and_congr_right fun _ => and_congr_left' (matched read)

/-- The transaction ends at the stage whose callback rejects the candidate and reports what it makes of the rejection. -/
theorem UntouchedRejection.reported {previousRecord : Option PersistedRecord} {expectedIdentity : FreshnessIdentity}
    {candidate : PersistedRecord} {flash : Flash} {slot : Slot} {pending : U8} {stage : PersistenceStage}
    {rejection : OperationResult} (untouched : UntouchedRejection candidate ⟨flash, slot, pending⟩ stage rejection)
    (admitted : admitTransaction previousRecord expectedIdentity candidate = none) :
    (physicalTransactCommit previousRecord expectedIdentity candidate ⟨flash, slot, pending⟩).1 =
      some (handleStageResult stage rejection .invalid) := by
  rw [physicalTransactCommit_run admitted]
  cases untouched with
  | write _ failed returned =>
    obtain ⟨recovery, reached, recovered, rejected⟩ :=
      (writeCandidate_unwritten (admitTransaction_valid admitted).valid flash slot pending rejection).mp returned
    exact continueStage_rejected (writeCandidate_rejected recovered rejected) failed _
  | verify _ staged failed written returned =>
    rw [written, continueStage_ok rfl]
    exact continueStage_rejected returned failed _
  | commit _ staged verified failed written matched returned =>
    rw [written, continueStage_ok rfl, matched, continueStage_ok rfl]
    refine continueStage_rejected ?_ failed _
    obtain ⟨target, -, valid, reached⟩ := (writeCandidate_run candidate flash slot pending).ok (congrArg Prod.fst written)
    rw [written] at reached
    obtain rfl : staged = _ := reached
    rw [verifyCandidate_staged flash target valid] at matched
    obtain rfl : _ = verified := congrArg Prod.snd matched
    obtain ⟨read, report, rejected, rfl⟩ := (commitCandidate_unwritten candidate _ target rejection).mp returned
    exact commitCandidate_unverified report rejected

theorem targetSlot_placed {slots : Slot → Image} {candidate : PersistedRecord}
    (placed : (surveySlots slots).status = .noPersistedState ∧ candidate.recordGeneration = 0 ∨
      (surveySlots slots).status = .validPersistedState ∧
        transitionIsAdjacent (surveySlots slots).record candidate = true) :
    ∃ target, targetSlot (surveySlots slots) candidate = .ok target := by
  cases selected : targetSlot (surveySlots slots) candidate with
  | ok target => exact ⟨target, rfl⟩
  | error rejection =>
    exfalso
    rcases targetSlot_rejected selected with ⟨-, noState, noRecord⟩ | ⟨-, ⟨status, generation⟩ | ⟨status, adjacent⟩⟩ <;>
      rcases placed with placed | placed <;> simp_all

/-- Where the medium carries the candidate, the reads alone make a callback reject it. -/
theorem UntouchedRejection.unavailable {candidate : PersistedRecord} {flash : Flash} {slot : Slot} {pending : U8}
    {stage : PersistenceStage} {rejection : OperationResult} (valid : candidate.Valid)
    (untouched : UntouchedRejection candidate ⟨flash, slot, pending⟩ stage rejection)
    (carries : flash.Carries candidate) :
    rejection = .unavailable ∨ rejection = .ioFailure := by
  cases untouched with
  | write _ failed returned =>
    obtain ⟨recovery, reached, recovered, rejected⟩ :=
      (writeCandidate_unwritten valid flash slot pending rejection).mp returned
    have run := recoverInternal_run ⟨flash, slot, 0⟩
    rw [recovered] at run
    cases run with
    | unread _ _ operation status =>
      have stopped : targetSlot recovery candidate = .error recovery.operation :=
        if_pos (by rcases operation with operation | operation <;> rw [operation] <;> decide)
      cases stopped.symm.trans rejected
      exact operation
    | surveyed complete =>
      obtain ⟨target, selected⟩ := targetSlot_placed (carries.place complete)
      cases selected.symm.trans rejected
  | verify _ staged failed written returned =>
    have run := writeCandidate_run candidate flash slot pending
    rw [written] at run
    obtain ⟨target, complete, -, -, erased, programmed, rfl⟩ := run.completed rfl
    have verified := congrArg Prod.fst (verifyCandidate_staged flash target valid)
    obtain ⟨read, report, rfl⟩ := Option.map_eq_some_iff.mp (verified.symm.trans returned)
    exact mediaResult_unavailable (fun success => failed (mediaResultToOperation_ok.mpr success)) fun unnamed =>
      carries.verified complete erased programmed (unnamed ▸ report)
  | commit _ staged verified failed written matched returned =>
    have run := writeCandidate_run candidate flash slot pending
    rw [written] at run
    obtain ⟨target, complete, -, -, erased, programmed, rfl⟩ := run.completed rfl
    rw [verifyCandidate_staged flash target valid, Prod.mk.injEq] at matched
    obtain ⟨verify, success, converted⟩ := Option.map_eq_some_iff.mp matched.1
    obtain rfl := mediaResultToOperation_ok.mp converted
    obtain rfl := matched.2
    obtain ⟨read, report, refused, -⟩ := (commit_staged_iff flash target valid rejection).mp returned
    exact absurd (carries.committed complete erased programmed success read report) refused

theorem Flash.carries_of_named {candidate : PersistedRecord} {flash : Flash} {slot : Slot} {pending : U8}
    (valid : candidate.Valid)
    (named : ∀ stage rejection, UntouchedRejection candidate ⟨flash, slot, pending⟩ stage rejection →
      resultValidForStage stage rejection = true ∧ rejection ≠ .stateUncertain) : flash.Carries candidate := by
  have place (complete : flash.ReadsComplete) :
      ∃ target, targetSlot (surveySlots flash.slots) candidate = .ok target := by
    cases selected : targetSlot (surveySlots flash.slots) candidate with
    | ok target => exact ⟨target, rfl⟩
    | error rejection =>
      obtain ⟨reached, recovered⟩ := recoverInternal_complete complete slot
      have returned := (writeCandidate_unwritten valid flash slot pending rejection).mpr ⟨_, _, recovered, selected⟩
      obtain ⟨admitted, certain⟩ := named .write rejection (.write rejection (targetSlot_error selected) returned)
      rcases targetSlot_rejected selected with ⟨uncertain, -⟩ | ⟨rfl | rfl, -⟩
      · exact absurd uncertain certain
      · cases admitted
      · cases admitted
  have staged (complete : flash.ReadsComplete) (erased : flash.report 2 = some .ok)
      (programmed : flash.report 3 = some .ok) :
      ∃ target, physicalBackendWriteCandidate flashMedia candidate ⟨flash, slot, pending⟩ =
        (some .ok, ⟨flash.staged target candidate physicalCommitOffset 4, target, 1⟩) := by
    have run := writeCandidate_run candidate flash slot pending
    obtain ⟨target, selected⟩ := place complete
    have success := run.succeeds complete selected valid erased programmed
    obtain ⟨target, -, -, reached⟩ := run.ok success
    exact ⟨target, Prod.ext success reached⟩
  refine ⟨fun complete => (place complete).elim fun _ => targetSlot_accepted,
    fun complete erased programmed unnamed => ?_,
    fun complete erased programmed verified read report => by_contra fun failed => ?_⟩
  · obtain ⟨target, written⟩ := staged complete erased programmed
    have verify := congrArg Prod.fst (verifyCandidate_staged flash target valid)
    rw [unnamed] at verify
    cases (named .verify .invalid (.verify .invalid _ (by decide) written verify)).1
  · obtain ⟨target, written⟩ := staged complete erased programmed
    have verify := verifyCandidate_staged flash target valid
    rw [verified] at verify
    have returned := (commit_staged_iff flash target valid .verifyFailure).mpr ⟨read, report, failed, rfl⟩
    cases (named .commit .verifyFailure (.commit .verifyFailure _ _ (by decide) written verify returned)).1

theorem handleStageResult_named {stage : PersistenceStage} {result : OperationResult} :
    (handleStageResult stage result .invalid).1 ≠ .invalid ∧
        (handleStageResult stage result .invalid).2 ≠ .stateUncertain ↔
      resultValidForStage stage result = true ∧ result ≠ .stateUncertain := by
  cases stage <;> cases result <;> decide

theorem unavailable_named (stage : PersistenceStage) {result : OperationResult}
    (unavailable : result = .unavailable ∨ result = .ioFailure) :
    resultValidForStage stage result = true ∧ result ≠ .stateUncertain := by
  rcases unavailable with rfl | rfl <;> cases stage <;> decide

/-- The callbacks and the transaction agree on their results exactly where the medium accepts the candidate, no read
    of a pending candidate is answered with MEDIA_INVALID, and a candidate about to be committed reads back. No
    rejection made without an erase or a program is reported as an invalid result or as an uncertain state exactly
    where the medium carries the candidate. -/
theorem vocabulary_agreement (flash : Flash) (slot : Slot) (pending : U8) (candidate : PersistedRecord) :
    (∀ recovery, (physicalBackendRecover flashMedia ⟨flash, slot, pending⟩).1 = some recovery →
        resultValidForStage .write recovery.operation = true) ∧
      (Admits .write (physicalBackendWriteCandidate flashMedia candidate ⟨flash, slot, pending⟩).1 ↔
        (flash.ReadsComplete → flash.Accepts candidate)) ∧
      (Admits .verify (physicalBackendVerifyCandidate flashMedia candidate ⟨flash, slot, pending⟩).1 ↔
        (pending = 1 → flash.report 0 ≠ some .invalid)) ∧
      (Admits .commit (physicalBackendCommitCandidate flashMedia candidate ⟨flash, slot, pending⟩).1 ↔
        (pending = 1 → ∀ read, flash.report 0 = some read →
          read = .ok ∧ stagedCandidateMatches (flash.slots slot).1 candidate = true)) ∧
      ∀ previousRecord expectedIdentity, admitTransaction previousRecord expectedIdentity candidate = none →
        ((∀ stage rejection report, UntouchedRejection candidate ⟨flash, slot, pending⟩ stage rejection →
            (physicalTransactCommit previousRecord expectedIdentity candidate ⟨flash, slot, pending⟩).1 = some report →
            report.1 ≠ .invalid ∧ report.2 ≠ .stateUncertain) ↔
          flash.Carries candidate) := by
  have write := writeCandidate_run candidate flash slot pending
  refine ⟨fun recovery run => ?_, write.admitted_iff, verify_admitted_iff flash slot pending candidate,
    commit_admitted_iff flash slot pending candidate, fun previousRecord expectedIdentity admitted => ?_⟩
  · have recover := recoverInternal_run ⟨flash, slot, pending⟩
    rw [physicalBackendRecover] at run
    rw [run] at recover
    exact recover_admitted recover
  · have valid := (admitTransaction_valid admitted).valid
    constructor
    · intro reported
      exact Flash.carries_of_named valid fun stage rejection untouched =>
        handleStageResult_named.mp (reported stage rejection _ untouched (untouched.reported admitted))
    · intro carries stage rejection report untouched reported
      cases (untouched.reported admitted).symm.trans reported
      exact handleStageResult_named.mpr (unavailable_named stage (untouched.unavailable valid carries))

/-- The transaction accepts `continuationRecord` after `bootstrapRecord`, which the medium does not hold. -/
def unplacedCall : CommitCall := continuationCall fun _ => .none

/-- The backend rejects the candidate without touching the medium, with a result that the transaction does not admit
    at its stage, and the transaction reports an invalid result and an uncertain state. -/
theorem vocabulary_disagreement :
    (¬ ∀ (flash : Flash) (slot : Slot) (pending : U8) (candidate : PersistedRecord),
        Admits .write (physicalBackendWriteCandidate flashMedia candidate ⟨flash, slot, pending⟩).1) ∧
      (physicalBackendWriteCandidate flashMedia continuationRecord
        (physicalBackendInit (Flash.working Medium.blank.slots))).1 = some .verifyFailure ∧
      Medium.blank.report unplacedCall = some (.invalid, .stateUncertain) ∧
      Medium.blank.programmedBytes unplacedCall = 0 ∧
      ∀ slot, (Medium.blank.step unplacedCall).slots slot = erasedImage := by
  have rejected : (physicalBackendWriteCandidate flashMedia continuationRecord
      (physicalBackendInit (Flash.working Medium.blank.slots))).1 = some .verifyFailure := by decide +kernel
  refine ⟨fun claim => ?_, rejected, by decide +kernel, by decide +kernel, fun slot => ?_⟩
  · have admitted := claim (Flash.working Medium.blank.slots) .a 0 continuationRecord _ rejected
    cases admitted
  · cases slot <;> decide +kernel

end Guardian.NodeLink
