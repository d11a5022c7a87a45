import Guardian.NodeLink.PersistenceImage

namespace Guardian.NodeLink

open Word ByteString Device

def surveySlots (slots : Slot → Image) : Recovery :=
  resolveSlots (.ok, observeImage (slots .a).1) (.ok, observeImage (slots .b).1)

def Flash.Working (flash : Flash) : Prop := ∀ operation, flash.schedule operation = .none

def Flash.after (flash : Flash) (count : Nat) : Flash := { flash with operations := flash.operations + count }

/-- The report of the operation made after `count` others. -/
def Flash.report (flash : Flash) (count : Nat) : Option MediaResult := (flash.after count).fault.report

def Flash.ReadsComplete (flash : Flash) : Prop := flash.report 0 = some .ok ∧ flash.report 1 = some .ok

def Flash.scan (flash : Flash) (slot : Slot) : Option (OperationResult × SlotObservation) :=
  (flash.report 0).map fun result =>
    if result ≠ .ok then (mediaResultToOperation result, ⟨.ioFailure, zeroRecord⟩)
    else (.ok, observeImage (flash.slots slot).1)

theorem Flash.Working.report {flash : Flash} (working : flash.Working) (count : Nat) :
    flash.report count = some .ok := by
  rw [Flash.report, Flash.fault, Flash.after, working]
  rfl

theorem mediaResultToOperation_ok {result : MediaResult} : mediaResultToOperation result = .ok ↔ result = .ok := by
  cases result <;> decide

/-- The backend after it made `count` more media operations. -/
def PhysicalBackend.later (backend : PhysicalBackend Flash) (count : Nat) : PhysicalBackend Flash :=
  { backend with context := backend.context.after count }

theorem read_run (slot : Slot) (backend : PhysicalBackend Flash) :
    onMedia (flashMedia.read slot 0 physicalImageSize) backend =
      ((backend.context.report 0).map fun result =>
        (result, if result = .ok then (backend.context.slots slot).1 else []), backend.later 1) := by
  have image : slice 0 physicalImageSize (backend.context.slots slot).1 = (backend.context.slots slot).1 :=
    slice_all (backend.context.slots slot).2
  simp only [onMedia, Dev.zoom, flashMedia, image]
  rfl

theorem scanSlot_run (slot : Slot) (backend : PhysicalBackend Flash) :
    scanSlot flashMedia slot backend = (backend.context.scan slot, backend.later 1) := by
  have read := read_run slot backend
  rcases report : backend.context.report 0 with _ | result <;> rw [report] at read
  · rw [scanSlot, Dev.bind_lost read, Flash.scan, report]
    rfl
  · rw [scanSlot, Dev.bind_value read, Flash.scan, report]
    cases result <;> rfl

/-- Recovery reads both slots. It surveys them if both reads complete, and is unavailable otherwise. -/
inductive RecoverRun (backend : PhysicalBackend Flash) : Option Recovery → PhysicalBackend Flash → Prop
  | lost (count : Nat) (failure : ¬ backend.context.Working) (broken : ¬ backend.context.ReadsComplete) :
      RecoverRun backend none (backend.later count)
  | unread (recovery : Recovery) (broken : ¬ backend.context.ReadsComplete)
      (operation : recovery.operation = .unavailable ∨ recovery.operation = .ioFailure)
      (status : recovery.status = .unavailableState) : RecoverRun backend (some recovery) (backend.later 2)
  | surveyed (complete : backend.context.ReadsComplete) :
      RecoverRun backend (some (surveySlots backend.context.slots)) (backend.later 2)

theorem Flash.scan_complete {flash : Flash} {slot : Slot} (report : flash.report 0 = some .ok) :
    flash.scan slot = some (.ok, observeImage (flash.slots slot).1) := by
  rw [Flash.scan, report]
  rfl

theorem Flash.scan_failed {flash : Flash} {slot : Slot} {scanned : OperationResult × SlotObservation}
    (report : flash.report 0 ≠ some .ok) (run : flash.scan slot = some scanned) : scanned.1 ≠ .ok := by
  rw [Flash.scan] at run
  rcases reported : flash.report 0 with _ | result <;> rw [reported] at run report
  · cases run
  · cases result <;> simp_all [mediaResultToOperation] <;> rw [← run] <;> decide

theorem resolveSlots_unread {a b : OperationResult × SlotObservation} (unread : a.1 ≠ .ok ∨ b.1 ≠ .ok) :
    ((resolveSlots a b).operation = .unavailable ∨ (resolveSlots a b).operation = .ioFailure) ∧
      (resolveSlots a b).status = .unavailableState := by
  rw [resolveSlots, if_pos unread]
  split_ifs
  · exact ⟨Or.inl rfl, rfl⟩
  · exact ⟨Or.inr rfl, rfl⟩

theorem recoverInternal_run (backend : PhysicalBackend Flash) :
    RecoverRun backend (recoverInternal flashMedia backend).1 (recoverInternal flashMedia backend).2 := by
  have first := scanSlot_run .a backend
  have second := scanSlot_run .b (backend.later 1)
  have scanned : (backend.later 1).context.report 0 = backend.context.report 1 := rfl
  rcases a : backend.context.scan .a with _ | observedA <;> rw [a] at first
  · rw [recoverInternal, Dev.bind_lost first]
    have failed : backend.context.report 0 ≠ some .ok := fun report => by rw [Flash.scan_complete report] at a; cases a
    exact .lost 1 (fun working => failed (working.report 0)) (fun complete => failed complete.1)
  · rcases b : (backend.later 1).context.scan .b with _ | observedB <;> rw [b] at second
    · rw [recoverInternal, Dev.bind_value first, Dev.bind_lost second]
      have failed : backend.context.report 1 ≠ some .ok := fun report => by
        rw [Flash.scan_complete (scanned.trans report)] at b; cases b
      exact .lost 2 (fun working => failed (working.report 1)) (fun complete => failed complete.2)
    · rw [recoverInternal, Dev.bind_value first, Dev.bind_value second]
      by_cases complete : backend.context.ReadsComplete
      · rw [Flash.scan_complete complete.1] at a
        rw [Flash.scan_complete (scanned.trans complete.2)] at b
        cases a
        cases b
        exact .surveyed complete
      · have unread : observedA.1 ≠ .ok ∨ observedB.1 ≠ .ok := by
          by_cases firstRead : backend.context.report 0 = some .ok
          · exact Or.inr (Flash.scan_failed (fun report => complete ⟨firstRead, scanned.symm.trans report⟩) b)
          · exact Or.inl (Flash.scan_failed firstRead a)
        exact .unread _ complete (resolveSlots_unread unread).1 (resolveSlots_unread unread).2

/-- The flash after `operations` more media operations that erased `target` and programmed `count` bytes of the
    image of `record` into it. -/
def Flash.staged (flash : Flash) (target : Slot) (record : PersistedRecord) (count operations : Nat) : Flash where
  slots := Function.update flash.slots target (programmedImage record count)
  schedule := flash.schedule
  operations := flash.operations + operations
  programmed := flash.programmed + count

@[simp] theorem Flash.staged_slot (flash : Flash) (target : Slot) (record : PersistedRecord) (count operations : Nat) :
    (flash.staged target record count operations).slots target = programmedImage record count := Function.update_self ..

theorem Flash.Working.staged {flash : Flash} (working : flash.Working) (target : Slot) (record : PersistedRecord)
    (count operations : Nat) : (flash.staged target record count operations).Working := working

theorem erase_run (target : Slot) (record : PersistedRecord) (backend : PhysicalBackend Flash) :
    onMedia (flashMedia.erase target) backend = (backend.context.report 0, { backend with
      context := if backend.context.fault.reached 1 = 0 then backend.context.after 1
        else backend.context.staged target record 0 1 }) := by
  rw [Flash.staged, programmedImage_zero]
  rfl

theorem program_run (target slot : Slot) (record : PersistedRecord) (flash : Flash) (count operations offset : Nat)
    (pending : U8) (data : List U8) (image : ∀ more ≤ data.length,
      (programmedImage record count).program offset (data.take more) = programmedImage record (count + more)) :
    ∃ more ≤ data.length, (flash.report operations = some .ok → more = data.length) ∧
      onMedia (flashMedia.program target offset data) ⟨flash.staged target record count operations, slot, pending⟩ =
        (flash.report operations, ⟨flash.staged target record (count + more) (operations + 1), slot, pending⟩) := by
  have within := Fault.reached_le (flash.after operations).fault data.length
  refine ⟨(flash.after operations).fault.reached data.length, within, fun completed => Fault.reached_of_ok completed _, ?_⟩
  have stored : (flash.staged target record (count + (flash.after operations).fault.reached data.length)
      (operations + 1)).slots = Function.update (flash.staged target record count operations).slots target
        (((flash.staged target record count operations).slots target).program offset
          (data.take ((flash.after operations).fault.reached data.length))) := by
    simp only [Flash.staged, Function.update_self, Function.update_idem, image _ within]
  simp only [Flash.staged] at stored ⊢
  rw [stored]
  simp only [onMedia, Dev.zoom, flashMedia, Flash.store, Flash.next, Nat.add_assoc]
  rfl

inductive WriteRun (flash : Flash) (slot : Slot) (candidate : PersistedRecord) :
    Option OperationResult → PhysicalBackend Flash → Prop
  | lostReading (count : Nat) (failure : ¬ flash.Working) (broken : ¬ flash.ReadsComplete) :
      WriteRun flash slot candidate none ⟨flash.after count, slot, 0⟩
  | unread (operation : OperationResult) (broken : ¬ flash.ReadsComplete)
      (unavailable : operation = .unavailable ∨ operation = .ioFailure) :
      WriteRun flash slot candidate (some operation) ⟨flash.after 2, slot, 0⟩
  | rejected (rejection : OperationResult) (complete : flash.ReadsComplete)
      (target : targetSlot (surveySlots flash.slots) candidate = .error rejection) :
      WriteRun flash slot candidate (some rejection) ⟨flash.after 2, slot, 0⟩
  | unbuildable (target : Slot) (complete : flash.ReadsComplete)
      (selected : targetSlot (surveySlots flash.slots) candidate = .ok target) (invalid : ¬ candidate.Valid) :
      WriteRun flash slot candidate (some .verifyFailure) ⟨flash.after 2, slot, 0⟩
  | eraseStopped (target : Slot) (reached : Flash) (complete : flash.ReadsComplete)
      (selected : targetSlot (surveySlots flash.slots) candidate = .ok target) (valid : candidate.Valid)
      (stopped : flash.report 2 ≠ some .ok)
      (erased : reached = flash.after 3 ∨ reached = flash.staged target candidate 0 3) :
      WriteRun flash slot candidate ((flash.report 2).map mediaResultToOperation) ⟨reached, slot, 0⟩
  | programStopped (target : Slot) (count : Nat) (complete : flash.ReadsComplete)
      (selected : targetSlot (surveySlots flash.slots) candidate = .ok target) (valid : candidate.Valid)
      (erased : flash.report 2 = some .ok) (stopped : flash.report 3 ≠ some .ok)
      (within : count ≤ physicalCommitOffset) :
      WriteRun flash slot candidate ((flash.report 3).map mediaResultToOperation)
        ⟨flash.staged target candidate count 4, slot, 0⟩
  | written (target : Slot) (complete : flash.ReadsComplete)
      (selected : targetSlot (surveySlots flash.slots) candidate = .ok target) (valid : candidate.Valid)
      (erased : flash.report 2 = some .ok) (programmed : flash.report 3 = some .ok) :
      WriteRun flash slot candidate (some .ok)
        ⟨flash.staged target candidate physicalCommitOffset 4, target, 1⟩

theorem erase_stage_run (flash : Flash) (slot target : Slot) (candidate : PersistedRecord) :
    ∃ reached, onMedia (flashMedia.erase target) ⟨flash.after 2, slot, 0⟩ = (flash.report 2, ⟨reached, slot, 0⟩) ∧
      (reached = flash.after 3 ∨ reached = flash.staged target candidate 0 3) ∧
      (flash.report 2 = some .ok → reached = flash.staged target candidate 0 3) := by
  refine ⟨_, erase_run target candidate ⟨flash.after 2, slot, 0⟩, ?_, ?_⟩
  · split_ifs
    · exact Or.inl rfl
    · exact Or.inr rfl
  · intro completed
    exact if_neg (by rw [Fault.reached_of_ok completed]; decide)

theorem stageImage_run {flash : Flash} {slot target : Slot} {candidate : PersistedRecord}
    (complete : flash.ReadsComplete) (selected : targetSlot (surveySlots flash.slots) candidate = .ok target)
    (valid : candidate.Valid) :
    WriteRun flash slot candidate
      (stageImage flashMedia target (imageBody candidate ++ List.replicate 4 0xFF) ⟨flash.after 2, slot, 0⟩).1
      (stageImage flashMedia target (imageBody candidate ++ List.replicate 4 0xFF) ⟨flash.after 2, slot, 0⟩).2 := by
  have body := imageBody_length candidate
  obtain ⟨reached, erase, erased, done⟩ := erase_stage_run flash slot target candidate
  by_cases completed : flash.report 2 = some .ok
  · rw [completed] at erase
    rw [stageImage, Dev.bind_value erase, if_neg (by simp), List.take_left' body, done completed]
    obtain ⟨count, within, full, program⟩ := program_run target slot candidate flash 0 3 0 0 (imageBody candidate)
      (fun more within => by
        have image := program_body candidate (body ▸ within)
        rw [List.take_left' body] at image
        rw [programmedImage_zero, image, Nat.zero_add])
    rw [Nat.zero_add] at program
    rw [body] at within full
    rcases programmed : flash.report 3 with _ | result <;> rw [programmed] at program full
    · rw [Dev.bind_lost program]
      have run : WriteRun flash slot candidate _ _ :=
        .programStopped target count complete selected valid completed (by simp [programmed]) within
      rwa [programmed] at run
    · rw [Dev.bind_value program]
      by_cases success : result = .ok
      · subst success
        rw [full rfl]
        exact .written target complete selected valid completed programmed
      · rw [if_pos success]
        have run : WriteRun flash slot candidate _ _ :=
          .programStopped target count complete selected valid completed (by simp [programmed, success]) within
        rwa [programmed] at run
  · have run : WriteRun flash slot candidate _ _ :=
      .eraseStopped target reached complete selected valid completed erased
    rcases report : flash.report 2 with _ | result <;> rw [report] at erase run
    · rwa [stageImage, Dev.bind_lost erase]
    · rwa [stageImage, Dev.bind_value erase, if_pos (fun success => completed (by rw [report, success]))]

theorem writeCandidate_run (candidate : PersistedRecord) (flash : Flash) (slot : Slot) (pending : U8) :
    WriteRun flash slot candidate
      (physicalBackendWriteCandidate flashMedia candidate ⟨flash, slot, pending⟩).1
      (physicalBackendWriteCandidate flashMedia candidate ⟨flash, slot, pending⟩).2 := by
  have run := recoverInternal_run ⟨flash, slot, 0⟩
  rw [physicalBackendWriteCandidate, Dev.modify_bind]
  rcases recovered : recoverInternal flashMedia ⟨flash, slot, 0⟩ with ⟨result, reached⟩
  rw [recovered] at run
  cases run with
  | lost count failure broken =>
    rw [Dev.bind_lost recovered]
    exact .lostReading count failure broken
  | unread recovery broken operation status =>
    have rejection : targetSlot recovery candidate = .error recovery.operation :=
      if_pos (by rcases operation with operation | operation <;> rw [operation] <;> decide)
    rw [Dev.bind_value recovered, rejection]
    exact .unread recovery.operation broken operation
  | surveyed complete =>
    rw [Dev.bind_value recovered]
    rcases target : targetSlot (surveySlots flash.slots) candidate with rejection | target
    · exact .rejected rejection complete target
    · by_cases valid : candidate.Valid
      · rw [buildStagedImage_valid valid]
        exact stageImage_run complete target valid
      · rw [buildStagedImage_invalid valid]
        exact .unbuildable _ complete target valid

/-- The result of the verify callback after a read of `image`. -/
def verifyResult (image : Image) (candidate : PersistedRecord) (read : MediaResult) : OperationResult :=
  if read ≠ .ok then mediaResultToOperation read
  else if !stagedCandidateMatches image.1 candidate then .verifyFailure
  else .ok

theorem verifyResult_ok {image : Image} {candidate : PersistedRecord} {read : MediaResult} :
    verifyResult image candidate read = .ok ↔ read = .ok ∧ stagedCandidateMatches image.1 candidate = true := by
  rw [verifyResult]
  cases stagedCandidateMatches image.1 candidate <;> cases read <;> decide

theorem verifyCandidate_idle (candidate : PersistedRecord) {backend : PhysicalBackend Flash}
    (idle : backend.pendingValid ≠ 1) :
    physicalBackendVerifyCandidate flashMedia candidate backend = (some .verifyFailure, backend) := by
  rw [physicalBackendVerifyCandidate, Dev.get_bind]
  exact congrFun (if_pos idle) backend

theorem verifyCandidate_run (candidate : PersistedRecord) (flash : Flash) (slot : Slot) :
    physicalBackendVerifyCandidate flashMedia candidate ⟨flash, slot, 1⟩ =
      ((flash.report 0).map (verifyResult (flash.slots slot) candidate), ⟨flash.after 1, slot, 1⟩) := by
  have read := read_run slot ⟨flash, slot, 1⟩
  rw [physicalBackendVerifyCandidate, Dev.get_bind, if_neg (by simp)]
  change _ = ((flash.report 0).map _, _) at read
  rcases report : flash.report 0 with _ | result <;> rw [report] at read
  · exact Dev.bind_lost read
  · refine (Dev.bind_value read).trans ?_
    cases result <;> simp only [verifyResult, Option.map_some] <;> split_ifs <;> simp_all <;> rfl

def committedMatches (image : Image) (candidate : PersistedRecord) : Bool :=
  (observeImage image.1).state == .valid && recordsEqual (observeImage image.1).record candidate

/-- The flash after `operations` more media operations that programmed `count` bytes of the commit marker. -/
def Flash.marked (flash : Flash) (slot : Slot) (count operations : Nat) : Flash where
  slots := Function.update flash.slots slot
    ((flash.slots slot).program physicalCommitOffset (commitMarker.take count))
  schedule := flash.schedule
  operations := flash.operations + operations
  programmed := flash.programmed + count

/-- Every way the commit callback can end when a candidate is pending. -/
inductive CommitRun (flash : Flash) (slot : Slot) (candidate : PersistedRecord) :
    Option OperationResult → PhysicalBackend Flash → Prop
  | lostReading (lost : flash.report 0 = none) : CommitRun flash slot candidate none ⟨flash.after 1, slot, 1⟩
  | unverified (read : MediaResult) (report : flash.report 0 = some read)
      (failed : verifyResult (flash.slots slot) candidate read ≠ .ok) :
      CommitRun flash slot candidate (some .verifyFailure) ⟨flash.after 1, slot, 0⟩
  | markerStopped (count : Nat) (pending : U8) (report : flash.report 0 = some .ok)
      (verified : stagedCandidateMatches (flash.slots slot).1 candidate = true)
      (stopped : flash.report 1 ≠ some .ok) (within : count ≤ 4) :
      CommitRun flash slot candidate ((flash.report 1).map fun _ => .stateUncertain)
        ⟨flash.marked slot count 2, slot, pending⟩
  | marked (pending : U8) (report : flash.report 0 = some .ok)
      (verified : stagedCandidateMatches (flash.slots slot).1 candidate = true)
      (programmed : flash.report 1 = some .ok) :
      CommitRun flash slot candidate ((flash.report 2).map fun read =>
          if read = .ok ∧ committedMatches ((flash.marked slot 4 3).slots slot) candidate then .ok
          else .stateUncertain)
        ⟨flash.marked slot 4 3, slot, pending⟩

theorem marker_run (flash : Flash) (slot : Slot) (pending : U8) :
    ∃ count ≤ 4, (flash.report 1 = some .ok → count = 4) ∧
      onMedia (flashMedia.program slot physicalCommitOffset commitMarker) ⟨flash.after 1, slot, pending⟩ =
        (flash.report 1, ⟨flash.marked slot count 2, slot, pending⟩) :=
  ⟨(flash.after 1).fault.reached 4, Fault.reached_le _ _, fun completed => Fault.reached_of_ok completed _, rfl⟩

theorem settle_run (candidate : PersistedRecord) (flash : Flash) (slot : Slot) :
    ∃ pending, (do
      let scanned ← scanSlot flashMedia slot
      if scanned.1 ≠ .ok then settlePending .stateUncertain
      else if scanned.2.state ≠ .valid ∨ !recordsEqual scanned.2.record candidate then settlePending .stateUncertain
      else settlePending .ok : Dev (PhysicalBackend Flash) OperationResult) ⟨flash, slot, 1⟩ =
        ((flash.report 0).map fun read =>
            if read = .ok ∧ committedMatches (flash.slots slot) candidate then .ok else .stateUncertain,
          ⟨flash.after 1, slot, pending⟩) := by
  have scan := scanSlot_run slot ⟨flash, slot, 1⟩
  rcases report : flash.report 0 with _ | read
  · rw [Flash.scan, report] at scan
    exact ⟨1, Dev.bind_lost scan⟩
  · refine ⟨0, ?_⟩
    by_cases success : read = .ok
    · subst success
      rw [Flash.scan_complete report] at scan
      refine (Dev.bind_value scan).trans ?_
      rw [if_neg (by simp)]
      by_cases committed : committedMatches (flash.slots slot) candidate = true
      · have fields := committed
        rw [committedMatches, Bool.and_eq_true, beq_iff_eq] at fields
        rw [if_neg (by simp [fields.1, fields.2]), Option.map_some, if_pos ⟨rfl, committed⟩]
        rfl
      · have fields := committed
        rw [committedMatches, Bool.and_eq_true, beq_iff_eq, not_and_or] at fields
        rw [if_pos (by simpa using fields), Option.map_some, if_neg (fun both => committed both.2)]
        rfl
    · rw [Flash.scan, report, Option.map_some, if_pos success] at scan
      refine (Dev.bind_value scan).trans ?_
      rw [if_pos (fun completed => success (mediaResultToOperation_ok.mp completed)), Option.map_some,
        if_neg (fun both => success both.1)]
      rfl

theorem commitCandidate_run (candidate : PersistedRecord) (flash : Flash) (slot : Slot) :
    CommitRun flash slot candidate
      (physicalBackendCommitCandidate flashMedia candidate ⟨flash, slot, 1⟩).1
      (physicalBackendCommitCandidate flashMedia candidate ⟨flash, slot, 1⟩).2 := by
  have verify := verifyCandidate_run candidate flash slot
  rw [physicalBackendCommitCandidate, Dev.get_bind, if_neg (by simp)]
  dsimp only
  rcases report : flash.report 0 with _ | read <;> rw [report] at verify
  · rw [Dev.bind_lost verify]
    exact .lostReading report
  · rw [Dev.bind_value verify]
    by_cases failed : verifyResult (flash.slots slot) candidate read ≠ .ok
    · rw [if_pos failed]
      exact .unverified read report failed
    · rw [if_neg failed]
      obtain ⟨rfl, verified⟩ := verifyResult_ok.mp (not_not.mp failed)
      obtain ⟨count, within, full, program⟩ := marker_run flash slot 1
      by_cases success : flash.report 1 = some .ok
      · rw [success] at program
        obtain ⟨pending, settled⟩ := settle_run candidate (flash.marked slot count 2) slot
        rw [Dev.bind_value program, if_neg (by simp), settled, full success]
        exact .marked pending report verified success
      · have run (pending : U8) : CommitRun flash slot candidate _ _ :=
          .markerStopped count pending report verified success within
        rcases programmed : flash.report 1 with _ | result <;> rw [programmed] at program run
        · rw [Dev.bind_lost program]
          exact run 1
        · rw [Dev.bind_value program, if_pos (fun completed => success (by rw [programmed, completed]))]
          exact run 0

end Guardian.NodeLink
