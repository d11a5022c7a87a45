import Guardian.NodeLink.FlashAdapter
import Guardian.NodeLink.PersistenceRecovery

namespace Guardian.NodeLink

open Word ByteString Device Guardian.Platform

/-- The cells outside the sectors of the two slots are as `memory` has them. -/
def OutsideSlots (memory : U32 → U8) (controller : FlashController) : Prop :=
  ∀ address, (∀ slot, ¬ InSector (slotGeometry slot).2.2 address) → controller.array.memory address = memory address

structure FlashReady (memory : U32 → U8) (controller : FlashController) : Prop where
  idle : controller.Idle true
  outside : OutsideSlots memory controller

/-- The backend over the controller, seen as the backend over two erase domains. Only when `calm` holds is something
    said of an interface on which nothing fails. -/
def flashSeen (memory : U32 → U8) (calm : Prop) :
    Dev.Abstraction (PhysicalBackend FlashController) (PhysicalBackend Flash) ((Slot → Image) × Slot × U8) Fault where
  ready backend := FlashReady memory backend.context
  works backend := calm ∧ backend.context.Working
  view backend := (slotImage backend.context.array.memory, backend.pendingSlot, backend.pendingValid)
  shown backend := (backend.context.slots, backend.pendingSlot, backend.pendingValid)
  faults backend := fun index => backend.context.schedule (backend.context.operations + index)
  harmless := .none

section Media

variable {memory : U32 → U8} {calm : Prop} {α : Type}

/-- A media operation that ends so on the controller is one on the erase domains that meets `fault`. -/
structure Mirrors (abstract : Dev Flash α) (memory : U32 → U8) (controller : FlashController)
    (ended : Option α × FlashController) (fault : Fault) : Prop where
  ready : FlashReady memory ended.2
  works : controller.Working → ended.2.Working ∧ fault = .none
  ends : ∀ flash : Flash, flash.slots = slotImage controller.array.memory → flash.fault = fault →
    (abstract flash).1 = ended.1 ∧ (abstract flash).2.slots = slotImage ended.2.array.memory ∧
      (abstract flash).2.schedule = flash.schedule ∧ (abstract flash).2.operations = flash.operations + 1

theorem onMedia_follows {concrete : Dev FlashController α} {abstract : Dev Flash α}
    (mirrors : ∀ controller, FlashReady memory controller →
      ∃ fault, Mirrors abstract memory controller (concrete controller) fault) :
    (flashSeen memory calm).Follows (onMedia concrete) (onMedia abstract) := by
  intro backend ready
  obtain ⟨fault, stays, works, ends⟩ := mirrors backend.context ready
  refine ⟨[fault], stays, fun working => ⟨⟨working.1, (works working.2).1⟩, fun drawn member =>
    (List.mem_singleton.mp member).trans (works working.2).2⟩, fun model same begins => ?_⟩
  simp only [flashSeen, Prod.mk.injEq] at same
  obtain ⟨result, slots, schedule, operations⟩ := ends model.context same.1 (begins 0 (by simp))
  refine ⟨result, ?_, ?_⟩
  · simp only [flashSeen, onMedia, Dev.zoom, slots, same.2]
  · funext index
    simp only [flashSeen, onMedia, Dev.zoom, schedule, operations, List.length_singleton, Nat.add_assoc]

theorem programCells_outside {slot : Slot} {offset index : Nat} {data : List U8} {cells : U32 → U8} {address : U32}
    (inside : offset + index + data.length ≤ (slotGeometry slot).2.1)
    (outside : ¬ InSector (slotGeometry slot).2.2 address) :
    programCells cells ((slotGeometry slot).1 + BitVec.ofNat 32 offset) index data address = cells address := by
  induction data generalizing cells index with
  | nil => rfl
  | cons value data ih =>
    rw [List.length_cons] at inside
    rw [programCells, ih (by omega), programCell, Function.update_of_ne]
    rintro rfl
    rw [BitVec.add_assoc, ← BitVec.ofNat_add] at outside
    exact outside ((slotAddress_sector slot slot (by omega)).mpr rfl)

theorem FlashReady.same {controller reached : FlashController} (ready : FlashReady memory controller)
    (idle : reached.Idle true) (same : reached.array.memory = controller.array.memory) : FlashReady memory reached :=
  ⟨idle, fun address outside => by rw [same]; exact ready.outside address outside⟩

theorem FlashReady.erased {controller reached : FlashController} {slot : Slot} (ready : FlashReady memory controller)
    (idle : reached.Idle true)
    (done : reached.array.memory = eraseCells controller.array.memory (slotGeometry slot).2.2) :
    FlashReady memory reached :=
  ⟨idle, fun address outside => by rw [done, eraseCells, if_neg (outside slot)]; exact ready.outside address outside⟩

theorem FlashReady.programmed {controller reached : FlashController} {slot : Slot} {offset : Nat} {data : List U8}
    (ready : FlashReady memory controller) (idle : reached.Idle true)
    (inside : offset + data.length ≤ (slotGeometry slot).2.1)
    (done : reached.array.memory =
      programCells controller.array.memory ((slotGeometry slot).1 + BitVec.ofNat 32 offset) 0 data) :
    FlashReady memory reached :=
  ⟨idle, fun address outside => by
    rw [done, programCells_outside inside (outside slot)]
    exact ready.outside address outside⟩

variable (voltageRange : U32) (slot : Slot)

theorem read_follows {offset length : Nat} (within : offset + length ≤ physicalImageSize) :
    (flashSeen memory calm).Follows (onMedia ((stm32f401Media voltageRange).read slot offset length))
      (onMedia (flashMedia.read slot offset length)) := by
  refine onMedia_follows fun controller ready => ?_
  have ends := flashRead_ends ready.idle slot within
  change ∃ fault, Mirrors _ memory controller (flashRead slot offset length controller) fault
  rcases run : flashRead slot offset length controller with ⟨_ | read, reached⟩
  · obtain ⟨idle, faulty, same⟩ := ends.cut run
    refine ⟨.powerLoss 0, ready.same idle same, fun working => absurd working faulty, fun flash slots fault => ?_⟩
    simp only [flashMedia, fault, Fault.report, Option.map_none, Flash.next, same, slots, and_self]
  · obtain ⟨rfl, idle, same, works⟩ := ends.value run
    refine ⟨.none, ready.same idle same, fun working => ⟨works working, rfl⟩, fun flash slots fault => ?_⟩
    simp only [flashMedia, fault, Fault.report, Option.map_some, if_true, Flash.next, same, slots, and_self]

theorem erase_follows :
    (flashSeen memory calm).Follows (onMedia ((stm32f401Media voltageRange).erase slot)) (onMedia (flashMedia.erase slot)) := by
  refine onMedia_follows fun controller ready => ?_
  have ends := flashErase_ends ready.idle voltageRange slot
  have erased := slotImage_eraseCells controller.array.memory slot
  change ∃ fault, Mirrors _ memory controller (flashErase voltageRange slot controller) fault
  rcases run : flashErase voltageRange slot controller with ⟨_ | result, reached⟩
  · obtain ⟨idle, faulty, done | same⟩ := ends.cut run
    · refine ⟨.powerLoss 1, ready.erased idle done, fun working => absurd working faulty, fun flash slots fault => ?_⟩
      simp [flashMedia, fault, Fault.report, Fault.reached, Flash.next, Flash.store, slots, done, erased]
    · refine ⟨.powerLoss 0, ready.same idle same, fun working => absurd working faulty, fun flash slots fault => ?_⟩
      simp [flashMedia, fault, Fault.report, Fault.reached, Flash.next, slots, same]
  · obtain ⟨idle, rfl | rfl, works, done | ⟨same, failed⟩⟩ := ends.value run
    · refine ⟨.none, ready.erased idle done, fun working => ⟨(works working).2, rfl⟩, fun flash slots fault => ?_⟩
      simp [flashMedia, fault, Fault.report, Fault.reached, Flash.next, Flash.store, slots, done, erased]
    · exact absurd rfl failed
    · refine ⟨.fail ⟨.ioFailure, by simp⟩ 1, ready.erased idle done, fun working => by simpa using works working,
        fun flash slots fault => ?_⟩
      simp [flashMedia, fault, Fault.report, Fault.reached, Flash.next, Flash.store, slots, done, erased]
    · refine ⟨.fail ⟨.ioFailure, by simp⟩ 0, ready.same idle same, fun working => by simpa using works working,
        fun flash slots fault => ?_⟩
      simp [flashMedia, fault, Fault.report, Fault.reached, Flash.next, slots, same]

theorem program_follows {offset : Nat} {data : List U8} (within : offset + data.length ≤ physicalImageSize) :
    (flashSeen memory calm).Follows (onMedia ((stm32f401Media voltageRange).program slot offset data))
      (onMedia (flashMedia.program slot offset data)) := by
  refine onMedia_follows fun controller ready => ?_
  have size := imageSize_le slot
  have range : rangeValid (slotGeometry slot).2.1 offset data.length = true := by
    rw [rangeValid, if_neg (by omega), if_neg (by omega)]
  have ends := flashProgram_ends ready.idle slot offset data range
  have programmed (count : Nat) := slotImage_programCells controller.array.memory slot offset 0 (data.take count)
    (by simp; omega)
  change ∃ fault, Mirrors _ memory controller (flashProgram slot offset data controller) fault
  rcases run : flashProgram slot offset data controller with ⟨_ | result, reached⟩
  · obtain ⟨idle, faulty, count, bound, done⟩ := ends.cut run
    have image := (congrArg slotImage done).trans (programmed count)
    refine ⟨.powerLoss count, ready.programmed idle (by simp; omega) done, fun working => absurd working faulty,
      fun flash slots fault => ?_⟩
    simp [flashMedia, fault, Fault.report, Fault.reached, Flash.next, Flash.store, slots, image, bound]
  · obtain ⟨idle, report, works, count, bound, done, complete⟩ := ends.value run
    have image := (congrArg slotImage done).trans (programmed count)
    have stays := ready.programmed idle (by simp; omega) done
    rcases report with rfl | rfl
    · obtain rfl := complete rfl
      refine ⟨.none, stays, fun working => ⟨(works working).2, rfl⟩, fun flash slots fault => ?_⟩
      simp [flashMedia, fault, Fault.report, Fault.reached, Flash.next, Flash.store, slots, image]
    · refine ⟨.fail ⟨.ioFailure, by simp⟩ count, stays, fun working => by simpa using works working,
        fun flash slots fault => ?_⟩
      simp [flashMedia, fault, Fault.report, Fault.reached, Flash.next, Flash.store, slots, image, bound]

end Media

section Backend

variable {memory : U32 → U8} {calm : Prop} (voltageRange : U32)

theorem pending_follows (change : Slot × U8 → Slot × U8) :
    (flashSeen memory calm).Follows
      (Dev.modify fun backend : PhysicalBackend FlashController =>
        { backend with
          pendingSlot := (change (backend.pendingSlot, backend.pendingValid)).1
          pendingValid := (change (backend.pendingSlot, backend.pendingValid)).2 })
      (Dev.modify fun backend : PhysicalBackend Flash =>
        { backend with
          pendingSlot := (change (backend.pendingSlot, backend.pendingValid)).1
          pendingValid := (change (backend.pendingSlot, backend.pendingValid)).2 }) := by
  refine Dev.Abstraction.Follows.modify (fun _ => id) (fun _ => id) (fun state model same => ?_) fun _ => rfl
  simp only [flashSeen, Prod.mk.injEq] at same ⊢
  simp [same]

theorem scanSlot_follows (slot : Slot) :
    (flashSeen memory calm).Follows (scanSlot (stm32f401Media voltageRange) slot) (scanSlot flashMedia slot) :=
  (read_follows voltageRange slot (Nat.le_refl _)).bind fun _ => .ite (.pure _) (.pure _)

theorem recoverInternal_follows :
    (flashSeen memory calm).Follows (recoverInternal (stm32f401Media voltageRange)) (recoverInternal flashMedia) :=
  (scanSlot_follows voltageRange .a).bind fun _ => (scanSlot_follows voltageRange .b).bind fun _ => .pure _

theorem load_follows :
    (flashSeen memory calm).Follows (physicalBackendLoad (stm32f401Media voltageRange))
      (physicalBackendLoad flashMedia) :=
  (recoverInternal_follows voltageRange).bind fun _ => .pure _

theorem stageImage_follows (target : Slot) (image : List U8) :
    (flashSeen memory calm).Follows (stageImage (stm32f401Media voltageRange) target image)
      (stageImage flashMedia target image) := by
  refine (erase_follows voltageRange target).bind fun erased => .ite (.pure _) ?_
  refine (program_follows voltageRange target (by simp [physicalCommitOffset, physicalImageSize])).bind
    fun programmed => .ite (.pure _) ?_
  exact (pending_follows fun _ => (target, 1)).bind fun _ => .pure _

theorem writeCandidate_follows (candidate : PersistedRecord) :
    (flashSeen memory calm).Follows (physicalBackendWriteCandidate (stm32f401Media voltageRange) candidate)
      (physicalBackendWriteCandidate flashMedia candidate) := by
  refine (pending_follows fun pending => (pending.1, 0)).bind fun _ =>
    (recoverInternal_follows voltageRange).bind fun recovery => ?_
  cases targetSlot recovery candidate with
  | error rejection => exact .pure _
  | ok target =>
    cases buildStagedImage candidate with
    | none => exact .pure _
    | some image => exact stageImage_follows voltageRange target image

theorem pending_get {α : Type} {concrete : PhysicalBackend FlashController → Dev (PhysicalBackend FlashController) α}
    {abstract : PhysicalBackend Flash → Dev (PhysicalBackend Flash) α}
    (pendingOnly : ∀ left right, left.pendingSlot = right.pendingSlot → left.pendingValid = right.pendingValid →
      abstract left = abstract right)
    (follow : ∀ state model, model.pendingSlot = state.pendingSlot → model.pendingValid = state.pendingValid →
      (flashSeen memory calm).Follows (concrete state) (abstract model)) :
    (flashSeen memory calm).Follows (Dev.get >>= concrete) (Dev.get >>= abstract) := by
  refine .get (fun state => ⟨⟨Flash.working (slotImage state.context.array.memory), state.pendingSlot,
    state.pendingValid⟩, rfl⟩) (fun left right same => ?_) fun state model same => ?_
  · simp only [flashSeen, Prod.mk.injEq] at same
    exact pendingOnly left right same.2.1 same.2.2
  · simp only [flashSeen, Prod.mk.injEq] at same
    exact follow state model same.2.1 same.2.2

theorem verifyCandidate_follows (candidate : PersistedRecord) :
    (flashSeen memory calm).Follows (physicalBackendVerifyCandidate (stm32f401Media voltageRange) candidate)
      (physicalBackendVerifyCandidate flashMedia candidate) := by
  refine pending_get (fun left right slot valid => by simp only [slot, valid]) fun state model slot valid => ?_
  rw [slot, valid]
  exact .ite (.pure _) ((read_follows voltageRange _ (Nat.le_refl _)).bind fun _ =>
    .ite (.pure _) (.ite (.pure _) (.pure _)))

theorem settlePending_follows (result : OperationResult) :
    (flashSeen memory calm).Follows (settlePending result) (settlePending result) :=
  (pending_follows fun pending => (pending.1, 0)).bind fun _ => .pure _

theorem commitCandidate_follows (candidate : PersistedRecord) :
    (flashSeen memory calm).Follows (physicalBackendCommitCandidate (stm32f401Media voltageRange) candidate)
      (physicalBackendCommitCandidate flashMedia candidate) := by
  refine pending_get (fun left right slot valid => by simp only [slot, valid]) fun state model slot valid => ?_
  rw [slot, valid]
  have settled := @settlePending_follows memory calm
  refine .ite (.pure _) ((verifyCandidate_follows voltageRange candidate).bind fun _ => .ite (settled _) ?_)
  refine (program_follows voltageRange _ (by decide)).bind fun _ => .ite (settled _) ?_
  exact (scanSlot_follows voltageRange _).bind fun _ => .ite (settled _) (.ite (settled _) (settled _))

theorem runStages_follows (expectedIdentity : FreshnessIdentity) (candidate : PersistedRecord) :
    (flashSeen memory calm).Follows
      (runStages (physicalBackendMakeProvider (stm32f401Media voltageRange)) expectedIdentity candidate)
      (runStages (physicalBackendMakeProvider flashMedia) expectedIdentity candidate) := by
  refine ((writeCandidate_follows voltageRange candidate).bind fun _ => .pure _).bind fun written => .ite (.pure _) ?_
  refine ((verifyCandidate_follows voltageRange written.2).bind fun _ => .pure _).bind fun verified => .ite (.pure _) ?_
  exact ((commitCandidate_follows voltageRange verified.2).bind fun _ => .pure _).bind fun committed =>
    .ite (.pure _) (.pure _)

theorem transactCommit_follows (previousRecord : Option PersistedRecord) (expectedIdentity : FreshnessIdentity)
    (candidate : PersistedRecord) :
    (flashSeen memory calm).Follows
      (transactCommit (physicalBackendMakeProvider (stm32f401Media voltageRange)) previousRecord expectedIdentity candidate)
      (transactCommit (physicalBackendMakeProvider flashMedia) previousRecord expectedIdentity candidate) := by
  unfold transactCommit
  cases admitTransaction previousRecord expectedIdentity candidate with
  | some rejection => exact .pure _
  | none => exact runStages_follows voltageRange expectedIdentity candidate

end Backend

inductive BackendCall
  | powerUp (answers : Nat → FlashAnswer) (dataCacheEnabled : Bool)
  | recover
  | load
  | writeCandidate (candidate : PersistedRecord)
  | verifyCandidate (candidate : PersistedRecord)
  | commitCandidate (candidate : PersistedRecord)
  | transactCommit (previousRecord : Option PersistedRecord) (expectedIdentity : FreshnessIdentity)
      (candidate : PersistedRecord)

inductive BackendReport
  | poweredUp
  | recovered (recovery : Option Recovery)
  | loaded (loaded : Option (OperationResult × PersistenceStatus × PersistedRecord))
  | returned (result : Option OperationResult)
  | transacted (report : Option (OperationResult × TransactionOutcome))
  deriving DecidableEq

section Calls

variable {σ : Type} (media : PersistenceMedia σ) (powerUp : (Nat → FlashAnswer) → Bool → σ → σ)

def BackendCall.run : BackendCall → Dev (PhysicalBackend σ) BackendReport
  | .powerUp answers dataCacheEnabled => do
    Dev.modify fun backend => physicalBackendInit (powerUp answers dataCacheEnabled backend.context)
    pure .poweredUp
  | .recover => do
    let recovery ← (physicalBackendRecover media).attempt
    pure (.recovered recovery)
  | .load => do
    let loaded ← (physicalBackendLoad media).attempt
    pure (.loaded loaded)
  | .writeCandidate candidate => do
    let result ← (physicalBackendWriteCandidate media candidate).attempt
    pure (.returned result)
  | .verifyCandidate candidate => do
    let result ← (physicalBackendVerifyCandidate media candidate).attempt
    pure (.returned result)
  | .commitCandidate candidate => do
    let result ← (physicalBackendCommitCandidate media candidate).attempt
    pure (.returned result)
  | .transactCommit previousRecord expectedIdentity candidate => do
    let report ← (NodeLink.transactCommit (physicalBackendMakeProvider media) previousRecord expectedIdentity
      candidate).attempt
    pure (.transacted report)

def runCalls : List BackendCall → Dev (PhysicalBackend σ) (List BackendReport)
  | [] => pure []
  | call :: calls => do
    let report ← call.run media powerUp
    let reports ← runCalls calls
    pure (report :: reports)

end Calls

/-- Nothing fails after this call, if nothing failed before it. -/
def BackendCall.Calm : BackendCall → Prop
  | .powerUp answers _ => ∀ access, answers access = .done
  | _ => True

def runOnFlash (voltageRange : U32) (calls : List BackendCall) (backend : PhysicalBackend FlashController) :=
  runCalls (stm32f401Media voltageRange) FlashController.powerUp calls backend

def runOnMedia (calls : List BackendCall) (backend : PhysicalBackend Flash) :=
  runCalls flashMedia (fun _ _ flash => flash) calls backend

section Runs

variable {memory : U32 → U8} {calm : Prop} (voltageRange : U32)

theorem FlashReady.powerUp {controller : FlashController} (ready : FlashReady memory controller)
    (answers : Nat → FlashAnswer) (dataCacheEnabled : Bool) :
    FlashReady memory (controller.powerUp answers dataCacheEnabled) :=
  ⟨⟨fun _ _ _ cached => absurd cached (by simp [FlashController.powerUp, FlashController.restart]), rfl, rfl, rfl, rfl⟩,
    ready.outside⟩

theorem run_follows {call : BackendCall} (quiet : calm → call.Calm) :
    (flashSeen memory calm).Follows (call.run (stm32f401Media voltageRange) FlashController.powerUp)
      (call.run flashMedia fun _ _ flash => flash) := by
  cases call with
  | powerUp answers dataCacheEnabled =>
    refine Dev.Abstraction.Follows.bind (.modify ?_ ?_ ?_ fun _ => rfl) fun _ => .pure _
    · exact fun state ready => FlashReady.powerUp ready answers dataCacheEnabled
    · exact fun state working => ⟨working.1, quiet working.1, rfl, rfl, rfl⟩
    · intro state model same
      simp only [flashSeen, Prod.mk.injEq] at same ⊢
      exact ⟨same.1, rfl, rfl⟩
  | recover => exact (recoverInternal_follows voltageRange).attempt.bind fun _ => .pure _
  | load => exact (load_follows voltageRange).attempt.bind fun _ => .pure _
  | writeCandidate candidate => exact (writeCandidate_follows voltageRange candidate).attempt.bind fun _ => .pure _
  | verifyCandidate candidate => exact (verifyCandidate_follows voltageRange candidate).attempt.bind fun _ => .pure _
  | commitCandidate candidate => exact (commitCandidate_follows voltageRange candidate).attempt.bind fun _ => .pure _
  | transactCommit previousRecord expectedIdentity candidate =>
    exact (transactCommit_follows voltageRange previousRecord expectedIdentity candidate).attempt.bind fun _ => .pure _

theorem runCalls_follows (memory : U32 → U8) (voltageRange : U32) {calls : List BackendCall}
    (quiet : calm → ∀ call ∈ calls, call.Calm) :
    (flashSeen memory calm).Follows (runCalls (stm32f401Media voltageRange) FlashController.powerUp calls)
      (runCalls flashMedia (fun _ _ flash => flash) calls) := by
  induction calls with
  | nil => exact .pure _
  | cons call calls ih =>
    exact (run_follows voltageRange fun given => quiet given call List.mem_cons_self).bind fun _ =>
      (ih fun given call member => quiet given call (List.mem_cons_of_mem _ member)).bind fun _ => .pure _

/-- Whatever the flash interface does in a run, the two erase domains do under some faults: the calls report the same,
    and the slots hold the same in the end. No fault is needed where every access ends well. -/
theorem runOnFlash_mirrored (calls : List BackendCall) {backend : PhysicalBackend FlashController}
    (idle : backend.context.Idle true) :
    ∃ schedule, let model := runOnMedia calls ⟨Flash.powerUp (slotImage backend.context.array.memory) schedule,
        backend.pendingSlot, backend.pendingValid⟩
      let real := runOnFlash voltageRange calls backend
      model.1 = real.1 ∧ model.2.context.slots = slotImage real.2.context.array.memory ∧
        model.2.pendingSlot = real.2.pendingSlot ∧ model.2.pendingValid = real.2.pendingValid ∧
        ((∀ call ∈ calls, call.Calm) → backend.context.Working → ∀ operation, schedule operation = .none) := by
  obtain ⟨drawn, -, works, ends⟩ := runCalls_follows backend.context.array.memory voltageRange
    (id : (∀ call ∈ calls, call.Calm) → _) backend ⟨idle, fun _ _ => rfl⟩
  refine ⟨fun operation => drawn.getD operation .none, ?_⟩
  obtain ⟨reports, same, -⟩ := ends ⟨Flash.powerUp (slotImage backend.context.array.memory)
    (fun operation => drawn.getD operation .none), backend.pendingSlot, backend.pendingValid⟩ rfl
    (by simpa [flashSeen, Flash.powerUp] using Dev.begins_getD drawn Fault.none)
  simp only [flashSeen, Prod.mk.injEq] at same
  refine ⟨reports, same.1, same.2.1, same.2.2, fun quiet working operation => ?_⟩
  have harmless := (works ⟨quiet, working⟩).2
  change drawn.getD operation Fault.none = Fault.none
  by_cases inside : operation < drawn.length
  · rw [List.getD_eq_getElem _ _ inside]
    exact harmless _ (List.getElem_mem inside)
  · exact List.getD_eq_default _ _ (by omega)

/-- An erased flash that loses power at the fourth byte it programs, behind the 896 loads of a recovery and an erase. -/
def cutController : FlashController :=
  FlashController.powerUp (fun access => if access = 900 then .powerLoss true else .done) false
    ⟨⟨fun _ => 0xFF, false, fun _ => none⟩, ⟨false, false, 0, .byte, true⟩, .clear, false, .first, false, 0, fun _ => .done, 0⟩

theorem cutController_idle : cutController.Idle true :=
  ⟨fun _ _ _ cached => absurd cached (by simp [cutController, FlashController.powerUp, FlashController.restart]),
    rfl, rfl, rfl, rfl⟩

/-- A transaction that the power loss cuts off, and calls after the next power-up. -/
def cutCalls : List BackendCall :=
  [.transactCommit none bootstrapIdentity bootstrapRecord, .powerUp (fun _ => .done) false, .recover,
    .verifyCandidate bootstrapRecord, .commitCandidate bootstrapRecord]

def cutReports : List BackendReport :=
  [.transacted none, .poweredUp, .recovered (some ⟨.ok, .tornOrIncompleteUpdate, zeroRecord, .tornOnly, none⟩),
    .returned (some .verifyFailure), .returned (some .commitFailure)]

theorem runOnFlash_mirrored_cut :
    ∃ schedule, let model := runOnMedia cutCalls ⟨Flash.powerUp (slotImage cutController.array.memory) schedule, .a, 0⟩
      model.1 = some cutReports ∧ model.2.context.slots =
        slotImage (runOnFlash 2 cutCalls (physicalBackendInit cutController)).2.context.array.memory := by
  have reports : (runOnFlash 2 cutCalls (physicalBackendInit cutController)).1 = some cutReports := by decide +kernel
  obtain ⟨schedule, same, slots, -⟩ :=
    @runOnFlash_mirrored 2 cutCalls (physicalBackendInit cutController) cutController_idle
  exact ⟨schedule, same.trans reports, slots⟩

/-- In every run the cells outside the two sectors stay as they are, and between calls the register is locked, with
    no operation selected. -/
theorem runOnFlash_confined (calls : List BackendCall) {backend : PhysicalBackend FlashController}
    (idle : backend.context.Idle true) :
    let reached := (runOnFlash voltageRange calls backend).2.context
    OutsideSlots backend.context.array.memory reached ∧ reached.Idle true := by
  obtain ⟨drawn, ready, -, -⟩ := runCalls_follows backend.context.array.memory voltageRange
    (False.elim : False → ∀ call ∈ calls, call.Calm) backend ⟨idle, fun _ _ => rfl⟩
  exact ⟨ready.outside, ready.idle⟩

theorem runOnFlash_confined_cut :
    let reached := (runOnFlash 2 cutCalls (physicalBackendInit cutController)).2.context
    OutsideSlots cutController.array.memory reached ∧ reached.Idle true :=
  @runOnFlash_confined 2 cutCalls (physicalBackendInit cutController) cutController_idle

end Runs

end Guardian.NodeLink
