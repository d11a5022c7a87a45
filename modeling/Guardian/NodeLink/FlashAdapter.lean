import Mathlib.Tactic.Ring
import Guardian.Lib.Run
import Guardian.NodeLink.PersistenceTransaction
import Guardian.Platform.FlashDriver

namespace Guardian.NodeLink

open Word ByteString Device Guardian.Platform

def slotGeometry : Slot → U32 × Nat × Nat
  | .a => (0x0800C000, 0x4000, 3)
  | .b => (0x08010000, 0x10000, 4)

def rangeValid (capacity offset length : Nat) : Bool :=
  if offset > capacity then false else if length > capacity - offset then false else true

def flashBytesCopy (source : U32) (index : Nat) : (count : Nat) → Dev FlashController (List U8)
  | 0 => pure []
  | count + 1 => do
    let value ← FlashController.loadByte (source + BitVec.ofNat 32 index)
    let rest ← flashBytesCopy source (index + 1) count
    pure (value :: rest)

def flashRead (slot : Slot) (offset length : Nat) : Dev FlashController (MediaResult × List U8) :=
  let geometry := slotGeometry slot
  if !rangeValid geometry.2.1 offset length then pure (.ioFailure, [])
  else if length = 0 then pure (.ok, [])
  else do
    let output ← flashBytesCopy (geometry.1 + BitVec.ofNat 32 offset) 0 length
    pure (.ok, output)

def flashErase (eraseVoltageRange : U32) (slot : Slot) : Dev FlashController MediaResult := do
  let unlockStatus ← halFlashUnlock
  if unlockStatus ≠ .ok then pure .ioFailure
  else do
    let erased ← halFlashExErase (slotGeometry slot).2.2 1 eraseVoltageRange (BitVec.allOnes 32)
    let lockStatus ← halFlashLock
    if erased.1 ≠ .ok ∨ lockStatus ≠ .ok then pure .ioFailure
    else if erased.2 ≠ BitVec.allOnes 32 then pure .ioFailure
    else pure .ok

/-- The program loop, from byte `index` on. It stops at the first byte that fails. -/
def flashProgramBytes (address : U32) (index : Nat) : (data : List U8) → Dev FlashController HalStatus
  | [] => pure .ok
  | value :: data => do
    let programStatus ← halFlashProgram (address + BitVec.ofNat 32 index) value
    if programStatus ≠ .ok then pure programStatus else flashProgramBytes address (index + 1) data

def flashProgram (slot : Slot) (offset : Nat) (data : List U8) : Dev FlashController MediaResult :=
  let geometry := slotGeometry slot
  if !rangeValid geometry.2.1 offset data.length then pure .ioFailure
  else if data.length = 0 then pure .ok
  else do
    let unlockStatus ← halFlashUnlock
    if unlockStatus ≠ .ok then pure .ioFailure
    else do
      let programStatus ← flashProgramBytes (geometry.1 + BitVec.ofNat 32 offset) 0 data
      let lockStatus ← halFlashLock
      if programStatus ≠ .ok ∨ lockStatus ≠ .ok then pure .ioFailure else pure .ok

def stm32f401Media (eraseVoltageRange : U32) : PersistenceMedia FlashController where
  read := flashRead
  erase := flashErase eraseVoltageRange
  program := flashProgram

/-- `data` programmed from byte `index` behind `address` on. -/
def programCells (memory : U32 → U8) (address : U32) (index : Nat) : (data : List U8) → U32 → U8
  | [] => memory
  | value :: data => programCells (programCell memory (address + BitVec.ofNat 32 index) value) address (index + 1) data

def slotImage (memory : U32 → U8) (slot : Slot) : Image :=
  ⟨(List.range physicalImageSize).map fun index => memory ((slotGeometry slot).1 + BitVec.ofNat 32 index), by simp⟩

theorem slotGeometry_sector (slot : Slot) :
    sectorRange (slotGeometry slot).2.2 = ((slotGeometry slot).1.toNat, (slotGeometry slot).2.1) := by
  cases slot <;> rfl

theorem slotAddress_toNat (slot : Slot) {index : Nat} (inside : index < (slotGeometry slot).2.1) :
    ((slotGeometry slot).1 + BitVec.ofNat 32 index).toNat = (slotGeometry slot).1.toNat + index := by
  rw [BitVec.toNat_add, BitVec.toNat_ofNat]
  cases slot
  · have base : (slotGeometry .a).1.toNat = 0x0800C000 := rfl
    simp only [slotGeometry] at inside
    omega
  · have base : (slotGeometry .b).1.toNat = 0x08010000 := rfl
    simp only [slotGeometry] at inside
    omega

theorem slotAddress_sector (slot target : Slot) {index : Nat} (inside : index < (slotGeometry slot).2.1) :
    InSector (slotGeometry target).2.2 ((slotGeometry slot).1 + BitVec.ofNat 32 index) ↔ target = slot := by
  rw [InSector, slotGeometry_sector, slotAddress_toNat slot inside]
  cases slot <;> cases target <;> simp [slotGeometry] at inside ⊢ <;> omega

theorem imageSize_le (slot : Slot) : physicalImageSize ≤ (slotGeometry slot).2.1 := by cases slot <;> decide

theorem slotImage_congr {memory other : U32 → U8} {slot : Slot}
    (same : ∀ index < physicalImageSize, memory ((slotGeometry slot).1 + BitVec.ofNat 32 index) =
      other ((slotGeometry slot).1 + BitVec.ofNat 32 index)) : slotImage memory slot = slotImage other slot :=
  Subtype.ext (List.map_congr_left fun index member => same index (List.mem_range.mp member))

theorem slotImage_programCell (memory : U32 → U8) (slot : Slot) {offset : Nat} (inside : offset < physicalImageSize)
    (value : U8) :
    slotImage (programCell memory ((slotGeometry slot).1 + BitVec.ofNat 32 offset) value) =
      Function.update (slotImage memory) slot
        ⟨(slotImage memory slot).1.modify offset (· &&& value), by simp [(slotImage memory slot).2]⟩ := by
  have size := imageSize_le slot
  funext target
  by_cases same : target = slot
  · subst target
    rw [Function.update_self]
    refine Subtype.ext (List.ext_getElem (by simp [slotImage]) fun index bound _ => ?_)
    have within : index < physicalImageSize := by simpa [slotImage] using bound
    simp only [slotImage, List.getElem_map, List.getElem_range, List.getElem_modify, programCell]
    by_cases hit : offset = index
    · subst index
      rw [Function.update_self, if_pos rfl]
    · rw [if_neg hit]
      refine Function.update_of_ne (fun equal => hit ?_) _ _
      have values := congrArg BitVec.toNat equal
      rw [slotAddress_toNat slot (by omega), slotAddress_toNat slot (by omega)] at values
      omega
  · rw [Function.update_of_ne same]
    refine slotImage_congr fun index within => Function.update_of_ne (fun equal => same ?_) _ _
    have sector := (slotAddress_sector slot slot (show offset < _ by omega)).mpr rfl
    rw [← equal] at sector
    exact ((slotAddress_sector target slot (by have := imageSize_le target; omega)).mp sector).symm

theorem slotImage_programCells (memory : U32 → U8) (slot : Slot) (offset index : Nat) (data : List U8)
    (inside : offset + index + data.length ≤ physicalImageSize) :
    slotImage (programCells memory ((slotGeometry slot).1 + BitVec.ofNat 32 offset) index data) =
      Function.update (slotImage memory) slot ((slotImage memory slot).program (offset + index) data) := by
  induction data generalizing memory index with
  | nil => simp [programCells, Image.program]
  | cons value data ih =>
    rw [List.length_cons] at inside
    have address : (slotGeometry slot).1 + BitVec.ofNat 32 offset + BitVec.ofNat 32 index =
        (slotGeometry slot).1 + BitVec.ofNat 32 (offset + index) := by
      rw [BitVec.add_assoc, ← BitVec.ofNat_add]
    rw [programCells, ih _ _ (by omega), address, slotImage_programCell memory slot (by omega), Function.update_idem,
      Function.update_self]
    simp only [Image.program, overlay_cons, Nat.add_assoc]

theorem slotImage_eraseCells (memory : U32 → U8) (slot : Slot) :
    slotImage (eraseCells memory (slotGeometry slot).2.2) = Function.update (slotImage memory) slot erasedImage := by
  funext target
  have size := imageSize_le target
  by_cases same : target = slot
  · subst target
    rw [Function.update_self]
    refine Subtype.ext (List.ext_getElem (by simp [slotImage, erasedImage]) fun index bound _ => ?_)
    have within : index < physicalImageSize := by simpa [slotImage] using bound
    simp only [slotImage, List.getElem_map, List.getElem_range, erasedImage, List.getElem_replicate, eraseCells]
    exact if_pos ((slotAddress_sector slot slot (by omega)).mpr rfl)
  · rw [Function.update_of_ne same]
    refine slotImage_congr fun index within => if_neg fun inside => same ?_
    exact ((slotAddress_sector target slot (by omega)).mp inside).symm

section Callbacks

variable {controller : FlashController}

/-- `count` bytes of `data` are programmed: all of them when the result is OK. -/
structure FlashProgrammed {ρ : Type} (ok : ρ) (controller : FlashController) (address : U32) (index : Nat)
    (data : List U8) (result : ρ) (memory : U32 → U8) (count : Nat) : Prop where
  within : count ≤ data.length
  memory : memory = programCells controller.array.memory address index (data.take count)
  complete : result = ok → count = data.length

theorem flashProgramBytes_ends (address : U32) (data : List U8) {index : Nat} (idle : controller.Idle false) :
    Dev.Ends (flashProgramBytes address index data)
      (fun status reached => reached.Idle false ∧ (controller.Working → status = .ok ∧ reached.Working) ∧
        ∃ count, FlashProgrammed .ok controller address index data status reached.array.memory count)
      (fun reached => reached.Idle true ∧ ¬ controller.Working ∧
        ∃ count ≤ data.length, reached.array.memory = programCells controller.array.memory address index (data.take count))
      controller := by
  induction data generalizing controller index with
  | nil => exact ⟨idle, fun working => ⟨rfl, working⟩, 0, Nat.le_refl _, rfl, fun _ => rfl⟩
  | cons value data ih =>
    rw [flashProgramBytes, Dev.ends_bind]
    refine (halFlashProgram_ends idle (address + BitVec.ofNat 32 index) value).weaken (fun status between called => ?_)
      fun reached cut => ?_
    · by_cases failed : status ≠ .ok
      · rw [if_pos failed, Dev.ends_pure]
        refine ⟨called.idle, fun working => absurd (called.working working).1 failed, ?_⟩
        rcases called.memory with done | same
        · exact ⟨1, by simp, by simpa [programCells] using done, fun ok => absurd ok failed⟩
        · exact ⟨0, by simp, by simpa [programCells] using same, fun ok => absurd ok failed⟩
      · rw [if_neg failed]
        have done := called.ok (not_not.mp failed)
        refine (ih called.idle).weaken (fun status reached ends => ?_) fun reached ends => ?_
        · obtain ⟨settled, works, count, ends⟩ := ends
          refine ⟨settled, fun working => works (called.working working).2, count + 1, ?_, ?_, fun ok => ?_⟩
          · simpa using ends.within
          · rw [ends.memory, done, List.take_succ_cons, programCells]
          · rw [ends.complete ok, List.length_cons]
        · obtain ⟨settled, faulty, count, within, memory⟩ := ends
          refine ⟨settled, fun working => faulty (called.working working).2, count + 1, by simpa using within, ?_⟩
          rw [memory, done, List.take_succ_cons, programCells]
    · refine ⟨cut.idle, cut.faulty, ?_⟩
      rcases cut.memory with done | same
      · exact ⟨1, by simp, by simpa [programCells] using done⟩
      · exact ⟨0, by simp, by simpa [programCells] using same⟩

theorem flashProgram_ends (idle : controller.Idle true) (slot : Slot) (offset : Nat) (data : List U8)
    (range : rangeValid (slotGeometry slot).2.1 offset data.length = true) :
    Dev.Ends (flashProgram slot offset data)
      (fun result reached => reached.Idle true ∧ (result = .ok ∨ result = .ioFailure) ∧
        (controller.Working → result = .ok ∧ reached.Working) ∧
        ∃ count, FlashProgrammed .ok controller ((slotGeometry slot).1 + BitVec.ofNat 32 offset) 0 data result
          reached.array.memory count)
      (fun reached => reached.Idle true ∧ ¬ controller.Working ∧ ∃ count ≤ data.length,
        reached.array.memory = programCells controller.array.memory ((slotGeometry slot).1 + BitVec.ofNat 32 offset) 0
          (data.take count)) controller := by
  unfold flashProgram
  simp only [range, Bool.not_true, Bool.false_eq_true, if_false]
  by_cases empty : data.length = 0
  · rw [if_pos empty, Dev.ends_pure]
    exact ⟨idle, Or.inl rfl, fun working => ⟨rfl, working⟩, 0, Nat.zero_le _, rfl, fun _ => empty.symm⟩
  · rw [if_neg empty, Dev.ends_bind]
    refine (halFlashUnlock_ends idle).weaken (fun status opened unlocked => ?_) fun _ => id
    obtain ⟨open_, array, works⟩ := unlocked
    by_cases refused : status ≠ .ok
    · rw [if_pos refused, Dev.ends_pure]
      rw [decide_eq_true refused] at open_
      exact ⟨open_, Or.inr rfl, fun working => absurd (works working).1 refused, 0, Nat.zero_le _, by simp [array, programCells], by simp⟩
    · rw [decide_eq_false refused] at open_
      rw [if_neg refused, Dev.ends_bind]
      refine (flashProgramBytes_ends _ data open_).weaken (fun status stored ends => ?_) fun reached ends => ?_
      · obtain ⟨settled, working, count, programmed⟩ := ends
        rw [Dev.ends_bind]
        refine (halFlashLock_ends settled).weaken (fun lockStatus reached locked => ?_) fun _ => id
        obtain ⟨lockOk, closed, kept, stays⟩ := locked
        by_cases failed : status ≠ .ok ∨ lockStatus ≠ .ok
        · rw [if_pos failed, Dev.ends_pure]
          refine ⟨closed, Or.inr rfl, fun worked => ?_, count, programmed.within, ?_, by simp⟩
          · simp [(working (works worked).2).1, lockOk] at failed
          · rw [kept, programmed.memory, array]
        · rw [if_neg failed, Dev.ends_pure]
          refine ⟨closed, Or.inl rfl, fun worked => ⟨rfl, stays (working (works worked).2).2⟩, count, programmed.within, ?_, fun _ => ?_⟩
          · rw [kept, programmed.memory, array]
          · exact programmed.complete (by simpa [lockOk] using failed)
      · obtain ⟨settled, faulty, count, within, memory⟩ := ends
        exact ⟨settled, fun working => faulty (works working).2, count, within, by rw [memory, array]⟩

theorem flashErase_ends (idle : controller.Idle true) (voltageRange : U32) (slot : Slot) :
    Dev.Ends (flashErase voltageRange slot)
      (fun result reached => reached.Idle true ∧ (result = .ok ∨ result = .ioFailure) ∧
        (controller.Working → result = .ok ∧ reached.Working) ∧
        (reached.array.memory = eraseCells controller.array.memory (slotGeometry slot).2.2 ∨
          reached.array.memory = controller.array.memory ∧ result ≠ .ok))
      (controller.Cut (eraseCells controller.array.memory (slotGeometry slot).2.2)) controller := by
  unfold flashErase
  rw [Dev.ends_bind]
  refine (halFlashUnlock_ends idle).weaken (fun status opened unlocked => ?_) fun _ => id
  obtain ⟨open_, array, works⟩ := unlocked
  by_cases refused : status ≠ .ok
  · rw [if_pos refused, Dev.ends_pure]
    rw [decide_eq_true refused] at open_
    exact ⟨open_, Or.inr rfl, fun working => absurd (works working).1 refused, Or.inr ⟨by rw [array], by simp⟩⟩
  · rw [decide_eq_false refused] at open_
    rw [if_neg refused, Dev.ends_bind]
    refine (halFlashExErase_ends open_ (slotGeometry slot).2.2 voltageRange).weaken (fun erased stored ends => ?_)
      fun reached cut => ?_
    · rw [array] at ends
      rw [Dev.ends_bind]
      refine (halFlashLock_ends ends.1.idle).weaken (fun lockStatus reached locked => ?_) fun _ => id
      obtain ⟨lockOk, closed, kept, stays⟩ := locked
      by_cases failed : erased.1 ≠ .ok ∨ lockStatus ≠ .ok
      · rw [if_pos failed, Dev.ends_pure]
        refine ⟨closed, Or.inr rfl, fun worked => ?_, ?_⟩
        · simp [(ends.1.working (works worked).2).1, lockOk] at failed
        · exact (kept ▸ array ▸ ends.1.memory).imp_right fun same => ⟨same, by simp⟩
      · have ok : erased.1 = .ok := by simpa [lockOk] using failed
        rw [if_neg failed, if_neg (not_not.mpr (ends.2 ok)), Dev.ends_pure]
        exact ⟨closed, Or.inl rfl, fun worked => ⟨rfl, stays (ends.1.working (works worked).2).2⟩,
          Or.inl (by rw [kept, ends.1.ok ok])⟩
    · rw [array] at cut
      exact ⟨cut.idle, fun working => cut.faulty (works working).2, array ▸ cut.memory⟩

theorem loadByte_ends (idle : controller.Idle true) (address : U32) :
    Dev.Ends (FlashController.loadByte address)
      (fun value reached => value = controller.array.memory address ∧ reached.Idle true ∧
        reached.array.memory = controller.array.memory ∧ (controller.Working → reached.Working))
      (fun reached => reached.Idle true ∧ ¬ controller.Working ∧ reached.array.memory = controller.array.memory)
      controller := by
  have loaded := idle.coherent.load address
  have value (busy : Bool) (accesses : Nat) : { controller with busy, accesses, array := (controller.array.load address).2 }.Idle true :=
    ⟨loaded.2.2, idle.lock, idle.pg, idle.ser, idle.processLocked⟩
  have works (working : controller.Working) (accesses : Nat) :
      { controller with busy := false, accesses, array := (controller.array.load address).2 }.Working :=
    ⟨working.answers, working.status, rfl, working.keys⟩
  unfold Dev.Ends FlashController.loadByte
  cases answer : controller.answers controller.accesses with
  | powerLoss done =>
    exact ⟨FlashController.restart_idle _, fun working => by simpa using answer.symm.trans (working.answers _), rfl⟩
  | done => exact ⟨loaded.1, value _ _, loaded.2.1, fun working => works working _⟩
  | error done flags => exact ⟨loaded.1, value _ _, loaded.2.1, fun working => works working _⟩
  | timeout done flags => exact ⟨loaded.1, value _ _, loaded.2.1, fun working => works working _⟩

theorem flashBytesCopy_ends (source : U32) (count : Nat) {index : Nat} (idle : controller.Idle true) :
    Dev.Ends (flashBytesCopy source index count)
      (fun values reached =>
        values = (List.range' index count).map (fun index => controller.array.memory (source + BitVec.ofNat 32 index)) ∧
          reached.Idle true ∧ reached.array.memory = controller.array.memory ∧ (controller.Working → reached.Working))
      (fun reached => reached.Idle true ∧ ¬ controller.Working ∧ reached.array.memory = controller.array.memory)
      controller := by
  induction count generalizing controller index with
  | zero => exact ⟨rfl, idle, rfl, id⟩
  | succ count ih =>
    rw [flashBytesCopy, Dev.ends_bind]
    refine (loadByte_ends idle _).weaken (fun value between first => ?_) fun _ => id
    obtain ⟨loaded, settled, memory, works⟩ := first
    rw [Dev.ends_bind]
    refine (ih settled).weaken (fun values reached rest => ?_) fun reached ends => ?_
    · obtain ⟨copied, closed, kept, working⟩ := rest
      rw [Dev.ends_pure]
      refine ⟨?_, closed, kept.trans memory, fun worked => working (works worked)⟩
      rw [List.range'_succ, List.map_cons, loaded, copied, memory]
    · obtain ⟨closed, faulty, kept⟩ := ends
      exact ⟨closed, fun working => faulty (works working), kept.trans memory⟩

theorem flashRead_ends (idle : controller.Idle true) (slot : Slot) {offset length : Nat}
    (within : offset + length ≤ physicalImageSize) :
    Dev.Ends (flashRead slot offset length)
      (fun read reached => read = (.ok, slice offset length (slotImage controller.array.memory slot).1) ∧
        reached.Idle true ∧ reached.array.memory = controller.array.memory ∧ (controller.Working → reached.Working))
      (fun reached => reached.Idle true ∧ ¬ controller.Working ∧ reached.array.memory = controller.array.memory)
      controller := by
  have size := imageSize_le slot
  have range : rangeValid (slotGeometry slot).2.1 offset length = true := by
    rw [rangeValid, if_neg (by omega), if_neg (by omega)]
  unfold flashRead
  simp only [range, Bool.not_true, Bool.false_eq_true, if_false]
  by_cases empty : length = 0
  · rw [if_pos empty, Dev.ends_pure, empty, slice, List.take_zero]
    exact ⟨rfl, idle, rfl, id⟩
  · rw [if_neg empty, Dev.ends_bind]
    refine (flashBytesCopy_ends _ _ idle).weaken (fun values reached copied => ?_) fun _ => id
    rw [Dev.ends_pure, copied.1]
    refine ⟨Prod.ext rfl ?_, copied.2⟩
    refine List.ext_getElem (by simp [slice, slotImage]; omega) fun index left right => ?_
    simp [slice, slotImage, BitVec.add_assoc, BitVec.ofNat_add]

end Callbacks

end Guardian.NodeLink
