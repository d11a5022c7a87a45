import Mathlib.Logic.Function.Basic
import Guardian.Lib.Device
import Guardian.Lib.Word

namespace Guardian.Platform

open Word Device

inductive HalStatus
  | ok
  | error
  | busy
  | timeout
  deriving DecidableEq, Repr

inductive ProgramSize
  | byte
  | halfWord
  | word
  | doubleWord
  deriving DecidableEq, Repr

/-- `FLASH->CR`. -/
structure FlashControl where
  pg : Bool
  ser : Bool
  snb : Nat
  psize : ProgramSize
  lock : Bool
  deriving DecidableEq, Repr

/-- `FLASH->SR` without its busy flag. -/
structure FlashStatus where
  eop : Bool
  operr : Bool
  wrperr : Bool
  pgaerr : Bool
  pgperr : Bool
  pgserr : Bool
  rderr : Bool
  deriving DecidableEq, Repr

def FlashStatus.clear : FlashStatus := ⟨false, false, false, false, false, false, false⟩

def FlashStatus.anyError (status : FlashStatus) : Bool :=
  status.operr || status.wrperr || status.pgaerr || status.pgperr || status.pgserr || status.rderr

/-- What `FLASH->KEYR` waits for. -/
inductive FlashKeys
  | first
  | second
  | refused
  deriving DecidableEq, Repr

/-- How the interface answers an access: its operation ends, ends with an error flag, is still busy when the driver
    gives up, or power is lost. All but the first may come with or without the effect of the operation. -/
inductive FlashAnswer
  | done
  | error (effect : Bool) (flags : { flags : FlashStatus // flags.anyError = true })
  | timeout (effect : Bool) (flags : FlashStatus)
  | powerLoss (effect : Bool)

structure FlashArray where
  memory : U32 → U8
  dataCacheEnabled : Bool
  dataCache : U32 → Option U8

/-- The interface with its array, and the driver's `pFlash`. -/
structure FlashController where
  array : FlashArray
  control : FlashControl
  status : FlashStatus
  busy : Bool
  keys : FlashKeys
  processLocked : Bool
  errorCode : U32
  answers : Nat → FlashAnswer
  accesses : Nat

def flashKey1 : U32 := 0x45670123
def flashKey2 : U32 := 0xCDEF89AB

def sectorRange (sector : Nat) : Nat × Nat :=
  if sector < 4 then (0x08000000 + sector * 0x4000, 0x4000)
  else if sector = 4 then (0x08010000, 0x10000)
  else if sector < 8 then (0x08020000 + (sector - 5) * 0x20000, 0x20000)
  else (0, 0)

def InSector (sector : Nat) (address : U32) : Prop :=
  (sectorRange sector).1 ≤ address.toNat ∧ address.toNat < (sectorRange sector).1 + (sectorRange sector).2

instance (sector : Nat) (address : U32) : Decidable (InSector sector address) :=
  inferInstanceAs (Decidable (_ ∧ _))

def programCell (memory : U32 → U8) (address : U32) (value : U8) : U32 → U8 :=
  Function.update memory address (memory address &&& value)

def eraseCells (memory : U32 → U8) (sector : Nat) : U32 → U8 := fun address =>
  if InSector sector address then 0xFF else memory address

namespace FlashArray

def programmed (address : U32) (value : U8) (array : FlashArray) : FlashArray :=
  let memory := programCell array.memory address value
  { array with
    memory
    dataCache := Function.update array.dataCache address ((array.dataCache address).map fun _ => memory address) }

def erased (sector : Nat) (array : FlashArray) : FlashArray :=
  { array with memory := eraseCells array.memory sector }

/-- A byte that is loaded, and the array with it in its cache when that is enabled. -/
def load (address : U32) (array : FlashArray) : U8 × FlashArray :=
  if array.dataCacheEnabled then
    let value := (array.dataCache address).getD (array.memory address)
    (value, { array with dataCache := Function.update array.dataCache address (some value) })
  else (array.memory address, array)

def resetDataCache (array : FlashArray) : FlashArray :=
  if array.dataCacheEnabled then array else { array with dataCache := fun _ => none }

def flushCaches (array : FlashArray) : FlashArray :=
  if array.dataCacheEnabled then
    { resetDataCache { array with dataCacheEnabled := false } with dataCacheEnabled := true }
  else array

end FlashArray

namespace FlashController

def restart (controller : FlashController) : FlashController where
  array := ⟨controller.array.memory, false, fun _ => none⟩
  control := ⟨false, false, 0, .byte, true⟩
  status := FlashStatus.clear
  busy := false
  keys := .first
  processLocked := false
  errorCode := 0
  answers := controller.answers
  accesses := controller.accesses

/-- The interface at power-up, with its cache enabled or not, and how it will answer from then on. -/
def powerUp (answers : Nat → FlashAnswer) (dataCacheEnabled : Bool) (controller : FlashController) :
    FlashController :=
  { controller.restart with
    array := { controller.restart.array with dataCacheEnabled }
    answers
    accesses := 0 }

/-- A write to `FLASH->CR` waits for the operation under way. A locked register ignores it. -/
def writeControl (change : FlashControl → FlashControl) (controller : FlashController) : FlashController :=
  if controller.control.lock then { controller with busy := false }
  else { controller with busy := false, control := change controller.control }

def writeKey (key : U32) (controller : FlashController) : FlashController :=
  match controller.keys with
  | .first => { controller with keys := if key = flashKey1 then .second else .refused }
  | .second =>
    if key = flashKey2 then { controller with keys := .first, control := { controller.control with lock := false } }
    else { controller with keys := .refused }
  | .refused => controller

/-- An access that starts an operation, as the interface answers it. -/
def operate (effect : FlashArray → FlashArray) : Dev FlashController Unit := fun controller =>
  let reached := fun done (status : FlashStatus) (busy : Bool) =>
    { controller with
      accesses := controller.accesses + 1
      array := if done = true then effect controller.array else controller.array
      status
      busy }
  match controller.answers controller.accesses with
  | .done => (some (), reached true { controller.status with eop := true } false)
  | .error done flags => (some (), reached done flags.1 false)
  | .timeout done flags => (some (), reached done flags true)
  | .powerLoss done => (none, (reached done controller.status false).restart)

def storeByte (address : U32) (value : U8) : Dev FlashController Unit := fun controller =>
  if controller.control.lock ∨ !controller.control.pg ∨ controller.control.psize ≠ .byte then
    (some (), { controller with status := { controller.status with pgserr := true } })
  else operate (FlashArray.programmed address value) controller

/-- `STRT` is set with `SER`. -/
def startErase : Dev FlashController Unit := fun controller =>
  if controller.control.lock ∨ !controller.control.ser then
    (some (), { controller with status := { controller.status with pgserr := true } })
  else operate (FlashArray.erased controller.control.snb) controller

/-- A load from the array. It waits for the operation under way. -/
def loadByte (address : U32) : Dev FlashController U8 := fun controller =>
  let started := { controller with accesses := controller.accesses + 1, busy := false }
  match controller.answers controller.accesses with
  | .powerLoss _ => (none, started.restart)
  | _ =>
    let loaded := controller.array.load address
    (some loaded.1, { started with array := loaded.2 })

def setErrorCode (controller : FlashController) : FlashController :=
  let flag := fun (raised : Bool) (code : U32) => if raised then code else 0
  let status := controller.status
  { controller with
    errorCode := controller.errorCode ||| flag status.wrperr 0x10 ||| flag status.pgaerr 0x08 |||
      flag status.pgperr 0x04 ||| flag status.pgserr 0x02 ||| flag status.rderr 0x01 ||| flag status.operr 0x20
    status := { FlashStatus.clear with eop := status.eop } }

end FlashController

open FlashController

def flashWaitForLastOperation : Dev FlashController HalStatus := do
  Dev.modify fun controller => { controller with errorCode := 0 }
  let controller ← Dev.get
  if controller.busy then pure .timeout
  else do
    Dev.modify fun controller => { controller with status := { controller.status with eop := false } }
    if controller.status.anyError then do
      Dev.modify setErrorCode
      pure .error
    else pure .ok

def halFlashUnlock : Dev FlashController HalStatus := do
  let controller ← Dev.get
  if controller.control.lock then do
    Dev.modify (writeKey flashKey1)
    Dev.modify (writeKey flashKey2)
    let opened ← Dev.get
    if opened.control.lock then pure .error else pure .ok
  else pure .ok

def halFlashLock : Dev FlashController HalStatus := do
  Dev.modify (writeControl fun control => { control with lock := true })
  pure .ok

def flashProgramByte (address : U32) (data : U8) : Dev FlashController Unit := do
  Dev.modify (writeControl fun control => { control with psize := .byte })
  Dev.modify (writeControl fun control => { control with pg := true })
  storeByte address data

/-- What the driver does under its process lock, or `busy`. -/
def underLock {α : Type} (busy : α) (program : Dev FlashController α) : Dev FlashController α := do
  let controller ← Dev.get
  if controller.processLocked then pure busy
  else do
    Dev.modify fun controller => { controller with processLocked := true }
    let result ← program
    Dev.modify fun controller => { controller with processLocked := false }
    pure result

/-- `HAL_FLASH_Program` of one byte. -/
def halFlashProgram (address : U32) (data : U8) : Dev FlashController HalStatus := underLock .busy do
  let status ← flashWaitForLastOperation
  if status ≠ .ok then pure status
  else do
    flashProgramByte address data
    let status ← flashWaitForLastOperation
    Dev.modify (writeControl fun control => { control with pg := false })
    pure status

def voltagePsize (voltageRange : U32) : ProgramSize :=
  if voltageRange = 0 then .byte else if voltageRange = 1 then .halfWord else if voltageRange = 2 then .word
  else .doubleWord

def flashEraseSector (sector : Nat) (voltageRange : U32) : Dev FlashController Unit := do
  Dev.modify (writeControl fun control => { control with psize := voltagePsize voltageRange })
  Dev.modify (writeControl fun control => { control with ser := true, snb := sector })
  startErase

def flashFlushCaches : Dev FlashController Unit :=
  Dev.modify fun controller => { controller with array := controller.array.flushCaches }

def eraseSectors (voltageRange : U32) (sector : Nat) : (count : Nat) → Dev FlashController (HalStatus × U32)
  | 0 => pure (.ok, BitVec.allOnes 32)
  | count + 1 => do
    flashEraseSector sector voltageRange
    let status ← flashWaitForLastOperation
    Dev.modify (writeControl fun control => { control with ser := false, snb := 0 })
    if status ≠ .ok then pure (status, BitVec.ofNat 32 sector)
    else eraseSectors voltageRange (sector + 1) count

/-- `HAL_FLASHEx_Erase` of sectors. The second value is `*SectorError`, which was `sectorError` before. -/
def halFlashExErase (sector count : Nat) (voltageRange sectorError : U32) :
    Dev FlashController (HalStatus × U32) := underLock (.busy, sectorError) do
  let status ← flashWaitForLastOperation
  if status ≠ .ok then pure (status, sectorError)
  else do
    let erased ← eraseSectors voltageRange sector count
    flashFlushCaches
    pure erased

def FlashArray.Coherent (array : FlashArray) : Prop :=
  array.dataCacheEnabled = true → ∀ address cell, array.dataCache address = some cell → array.memory address = cell

section Specifications

variable {controller : FlashController}

namespace FlashArray

variable {array : FlashArray}

theorem Coherent.programmed (coherent : array.Coherent) (address : U32) (value : U8) :
    (array.programmed address value).Coherent := by
  intro enabled other cell cached
  by_cases same : other = address
  · subst other
    simp only [FlashArray.programmed, Function.update_self, Option.map_eq_some_iff] at cached
    rcases cached with ⟨-, -, holds⟩
    exact holds
  · simp only [FlashArray.programmed, Function.update_of_ne same] at cached
    simpa only [FlashArray.programmed, programCell, Function.update_of_ne same] using coherent enabled other cell cached

theorem Coherent.load (coherent : array.Coherent) (address : U32) :
    (array.load address).1 = array.memory address ∧ (array.load address).2.memory = array.memory ∧
      (array.load address).2.Coherent := by
  unfold FlashArray.load
  by_cases enabled : array.dataCacheEnabled = true
  · rw [if_pos enabled]
    have held : (array.dataCache address).getD (array.memory address) = array.memory address := by
      cases cached : array.dataCache address with
      | none => rfl
      | some cell => exact (coherent enabled address cell cached).symm
    refine ⟨held, rfl, fun _ other cell cached => ?_⟩
    by_cases same : other = address
    · subst other
      simp only [Function.update_self, held, Option.some.injEq] at cached
      exact cached
    · simp only [Function.update_of_ne same] at cached
      exact coherent enabled other cell cached
  · rw [if_neg enabled]
    exact ⟨rfl, rfl, coherent⟩

theorem flushCaches_coherent (array : FlashArray) :
    array.flushCaches.memory = array.memory ∧ array.flushCaches.Coherent := by
  unfold flushCaches
  by_cases enabled : array.dataCacheEnabled = true
  · simp [enabled, Coherent, resetDataCache]
  · simp [enabled, Coherent]

end FlashArray

namespace FlashController

/-- The interface between two calls of the driver, with the register locked or not. -/
structure Idle (lock : Bool) (controller : FlashController) : Prop where
  coherent : controller.array.Coherent
  lock : controller.control.lock = lock
  pg : controller.control.pg = false
  ser : controller.control.ser = false
  processLocked : controller.processLocked = false

structure Working (controller : FlashController) : Prop where
  answers : ∀ access, controller.answers access = .done
  status : controller.status.anyError = false
  busy : controller.busy = false
  keys : controller.keys = .first

/-- The driver's waits and writes to registers keep the array and what comes of its accesses. -/
structure Kept (controller reached : FlashController) : Prop where
  array : reached.array = controller.array
  processLocked : reached.processLocked = controller.processLocked
  working : controller.Working → reached.Working

structure Operated (controller : FlashController) (done : FlashArray) (reached : FlashController) : Prop where
  processLocked : reached.processLocked = controller.processLocked
  array : reached.array = done ∨ reached.array = controller.array ∧ (reached.busy = true ∨ reached.status.anyError = true)
  working : controller.Working → reached.Working

structure Cut (controller : FlashController) (done : U32 → U8) (reached : FlashController) : Prop where
  idle : reached.Idle true
  faulty : ¬ controller.Working
  memory : reached.array.memory = done ∨ reached.array.memory = controller.array.memory

/-- What a call of the driver that should leave `done` in the cells has done when it returns. -/
structure Called (controller : FlashController) (done : U32 → U8) (status : HalStatus) (reached : FlashController) :
    Prop where
  idle : reached.Idle false
  ok : status = .ok → reached.array.memory = done
  memory : reached.array.memory = done ∨ reached.array.memory = controller.array.memory
  working : controller.Working → status = .ok ∧ reached.Working

theorem restart_idle (controller : FlashController) : controller.restart.Idle true :=
  ⟨fun enabled => absurd enabled (by simp [restart]), rfl, rfl, rfl, rfl⟩

theorem operate_ends (effect : FlashArray → FlashArray) :
    Dev.Ends (operate effect)
      (fun _ reached => controller.Operated (effect controller.array) reached ∧ reached.control = controller.control)
      (controller.Cut (effect controller.array).memory) controller := by
  unfold Dev.Ends operate
  have fails {answer : FlashAnswer} (given : controller.answers controller.accesses = answer) (fault : answer ≠ .done) :
      ¬ controller.Working := fun working => fault (given.symm.trans (working.answers _))
  cases answer : controller.answers controller.accesses with
  | done => exact ⟨⟨rfl, Or.inl rfl, fun working => ⟨working.answers, working.status, rfl, working.keys⟩⟩, rfl⟩
  | error done flags =>
    refine ⟨⟨rfl, ?_, fun working => absurd working (fails answer (by simp))⟩, rfl⟩
    cases done
    · exact Or.inr ⟨rfl, Or.inr flags.2⟩
    · exact Or.inl rfl
  | timeout done flags =>
    refine ⟨⟨rfl, ?_, fun working => absurd working (fails answer (by simp))⟩, rfl⟩
    cases done
    · exact Or.inr ⟨rfl, Or.inl rfl⟩
    · exact Or.inl rfl
  | powerLoss done =>
    refine ⟨restart_idle _, fails answer (by simp), ?_⟩
    cases done
    · exact Or.inr rfl
    · exact Or.inl rfl

end FlashController

theorem flashWaitForLastOperation_ends {lost : FlashController → Prop} :
    Dev.Ends flashWaitForLastOperation (fun status reached => controller.Kept reached ∧
      reached.control = controller.control ∧ (controller.Working → status = .ok) ∧
      (status = .ok → controller.busy = false ∧ controller.status.anyError = false)) lost controller := by
  unfold flashWaitForLastOperation
  simp only [Dev.ends_bind, Dev.ends_modify, Dev.ends_get]
  split_ifs with busy error
  · exact ⟨⟨rfl, rfl, fun working => absurd working.busy (by simp [busy])⟩, rfl,
      fun working => absurd working.busy (by simp [busy]), by simp⟩
  · exact ⟨⟨rfl, rfl, fun working => absurd working.status (by simp [error])⟩, rfl,
      fun working => absurd working.status (by simp [error]), by simp⟩
  · exact ⟨⟨rfl, rfl, fun working => ⟨working.answers, working.status, working.busy, working.keys⟩⟩, rfl,
      fun _ => rfl, fun _ => ⟨by simpa using busy, by simpa using error⟩⟩

theorem underLock_ends {α : Type} {after : α → FlashController → Prop} {lost : FlashController → Prop} {busy : α}
    {program : Dev FlashController α} (free : controller.processLocked = false)
    (ends : Dev.Ends program (fun result reached => after result { reached with processLocked := false }) lost
      { controller with processLocked := true }) :
    Dev.Ends (underLock busy program) after lost controller := by
  unfold underLock
  simp only [Dev.ends_bind, Dev.ends_get, free, Bool.false_eq_true, if_false, Dev.ends_modify]
  exact ends

theorem FlashController.Working.locked (working : controller.Working) (processLocked : Bool) :
    { controller with processLocked }.Working := ⟨working.answers, working.status, working.busy, working.keys⟩

theorem FlashController.Kept.trans {between reached : FlashController} (first : controller.Kept between)
    (second : between.Kept reached) : controller.Kept reached :=
  ⟨second.array.trans first.array, second.processLocked.trans first.processLocked,
    fun working => second.working (first.working working)⟩

theorem writeControl_ends {after : Unit → FlashController → Prop} {lost : FlashController → Prop}
    {change : FlashControl → FlashControl} (unlocked : controller.control.lock = false)
    (ends : ∀ reached, controller.Kept reached → reached.control = change controller.control → after () reached) :
    Dev.Ends (Dev.modify (writeControl change)) after lost controller := by
  rw [Dev.ends_modify, writeControl, unlocked, if_neg (by simp)]
  exact ends _ ⟨rfl, rfl, fun working => ⟨working.answers, working.status, rfl, working.keys⟩⟩ rfl

theorem FlashController.Kept.cut {opened reached : FlashController} {done : U32 → U8} (kept : controller.Kept opened)
    (cut : opened.Cut done reached) : controller.Cut done reached :=
  ⟨cut.idle, fun working => cut.faulty (kept.working working), by rw [← kept.array]; exact cut.memory⟩

theorem FlashController.Kept.operated {opened reached : FlashController} {done : FlashArray} (kept : controller.Kept opened)
    (operated : opened.Operated done reached) : controller.Operated done reached :=
  ⟨operated.processLocked.trans kept.processLocked, by rw [← kept.array]; exact operated.array,
    fun working => operated.working (kept.working working)⟩

theorem flashProgramByte_ends (unlocked : controller.control.lock = false) (address : U32) (data : U8) :
    Dev.Ends (flashProgramByte address data)
      (fun _ reached => controller.Operated (controller.array.programmed address data) reached ∧
        reached.control = { controller.control with psize := .byte, pg := true })
      (controller.Cut (programCell controller.array.memory address data)) controller := by
  unfold flashProgramByte
  rw [Dev.ends_bind]
  refine writeControl_ends unlocked fun sized first size => ?_
  rw [Dev.ends_bind]
  refine writeControl_ends (by rw [size, unlocked]) fun opened second pg => ?_
  have kept := first.trans second
  have store : storeByte address data opened = operate (FlashArray.programmed address data) opened := by
    rw [storeByte, if_neg (by simp [pg, size, unlocked])]
  rw [Dev.Ends, store]
  refine (operate_ends (FlashArray.programmed address data)).weaken (fun _ reached ends => ?_) fun reached cut => ?_
  · rw [kept.array] at ends
    exact ⟨kept.operated ends.1, by rw [ends.2, pg, size]⟩
  · rw [kept.array] at cut
    exact kept.cut cut

/-- What a wait that follows an operation, and a write to the register after it, leave. -/
structure FlashController.Settled (controller : FlashController) (done : FlashArray) (status : HalStatus)
    (reached : FlashController) : Prop where
  processLocked : reached.processLocked = controller.processLocked
  array : reached.array = done ∨ reached.array = controller.array ∧ status ≠ .ok
  working : controller.Working → status = .ok ∧ reached.Working

theorem settle_ends {α : Type} {after : α → FlashController → Prop} {lost : FlashController → Prop}
    {stored : FlashController} {done : FlashArray} {change : FlashControl → FlashControl}
    {next : HalStatus → Dev FlashController α} (operated : controller.Operated done stored)
    (unlocked : stored.control.lock = false)
    (ends : ∀ status reached, controller.Settled done status reached → reached.control = change stored.control →
      Dev.Ends (next status) after lost reached) :
    Dev.Ends (do
      let status ← flashWaitForLastOperation
      Dev.modify (writeControl change)
      next status) after lost stored := by
  rw [Dev.ends_bind]
  refine flashWaitForLastOperation_ends.weaken (fun status waited waits => ?_) fun _ => id
  obtain ⟨kept, control, works, fine⟩ := waits
  rw [Dev.ends_bind]
  refine writeControl_ends (by rw [control, unlocked]) fun reached left changed => ends status reached ⟨?_, ?_, ?_⟩ ?_
  · rw [left.processLocked, kept.processLocked, operated.processLocked]
  · rw [left.array, kept.array]
    refine operated.array.imp_right fun ⟨same, failing⟩ => ⟨same, fun ok => ?_⟩
    have clean := fine ok
    simp [clean] at failing
  · exact fun working => ⟨works (operated.working working), left.working (kept.working (operated.working working))⟩
  · rw [changed, control]

theorem refused_called {waited : FlashController} {done : U32 → U8} {status : HalStatus} (idle : controller.Idle false)
    (kept : { controller with processLocked := true }.Kept waited) (control : waited.control = controller.control)
    (works : { controller with processLocked := true }.Working → status = .ok) (refused : status ≠ .ok) :
    controller.Called done status { waited with processLocked := false } := by
  refine ⟨⟨?_, ?_, ?_, ?_, rfl⟩, fun ok => absurd ok refused, Or.inr (by rw [kept.array]),
    fun working => absurd (works (working.locked true)) refused⟩
  · exact kept.array ▸ idle.coherent
  · exact control ▸ idle.lock
  · exact control ▸ idle.pg
  · exact control ▸ idle.ser

theorem waited_cut {waited reached : FlashController} {done : U32 → U8}
    (kept : { controller with processLocked := true }.Kept waited) (cut : waited.Cut done reached) :
    controller.Cut done reached :=
  ⟨cut.idle, fun working => cut.faulty (kept.working (working.locked true)), kept.array ▸ cut.memory⟩

theorem halFlashProgram_ends (idle : controller.Idle false) (address : U32) (data : U8) :
    Dev.Ends (halFlashProgram address data) (controller.Called (programCell controller.array.memory address data))
      (controller.Cut (programCell controller.array.memory address data)) controller := by
  refine underLock_ends idle.processLocked ?_
  rw [Dev.ends_bind]
  refine flashWaitForLastOperation_ends.weaken (fun status waited waits => ?_) fun _ => id
  obtain ⟨kept, control, works, -⟩ := waits
  by_cases refused : status ≠ .ok
  · rw [if_pos refused, Dev.ends_pure]
    exact refused_called idle kept control works refused
  · have unlocked : waited.control.lock = false := by rw [control]; exact idle.lock
    rw [if_neg refused, Dev.ends_bind]
    refine (flashProgramByte_ends unlocked address data).weaken (fun _ stored ends => ?_) fun reached cut => ?_
    · refine settle_ends ends.1 (by rw [ends.2]; exact unlocked) fun status reached settled changed => ?_
      rw [Dev.ends_pure]
      rw [ends.2, control] at changed
      have array := settled.array
      rw [kept.array] at array
      refine ⟨⟨?_, by rw [changed]; exact idle.lock, by rw [changed], by rw [changed]; exact idle.ser, rfl⟩, ?_, ?_, ?_⟩
      · rcases array with done | ⟨same, -⟩
        · exact done ▸ idle.coherent.programmed address data
        · exact same ▸ idle.coherent
      · intro ok
        rcases array with done | ⟨-, failed⟩
        · rw [done]
          rfl
        · exact absurd ok failed
      · exact array.imp (fun done => by rw [done]; rfl) fun ⟨same, _⟩ => by rw [same]
      · intro working
        obtain ⟨ok, works⟩ := settled.working (kept.working (working.locked true))
        exact ⟨ok, works.locked false⟩
    · rw [kept.array] at cut
      exact waited_cut kept cut

theorem flashEraseSector_ends (unlocked : controller.control.lock = false) (sector : Nat) (voltageRange : U32) :
    Dev.Ends (flashEraseSector sector voltageRange)
      (fun _ reached => controller.Operated (controller.array.erased sector) reached ∧
        reached.control = { controller.control with psize := voltagePsize voltageRange, ser := true, snb := sector })
      (controller.Cut (eraseCells controller.array.memory sector)) controller := by
  unfold flashEraseSector
  rw [Dev.ends_bind]
  refine writeControl_ends unlocked fun sized first size => ?_
  rw [Dev.ends_bind]
  refine writeControl_ends (by rw [size, unlocked]) fun opened second ser => ?_
  have kept := first.trans second
  have start : startErase opened = operate (FlashArray.erased sector) opened := by
    rw [startErase, if_neg (by simp [ser, size, unlocked]), ser]
  rw [Dev.Ends, start]
  refine (operate_ends (FlashArray.erased sector)).weaken (fun _ reached ends => ?_) fun reached cut => ?_
  · rw [kept.array] at ends
    exact ⟨kept.operated ends.1, by rw [ends.2, ser, size]⟩
  · rw [kept.array] at cut
    exact kept.cut cut

theorem halFlashExErase_ends (idle : controller.Idle false) (sector : Nat) (voltageRange : U32) :
    Dev.Ends (halFlashExErase sector 1 voltageRange (BitVec.allOnes 32))
      (fun erased reached => controller.Called (eraseCells controller.array.memory sector) erased.1 reached ∧
        (erased.1 = .ok → erased.2 = BitVec.allOnes 32))
      (controller.Cut (eraseCells controller.array.memory sector)) controller := by
  refine underLock_ends idle.processLocked ?_
  rw [Dev.ends_bind]
  refine flashWaitForLastOperation_ends.weaken (fun status waited waits => ?_) fun _ => id
  obtain ⟨kept, control, works, -⟩ := waits
  by_cases refused : status ≠ .ok
  · rw [if_pos refused, Dev.ends_pure]
    exact ⟨refused_called idle kept control works refused, fun ok => absurd ok refused⟩
  · have unlocked : waited.control.lock = false := by rw [control]; exact idle.lock
    rw [if_neg refused, eraseSectors, Dev.ends_bind, Dev.ends_bind]
    refine (flashEraseSector_ends unlocked sector voltageRange).weaken (fun _ stored ends => ?_) fun reached cut => ?_
    · refine settle_ends ends.1 (by rw [ends.2]; exact unlocked) fun status reached settled changed => ?_
      rw [ends.2, control] at changed
      have array := settled.array
      rw [kept.array] at array
      have flushed := FlashArray.flushCaches_coherent reached.array
      have called : controller.Called (eraseCells controller.array.memory sector) status
          { reached with array := reached.array.flushCaches, processLocked := false } := by
        refine ⟨⟨flushed.2, by rw [changed]; exact idle.lock, by rw [changed]; exact idle.pg, by rw [changed], rfl⟩, ?_, ?_, ?_⟩
        · intro ok
          rcases array with done | ⟨-, failed⟩
          · rw [flushed.1, done]
            rfl
          · exact absurd ok failed
        · exact array.imp (fun done => by rw [flushed.1, done]; rfl) fun ⟨same, _⟩ => by rw [flushed.1, same]
        · intro working
          obtain ⟨ok, works⟩ := settled.working (kept.working (working.locked true))
          exact ⟨ok, works.answers, works.status, works.busy, works.keys⟩
      by_cases failed : status ≠ .ok
      · rw [if_pos failed]
        exact ⟨called, fun ok => absurd ok failed⟩
      · rw [if_neg failed]
        exact ⟨not_not.mp failed ▸ called, fun _ => rfl⟩
    · rw [kept.array] at cut
      exact waited_cut kept cut

theorem halFlashUnlock_ends (idle : controller.Idle true) {lost : FlashController → Prop} :
    Dev.Ends halFlashUnlock (fun status reached => reached.Idle (status ≠ .ok) ∧ reached.array = controller.array ∧
      (controller.Working → status = .ok ∧ reached.Working)) lost controller := by
  have keys : flashKey1 ≠ flashKey2 := by decide
  unfold halFlashUnlock
  simp only [Dev.ends_bind, Dev.ends_get, Dev.ends_modify, idle.lock, if_true]
  cases given : controller.keys with
  | first =>
    simp only [writeKey, given, if_true, Dev.ends_pure, Bool.false_eq_true, if_false]
    exact ⟨⟨idle.coherent, by simp, idle.pg, idle.ser, idle.processLocked⟩, by trivial,
      fun working => ⟨by trivial, working.answers, working.status, working.busy, rfl⟩⟩
  | second =>
    simp only [writeKey, given, if_neg keys, idle.lock, if_true, Dev.ends_pure]
    exact ⟨⟨idle.coherent, by simp [idle.lock], idle.pg, idle.ser, idle.processLocked⟩, by trivial,
      fun working => absurd (given.symm.trans working.keys) (by simp)⟩
  | refused =>
    simp only [writeKey, given, idle.lock, if_true, Dev.ends_pure]
    exact ⟨⟨idle.coherent, by simp [idle.lock], idle.pg, idle.ser, idle.processLocked⟩, by trivial,
      fun working => absurd (given.symm.trans working.keys) (by simp)⟩

theorem halFlashLock_ends (idle : controller.Idle false) {lost : FlashController → Prop} :
    Dev.Ends halFlashLock (fun status reached => status = .ok ∧ reached.Idle true ∧ reached.array = controller.array ∧
      (controller.Working → reached.Working)) lost controller := by
  unfold halFlashLock
  rw [Dev.ends_bind]
  refine writeControl_ends idle.lock fun reached kept locked => ?_
  rw [Dev.ends_pure]
  refine ⟨rfl, ⟨?_, ?_, ?_, ?_, ?_⟩, kept.array, kept.working⟩
  · exact kept.array ▸ idle.coherent
  · rw [locked]
  · rw [locked]
    exact idle.pg
  · rw [locked]
    exact idle.ser
  · exact kept.processLocked.trans idle.processLocked

end Specifications

end Guardian.Platform
