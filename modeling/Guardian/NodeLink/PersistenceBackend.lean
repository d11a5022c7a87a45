import Guardian.NodeLink.PersistenceCodec
import Guardian.Lib.ByteString
import Guardian.Lib.Device

namespace Guardian.NodeLink

open Word ByteString Device

inductive Slot
  | a
  | b
  deriving DecidableEq, Repr

def Slot.other : Slot → Slot
  | .a => .b
  | .b => .a

inductive MediaResult
  | invalid
  | ok
  | unavailable
  | ioFailure
  deriving DecidableEq, Repr

/-- The media callbacks. A read yields its result and what it left in the output buffer. -/
structure PersistenceMedia (σ : Type) where
  read : Slot → Nat → Nat → Dev σ (MediaResult × List U8)
  erase : Slot → Dev σ MediaResult
  program : Slot → Nat → List U8 → Dev σ MediaResult

def physicalImageSize : Nat := 448

abbrev Image := Bytes physicalImageSize

def erasedImage : Image := ⟨List.replicate physicalImageSize 0xFF, List.length_replicate⟩

/-- What happens to one media operation: it completes, it reports a failure after part of its work, or power
    is lost after part of its work. -/
inductive Fault
  | none
  | fail (result : { result : MediaResult // result ≠ .ok }) (progress : Nat)
  | powerLoss (progress : Nat)

/-- How much of `total` units of work is done. -/
def Fault.reached : Fault → Nat → Nat
  | .none, total => total
  | .fail _ progress, total => min progress total
  | .powerLoss progress, total => min progress total

def Fault.report : Fault → Option MediaResult
  | .none => some .ok
  | .fail result _ => some result.1
  | .powerLoss _ => Option.none

/-- NOR flash: erasing sets an erase domain to 0xFF at once, programming clears bits byte by byte. `programmed`
    counts the bytes programmed since power-up. -/
structure Flash where
  slots : Slot → Image
  schedule : Nat → Fault
  operations : Nat
  programmed : Nat

def Flash.fault (flash : Flash) : Fault := flash.schedule flash.operations

def Flash.next (flash : Flash) : Flash := { flash with operations := flash.operations + 1 }

def Flash.store (flash : Flash) (slot : Slot) (image : Image) : Flash :=
  { flash with slots := Function.update flash.slots slot image }

def Flash.powerUp (slots : Slot → Image) (schedule : Nat → Fault) : Flash := ⟨slots, schedule, 0, 0⟩

def Flash.working (slots : Slot → Image) : Flash := Flash.powerUp slots fun _ => .none

def Image.program (image : Image) (offset : Nat) (data : List U8) : Image :=
  ⟨overlay offset data image.1, by rw [overlay_length, image.2]⟩

def flashMedia : PersistenceMedia Flash where
  read slot offset length flash :=
    (flash.fault.report.map fun result =>
      (result, if result = .ok then slice offset length (flash.slots slot).1 else []), flash.next)
  erase slot flash :=
    (flash.fault.report, if flash.fault.reached 1 = 0 then flash.next else flash.next.store slot erasedImage)
  program slot offset data flash :=
    let count := flash.fault.reached data.length
    let stored := flash.next.store slot ((flash.slots slot).program offset (data.take count))
    (flash.fault.report, { stored with programmed := flash.programmed + count })

@[simp] theorem Slot.other_other (slot : Slot) : slot.other.other = slot := by cases slot <;> rfl

@[simp] theorem Slot.other_ne (slot : Slot) : slot.other ≠ slot := by cases slot <;> decide

theorem Slot.eq_or_other (slot target : Slot) : slot = target ∨ slot = target.other := by
  cases slot <;> cases target <;> decide

theorem Fault.reached_le (fault : Fault) (total : Nat) : fault.reached total ≤ total := by
  cases fault <;> simp only [Fault.reached] <;> omega

theorem Fault.report_ok {fault : Fault} (completed : fault.report = some .ok) : fault = .none := by
  cases fault with
  | none => rfl
  | fail result progress => exact absurd (Option.some.inj completed) result.2
  | powerLoss progress => cases completed

theorem Fault.reached_of_ok {fault : Fault} (completed : fault.report = some .ok) (total : Nat) :
    fault.reached total = total := by
  rw [Fault.report_ok completed]
  rfl

open Crypto

inductive OperationResult
  | invalid
  | ok
  | unavailable
  | ioFailure
  | verifyFailure
  | commitFailure
  | stateUncertain
  | generationExhausted
  deriving DecidableEq, Repr

inductive RecoveryDiagnostic
  | invalid
  | noState
  | valid
  | validWithTornPeer
  | tornOnly
  | corrupted
  | stateUncertain
  | ioFailure
  deriving DecidableEq, Repr

/-- The backend object, with the context of its media callbacks. -/
structure PhysicalBackend (σ : Type) where
  context : σ
  pendingSlot : Slot
  pendingValid : U8

inductive SlotState
  | invalid
  | erased
  | torn
  | corrupted
  | valid
  | ioFailure
  deriving DecidableEq, Repr

structure SlotObservation where
  state : SlotState
  record : PersistedRecord
  deriving DecidableEq

def physicalFormatVersion : U16 := 1
def physicalHeaderSize : U16 := 80
def physicalCommitOffset : Nat := 444
def headerHashMaterialSize : Nat := 48
def physicalPayloadOffset : Nat := 80
def physicalMagic : List U8 := [0x47, 0x50, 0x45, 0x31]
def commitMarker : List U8 := [0x43, 0x4D, 0x54, 0x31]

def bytesAllFf (data : List U8) : Bool := data.all (· == 0xFF)

def commitMarkerIsValid (marker : List U8) : Bool := marker == commitMarker

def recordsEqual (left right : PersistedRecord) : Bool :=
  let leftBytes := persistenceEncode left serializedSize
  if leftBytes.1 ≠ .ok then false
  else
    let rightBytes := persistenceEncode right serializedSize
    if rightBytes.1 ≠ .ok then false else leftBytes.2 == rightBytes.2

def backendIdentityEqual (left right : FreshnessIdentity) : Bool :=
  identityFieldsEqual (fun left right => left.1 == right.1) left right

def transitionIsAdjacent (older newer : PersistedRecord) : Bool :=
  if !backendIdentityEqual older.identity newer.identity then false
  else if older.acceptedEpoch ≠ newer.acceptedEpoch then false
  else if older.recordGeneration = BitVec.allOnes 32 then false
  else if newer.recordGeneration ≠ older.recordGeneration + 1 then false
  else older.acceptedSequence < newer.acceptedSequence

def mediaResultToOperation : MediaResult → OperationResult
  | .ok => .ok
  | .unavailable => .unavailable
  | .ioFailure => .ioFailure
  | .invalid => .invalid

def validateBody (image : List U8) : Option PersistedRecord :=
  if image.take 4 ≠ physicalMagic then none
  else if getU16Be (image.drop 4) ≠ physicalFormatVersion then none
  else if getU16Be (image.drop 6) ≠ physicalHeaderSize then none
  else if getU32Be (image.drop 8) ≠ BitVec.ofNat 32 serializedSize then none
  else if sha256 (image.take headerHashMaterialSize) ≠ slice 48 32 image then none
  else if sha256 (slice physicalPayloadOffset serializedSize image) ≠ slice 16 32 image then none
  else
    let candidate := persistenceDecode (slice physicalPayloadOffset serializedSize image)
    if candidate.1 ≠ .ok then none
    else if getU32Be (image.drop 12) ≠ candidate.2.recordGeneration then none
    else some candidate.2

def headerHashMaterial (record : PersistedRecord) (payload : List U8) : List U8 :=
  physicalMagic ++ putU16Be physicalFormatVersion ++ putU16Be physicalHeaderSize ++
    putU32Be (BitVec.ofNat 32 serializedSize) ++ putU32Be record.recordGeneration ++ sha256 payload

def buildStagedImage (record : PersistedRecord) : Option (List U8) :=
  let encoded := persistenceEncode record serializedSize
  if encoded.1 ≠ .ok then none
  else if encoded.2.length ≠ serializedSize then none
  else
    let material := headerHashMaterial record encoded.2
    some (material ++ sha256 material ++ encoded.2 ++ List.replicate 4 0xFF)

def observeImage (image : List U8) : SlotObservation :=
  if bytesAllFf image then ⟨.erased, zeroRecord⟩
  else if bytesAllFf (image.drop physicalCommitOffset) then ⟨.torn, zeroRecord⟩
  else if !commitMarkerIsValid (image.drop physicalCommitOffset) then ⟨.corrupted, zeroRecord⟩
  else match validateBody image with
    | none => ⟨.corrupted, zeroRecord⟩
    | some record => ⟨.valid, record⟩

section Callbacks

variable {σ : Type} (media : PersistenceMedia σ)

def onMedia {α : Type} (operation : Dev σ α) : Dev (PhysicalBackend σ) α :=
  Dev.zoom PhysicalBackend.context (fun backend context => { backend with context }) operation

def scanSlot (slot : Slot) : Dev (PhysicalBackend σ) (OperationResult × SlotObservation) := do
  let read ← onMedia (media.read slot 0 physicalImageSize)
  if read.1 ≠ .ok then pure (mediaResultToOperation read.1, ⟨.ioFailure, zeroRecord⟩)
  else pure (.ok, observeImage read.2)

/-- The outputs of recovery. A slot is selected together with a valid record. -/
structure Recovery where
  operation : OperationResult
  status : PersistenceStatus
  record : PersistedRecord
  diagnostic : RecoveryDiagnostic
  selectedSlot : Option Slot
  deriving DecidableEq

def Recovery.uncertain : Recovery := ⟨.stateUncertain, .unavailableState, zeroRecord, .stateUncertain, none⟩

def resolveSlots (a b : OperationResult × SlotObservation) : Recovery :=
  if a.1 ≠ .ok ∨ b.1 ≠ .ok then
    if a.1 = .unavailable ∨ b.1 = .unavailable then ⟨.unavailable, .unavailableState, zeroRecord, .ioFailure, none⟩
    else ⟨.ioFailure, .unavailableState, zeroRecord, .ioFailure, none⟩
  else if a.2.state = .erased ∧ b.2.state = .erased then ⟨.ok, .noPersistedState, zeroRecord, .noState, none⟩
  else if a.2.state = .valid ∧ b.2.state = .valid then
    if a.2.record.recordGeneration < b.2.record.recordGeneration then
      if !transitionIsAdjacent a.2.record b.2.record then Recovery.uncertain
      else ⟨.ok, .validPersistedState, b.2.record, .valid, some .b⟩
    else if b.2.record.recordGeneration < a.2.record.recordGeneration then
      if !transitionIsAdjacent b.2.record a.2.record then Recovery.uncertain
      else ⟨.ok, .validPersistedState, a.2.record, .valid, some .a⟩
    else Recovery.uncertain
  else if a.2.state = .valid ∨ b.2.state = .valid then
    let valid := if a.2.state = .valid then a.2 else b.2
    let peer := if a.2.state = .valid then b.2 else a.2
    let validSlot : Slot := if a.2.state = .valid then .a else .b
    if peer.state = .corrupted then Recovery.uncertain
    else if peer.state ≠ .erased ∧ peer.state ≠ .torn then Recovery.uncertain
    else ⟨.ok, .validPersistedState, valid.record, if peer.state = .torn then .validWithTornPeer else .valid,
      some validSlot⟩
  else if a.2.state = .corrupted ∨ b.2.state = .corrupted then ⟨.ok, .corruptedState, zeroRecord, .corrupted, none⟩
  else if a.2.state = .torn ∨ b.2.state = .torn then
    ⟨.ok, .tornOrIncompleteUpdate, zeroRecord, .tornOnly, none⟩
  else Recovery.uncertain

def recoverInternal : Dev (PhysicalBackend σ) Recovery := do
  let a ← scanSlot media .a
  let b ← scanSlot media .b
  pure (resolveSlots a b)

def physicalBackendInit (context : σ) : PhysicalBackend σ := ⟨context, .a, 0⟩

def physicalBackendRecover : Dev (PhysicalBackend σ) Recovery := recoverInternal media

def physicalBackendLoad : Dev (PhysicalBackend σ) (OperationResult × PersistenceStatus × PersistedRecord) := do
  let recovery ← physicalBackendRecover media
  pure (recovery.operation, recovery.status, recovery.record)

/-- The slot a candidate goes to, or the result that rejects it. -/
def targetSlot (recovery : Recovery) (candidate : PersistedRecord) : Except OperationResult Slot :=
  if recovery.operation ≠ .ok then .error recovery.operation
  else match recovery.status with
    | .noPersistedState => if candidate.recordGeneration ≠ 0 then .error .verifyFailure else .ok .a
    | .validPersistedState =>
      if recovery.record.recordGeneration = BitVec.allOnes 32 then .error .generationExhausted
      else if !transitionIsAdjacent recovery.record candidate then .error .verifyFailure
      else if recovery.selectedSlot = some .a then .ok .b
      else .ok .a
    | _ => .error .stateUncertain

/-- Erase `target` and program all of `image` but its commit marker. -/
def stageImage (target : Slot) (image : List U8) : Dev (PhysicalBackend σ) OperationResult := do
  let erased ← onMedia (media.erase target)
  if erased ≠ .ok then pure (mediaResultToOperation erased)
  else do
    let programmed ← onMedia (media.program target 0 (image.take physicalCommitOffset))
    if programmed ≠ .ok then pure (mediaResultToOperation programmed)
    else do
      Dev.modify fun backend => { backend with pendingSlot := target, pendingValid := 1 }
      pure .ok

def physicalBackendWriteCandidate (candidate : PersistedRecord) : Dev (PhysicalBackend σ) OperationResult := do
  Dev.modify fun backend => { backend with pendingValid := 0 }
  let recovery ← recoverInternal media
  match targetSlot recovery candidate with
  | .error rejection => pure rejection
  | .ok target =>
    match buildStagedImage candidate with
    | none => pure .verifyFailure
    | some image => stageImage media target image

def stagedCandidateMatches (image : List U8) (candidate : PersistedRecord) : Bool :=
  if !bytesAllFf (image.drop physicalCommitOffset) then false
  else match validateBody image with
    | none => false
    | some decoded => recordsEqual decoded candidate

def physicalBackendVerifyCandidate (candidate : PersistedRecord) : Dev (PhysicalBackend σ) OperationResult := do
  let backend ← Dev.get
  if backend.pendingValid ≠ 1 then pure .verifyFailure
  else do
    let read ← onMedia (media.read backend.pendingSlot 0 physicalImageSize)
    if read.1 ≠ .ok then pure (mediaResultToOperation read.1)
    else if !stagedCandidateMatches read.2 candidate then pure .verifyFailure
    else pure .ok

/-- Drop the pending candidate and return `result`. -/
def settlePending (result : OperationResult) : Dev (PhysicalBackend σ) OperationResult := do
  Dev.modify fun backend => { backend with pendingValid := 0 }
  pure result

def physicalBackendCommitCandidate (candidate : PersistedRecord) : Dev (PhysicalBackend σ) OperationResult := do
  let backend ← Dev.get
  if backend.pendingValid ≠ 1 then pure .commitFailure
  else do
    let verified ← physicalBackendVerifyCandidate media candidate
    if verified ≠ .ok then settlePending .verifyFailure
    else do
      let programmed ← onMedia (media.program backend.pendingSlot physicalCommitOffset commitMarker)
      if programmed ≠ .ok then settlePending .stateUncertain
      else do
        let scanned ← scanSlot media backend.pendingSlot
        if scanned.1 ≠ .ok then settlePending .stateUncertain
        else if scanned.2.state ≠ .valid ∨ !recordsEqual scanned.2.record candidate then settlePending .stateUncertain
        else settlePending .ok

end Callbacks

end Guardian.NodeLink
