import Guardian.Crypto.Sha256
import Guardian.Lib.ByteString

namespace Guardian.Firmware

open Word Guardian.Crypto

def firmwareSchemaVersion : U8 := 0x01
def firmwareSignatureEd25519 : U8 := 0x01
def firmwareSignatureDemoHmacSha256 : U8 := 0xFE
def firmwareChunkMaxData : U16 := 192

inductive FirmwareState
  | idle
  | receiving
  | verified
  | pendingActivation
  | confirmed
  | rolledBack
  | failed
  deriving DecidableEq, Repr

inductive FirmwareFailure
  | none
  | unconfigured
  | invalidPayload
  | rollbackBlocked
  | storage
  | hashMismatch
  | signatureInvalid
  | activation
  | confirmation
  | outOfOrder
  deriving DecidableEq, Repr

inductive FirmwareResult
  | ok
  | unconfigured
  | invalidPayload
  | invalidState
  | rollbackBlocked
  | storage
  | hashMismatch
  | signatureInvalid
  | activation
  | confirmation
  | outOfOrder
  deriving DecidableEq, Repr

structure FirmwareManifest where
  signatureAlgorithm : U8
  keyId : U32
  versionCounter : U32
  firmwareMajor : U16
  firmwareMinor : U16
  firmwarePatch : U16
  imageSize : U32
  imageSha256 : Bytes 32
  signatureLength : U8
  signature : Bytes 64
  deriving DecidableEq

structure FirmwareChunk where
  offset : U32
  length : U16
  data : Bytes 192
  deriving DecidableEq

structure FirmwareConfig where
  requiredSignatureAlgorithm : U8
  maxImageSize : U32
  activeVersionCounter : U32
  rollbackFloor : U32
  deriving DecidableEq

structure FirmwareLifecycle where
  config : FirmwareConfig
  configured : U8
  state : FirmwareState
  failure : FirmwareFailure
  manifest : FirmwareManifest
  bytesReceived : U32
  deriving DecidableEq

/-- What `mark_pending` persists. -/
structure PendingMarker where
  versionCounter : U32
  firmwareMajor : U16
  firmwareMinor : U16
  firmwarePatch : U16
  deriving DecidableEq, Repr

structure FirmwarePlatform where
  staging : Nat → U8
  pending : Option PendingMarker
  activeVersionCounter : U32
  rollbackFloor : U32

/-- How one callback call ends: a call that fails may still have had its effect, and a storage call that fails leaves
any bytes in the range it works on. -/
structure CallbackOutcome where
  succeeds : Bool
  applied : Bool
  staging : Nat → U8

def CallbackOutcome.effective (outcome : CallbackOutcome) : Bool := outcome.succeeds || outcome.applied

theorem CallbackOutcome.effective_of_succeeds {outcome : CallbackOutcome} (succeeded : outcome.succeeds = true) :
    outcome.effective = true := by
  rw [CallbackOutcome.effective, succeeded, Bool.true_or]

structure FirmwareSystem where
  lifecycle : FirmwareLifecycle
  platform : FirmwarePlatform

namespace FirmwarePlatform

/-- The first `size` staged bytes. -/
def image (platform : FirmwarePlatform) (size : Nat) : List U8 := (List.range size).map platform.staging

def erase (platform : FirmwarePlatform) (_imageSize : U32) (outcome : CallbackOutcome) : Bool × FirmwarePlatform :=
  (outcome.succeeds, { platform with staging := outcome.staging })

def write (platform : FirmwarePlatform) (offset : U32) (data : List U8) (outcome : CallbackOutcome) :
    Bool × FirmwarePlatform :=
  (outcome.succeeds,
    { platform with
      staging := fun index =>
        if index < offset.toNat then platform.staging index
        else if outcome.succeeds then data.getD (index - offset.toNat) (platform.staging index)
        else outcome.staging index })

def hash (platform : FirmwarePlatform) (imageSize : U32) (outcome : CallbackOutcome) : Option (List U8) :=
  if outcome.succeeds then some (sha256 (platform.image imageSize.toNat)) else none

def markPending (platform : FirmwarePlatform) (marker : PendingMarker) (outcome : CallbackOutcome) :
    Bool × FirmwarePlatform :=
  (outcome.succeeds, if outcome.effective then { platform with pending := some marker } else platform)

def persistFloor (platform : FirmwarePlatform) (rollbackFloor : U32) (outcome : CallbackOutcome) :
    Bool × FirmwarePlatform :=
  (outcome.succeeds, if outcome.effective then { platform with rollbackFloor } else platform)

def completePending (platform : FirmwarePlatform) (versionCounter : U32) (confirmed : U8) (outcome : CallbackOutcome) :
    Bool × FirmwarePlatform :=
  (outcome.succeeds,
    if outcome.effective then
      { platform with
        pending := none
        activeVersionCounter := if confirmed = 1 then versionCounter else platform.activeVersionCounter }
    else platform)

@[simp] theorem erase_fst (platform : FirmwarePlatform) (imageSize : U32) (outcome : CallbackOutcome) :
    (platform.erase imageSize outcome).1 = outcome.succeeds := rfl

@[simp] theorem write_fst (platform : FirmwarePlatform) (offset : U32) (data : List U8) (outcome : CallbackOutcome) :
    (platform.write offset data outcome).1 = outcome.succeeds := rfl

@[simp] theorem markPending_fst (platform : FirmwarePlatform) (marker : PendingMarker) (outcome : CallbackOutcome) :
    (platform.markPending marker outcome).1 = outcome.succeeds := rfl

@[simp] theorem persistFloor_fst (platform : FirmwarePlatform) (rollbackFloor : U32) (outcome : CallbackOutcome) :
    (platform.persistFloor rollbackFloor outcome).1 = outcome.succeeds := rfl

@[simp] theorem completePending_fst (platform : FirmwarePlatform) (versionCounter : U32) (confirmed : U8)
    (outcome : CallbackOutcome) : (platform.completePending versionCounter confirmed outcome).1 = outcome.succeeds := rfl

@[simp] theorem markPending_staging (platform : FirmwarePlatform) (marker : PendingMarker) (outcome : CallbackOutcome) :
    (platform.markPending marker outcome).2.staging = platform.staging := by
  rw [markPending]
  split_ifs <;> rfl

@[simp] theorem persistFloor_staging (platform : FirmwarePlatform) (rollbackFloor : U32) (outcome : CallbackOutcome) :
    (platform.persistFloor rollbackFloor outcome).2.staging = platform.staging := by
  rw [persistFloor]
  split_ifs <;> rfl

@[simp] theorem completePending_staging (platform : FirmwarePlatform) (versionCounter : U32) (confirmed : U8)
    (outcome : CallbackOutcome) :
    (platform.completePending versionCounter confirmed outcome).2.staging = platform.staging := by
  rw [completePending]
  split_ifs <;> rfl

@[simp] theorem completePending_rollbackFloor (platform : FirmwarePlatform) (versionCounter : U32) (confirmed : U8)
    (outcome : CallbackOutcome) :
    (platform.completePending versionCounter confirmed outcome).2.rollbackFloor = platform.rollbackFloor := by
  rw [completePending]
  split_ifs <;> rfl

theorem completePending_active (platform : FirmwarePlatform) (versionCounter : U32) (outcome : CallbackOutcome) :
    (platform.completePending versionCounter 0 outcome).2.activeVersionCounter = platform.activeVersionCounter := by
  rw [completePending]
  cases outcome.effective <;> rfl

theorem markPending_pending (platform : FirmwarePlatform) (marker : PendingMarker) (outcome : CallbackOutcome) :
    (platform.markPending marker outcome).2.pending = if outcome.effective then some marker else platform.pending := by
  rw [markPending]
  cases outcome.effective <;> rfl

theorem persistFloor_pending (platform : FirmwarePlatform) (rollbackFloor : U32) (outcome : CallbackOutcome) :
    (platform.persistFloor rollbackFloor outcome).2.pending = platform.pending := by
  rw [persistFloor]
  split_ifs <;> rfl

theorem completePending_pending (platform : FirmwarePlatform) (versionCounter : U32) (confirmed : U8)
    (outcome : CallbackOutcome) : (platform.completePending versionCounter confirmed outcome).2.pending =
      if outcome.effective then none else platform.pending := by
  rw [completePending]
  cases outcome.effective <;> rfl

theorem markPending_ok (platform : FirmwarePlatform) (marker : PendingMarker) {outcome : CallbackOutcome}
    (succeeded : outcome.succeeds = true) :
    (platform.markPending marker outcome).2 = { platform with pending := some marker } := by
  rw [markPending, CallbackOutcome.effective, succeeded]
  rfl

theorem persistFloor_ok (platform : FirmwarePlatform) (rollbackFloor : U32) {outcome : CallbackOutcome}
    (succeeded : outcome.succeeds = true) :
    (platform.persistFloor rollbackFloor outcome).2 = { platform with rollbackFloor } := by
  rw [persistFloor, CallbackOutcome.effective, succeeded]
  rfl

theorem completePending_ok (platform : FirmwarePlatform) (versionCounter : U32) (confirmed : U8)
    {outcome : CallbackOutcome} (succeeded : outcome.succeeds = true) :
    (platform.completePending versionCounter confirmed outcome).2 =
      { platform with
        pending := none
        activeVersionCounter := if confirmed = 1 then versionCounter else platform.activeVersionCounter } := by
  rw [completePending, CallbackOutcome.effective, succeeded]
  rfl

end FirmwarePlatform

def zeroFirmwareManifest : FirmwareManifest := ⟨0, 0, 0, 0, 0, 0, 0, padded 32 [], 0, padded 64 []⟩

def firmwareLifecycleInit : FirmwareLifecycle := ⟨⟨0, 0, 0, 0⟩, 0, .idle, .none, zeroFirmwareManifest, 0⟩

def firmwareLifecycleConfigure (lifecycle : FirmwareLifecycle) (config : FirmwareConfig) :
    FirmwareResult × FirmwareLifecycle :=
  if config.maxImageSize = 0 then (.unconfigured, lifecycle)
  else if config.requiredSignatureAlgorithm ≠ firmwareSignatureEd25519 ∧
      config.requiredSignatureAlgorithm ≠ firmwareSignatureDemoHmacSha256 then (.invalidPayload, lifecycle)
  else if config.rollbackFloor > config.activeVersionCounter then (.invalidPayload, lifecycle)
  else (.ok, { firmwareLifecycleInit with config, configured := 1 })

def firmwareSignatureValid (algorithm signatureLength : U8) : Bool :=
  if algorithm = firmwareSignatureEd25519 then signatureLength = 64
  else if algorithm = firmwareSignatureDemoHmacSha256 then signatureLength = 32
  else false

def firmwareSignedDomain : List U8 := [0x47, 0x46, 0x2D, 0x4D, 0x31, 0x32, 0x2D, 0x49, 0x4D, 0x41, 0x47, 0x45]

/-- The signature transcript, when the algorithm and the signature width go together. -/
def firmwareSignedManifest (manifest : FirmwareManifest) : Option (List U8) :=
  if firmwareSignatureValid manifest.signatureAlgorithm manifest.signatureLength then
    some (firmwareSignedDomain ++ [firmwareSchemaVersion, manifest.signatureAlgorithm] ++ putU32Be manifest.keyId ++
      putU32Be manifest.versionCounter ++ putU16Be manifest.firmwareMajor ++ putU16Be manifest.firmwareMinor ++
      putU16Be manifest.firmwarePatch ++ putU32Be manifest.imageSize ++ manifest.imageSha256.1)
  else none

def FirmwareSystem.fail (system : FirmwareSystem) (failure : FirmwareFailure) (result : FirmwareResult) :
    FirmwareResult × FirmwareSystem :=
  (result, { system with lifecycle := { system.lifecycle with failure, state := .failed } })

def firmwareMinimumCounter (lifecycle : FirmwareLifecycle) : U32 :=
  if lifecycle.config.rollbackFloor > lifecycle.config.activeVersionCounter then lifecycle.config.rollbackFloor
  else lifecycle.config.activeVersionCounter

def firmwareBegin (system : FirmwareSystem) (manifest : FirmwareManifest) (erase : CallbackOutcome) :
    FirmwareResult × FirmwareSystem :=
  if system.lifecycle.configured = 0 then system.fail .unconfigured .unconfigured
  else if !firmwareSignatureValid manifest.signatureAlgorithm manifest.signatureLength then
    system.fail .invalidPayload .invalidPayload
  else if manifest.signatureAlgorithm ≠ system.lifecycle.config.requiredSignatureAlgorithm then
    system.fail .invalidPayload .invalidPayload
  else if manifest.imageSize = 0 ∨ manifest.imageSize > system.lifecycle.config.maxImageSize then
    system.fail .invalidPayload .invalidPayload
  else if manifest.versionCounter ≤ firmwareMinimumCounter system.lifecycle then
    system.fail .rollbackBlocked .rollbackBlocked
  else
    let erased := system.platform.erase manifest.imageSize erase
    if !erased.1 then FirmwareSystem.fail { system with platform := erased.2 } .storage .storage
    else
      (.ok,
        { lifecycle := { system.lifecycle with manifest, bytesReceived := 0, failure := .none, state := .receiving }
          platform := erased.2 })

def firmwareWriteChunk (system : FirmwareSystem) (chunk : FirmwareChunk) (write : CallbackOutcome) :
    FirmwareResult × FirmwareSystem :=
  if system.lifecycle.state ≠ .receiving then (.invalidState, system)
  else if chunk.length = 0 ∨ chunk.length > firmwareChunkMaxData then system.fail .invalidPayload .invalidPayload
  else if chunk.offset ≠ system.lifecycle.bytesReceived then system.fail .outOfOrder .outOfOrder
  else if chunk.offset.setWidth 64 + chunk.length.setWidth 64 > system.lifecycle.manifest.imageSize.setWidth 64 then
    system.fail .invalidPayload .invalidPayload
  else
    let written := system.platform.write chunk.offset (chunk.data.1.take chunk.length.toNat) write
    if !written.1 then FirmwareSystem.fail { system with platform := written.2 } .storage .storage
    else
      (.ok,
        { lifecycle :=
            { system.lifecycle with bytesReceived := system.lifecycle.bytesReceived + chunk.length.setWidth 32 }
          platform := written.2 })

section verifier

-- What the platform's trusted keys accept: algorithm, key slot, message and signature.
variable (trusted : U8 → U32 → List U8 → List U8 → Bool)

def verifySignature (manifest : FirmwareManifest) (message : List U8) (outcome : CallbackOutcome) : Bool :=
  outcome.succeeds && trusted manifest.signatureAlgorithm manifest.keyId message
    (manifest.signature.1.take manifest.signatureLength.toNat)

def firmwareFinalize (system : FirmwareSystem) (hash verify : CallbackOutcome) : FirmwareResult × FirmwareSystem :=
  if system.lifecycle.state ≠ .receiving then (.invalidState, system)
  else if system.lifecycle.bytesReceived ≠ system.lifecycle.manifest.imageSize then
    system.fail .invalidPayload .invalidPayload
  else match system.platform.hash system.lifecycle.manifest.imageSize hash with
    | none => system.fail .storage .storage
    | some digest =>
      if digest ≠ system.lifecycle.manifest.imageSha256.1 then system.fail .hashMismatch .hashMismatch
      else match firmwareSignedManifest system.lifecycle.manifest with
        | none => system.fail .invalidPayload .invalidPayload
        | some message =>
          if !verifySignature trusted system.lifecycle.manifest message verify then
            system.fail .signatureInvalid .signatureInvalid
          else if system.lifecycle.manifest.versionCounter ≤ firmwareMinimumCounter system.lifecycle then
            system.fail .rollbackBlocked .rollbackBlocked
          else (.ok, { system with lifecycle := { system.lifecycle with state := .verified, failure := .none } })

end verifier

def FirmwareManifest.marker (manifest : FirmwareManifest) : PendingMarker :=
  ⟨manifest.versionCounter, manifest.firmwareMajor, manifest.firmwareMinor, manifest.firmwarePatch⟩

def firmwareActivate (system : FirmwareSystem) (mark : CallbackOutcome) : FirmwareResult × FirmwareSystem :=
  if system.lifecycle.state ≠ .verified then (.invalidState, system)
  else
    let marked := system.platform.markPending system.lifecycle.manifest.marker mark
    if !marked.1 then FirmwareSystem.fail { system with platform := marked.2 } .activation .activation
    else
      (.ok,
        { lifecycle := { system.lifecycle with state := .pendingActivation, failure := .none }, platform := marked.2 })

def firmwareConfirmBoot (system : FirmwareSystem) (bootedVersionCounter : U32) (persist complete : CallbackOutcome) :
    FirmwareResult × FirmwareSystem :=
  if system.lifecycle.state ≠ .pendingActivation then (.invalidState, system)
  else if bootedVersionCounter ≠ system.lifecycle.manifest.versionCounter then
    system.fail .confirmation .confirmation
  else
    let persisted := system.platform.persistFloor bootedVersionCounter persist
    if !persisted.1 then FirmwareSystem.fail { system with platform := persisted.2 } .confirmation .confirmation
    else
      let config := { system.lifecycle.config with
        rollbackFloor := bootedVersionCounter, activeVersionCounter := bootedVersionCounter }
      let completed := persisted.2.completePending bootedVersionCounter 1 complete
      let system := { system with lifecycle := { system.lifecycle with config }, platform := completed.2 }
      if !completed.1 then system.fail .confirmation .confirmation
      else (.ok, { system with lifecycle := { system.lifecycle with state := .confirmed, failure := .none } })

def firmwareReportBootFailure (system : FirmwareSystem) (attemptedVersionCounter : U32) (complete : CallbackOutcome) :
    FirmwareResult × FirmwareSystem :=
  if system.lifecycle.state ≠ .pendingActivation then (.invalidState, system)
  else if attemptedVersionCounter ≠ system.lifecycle.manifest.versionCounter then (.invalidPayload, system)
  else
    let completed := system.platform.completePending attemptedVersionCounter 0 complete
    if !completed.1 then FirmwareSystem.fail { system with platform := completed.2 } .confirmation .confirmation
    else
      (.ok,
        { lifecycle := { system.lifecycle with state := .rolledBack, failure := .none }, platform := completed.2 })

/-- The RAM is lost, and the lifecycle configured again from what the platform persists. -/
def firmwareRestart (system : FirmwareSystem) (requiredSignatureAlgorithm : U8) (maxImageSize : U32) :
    FirmwareResult × FirmwareSystem :=
  let config : FirmwareConfig :=
    { requiredSignatureAlgorithm
      maxImageSize
      activeVersionCounter := system.platform.activeVersionCounter
      rollbackFloor := system.platform.rollbackFloor }
  let configured := firmwareLifecycleConfigure firmwareLifecycleInit config
  (configured.1, { system with lifecycle := configured.2 })

open ByteString

def firmwareManifestPrefixSize : Nat := 53
def firmwareChunkPrefixSize : Nat := 7
def firmwareStatusPayloadSize : Nat := 34

def FirmwareState.code : FirmwareState → U8
  | .idle => 0
  | .receiving => 1
  | .verified => 2
  | .pendingActivation => 3
  | .confirmed => 4
  | .rolledBack => 5
  | .failed => 6

def FirmwareFailure.code : FirmwareFailure → U8
  | .none => 0
  | .unconfigured => 1
  | .invalidPayload => 2
  | .rollbackBlocked => 3
  | .storage => 4
  | .hashMismatch => 5
  | .signatureInvalid => 6
  | .activation => 7
  | .confirmation => 8
  | .outOfOrder => 9

def firmwareDecodeManifest (payload : List U8) : Except FirmwareResult FirmwareManifest :=
  if payload.length < firmwareManifestPrefixSize then .error .invalidPayload
  else if payload.getD 0 0 ≠ firmwareSchemaVersion then .error .invalidPayload
  else
    let signatureAlgorithm := payload.getD 1 0
    let signatureLength := payload.getD 52 0
    if !firmwareSignatureValid signatureAlgorithm signatureLength then .error .invalidPayload
    else if payload.length ≠ firmwareManifestPrefixSize + signatureLength.toNat then .error .invalidPayload
    else
      let versionCounter := getU32Be (payload.drop 6)
      let imageSize := getU32Be (payload.drop 16)
      if versionCounter = 0 then .error .invalidPayload
      else if imageSize = 0 then .error .invalidPayload
      else
        .ok
          { signatureAlgorithm
            keyId := getU32Be (payload.drop 2)
            versionCounter
            firmwareMajor := getU16Be (payload.drop 10)
            firmwareMinor := getU16Be (payload.drop 12)
            firmwarePatch := getU16Be (payload.drop 14)
            imageSize
            imageSha256 := padded 32 (payload.drop 20)
            signatureLength
            signature := padded 64 (slice 53 signatureLength.toNat payload) }

def firmwareDecodeChunk (payload : List U8) : Except FirmwareResult FirmwareChunk :=
  if payload.length ≤ firmwareChunkPrefixSize then .error .invalidPayload
  else if payload.getD 0 0 ≠ firmwareSchemaVersion then .error .invalidPayload
  else
    let chunkLength := getU16Be (payload.drop 5)
    if chunkLength = 0 ∨ chunkLength > firmwareChunkMaxData then .error .invalidPayload
    else if payload.length ≠ firmwareChunkPrefixSize + chunkLength.toNat then .error .invalidPayload
    else
      .ok
        { offset := getU32Be (payload.drop 1)
          length := chunkLength
          data := padded 192 (slice 7 chunkLength.toNat payload) }

def firmwareDecodeAction (payload : List U8) : FirmwareResult :=
  if payload.length ≠ 1 then .invalidPayload
  else if payload.getD 0 0 ≠ firmwareSchemaVersion then .invalidPayload
  else .ok

structure FirmwareStatus where
  state : FirmwareState
  failure : FirmwareFailure
  signatureAlgorithm : U8
  activeVersionCounter : U32
  rollbackFloor : U32
  candidateVersionCounter : U32
  bytesReceived : U32
  imageSize : U32
  keyId : U32
  firmwareMajor : U16
  firmwareMinor : U16
  firmwarePatch : U16
  deriving DecidableEq

def firmwareStatus (lifecycle : FirmwareLifecycle) : FirmwareStatus :=
  let manifest := if lifecycle.manifest.versionCounter ≠ 0 then lifecycle.manifest else zeroFirmwareManifest
  { state := lifecycle.state
    failure := lifecycle.failure
    signatureAlgorithm := manifest.signatureAlgorithm
    activeVersionCounter := lifecycle.config.activeVersionCounter
    rollbackFloor := lifecycle.config.rollbackFloor
    candidateVersionCounter := manifest.versionCounter
    bytesReceived := if lifecycle.manifest.versionCounter ≠ 0 then lifecycle.bytesReceived else 0
    imageSize := manifest.imageSize
    keyId := manifest.keyId
    firmwareMajor := manifest.firmwareMajor
    firmwareMinor := manifest.firmwareMinor
    firmwarePatch := manifest.firmwarePatch }

def firmwareEncodeStatusPayload (status : FirmwareStatus) (capacity : Nat) : Option (List U8) :=
  if capacity < firmwareStatusPayloadSize then none
  else
    some ([firmwareSchemaVersion, status.state.code, status.failure.code, status.signatureAlgorithm] ++
      putU32Be status.activeVersionCounter ++ putU32Be status.rollbackFloor ++
      putU32Be status.candidateVersionCounter ++ putU32Be status.bytesReceived ++ putU32Be status.imageSize ++
      putU32Be status.keyId ++ putU16Be status.firmwareMajor ++ putU16Be status.firmwareMinor ++
      putU16Be status.firmwarePatch)

end Guardian.Firmware
