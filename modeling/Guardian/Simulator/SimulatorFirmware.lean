import Guardian.Host.FirmwareCodec

namespace Guardian.Simulator

open Word Crypto Firmware Host

inductive SimulatorFirmwareError
  | payload (failure : FirmwareValueFailure)
  | imageTooLarge
  | outOfOrder
  | chunkBeyondImage
  | imageIncomplete
  | rollback
  | signatureAlgorithm
  | signatureInvalid
  | notReceiving
  | notVerified
  | notPending
  | hashMismatch
  deriving DecidableEq, Repr

structure SimulatorFirmwareLifecycle where
  signingKey : Bytes 32
  activeVersionCounter : Nat
  rollbackFloor : Nat
  maxImageSize : Nat
  manifest : Option Host.FirmwareManifest
  image : List U8
  bytesReceived : Nat
  state : FirmwareState
  failure : FirmwareFailure
  deriving DecidableEq

namespace SimulatorFirmwareLifecycle

def init (signingKey : Bytes 32) (activeVersionCounter maxImageSize : Nat) : SimulatorFirmwareLifecycle where
  signingKey := signingKey
  activeVersionCounter := activeVersionCounter
  rollbackFloor := activeVersionCounter
  maxImageSize := maxImageSize
  manifest := none
  image := []
  bytesReceived := 0
  state := .idle
  failure := .none

def fail (lifecycle : SimulatorFirmwareLifecycle) (failure : FirmwareFailure) (error : SimulatorFirmwareError) :
    Except SimulatorFirmwareError Unit × SimulatorFirmwareLifecycle :=
  (.error error, { lifecycle with failure, state := .failed })

def begin (lifecycle : SimulatorFirmwareLifecycle) (payload : List U8) :
    Except SimulatorFirmwareError Unit × SimulatorFirmwareLifecycle :=
  match decodeFirmwareManifest payload with
  | .error failure => (.error (.payload failure), lifecycle)
  | .ok manifest =>
    if manifest.signatureAlgorithm ≠ .demoHmacSha256 then lifecycle.fail .signatureInvalid .signatureAlgorithm
    else if manifest.versionCounter.toNat ≤ max lifecycle.activeVersionCounter lifecycle.rollbackFloor then
      lifecycle.fail .rollbackBlocked .rollback
    else if manifest.imageSize.toNat > lifecycle.maxImageSize then lifecycle.fail .invalidPayload .imageTooLarge
    else
      (.ok (),
        { lifecycle with
          manifest := some manifest
          image := List.replicate manifest.imageSize.toNat 0
          bytesReceived := 0
          failure := .none
          state := .receiving })

/-- `image[offset:end] = data`. -/
def spliced (image : List U8) (offset finish : Nat) (data : List U8) : List U8 :=
  image.take offset ++ data ++ image.drop finish

def writeChunk (lifecycle : SimulatorFirmwareLifecycle) (payload : List U8) :
    Except SimulatorFirmwareError Unit × SimulatorFirmwareLifecycle :=
  match lifecycle.manifest with
  | none => (.error .notReceiving, lifecycle)
  | some manifest =>
    if lifecycle.state ≠ .receiving then (.error .notReceiving, lifecycle)
    else match decodeFirmwareChunk payload with
      | .error failure => (.error (.payload failure), lifecycle)
      | .ok chunk =>
        if chunk.offset.toNat ≠ lifecycle.bytesReceived then lifecycle.fail .outOfOrder .outOfOrder
        else
          let finish := chunk.offset.toNat + chunk.data.length
          if finish > manifest.imageSize.toNat then lifecycle.fail .invalidPayload .chunkBeyondImage
          else
            (.ok (),
              { lifecycle with
                image := spliced lifecycle.image chunk.offset.toNat finish chunk.data
                bytesReceived := finish })

def finalize (lifecycle : SimulatorFirmwareLifecycle) (payload : List U8) :
    Except SimulatorFirmwareError Unit × SimulatorFirmwareLifecycle :=
  match decodeFirmwareAction payload with
  | .error failure => (.error (.payload failure), lifecycle)
  | .ok () =>
    match lifecycle.manifest with
    | none => (.error .notReceiving, lifecycle)
    | some manifest =>
      if lifecycle.state ≠ .receiving then (.error .notReceiving, lifecycle)
      else if lifecycle.bytesReceived ≠ manifest.imageSize.toNat then lifecycle.fail .invalidPayload .imageIncomplete
      else if sha256 lifecycle.image ≠ manifest.imageSha256.1 then lifecycle.fail .hashMismatch .hashMismatch
      else match demoVerifyFirmwareManifest manifest lifecycle.signingKey with
        | .error failure => (.error (.payload failure), lifecycle)
        | .ok verified =>
          if !verified then lifecycle.fail .signatureInvalid .signatureInvalid
          else if manifest.versionCounter.toNat ≤ max lifecycle.activeVersionCounter lifecycle.rollbackFloor then
            lifecycle.fail .rollbackBlocked .rollback
          else (.ok (), { lifecycle with state := .verified, failure := .none })

def activate (lifecycle : SimulatorFirmwareLifecycle) (payload : List U8) :
    Except SimulatorFirmwareError Unit × SimulatorFirmwareLifecycle :=
  match decodeFirmwareAction payload with
  | .error failure => (.error (.payload failure), lifecycle)
  | .ok () =>
    if lifecycle.state ≠ .verified ∨ lifecycle.manifest = none then (.error .notVerified, lifecycle)
    else (.ok (), { lifecycle with state := .pendingActivation, failure := .none })

def confirmBoot (lifecycle : SimulatorFirmwareLifecycle) :
    Except SimulatorFirmwareError Unit × SimulatorFirmwareLifecycle :=
  match lifecycle.manifest with
  | none => (.error .notPending, lifecycle)
  | some manifest =>
    if lifecycle.state ≠ .pendingActivation then (.error .notPending, lifecycle)
    else
      (.ok (),
        { lifecycle with
          activeVersionCounter := manifest.versionCounter.toNat
          rollbackFloor := manifest.versionCounter.toNat
          state := .confirmed
          failure := .none })

def reportBootFailure (lifecycle : SimulatorFirmwareLifecycle) :
    Except SimulatorFirmwareError Unit × SimulatorFirmwareLifecycle :=
  if lifecycle.state ≠ .pendingActivation then (.error .notPending, lifecycle)
  else (.ok (), { lifecycle with state := .rolledBack, failure := .none })

def status (lifecycle : SimulatorFirmwareLifecycle) : Host.FirmwareStatus where
  state := lifecycle.state
  failure := lifecycle.failure
  signatureAlgorithm := lifecycle.manifest.elim 0 (·.signatureAlgorithm.code.toNat)
  activeVersionCounter := lifecycle.activeVersionCounter
  rollbackFloor := lifecycle.rollbackFloor
  candidateVersionCounter := lifecycle.manifest.elim 0 (·.versionCounter.toNat)
  bytesReceived := lifecycle.bytesReceived
  imageSize := lifecycle.manifest.elim 0 (·.imageSize.toNat)
  keyId := lifecycle.manifest.elim 0 (·.keyId.toNat)
  firmwareMajor := lifecycle.manifest.elim 0 (·.firmwareMajor.toNat)
  firmwareMinor := lifecycle.manifest.elim 0 (·.firmwareMinor.toNat)
  firmwarePatch := lifecycle.manifest.elim 0 (·.firmwarePatch.toNat)

end SimulatorFirmwareLifecycle

end Guardian.Simulator
