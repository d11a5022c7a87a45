import Guardian.Lib.Run
import Guardian.Firmware.FirmwareLifecycle

namespace Guardian.Firmware

open Word Guardian.Crypto

inductive FirmwareOperation
  | restart (requiredSignatureAlgorithm : U8) (maxImageSize : U32)
  | begin (manifest : FirmwareManifest) (erase : CallbackOutcome)
  | writeChunk (chunk : FirmwareChunk) (write : CallbackOutcome)
  | finalize (hash verify : CallbackOutcome)
  | activate (mark : CallbackOutcome)
  | confirmBoot (bootedVersionCounter : U32) (persist complete : CallbackOutcome)
  | reportBootFailure (attemptedVersionCounter : U32) (complete : CallbackOutcome)

structure FirmwareEntry where
  operation : FirmwareOperation
  result : FirmwareResult

/-- The system with its operations and their results, newest first. -/
structure FirmwareHistory where
  system : FirmwareSystem
  log : List FirmwareEntry

section runs

variable (trusted : U8 → U32 → List U8 → List U8 → Bool)

def FirmwareSystem.perform (system : FirmwareSystem) : FirmwareOperation → FirmwareResult × FirmwareSystem
  | .restart requiredSignatureAlgorithm maxImageSize => firmwareRestart system requiredSignatureAlgorithm maxImageSize
  | .begin manifest erase => firmwareBegin system manifest erase
  | .writeChunk chunk write => firmwareWriteChunk system chunk write
  | .finalize hash verify => firmwareFinalize trusted system hash verify
  | .activate mark => firmwareActivate system mark
  | .confirmBoot booted persist complete => firmwareConfirmBoot system booted persist complete
  | .reportBootFailure attempted complete => firmwareReportBootFailure system attempted complete

def FirmwareHistory.perform (history : FirmwareHistory) (operation : FirmwareOperation) : FirmwareHistory :=
  let moved := history.system.perform trusted operation
  ⟨moved.2, ⟨operation, moved.1⟩ :: history.log⟩

end runs

def FirmwareChunk.bytes (chunk : FirmwareChunk) : List U8 := chunk.data.1.take chunk.length.toNat

/-- The concatenation of the chunks accepted in the present transfer; `none` once its erase failed. -/
def acceptedBytes : List FirmwareEntry → Option (List U8)
  | [] => some []
  | ⟨.restart .., _⟩ :: _ => some []
  | ⟨.begin .., .ok⟩ :: _ => some []
  | ⟨.begin .., .storage⟩ :: _ => none
  | ⟨.writeChunk chunk _, .ok⟩ :: log => (acceptedBytes log).map (· ++ chunk.bytes)
  | _ :: log => acceptedBytes log

def FirmwareManifest.Signed (trusted : U8 → U32 → List U8 → List U8 → Bool) (manifest : FirmwareManifest) : Prop :=
  ∃ message, firmwareSignedManifest manifest = some message ∧
    trusted manifest.signatureAlgorithm manifest.keyId message
      (manifest.signature.1.take manifest.signatureLength.toNat) = true

/-- `finalize` checked these bytes against the manifest. -/
def FirmwareManifest.Checked (trusted : U8 → U32 → List U8 → List U8 → Bool) (manifest : FirmwareManifest)
    (bytes : List U8) : Prop :=
  bytes.length = manifest.imageSize.toNat ∧ sha256 bytes = manifest.imageSha256.1 ∧ manifest.Signed trusted

def FirmwareState.Live (state : FirmwareState) : Prop :=
  state = .receiving ∨ state = .verified ∨ state = .pendingActivation

def FirmwareLifecycle.failing (lifecycle : FirmwareLifecycle) (failure : FirmwareFailure) : FirmwareLifecycle :=
  { lifecycle with failure, state := .failed }

def FirmwareOperation.IsRestart : FirmwareOperation → Prop
  | .restart .. => True
  | _ => False

/-- The operation is not for the present state, or names another version. -/
def FirmwareSystem.Refuses (system : FirmwareSystem) : FirmwareOperation → Prop
  | .restart .. => False
  | .begin .. => False
  | .writeChunk .. => system.lifecycle.state ≠ .receiving
  | .finalize .. => system.lifecycle.state ≠ .receiving
  | .activate _ => system.lifecycle.state ≠ .verified
  | .confirmBoot .. => system.lifecycle.state ≠ .pendingActivation
  | .reportBootFailure attempted _ =>
    system.lifecycle.state ≠ .pendingActivation ∨ attempted ≠ system.lifecycle.manifest.versionCounter

/-- The operation can fail the candidate before it reaches the storage. -/
def FirmwareSystem.Fails (system : FirmwareSystem) : FirmwareOperation → Prop
  | .begin .. => True
  | .writeChunk .. => system.lifecycle.state = .receiving
  | .finalize .. => system.lifecycle.state = .receiving
  | _ => False

theorem FirmwareSystem.Refuses.running {system : FirmwareSystem} {operation : FirmwareOperation}
    (refuses : system.Refuses operation) : ¬ operation.IsRestart := by
  cases operation with
  | restart => exact fun _ => refuses
  | _ => exact id

theorem FirmwareSystem.Fails.running {system : FirmwareSystem} {operation : FirmwareOperation}
    (fails : system.Fails operation) : ¬ operation.IsRestart := by
  cases operation with
  | restart => exact fun _ => fails
  | _ => exact id

section moves

variable (trusted : U8 → U32 → List U8 → List U8 → Bool)

inductive FirmwareSystem.Moves (system : FirmwareSystem) : FirmwareOperation → FirmwareResult → FirmwareSystem → Prop
  | restarts (requiredSignatureAlgorithm : U8) (maxImageSize : U32) :
      Moves system (.restart requiredSignatureAlgorithm maxImageSize)
        (firmwareRestart system requiredSignatureAlgorithm maxImageSize).1
        (firmwareRestart system requiredSignatureAlgorithm maxImageSize).2
  | refuses (operation : FirmwareOperation) (result : FirmwareResult) (refuses : system.Refuses operation)
      (refused : result = .invalidState ∨ result = .invalidPayload) : Moves system operation result system
  | fails (operation : FirmwareOperation) (result : FirmwareResult) (failure : FirmwareFailure)
      (fails : system.Fails operation) (refused : result ≠ .ok)
      (intact : ∀ manifest erase, operation = .begin manifest erase → result ≠ .storage) :
      Moves system operation result { system with lifecycle := system.lifecycle.failing failure }
  | eraseFails (manifest : FirmwareManifest) (erase : CallbackOutcome) (failed : erase.succeeds = false) :
      Moves system (.begin manifest erase) .storage
        ⟨system.lifecycle.failing .storage, (system.platform.erase manifest.imageSize erase).2⟩
  | begins (manifest : FirmwareManifest) (erase : CallbackOutcome) (configured : system.lifecycle.configured ≠ 0)
      (above : firmwareMinimumCounter system.lifecycle < manifest.versionCounter) :
      Moves system (.begin manifest erase) .ok
        ⟨{ system.lifecycle with manifest, bytesReceived := 0, failure := .none, state := .receiving },
          (system.platform.erase manifest.imageSize erase).2⟩
  | writeFails (chunk : FirmwareChunk) (write : CallbackOutcome) (receiving : system.lifecycle.state = .receiving)
      (next : chunk.offset = system.lifecycle.bytesReceived) :
      Moves system (.writeChunk chunk write) .storage
        ⟨system.lifecycle.failing .storage, (system.platform.write chunk.offset chunk.bytes write).2⟩
  | writes (chunk : FirmwareChunk) (write : CallbackOutcome) (receiving : system.lifecycle.state = .receiving)
      (next : chunk.offset = system.lifecycle.bytesReceived) (short : chunk.length.toNat ≤ 192)
      (fits : system.lifecycle.bytesReceived.toNat + chunk.length.toNat ≤ system.lifecycle.manifest.imageSize.toNat)
      (succeeded : write.succeeds = true) :
      Moves system (.writeChunk chunk write) .ok
        ⟨{ system.lifecycle with bytesReceived := system.lifecycle.bytesReceived + chunk.length.setWidth 32 },
          (system.platform.write chunk.offset chunk.bytes write).2⟩
  | finalizes (hash verify : CallbackOutcome) (receiving : system.lifecycle.state = .receiving)
      (complete : system.lifecycle.bytesReceived = system.lifecycle.manifest.imageSize)
      (digest : sha256 (system.platform.image system.lifecycle.manifest.imageSize.toNat) =
        system.lifecycle.manifest.imageSha256.1)
      (signed : system.lifecycle.manifest.Signed trusted) :
      Moves system (.finalize hash verify) .ok
        { system with lifecycle := { system.lifecycle with state := .verified, failure := .none } }
  | activates (mark : CallbackOutcome) (verified : system.lifecycle.state = .verified)
      (succeeded : mark.succeeds = true) :
      Moves system (.activate mark) .ok
        ⟨{ system.lifecycle with state := .pendingActivation, failure := .none },
          { system.platform with pending := some system.lifecycle.manifest.marker }⟩
  | activationFails (mark : CallbackOutcome) (verified : system.lifecycle.state = .verified)
      (failed : mark.succeeds = false) :
      Moves system (.activate mark) .activation
        ⟨system.lifecycle.failing .activation,
          (system.platform.markPending system.lifecycle.manifest.marker mark).2⟩
  | confirms (booted : U32) (persist complete : CallbackOutcome)
      (pending : system.lifecycle.state = .pendingActivation)
      (same : booted = system.lifecycle.manifest.versionCounter) (persisted : persist.succeeds = true)
      (completed : complete.succeeds = true) :
      Moves system (.confirmBoot booted persist complete) .ok
        ⟨{ system.lifecycle with
            config := { system.lifecycle.config with rollbackFloor := booted, activeVersionCounter := booted }
            state := .confirmed, failure := .none },
          { system.platform with rollbackFloor := booted, pending := none, activeVersionCounter := booted }⟩
  | mismatches (booted : U32) (persist complete : CallbackOutcome)
      (pending : system.lifecycle.state = .pendingActivation)
      (other : booted ≠ system.lifecycle.manifest.versionCounter) :
      Moves system (.confirmBoot booted persist complete) .confirmation
        { system with lifecycle := system.lifecycle.failing .confirmation }
  | persistFails (booted : U32) (persist complete : CallbackOutcome)
      (pending : system.lifecycle.state = .pendingActivation)
      (same : booted = system.lifecycle.manifest.versionCounter) (failed : persist.succeeds = false) :
      Moves system (.confirmBoot booted persist complete) .confirmation
        ⟨system.lifecycle.failing .confirmation, (system.platform.persistFloor booted persist).2⟩
  | completionFails (booted : U32) (persist complete : CallbackOutcome)
      (pending : system.lifecycle.state = .pendingActivation)
      (same : booted = system.lifecycle.manifest.versionCounter) (persisted : persist.succeeds = true)
      (failed : complete.succeeds = false) :
      Moves system (.confirmBoot booted persist complete) .confirmation
        ⟨FirmwareLifecycle.failing { system.lifecycle with
            config := { system.lifecycle.config with rollbackFloor := booted, activeVersionCounter := booted } }
            .confirmation,
          (FirmwarePlatform.completePending { system.platform with rollbackFloor := booted } booted 1 complete).2⟩
  | rollsBack (attempted : U32) (complete : CallbackOutcome) (pending : system.lifecycle.state = .pendingActivation)
      (same : attempted = system.lifecycle.manifest.versionCounter) (completed : complete.succeeds = true) :
      Moves system (.reportBootFailure attempted complete) .ok
        ⟨{ system.lifecycle with state := .rolledBack, failure := .none },
          { system.platform with pending := none }⟩
  | rollbackFails (attempted : U32) (complete : CallbackOutcome)
      (pending : system.lifecycle.state = .pendingActivation)
      (same : attempted = system.lifecycle.manifest.versionCounter) (failed : complete.succeeds = false) :
      Moves system (.reportBootFailure attempted complete) .confirmation
        ⟨system.lifecycle.failing .confirmation, (system.platform.completePending attempted 0 complete).2⟩

variable {trusted} {system : FirmwareSystem}

theorem firmwareBegin_moves (manifest : FirmwareManifest) (erase : CallbackOutcome) :
    system.Moves trusted (.begin manifest erase) (firmwareBegin system manifest erase).1
      (firmwareBegin system manifest erase).2 := by
  rw [firmwareBegin]
  dsimp only
  split_ifs with unconfigured unsigned unauthorized bounds stale failed
  · exact .fails _ _ _ trivial nofun nofun
  · exact .fails _ _ _ trivial nofun nofun
  · exact .fails _ _ _ trivial nofun nofun
  · exact .fails _ _ _ trivial nofun nofun
  · exact .fails _ _ _ trivial nofun nofun
  · exact .eraseFails manifest erase (by simpa using failed)
  · exact .begins manifest erase unconfigured (BitVec.not_le.mp stale)

theorem firmwareWriteChunk_moves (chunk : FirmwareChunk) (write : CallbackOutcome) :
    system.Moves trusted (.writeChunk chunk write) (firmwareWriteChunk system chunk write).1
      (firmwareWriteChunk system chunk write).2 := by
  rw [firmwareWriteChunk]
  dsimp only
  split_ifs with receiving empty disordered long failed
  · exact .refuses _ _ receiving (Or.inl rfl)
  · exact .fails _ _ _ (not_not.mp receiving) nofun nofun
  · exact .fails _ _ _ (not_not.mp receiving) nofun nofun
  · exact .fails _ _ _ (not_not.mp receiving) nofun nofun
  · exact .writeFails chunk write (not_not.mp receiving) (not_not.mp disordered)
  · rw [not_not] at receiving disordered
    have short : chunk.length.toNat ≤ 192 := BitVec.not_lt.mp fun above => empty (Or.inr above)
    have fits : system.lifecycle.bytesReceived.toNat + chunk.length.toNat ≤
        system.lifecycle.manifest.imageSize.toNat := by
      rw [← disordered]
      bv_omega
    exact .writes chunk write receiving disordered short fits (by simpa using failed)

theorem firmwareFinalize_moves (hash verify : CallbackOutcome) :
    system.Moves trusted (.finalize hash verify) (firmwareFinalize trusted system hash verify).1
      (firmwareFinalize trusted system hash verify).2 := by
  rw [firmwareFinalize]
  by_cases receiving : system.lifecycle.state = .receiving
  swap
  · rw [if_pos receiving]
    exact .refuses _ _ receiving (Or.inl rfl)
  by_cases complete : system.lifecycle.bytesReceived = system.lifecycle.manifest.imageSize
  swap
  · rw [if_neg (not_not.mpr receiving), if_pos complete]
    exact .fails _ _ _ receiving nofun nofun
  rw [if_neg (not_not.mpr receiving), if_neg (not_not.mpr complete)]
  cases hashed : system.platform.hash system.lifecycle.manifest.imageSize hash with
  | none => exact .fails _ _ _ receiving nofun nofun
  | some digest =>
    dsimp only
    by_cases same : digest = system.lifecycle.manifest.imageSha256.1
    swap
    · rw [if_pos same]
      exact .fails _ _ _ receiving nofun nofun
    rw [if_neg (not_not.mpr same)]
    cases signed : firmwareSignedManifest system.lifecycle.manifest with
    | none => exact .fails _ _ _ receiving nofun nofun
    | some message =>
      dsimp only
      split_ifs with forged
      · exact .fails _ _ _ receiving nofun nofun
      · exact .fails _ _ _ receiving nofun nofun
      · have verified : verifySignature trusted system.lifecycle.manifest message verify = true := by
          simpa using forged
        rw [verifySignature, Bool.and_eq_true] at verified
        have image : sha256 (system.platform.image system.lifecycle.manifest.imageSize.toNat) = digest := by
          rw [FirmwarePlatform.hash] at hashed
          split_ifs at hashed
          exact Option.some.inj hashed
        exact .finalizes hash verify receiving complete (image.trans same) ⟨message, signed, verified.2⟩

theorem firmwareActivate_moves (mark : CallbackOutcome) :
    system.Moves trusted (.activate mark) (firmwareActivate system mark).1 (firmwareActivate system mark).2 := by
  rw [firmwareActivate]
  dsimp only
  split_ifs with verified failed
  · exact .refuses _ _ verified (Or.inl rfl)
  · exact .activationFails mark (not_not.mp verified) (by simpa using failed)
  · have succeeded : mark.succeeds = true := by simpa using failed
    rw [FirmwarePlatform.markPending_ok _ _ succeeded]
    exact .activates mark (not_not.mp verified) succeeded

theorem firmwareConfirmBoot_moves (booted : U32) (persist complete : CallbackOutcome) :
    system.Moves trusted (.confirmBoot booted persist complete) (firmwareConfirmBoot system booted persist complete).1
      (firmwareConfirmBoot system booted persist complete).2 := by
  rw [firmwareConfirmBoot]
  dsimp only
  split_ifs with pending other unpersisted incomplete
  · exact .refuses _ _ pending (Or.inl rfl)
  · exact .mismatches booted persist complete (not_not.mp pending) other
  · exact .persistFails booted persist complete (not_not.mp pending) (not_not.mp other) (by simpa using unpersisted)
  · have persisted : persist.succeeds = true := by simpa using unpersisted
    rw [FirmwarePlatform.persistFloor_ok _ _ persisted]
    exact .completionFails booted persist complete (not_not.mp pending) (not_not.mp other) persisted
      (by simpa using incomplete)
  · have persisted : persist.succeeds = true := by simpa using unpersisted
    have completed : complete.succeeds = true := by simpa using incomplete
    rw [FirmwarePlatform.persistFloor_ok _ _ persisted, FirmwarePlatform.completePending_ok _ _ _ completed]
    exact .confirms booted persist complete (not_not.mp pending) (not_not.mp other) persisted completed

theorem firmwareReportBootFailure_moves (attempted : U32) (complete : CallbackOutcome) :
    system.Moves trusted (.reportBootFailure attempted complete) (firmwareReportBootFailure system attempted complete).1
      (firmwareReportBootFailure system attempted complete).2 := by
  rw [firmwareReportBootFailure]
  dsimp only
  split_ifs with pending other incomplete
  · exact .refuses _ _ (Or.inl pending) (Or.inl rfl)
  · exact .refuses _ _ (Or.inr other) (Or.inr rfl)
  · exact .rollbackFails attempted complete (not_not.mp pending) (not_not.mp other) (by simpa using incomplete)
  · have completed : complete.succeeds = true := by simpa using incomplete
    rw [FirmwarePlatform.completePending_ok _ _ _ completed]
    exact .rollsBack attempted complete (not_not.mp pending) (not_not.mp other) completed

theorem FirmwareSystem.perform_moves (trusted : U8 → U32 → List U8 → List U8 → Bool) (system : FirmwareSystem)
    (operation : FirmwareOperation) :
    system.Moves trusted operation (system.perform trusted operation).1 (system.perform trusted operation).2 := by
  cases operation with
  | restart requiredSignatureAlgorithm maxImageSize => exact .restarts requiredSignatureAlgorithm maxImageSize
  | begin manifest erase => exact firmwareBegin_moves manifest erase
  | writeChunk chunk write => exact firmwareWriteChunk_moves chunk write
  | finalize hash verify => exact firmwareFinalize_moves hash verify
  | activate mark => exact firmwareActivate_moves mark
  | confirmBoot booted persist complete => exact firmwareConfirmBoot_moves booted persist complete
  | reportBootFailure attempted complete => exact firmwareReportBootFailure_moves attempted complete

end moves

end Guardian.Firmware
