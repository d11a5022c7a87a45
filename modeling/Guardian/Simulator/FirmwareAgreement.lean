import Guardian.Lib.Word
import Guardian.Simulator.FirmwareMirror

namespace Guardian.Simulator

open Word Crypto Firmware Host

def workingCallback (erased : Nat → U8) : CallbackOutcome := ⟨true, true, erased⟩

def demoTrusted (key : Bytes 32) (algorithm : U8) (_keyId : U32) (message signature : List U8) : Bool :=
  algorithm = firmwareSignatureDemoHmacSha256 ∧ signature = hmacSha256 key.1 message

/-- The result of the device that an exception of the simulator stands for. -/
def SimulatorFirmwareError.result : SimulatorFirmwareError → FirmwareResult
  | .payload _ => .invalidPayload
  | .imageTooLarge => .invalidPayload
  | .outOfOrder => .outOfOrder
  | .chunkBeyondImage => .invalidPayload
  | .imageIncomplete => .invalidPayload
  | .rollback => .rollbackBlocked
  | .signatureAlgorithm => .signatureInvalid
  | .signatureInvalid => .signatureInvalid
  | .notReceiving => .invalidState
  | .notVerified => .invalidState
  | .notPending => .invalidState
  | .hashMismatch => .hashMismatch

def simulatorResult : Except SimulatorFirmwareError Unit → FirmwareResult
  | .ok () => .ok
  | .error failure => failure.result

/-- The candidate has its metadata, or there is none and nothing was received for it. -/
structure CandidateMirrored (lifecycle : FirmwareLifecycle) (manifest : Option Host.FirmwareManifest) : Prop where
  none : lifecycle.manifest.versionCounter = 0 → manifest = .none ∧ lifecycle.manifest = zeroFirmwareManifest ∧
    lifecycle.bytesReceived = 0 ∧ lifecycle.state ≠ .receiving ∧ lifecycle.state ≠ .verified ∧
    lifecycle.state ≠ .pendingActivation
  some : lifecycle.manifest.versionCounter ≠ 0 → manifest = .some (mirrorManifest lifecycle.manifest) ∧
    DecodedManifest lifecycle.manifest ∧ lifecycle.manifest.signatureAlgorithm = firmwareSignatureDemoHmacSha256

/-- The device and the simulator are at the same point of the same transfer. -/
structure FirmwareMatched (key : Bytes 32) (device : FirmwareSystem) (simulator : SimulatorFirmwareLifecycle) : Prop where
  configured : device.lifecycle.configured ≠ 0
  required : device.lifecycle.config.requiredSignatureAlgorithm = firmwareSignatureDemoHmacSha256
  signingKey : simulator.signingKey = key
  maxImageSize : simulator.maxImageSize = device.lifecycle.config.maxImageSize.toNat
  active : simulator.activeVersionCounter = device.lifecycle.config.activeVersionCounter.toNat
  floor : simulator.rollbackFloor = device.lifecycle.config.rollbackFloor.toNat
  state : simulator.state = device.lifecycle.state
  failure : simulator.failure = device.lifecycle.failure
  candidate : CandidateMirrored device.lifecycle simulator.manifest
  received : simulator.bytesReceived = device.lifecycle.bytesReceived.toNat
  within : device.lifecycle.bytesReceived ≤ device.lifecycle.manifest.imageSize
  size : simulator.image.length = device.lifecycle.manifest.imageSize.toNat
  staged : simulator.image.take device.lifecycle.bytesReceived.toNat =
    device.platform.image device.lifecycle.bytesReceived.toNat

structure FirmwareStepAgrees (key : Bytes 32) (device : FirmwareResult × FirmwareSystem)
    (simulator : Except SimulatorFirmwareError Unit × SimulatorFirmwareLifecycle) : Prop where
  result : simulatorResult simulator.1 = device.1
  matched : FirmwareMatched key device.2 simulator.2

section steps

variable {key : Bytes 32} {device : FirmwareSystem} {simulator : SimulatorFirmwareLifecycle} {erased : Nat → U8}

theorem matched_status (matched : FirmwareMatched key device simulator) :
    simulator.status = readFirmwareStatus (firmwareStatus device.lifecycle) := by
  unfold SimulatorFirmwareLifecycle.status firmwareStatus readFirmwareStatus
  by_cases version : device.lifecycle.manifest.versionCounter = 0
  · obtain ⟨absent, -, nothing, -⟩ := matched.candidate.none version
    simp only [absent, version, matched.state, matched.failure, matched.active, matched.floor, matched.received, nothing]
    rfl
  · obtain ⟨present, decoded, demo⟩ := matched.candidate.some version
    have algorithm : (mirrorManifest device.lifecycle.manifest).signatureAlgorithm.code =
        device.lifecycle.manifest.signatureAlgorithm := by
      rw [mirrorManifest, demo]
      rfl
    simp only [present, if_pos (show device.lifecycle.manifest.versionCounter ≠ 0 from version), matched.state,
      matched.failure, matched.active, matched.floor, matched.received, Option.elim, algorithm]
    rfl

theorem fail_agrees (matched : FirmwareMatched key device simulator) (failure : FirmwareFailure) {result : FirmwareResult}
    {error : SimulatorFirmwareError} (same : error.result = result) :
    FirmwareStepAgrees key (device.fail failure result) (simulator.fail failure error) where
  result := same
  matched :=
    { matched with
      state := rfl
      failure := rfl
      candidate :=
        { none := fun version => by
            obtain ⟨absent, zero, nothing, -⟩ := matched.candidate.none version
            exact ⟨absent, zero, nothing, by simp [FirmwareSystem.fail], by simp [FirmwareSystem.fail],
              by simp [FirmwareSystem.fail]⟩
          some := matched.candidate.some } }

theorem minimum_mirrors (matched : FirmwareMatched key device simulator) (versionCounter : U32) :
    versionCounter.toNat ≤ max simulator.activeVersionCounter simulator.rollbackFloor ↔
      versionCounter ≤ firmwareMinimumCounter device.lifecycle := by
  rw [matched.active, matched.floor]
  unfold firmwareMinimumCounter
  by_cases above : device.lifecycle.config.rollbackFloor > device.lifecycle.config.activeVersionCounter
  · have order := BitVec.lt_def.mp above
    rw [if_pos above, BitVec.le_def]
    omega
  · have order := BitVec.le_def.mp (BitVec.not_lt.mp above)
    rw [if_neg above, BitVec.le_def]
    omega

theorem refused_agrees (matched : FirmwareMatched key device simulator) {result : FirmwareResult}
    {error : SimulatorFirmwareError} (same : error.result = result) :
    FirmwareStepAgrees key (result, device) (.error error, simulator) := ⟨same, matched⟩

def deviceFirmwareBegin (device : FirmwareSystem) (payload : List U8) (erased : Nat → U8) : FirmwareResult × FirmwareSystem :=
  match firmwareDecodeManifest payload with
  | .ok manifest => firmwareBegin device manifest (workingCallback erased)
  | .error result => (result, device)

/-- A well-formed manifest is signed with the demonstration algorithm, and is not both stale and too large. -/
def ManifestAlike (device : FirmwareSystem) (payload : List U8) : Prop :=
  ∀ manifest, firmwareDecodeManifest payload = .ok manifest →
    manifest.signatureAlgorithm = firmwareSignatureDemoHmacSha256 ∧
      ¬ (manifest.versionCounter ≤ firmwareMinimumCounter device.lifecycle ∧
        manifest.imageSize > device.lifecycle.config.maxImageSize)

theorem firmwareBegin_agrees (matched : FirmwareMatched key device simulator) {payload : List U8}
    (alike : ManifestAlike device payload) (erased : Nat → U8) :
    FirmwareStepAgrees key (deviceFirmwareBegin device payload erased) (simulator.begin payload) := by
  unfold deviceFirmwareBegin SimulatorFirmwareLifecycle.begin
  have read := decodeManifest_mirrors payload
  unfold ManifestAlike at alike
  generalize firmwareDecodeManifest payload = decoded at read alike ⊢
  generalize decodeFirmwareManifest payload = host at read ⊢
  cases read with
  | refused failure => exact refused_agrees matched rfl
  | accepted manifest checks =>
    obtain ⟨demo, single⟩ := alike manifest rfl
    have algorithm : (mirrorManifest manifest).signatureAlgorithm = .demoHmacSha256 := by
      rw [mirrorManifest, demo]
      rfl
    dsimp only
    unfold firmwareBegin
    rw [mirrorManifest_versionCounter, mirrorManifest_imageSize, if_neg (not_not.mpr algorithm), if_neg matched.configured, checks.signature, matched.required,
      if_neg (not_not.mpr demo)]
    have minimum := minimum_mirrors matched manifest.versionCounter
    have large : manifest.imageSize.toNat > simulator.maxImageSize ↔
        manifest.imageSize > device.lifecycle.config.maxImageSize := by
      rw [matched.maxImageSize, gt_iff_lt, gt_iff_lt, BitVec.lt_def]
    by_cases stale : manifest.versionCounter ≤ firmwareMinimumCounter device.lifecycle
    · have fits : ¬ manifest.imageSize > device.lifecycle.config.maxImageSize := fun big => single ⟨stale, big⟩
      rw [if_pos (minimum.mpr stale),
        if_neg (not_or.mpr ⟨checks.size, fits⟩), if_pos stale]
      exact fail_agrees matched _ rfl
    rw [if_neg (mt minimum.mp stale)]
    by_cases big : manifest.imageSize > device.lifecycle.config.maxImageSize
    · rw [if_pos (large.mpr big), if_pos (Or.inr big)]
      exact fail_agrees matched _ rfl
    rw [if_neg (mt large.mp big), if_neg (not_or.mpr ⟨checks.size, big⟩), if_neg stale]
    constructor
    · rfl
    · exact
        { matched with
          state := rfl
          failure := rfl
          candidate :=
            { none := fun version => absurd version checks.version
              some := fun _ => ⟨rfl, checks, demo⟩ }
          received := rfl
          within := BitVec.le_def.mpr (Nat.zero_le _)
          size := List.length_replicate
          staged := rfl }

theorem spliced_length {image data : List U8} {offset : Nat} (fits : offset + data.length ≤ image.length) :
    (SimulatorFirmwareLifecycle.spliced image offset (offset + data.length) data).length = image.length := by
  simp only [SimulatorFirmwareLifecycle.spliced, List.length_append, List.length_take, List.length_drop]
  omega

theorem spliced_take {image data : List U8} {offset : Nat} (fits : offset + data.length ≤ image.length) :
    (SimulatorFirmwareLifecycle.spliced image offset (offset + data.length) data).take (offset + data.length) =
      image.take offset ++ data := by
  apply List.take_left'
  rw [List.length_append, List.length_take]
  omega

theorem candidate_present (matched : FirmwareMatched key device simulator) (running : device.lifecycle.state = .receiving ∨
      device.lifecycle.state = .verified ∨ device.lifecycle.state = .pendingActivation) :
    device.lifecycle.manifest.versionCounter ≠ 0 := by
  intro version
  obtain ⟨-, -, -, receiving, verified, pending⟩ := matched.candidate.none version
  rcases running with now | now | now
  · exact receiving now
  · exact verified now
  · exact pending now

def deviceFirmwareChunk (device : FirmwareSystem) (payload : List U8) (erased : Nat → U8) :
    FirmwareResult × FirmwareSystem :=
  match firmwareDecodeChunk payload with
  | .ok chunk => firmwareWriteChunk device chunk (workingCallback erased)
  | .error result => (result, device)

def ChunkAlike (device : FirmwareSystem) (payload : List U8) : Prop :=
  device.lifecycle.state ≠ .receiving → ∃ chunk, firmwareDecodeChunk payload = .ok chunk

theorem firmwareChunk_agrees (matched : FirmwareMatched key device simulator) {payload : List U8}
    (alike : ChunkAlike device payload) (erased : Nat → U8) :
    FirmwareStepAgrees key (deviceFirmwareChunk device payload erased) (simulator.writeChunk payload) := by
  unfold deviceFirmwareChunk SimulatorFirmwareLifecycle.writeChunk
  rw [matched.state]
  by_cases outside : device.lifecycle.state ≠ .receiving
  · obtain ⟨chunk, decoded⟩ := alike outside
    rw [decoded]
    dsimp only
    unfold firmwareWriteChunk
    rw [if_pos outside]
    cases simulator.manifest with
    | none => exact refused_agrees matched rfl
    | some manifest =>
      dsimp only
      rw [if_pos outside]
      exact refused_agrees matched rfl
  have version := candidate_present matched (Or.inl (not_not.mp outside))
  obtain ⟨present, decoded, demo⟩ := matched.candidate.some version
  rw [present]
  dsimp only
  rw [if_neg outside]
  have read := decodeChunk_mirrors payload
  generalize firmwareDecodeChunk payload = device' at read ⊢
  generalize decodeFirmwareChunk payload = host at read ⊢
  cases read with
  | refused failure => exact refused_agrees matched rfl
  | accepted chunk checks =>
    dsimp only
    have short : chunk.length.toNat ≤ 192 := BitVec.le_def.mp checks.bounded
    have bytes := FirmwareChunk.bytes_length short
    unfold firmwareWriteChunk
    rw [if_neg outside, if_neg (not_or.mpr ⟨checks.positive, BitVec.not_lt.mpr checks.bounded⟩), matched.received]
    by_cases gap : chunk.offset ≠ device.lifecycle.bytesReceived
    · rw [if_pos gap, if_pos (show (mirrorChunk chunk).offset.toNat ≠ _ from fun same => gap (BitVec.eq_of_toNat_eq same))]
      exact fail_agrees matched _ rfl
    rw [if_neg gap, if_neg (show ¬ (mirrorChunk chunk).offset.toNat ≠ _ from not_not.mpr (congrArg BitVec.toNat (not_not.mp gap)))]
    have next := not_not.mp gap
    have bound := device.lifecycle.manifest.imageSize.isLt
    have beyond : (mirrorChunk chunk).offset.toNat + (mirrorChunk chunk).data.length >
        (mirrorManifest device.lifecycle.manifest).imageSize.toNat ↔
          chunk.offset.setWidth 64 + chunk.length.setWidth 64 > device.lifecycle.manifest.imageSize.setWidth 64 := by
      have offset := chunk.offset.isLt
      change chunk.offset.toNat + chunk.bytes.length > device.lifecycle.manifest.imageSize.toNat ↔ _
      rw [bytes, gt_iff_lt, gt_iff_lt, BitVec.lt_def, BitVec.toNat_add, BitVec.toNat_setWidth, BitVec.toNat_setWidth,
        BitVec.toNat_setWidth]
      omega
    by_cases exceeds : chunk.offset.setWidth 64 + chunk.length.setWidth 64 > device.lifecycle.manifest.imageSize.setWidth 64
    · rw [if_pos (beyond.mpr exceeds), if_pos exceeds]
      exact fail_agrees matched _ rfl
    rw [if_neg (mt beyond.mp exceeds), if_neg exceeds]
    have fits : chunk.offset.toNat + chunk.bytes.length ≤ device.lifecycle.manifest.imageSize.toNat :=
      Nat.not_lt.mp (mt beyond.mp exceeds)
    have total : (device.lifecycle.bytesReceived + chunk.length.setWidth 32).toNat =
        chunk.offset.toNat + chunk.bytes.length := by
      rw [← next, bytes, BitVec.toNat_add, BitVec.toNat_setWidth]
      omega
    have image := device.platform.write_image chunk.offset chunk.bytes
      (show (workingCallback erased).succeeds = true from rfl)
    constructor
    · rfl
    · exact
        { matched with
          state := rfl
          candidate :=
            { none := fun zero => absurd zero version
              some := fun _ => ⟨rfl, decoded, demo⟩ }
          received := total.symm
          within := by
            change device.lifecycle.bytesReceived + chunk.length.setWidth 32 ≤ _
            rw [BitVec.le_def, total]
            exact fits
          size := by
            rw [← matched.size] at fits
            exact (spliced_length fits).trans matched.size
          staged := by
            change List.take (device.lifecycle.bytesReceived + chunk.length.setWidth 32).toNat _ =
              FirmwarePlatform.image _ (device.lifecycle.bytesReceived + chunk.length.setWidth 32).toNat
            rw [← matched.size] at fits
            rw [total]
            refine (spliced_take fits).trans ?_
            have staged := matched.staged
            rw [← next] at staged
            rw [staged]
            exact image.symm }

theorem demoVerify_mirrors {manifest : Firmware.FirmwareManifest} (decoded : DecodedManifest manifest)
    (demo : manifest.signatureAlgorithm = firmwareSignatureDemoHmacSha256) (key : Bytes 32) :
    ∃ message, firmwareSignedManifest manifest = some message ∧
      demoVerifyFirmwareManifest (mirrorManifest manifest) key =
        .ok (decide ((mirrorManifest manifest).signature = hmacSha256 key.1 message)) := by
  have algorithm : (mirrorManifest manifest).signatureAlgorithm = .demoHmacSha256 := by
    rw [mirrorManifest, demo]
    rfl
  have length : manifest.signatureLength = 32 := by
    rcases signatureValid_cases decoded.signature with ⟨ed25519, -⟩ | ⟨-, wide⟩
    · rw [demo] at ed25519
      exact absurd ed25519 (by decide)
    · exact wide
  have wide : (mirrorManifest manifest).signature.length = 32 := by
    rw [mirrorManifest, length]
    exact (List.length_take.trans (by rw [manifest.signature.2]; rfl))
  have valid : validateFirmwareManifest (mirrorManifest manifest) = .ok (mirrorManifest manifest) := by
    have width : validateSignature (mirrorManifest manifest).signatureAlgorithm (mirrorManifest manifest).signature =
        .ok (mirrorManifest manifest).signature := by
      rw [algorithm]
      exact if_neg (not_not.mpr wide)
    unfold validateFirmwareManifest
    rw [if_neg (show ¬ (mirrorManifest manifest).versionCounter = 0 from decoded.version),
      if_neg (show ¬ (mirrorManifest manifest).imageSize = 0 from decoded.size), width]
    rfl
  let unsigned : Host.FirmwareManifest :=
    { mirrorManifest manifest with signatureAlgorithm := .demoHmacSha256, signature := List.replicate 32 0 }
  have plain : validateFirmwareManifest unsigned = .ok unsigned := by
    unfold validateFirmwareManifest
    rw [if_neg (show ¬ unsigned.versionCounter = 0 from decoded.version),
      if_neg (show ¬ unsigned.imageSize = 0 from decoded.size)]
    rfl
  refine ⟨_, if_pos decoded.signature, ?_⟩
  unfold demoVerifyFirmwareManifest demoSignFirmwareManifest canonicalFirmwareManifest
  rw [valid]
  dsimp only
  rw [if_neg (not_not.mpr algorithm), plain, demo]
  rfl

theorem advanced (matched : FirmwareMatched key device simulator)
    (version : device.lifecycle.manifest.versionCounter ≠ 0) (state : FirmwareState) :
    FirmwareMatched key { device with lifecycle := { device.lifecycle with state, failure := .none } }
      { simulator with state, failure := .none } :=
  { matched with
    state := rfl
    failure := rfl
    candidate := { none := fun zero => absurd zero version, some := matched.candidate.some } }

def deviceFirmwareFinalize (key : Bytes 32) (device : FirmwareSystem) (payload : List U8) (erased : Nat → U8) :
    FirmwareResult × FirmwareSystem :=
  if firmwareDecodeAction payload = .ok then
    firmwareFinalize (demoTrusted key) device (workingCallback erased) (workingCallback erased)
  else (firmwareDecodeAction payload, device)

theorem firmwareFinalize_agrees (matched : FirmwareMatched key device simulator) (payload : List U8)
    (erased : Nat → U8) :
    FirmwareStepAgrees key (deviceFirmwareFinalize key device payload erased) (simulator.finalize payload) := by
  unfold deviceFirmwareFinalize SimulatorFirmwareLifecycle.finalize
  rcases decodeAction_mirrors payload with ⟨accepted, read⟩ | ⟨refused, failure, read⟩
  · rw [if_pos accepted, read, matched.state]
    dsimp only
    unfold firmwareFinalize
    by_cases outside : device.lifecycle.state ≠ .receiving
    · rw [if_pos outside]
      cases simulator.manifest with
      | none => exact refused_agrees matched rfl
      | some manifest =>
        dsimp only
        rw [if_pos outside]
        exact refused_agrees matched rfl
    obtain ⟨present, decoded, demo⟩ := matched.candidate.some (candidate_present matched (Or.inl (not_not.mp outside)))
    rw [if_neg outside, present]
    dsimp only
    rw [if_neg outside, matched.received]
    have equal : device.lifecycle.bytesReceived.toNat ≠ (mirrorManifest device.lifecycle.manifest).imageSize.toNat ↔
        device.lifecycle.bytesReceived ≠ device.lifecycle.manifest.imageSize := not_congr BitVec.toNat_inj
    have digest : sha256 simulator.image ≠ (mirrorManifest device.lifecycle.manifest).imageSha256.1 ↔
        sha256 simulator.image ≠ device.lifecycle.manifest.imageSha256.1 := Iff.rfl
    by_cases partly : device.lifecycle.bytesReceived ≠ device.lifecycle.manifest.imageSize
    · rw [if_pos partly, if_pos (equal.mpr partly)]
      exact fail_agrees matched _ rfl
    have complete := not_not.mp partly
    have image : device.platform.image device.lifecycle.manifest.imageSize.toNat = simulator.image := by
      rw [← complete, ← matched.staged, complete, ← matched.size, List.take_length]
    rw [if_neg partly, if_neg (mt equal.mp partly)]
    unfold FirmwarePlatform.hash
    rw [image, if_pos (show (workingCallback erased).succeeds = true from rfl)]
    dsimp only
    by_cases corrupt : sha256 simulator.image ≠ device.lifecycle.manifest.imageSha256.1
    · rw [if_pos corrupt, if_pos (digest.mpr corrupt)]
      exact fail_agrees matched _ rfl
    rw [if_neg corrupt, if_neg (mt digest.mp corrupt)]
    obtain ⟨message, signed, verified⟩ := demoVerify_mirrors decoded demo key
    rw [signed, matched.signingKey, verified]
    dsimp only
    have check : verifySignature (demoTrusted key) device.lifecycle.manifest message (workingCallback erased) =
        decide ((mirrorManifest device.lifecycle.manifest).signature = hmacSha256 key.1 message) := by
      simp only [verifySignature, demoTrusted, demo, workingCallback, true_and, Bool.true_and]
      rfl
    rw [check]
    by_cases forged : (mirrorManifest device.lifecycle.manifest).signature ≠ hmacSha256 key.1 message
    · rw [decide_eq_false forged]
      exact fail_agrees matched _ rfl
    rw [decide_eq_true (not_not.mp forged)]
    have minimum := minimum_mirrors matched (mirrorManifest device.lifecycle.manifest).versionCounter
    by_cases stale : device.lifecycle.manifest.versionCounter ≤ firmwareMinimumCounter device.lifecycle
    · rw [if_pos stale, if_pos (minimum.mpr stale)]
      exact fail_agrees matched _ rfl
    rw [if_neg stale, if_neg (mt minimum.mp stale), ← present, ← matched.received]
    have moved := advanced matched (candidate_present matched (Or.inl (not_not.mp outside))) .verified
    rw [matched.signingKey] at moved
    exact ⟨rfl, moved⟩
  · rw [if_neg (by rw [refused]; decide), read, refused]
    exact refused_agrees matched rfl

def deviceFirmwareActivate (device : FirmwareSystem) (payload : List U8) (erased : Nat → U8) :
    FirmwareResult × FirmwareSystem :=
  if firmwareDecodeAction payload = .ok then firmwareActivate device (workingCallback erased)
  else (firmwareDecodeAction payload, device)

theorem firmwareActivate_agrees (matched : FirmwareMatched key device simulator) (payload : List U8)
    (erased : Nat → U8) :
    FirmwareStepAgrees key (deviceFirmwareActivate device payload erased) (simulator.activate payload) := by
  unfold deviceFirmwareActivate SimulatorFirmwareLifecycle.activate
  rcases decodeAction_mirrors payload with ⟨accepted, read⟩ | ⟨refused, failure, read⟩
  · rw [if_pos accepted, read, matched.state]
    dsimp only
    unfold firmwareActivate
    by_cases outside : device.lifecycle.state ≠ .verified
    · rw [if_pos outside, if_pos (Or.inl outside)]
      exact refused_agrees matched rfl
    have version := candidate_present matched (Or.inr (Or.inl (not_not.mp outside)))
    have present : simulator.manifest ≠ none := by
      rw [(matched.candidate.some version).1]
      exact Option.some_ne_none _
    rw [if_neg outside, if_neg (not_or.mpr ⟨outside, present⟩)]
    have moved := advanced matched version .pendingActivation
    exact ⟨rfl, { moved with }⟩
  · rw [if_neg (by rw [refused]; decide), read, refused]
    exact refused_agrees matched rfl

def deviceConfirmBoot (device : FirmwareSystem) (erased : Nat → U8) : FirmwareResult × FirmwareSystem :=
  firmwareConfirmBoot device device.lifecycle.manifest.versionCounter (workingCallback erased) (workingCallback erased)

theorem confirmBoot_agrees (matched : FirmwareMatched key device simulator) (erased : Nat → U8) :
    FirmwareStepAgrees key (deviceConfirmBoot device erased) simulator.confirmBoot := by
  unfold deviceConfirmBoot SimulatorFirmwareLifecycle.confirmBoot firmwareConfirmBoot
  rw [matched.state]
  by_cases outside : device.lifecycle.state ≠ .pendingActivation
  · rw [if_pos outside]
    cases simulator.manifest with
    | none => exact refused_agrees matched rfl
    | some manifest =>
      dsimp only
      rw [if_pos outside]
      exact refused_agrees matched rfl
  have version := candidate_present matched (Or.inr (Or.inr (not_not.mp outside)))
  obtain ⟨present, decoded, demo⟩ := matched.candidate.some version
  rw [if_neg outside, if_neg (not_not.mpr rfl), present]
  dsimp only
  rw [if_neg outside, ← present]
  have moved := advanced matched version .confirmed
  exact ⟨rfl,
    { moved with
      active := rfl
      floor := rfl
      candidate := { none := fun zero => absurd zero version, some := fun _ => ⟨present, decoded, demo⟩ } }⟩

def deviceReportBootFailure (device : FirmwareSystem) (erased : Nat → U8) : FirmwareResult × FirmwareSystem :=
  firmwareReportBootFailure device device.lifecycle.manifest.versionCounter (workingCallback erased)

theorem reportBootFailure_agrees (matched : FirmwareMatched key device simulator) (erased : Nat → U8) :
    FirmwareStepAgrees key (deviceReportBootFailure device erased) simulator.reportBootFailure := by
  unfold deviceReportBootFailure SimulatorFirmwareLifecycle.reportBootFailure firmwareReportBootFailure
  rw [matched.state]
  by_cases outside : device.lifecycle.state ≠ .pendingActivation
  · rw [if_pos outside, if_pos outside]
    exact refused_agrees matched rfl
  rw [if_neg outside, if_neg outside, if_neg (not_not.mpr rfl)]
  have moved := advanced matched (candidate_present matched (Or.inr (Or.inr (not_not.mp outside)))) .rolledBack
  exact ⟨rfl, { moved with }⟩

end steps

inductive FirmwareInput
  | begin (payload : List U8)
  | chunk (payload : List U8)
  | finalize (payload : List U8)
  | activate (payload : List U8)
  | confirmBoot
  | reportBootFailure
  deriving DecidableEq, Repr

def FirmwareInput.device (key : Bytes 32) (erased : Nat → U8) (device : FirmwareSystem) :
    FirmwareInput → FirmwareResult × FirmwareSystem
  | .begin payload => deviceFirmwareBegin device payload erased
  | .chunk payload => deviceFirmwareChunk device payload erased
  | .finalize payload => deviceFirmwareFinalize key device payload erased
  | .activate payload => deviceFirmwareActivate device payload erased
  | .confirmBoot => deviceConfirmBoot device erased
  | .reportBootFailure => deviceReportBootFailure device erased

def FirmwareInput.simulator (simulator : SimulatorFirmwareLifecycle) :
    FirmwareInput → Except SimulatorFirmwareError Unit × SimulatorFirmwareLifecycle
  | .begin payload => simulator.begin payload
  | .chunk payload => simulator.writeChunk payload
  | .finalize payload => simulator.finalize payload
  | .activate payload => simulator.activate payload
  | .confirmBoot => simulator.confirmBoot
  | .reportBootFailure => simulator.reportBootFailure

def FirmwareInput.Alike (device : FirmwareSystem) : FirmwareInput → Prop
  | .begin payload => ManifestAlike device payload
  | .chunk payload => ChunkAlike device payload
  | _ => True

/-- Both lifecycles, and what they made of the operations so far. -/
structure FirmwarePair where
  device : FirmwareSystem
  simulator : SimulatorFirmwareLifecycle
  deviceResults : List FirmwareResult
  simulatorResults : List FirmwareResult

def FirmwarePair.step (key : Bytes 32) (erased : Nat → U8) (pair : FirmwarePair) (input : FirmwareInput) : FirmwarePair :=
  let device := input.device key erased pair.device
  let simulator := input.simulator pair.simulator
  { device := device.2
    simulator := simulator.2
    deviceResults := pair.deviceResults ++ [device.1]
    simulatorResults := pair.simulatorResults ++ [simulatorResult simulator.1] }

/-- The device configured for the demonstration algorithm, with the simulator's versions and capacity. -/
def firmwarePairStart (key : Bytes 32) (platform : FirmwarePlatform) (active maxImageSize : U32) : FirmwarePair where
  device :=
    { lifecycle := (firmwareLifecycleConfigure firmwareLifecycleInit
        ⟨firmwareSignatureDemoHmacSha256, maxImageSize, active, active⟩).2
      platform }
  simulator := .init key active.toNat maxImageSize.toNat
  deviceResults := []
  simulatorResults := []

def firmwarePairRun (key : Bytes 32) (erased : Nat → U8) (platform : FirmwarePlatform) (active maxImageSize : U32)
    (inputs : List FirmwareInput) : FirmwarePair :=
  Run.after (FirmwarePair.step key erased) inputs (firmwarePairStart key platform active maxImageSize)

/-- Every result so far was the same, and so is what both report. -/
structure FirmwarePair.Agrees (pair : FirmwarePair) : Prop where
  results : pair.simulatorResults = pair.deviceResults
  status : pair.simulator.status = readFirmwareStatus (firmwareStatus pair.device.lifecycle)

structure FirmwarePair.Matched (key : Bytes 32) (pair : FirmwarePair) : Prop where
  results : pair.simulatorResults = pair.deviceResults
  matched : FirmwareMatched key pair.device pair.simulator

theorem step_matched_firmware (key : Bytes 32) (erased : Nat → U8) (pair : FirmwarePair) (input : FirmwareInput)
    (matched : pair.Matched key) (alike : input.Alike pair.device) : (pair.step key erased input).Matched key := by
  have agrees : FirmwareStepAgrees key (input.device key erased pair.device) (input.simulator pair.simulator) := by
    cases input with
    | begin payload => exact firmwareBegin_agrees matched.matched alike erased
    | chunk payload => exact firmwareChunk_agrees matched.matched alike erased
    | finalize payload => exact firmwareFinalize_agrees matched.matched payload erased
    | activate payload => exact firmwareActivate_agrees matched.matched payload erased
    | confirmBoot => exact confirmBoot_agrees matched.matched erased
    | reportBootFailure => exact reportBootFailure_agrees matched.matched erased
  refine ⟨?_, agrees.matched⟩
  change pair.simulatorResults ++ [_] = pair.deviceResults ++ [_]
  rw [matched.results, agrees.result]

theorem firmwarePairStart_matched (key : Bytes 32) (platform : FirmwarePlatform) (active : U32) {maxImageSize : U32}
    (capacity : maxImageSize ≠ 0) : (firmwarePairStart key platform active maxImageSize).Matched key := by
  have configured : firmwareLifecycleConfigure firmwareLifecycleInit
      ⟨firmwareSignatureDemoHmacSha256, maxImageSize, active, active⟩ =
        (.ok, { firmwareLifecycleInit with
          config := ⟨firmwareSignatureDemoHmacSha256, maxImageSize, active, active⟩
          configured := 1 }) := by
    unfold firmwareLifecycleConfigure
    rw [if_neg capacity, if_neg (fun other => other.2 rfl), if_neg (show ¬ active > active from BitVec.lt_irrefl _)]
  constructor
  · rfl
  · unfold firmwarePairStart
    rw [configured]
    exact
      { configured := (by decide : (1 : U8) ≠ 0)
        required := rfl
        signingKey := rfl
        maxImageSize := rfl
        active := rfl
        floor := rfl
        state := rfl
        failure := rfl
        candidate :=
          { none := fun _ => ⟨rfl, rfl, rfl, FirmwareState.noConfusion, FirmwareState.noConfusion,
              FirmwareState.noConfusion⟩
            some := fun version => absurd rfl version }
        received := rfl
        within := BitVec.le_refl _
        size := rfl
        staged := rfl }

/-- The simulator decides as the device and reports the same lifecycle, on operations that both treat alike. -/
theorem simulator_firmware_mirrors (key : Bytes 32) (erased : Nat → U8) (platform : FirmwarePlatform) (active : U32)
    {maxImageSize : U32} (capacity : maxImageSize ≠ 0) (inputs : List FirmwareInput)
    (alike : ∀ earlier input later, inputs = earlier ++ input :: later →
      input.Alike (firmwarePairRun key erased platform active maxImageSize earlier).device) :
    (firmwarePairRun key erased platform active maxImageSize inputs).Agrees := by
  have matched : (firmwarePairRun key erased platform active maxImageSize inputs).Matched key :=
    Run.after_guarded (step_matched_firmware key erased) (firmwarePairStart_matched key platform active capacity) alike
  exact ⟨matched.results, matched_status matched.matched⟩

def blankPlatform : FirmwarePlatform := ⟨fun _ => 0xFF, none, 0, 0⟩

/-- The head of a manifest with the signature length that its algorithm asks for. -/
def manifestPayload (algorithm versionCounter imageSize signatureLength : U8) : List U8 :=
  [firmwareSchemaVersion, algorithm] ++ [0, 0, 0, 1] ++ [0, 0, 0, versionCounter] ++ [0, 1, 0, 0, 0, 0] ++
    [0, 0, 0, imageSize] ++ List.replicate 32 0 ++ [signatureLength] ++ List.replicate signatureLength.toNat 0

/-- The manifest of the image `[1, 2, 3, 4]`, signed under the key of zeros. -/
def signedManifestPayload : List U8 :=
  (manifestPayload 0xFE 2 4 32).take 20 ++
    [159, 100, 167, 71, 225, 185, 127, 19, 31, 171, 182, 180, 71, 41, 108, 155,
      111, 2, 1, 231, 159, 179, 197, 53, 110, 108, 119, 232, 155, 106, 128, 106] ++ [32] ++
    [116, 94, 253, 193, 196, 124, 210, 202, 62, 71, 120, 20, 11, 208, 63, 2,
      160, 149, 159, 90, 155, 58, 63, 59, 120, 255, 93, 142, 190, 203, 142, 106]

def updateInputs : List FirmwareInput :=
  [.begin signedManifestPayload, .chunk [firmwareSchemaVersion, 0, 0, 0, 0, 0, 4, 1, 2, 3, 4],
    .finalize [firmwareSchemaVersion], .activate [firmwareSchemaVersion]]

theorem simulator_firmware_mirrors_update :
    let run := firmwarePairRun (padded 32 []) (fun _ => 0xFF) blankPlatform 1 8 updateInputs
    run.simulatorResults = [.ok, .ok, .ok, .ok] ∧
      run.simulator.status = readFirmwareStatus (firmwareStatus run.device.lifecycle) := by
  intro run
  have alike : ∀ earlier input later, updateInputs = earlier ++ input :: later →
      input.Alike (firmwarePairRun (padded 32 []) (fun _ => 0xFF) blankPlatform 1 8 earlier).device := by
    intro earlier input later split
    rcases earlier with _ | ⟨first, _ | ⟨second, _ | ⟨third, _ | ⟨fourth, rest⟩⟩⟩⟩
    · obtain rfl := (List.cons.inj split).1
      intro manifest decoded
      cases decoded
      decide
    · obtain rfl := (List.cons.inj (List.cons.inj split).2).1
      exact fun _ => ⟨_, rfl⟩
    · obtain rfl := (List.cons.inj (List.cons.inj (List.cons.inj split).2).2).1
      exact True.intro
    · obtain rfl := (List.cons.inj (List.cons.inj (List.cons.inj (List.cons.inj split).2).2).2).1
      exact True.intro
    · simp [updateInputs] at split
  have accepted : run.deviceResults = [.ok, .ok, .ok, .ok] := by decide +kernel
  have agrees := simulator_firmware_mirrors (padded 32 []) (fun _ => 0xFF) blankPlatform 1 (by decide) updateInputs alike
  exact ⟨agrees.results.trans accepted, agrees.status⟩

/-- An Ed25519 manifest, a manifest that is stale and too large, and a malformed chunk outside of a transfer. -/
theorem simulator_firmware_differs :
    ¬ (firmwarePairRun (padded 32 []) (fun _ => 0xFF) blankPlatform 1 8 [.begin (manifestPayload 0x01 2 4 64)]).Agrees ∧
      ¬ (firmwarePairRun (padded 32 []) (fun _ => 0xFF) blankPlatform 1 8 [.begin (manifestPayload 0xFE 1 9 32)]).Agrees ∧
      ¬ (firmwarePairRun (padded 32 []) (fun _ => 0xFF) blankPlatform 1 8 [.chunk []]).Agrees := by
  refine ⟨?_, ?_, ?_⟩
  · intro agrees
    exact absurd agrees.results (by decide +kernel)
  · intro agrees
    exact absurd agrees.results (by decide +kernel)
  · intro agrees
    exact absurd agrees.results (by decide +kernel)

end Guardian.Simulator
