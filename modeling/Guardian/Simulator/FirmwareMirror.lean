import Guardian.Firmware.FirmwareIntegrity
import Guardian.Lib.Check
import Guardian.Simulator.SimulatorFirmware

namespace Guardian.Simulator

open Word ByteString Crypto Firmware Host

section decoding

variable {payload : List U8}

def mirrorAlgorithm (raw : U8) : FirmwareSignatureAlgorithm :=
  if raw = firmwareSignatureEd25519 then .ed25519 else .demoHmacSha256

def mirrorManifest (manifest : Firmware.FirmwareManifest) : Host.FirmwareManifest where
  signatureAlgorithm := mirrorAlgorithm manifest.signatureAlgorithm
  keyId := manifest.keyId
  versionCounter := manifest.versionCounter
  firmwareMajor := manifest.firmwareMajor
  firmwareMinor := manifest.firmwareMinor
  firmwarePatch := manifest.firmwarePatch
  imageSize := manifest.imageSize
  imageSha256 := manifest.imageSha256
  signature := manifest.signature.1.take manifest.signatureLength.toNat

@[simp] theorem mirrorManifest_versionCounter (manifest : Firmware.FirmwareManifest) :
    (mirrorManifest manifest).versionCounter = manifest.versionCounter := rfl

@[simp] theorem mirrorManifest_imageSize (manifest : Firmware.FirmwareManifest) :
    (mirrorManifest manifest).imageSize = manifest.imageSize := rfl

structure DecodedManifest (manifest : Firmware.FirmwareManifest) : Prop where
  signature : firmwareSignatureValid manifest.signatureAlgorithm manifest.signatureLength = true
  version : manifest.versionCounter ≠ 0
  size : manifest.imageSize ≠ 0

/-- One decoder refuses what the other refuses, and otherwise they read the same. -/
inductive ReadAlike {α β : Type} (mirror : α → β) (checked : α → Prop) :
    Except FirmwareResult α → Except FirmwareValueFailure β → Prop
  | accepted (value : α) (checks : checked value) : ReadAlike mirror checked (.ok value) (.ok (mirror value))
  | refused (failure : FirmwareValueFailure) : ReadAlike mirror checked (.error .invalidPayload) (.error failure)

theorem signatureValid_cases {algorithm signatureLength : U8}
    (valid : firmwareSignatureValid algorithm signatureLength = true) :
    (algorithm = firmwareSignatureEd25519 ∧ signatureLength = 64) ∨
      (algorithm = firmwareSignatureDemoHmacSha256 ∧ signatureLength = 32) := by
  unfold firmwareSignatureValid at valid
  split_ifs at valid with ed25519 demo
  · exact Or.inl ⟨ed25519, of_decide_eq_true valid⟩
  · exact Or.inr ⟨demo, of_decide_eq_true valid⟩

theorem validateSignature_mirrors {raw signatureLength : U8} {signature : List U8}
    (sized : signature.length = signatureLength.toNat) :
    if firmwareSignatureValid raw signatureLength = true then
      ∃ algorithm, firmwareSignatureAlgorithmOf raw = .ok algorithm ∧ algorithm = mirrorAlgorithm raw ∧
        validateSignature algorithm signature = .ok signature
    else ∀ algorithm, firmwareSignatureAlgorithmOf raw = .ok algorithm →
      ∃ failure, validateSignature algorithm signature = .error failure := by
  have width (count : U8) : signature.length = count.toNat ↔ signatureLength = count := by
    rw [sized, BitVec.toNat_inj]
  unfold firmwareSignatureValid firmwareSignatureAlgorithmOf mirrorAlgorithm
  by_cases ed25519 : raw = firmwareSignatureEd25519
  · simp only [if_pos ed25519]
    have exact' := width 64
    by_cases wide : signatureLength = 64
    · rw [if_pos (decide_eq_true wide)]
      exact ⟨_, rfl, rfl, if_neg (not_not.mpr (exact'.mpr wide))⟩
    · rw [if_neg (by simpa using wide)]
      rintro algorithm ⟨⟩
      exact ⟨_, if_pos (mt exact'.mp wide)⟩
  · simp only [if_neg ed25519]
    have exact' := width 32
    by_cases demo : raw = firmwareSignatureDemoHmacSha256
    · simp only [if_pos demo]
      by_cases wide : signatureLength = 32
      · rw [if_pos (decide_eq_true wide)]
        exact ⟨_, rfl, rfl, if_neg (not_not.mpr (exact'.mpr wide))⟩
      · rw [if_neg (by simpa using wide)]
        rintro algorithm ⟨⟩
        exact ⟨_, if_pos (mt exact'.mp wide)⟩
    · simp only [if_neg demo]
      rw [if_neg Bool.false_ne_true]
      rintro algorithm ⟨⟩

theorem decodeManifest_mirrors (payload : List U8) :
    ReadAlike mirrorManifest DecodedManifest (firmwareDecodeManifest payload) (decodeFirmwareManifest payload) := by
  unfold firmwareDecodeManifest decodeFirmwareManifest
  by_cases short : payload.length < firmwareManifestPrefixSize
  · rw [if_pos short, if_pos short]
    exact .refused _
  rw [if_neg short, if_neg short]
  by_cases schema : payload.getD 0 0 ≠ firmwareSchemaVersion
  · rw [if_pos schema, if_pos schema]
    exact .refused _
  rw [if_neg schema, if_neg schema]
  dsimp only
  generalize payload.getD 52 0 = signatureLength
  generalize payload.getD 1 0 = raw
  by_cases whole : payload.length ≠ firmwareManifestPrefixSize + signatureLength.toNat
  · rw [if_pos whole, if_pos whole, ite_self]
    split_ifs
    · exact .refused _
    · exact .refused _
  rw [if_neg whole, if_neg whole]
  have sized : (payload.drop firmwareManifestPrefixSize).length = signatureLength.toNat := by
    rw [List.length_drop, not_not.mp whole, Nat.add_sub_cancel_left]
  have signature := @validateSignature_mirrors raw _ _ sized
  by_cases valid : firmwareSignatureValid raw signatureLength = true
  · rw [if_pos valid] at signature
    obtain ⟨algorithm, known, mirrored, width⟩ := signature
    have range : 1 ≤ signatureLength ∧ signatureLength ≤ 64 := by
      rcases signatureValid_cases valid with ⟨-, rfl⟩ | ⟨-, rfl⟩ <;> decide
    rw [valid, if_neg (not_not.mpr range), known]
    unfold validateFirmwareManifest
    dsimp only
    by_cases version : getU32Be (payload.drop 6) = 0
    · rw [if_pos version, if_pos version]
      exact .refused _
    rw [if_neg version, if_neg version]
    by_cases size : getU32Be (payload.drop 16) = 0
    · rw [if_pos size, if_pos size]
      exact .refused _
    rw [if_neg size, if_neg size, width]
    have kept : (padded 64 (slice 53 signatureLength.toNat payload)).1.take signatureLength.toNat =
        payload.drop firmwareManifestPrefixSize := by
      have all : slice 53 signatureLength.toNat payload = payload.drop firmwareManifestPrefixSize :=
        List.take_of_length_le (Nat.le_of_eq sized)
      have fits : (payload.drop firmwareManifestPrefixSize).length ≤ 64 := by
        rw [sized]
        exact BitVec.le_def.mp range.2
      rw [all, padded_short fits]
      exact List.take_left' sized
    let manifest : Firmware.FirmwareManifest :=
      { signatureAlgorithm := raw
        keyId := getU32Be (payload.drop 2)
        versionCounter := getU32Be (payload.drop 6)
        firmwareMajor := getU16Be (payload.drop 10)
        firmwareMinor := getU16Be (payload.drop 12)
        firmwarePatch := getU16Be (payload.drop 14)
        imageSize := getU32Be (payload.drop 16)
        imageSha256 := padded 32 (payload.drop 20)
        signatureLength
        signature := padded 64 (slice 53 signatureLength.toNat payload) }
    have accepted : ReadAlike mirrorManifest DecodedManifest (.ok manifest) (.ok (mirrorManifest manifest)) :=
      .accepted manifest ⟨valid, version, size⟩
    rw [mirrorManifest, kept, ← mirrored] at accepted
    exact accepted
  · rw [if_neg valid] at signature
    rw [Bool.eq_false_iff.mpr valid]
    apply Check.either
    · exact .refused _
    cases known : firmwareSignatureAlgorithmOf raw with
    | error failure => exact .refused _
    | ok algorithm =>
      obtain ⟨failure, width⟩ := signature algorithm known
      unfold validateFirmwareManifest
      dsimp only
      rw [width]
      apply Check.either
      · exact .refused _
      apply Check.either
      · exact .refused _
      · exact .refused _

def mirrorChunk (chunk : Firmware.FirmwareChunk) : Host.FirmwareChunk where
  offset := chunk.offset
  data := chunk.bytes

structure DecodedChunk (chunk : Firmware.FirmwareChunk) : Prop where
  positive : chunk.length ≠ 0
  bounded : chunk.length ≤ firmwareChunkMaxData

theorem decodeChunk_mirrors (payload : List U8) :
    ReadAlike mirrorChunk DecodedChunk (firmwareDecodeChunk payload) (decodeFirmwareChunk payload) := by
  unfold firmwareDecodeChunk decodeFirmwareChunk
  by_cases short : payload.length ≤ firmwareChunkPrefixSize
  · rw [if_pos short, if_pos short]
    exact .refused _
  rw [if_neg short, if_neg short]
  by_cases schema : payload.getD 0 0 ≠ firmwareSchemaVersion
  · rw [if_pos schema, if_pos schema]
    exact .refused _
  rw [if_neg schema, if_neg schema]
  dsimp only
  generalize getU16Be (payload.drop 5) = dataLength
  have range : ¬ (1 ≤ dataLength ∧ dataLength ≤ firmwareChunkMaxData) ↔
      dataLength = 0 ∨ dataLength > firmwareChunkMaxData := by
    rw [not_and_or, BitVec.not_le, BitVec.not_le]
    apply or_congr_left
    rw [BitVec.lt_def, ← BitVec.toNat_inj]
    exact Nat.lt_one_iff
  by_cases outside : dataLength = 0 ∨ dataLength > firmwareChunkMaxData
  · rw [if_pos outside, if_pos (range.mpr outside)]
    exact .refused _
  rw [if_neg outside, if_neg (mt range.mp outside)]
  by_cases whole : payload.length ≠ firmwareChunkPrefixSize + dataLength.toNat
  · rw [if_pos whole, if_pos whole]
    exact .refused _
  rw [if_neg whole, if_neg whole]
  obtain ⟨positive, bounded⟩ := not_or.mp outside
  have sized : (payload.drop firmwareChunkPrefixSize).length = dataLength.toNat := by
    rw [List.length_drop, not_not.mp whole, Nat.add_sub_cancel_left]
  have kept : (padded 192 (slice 7 dataLength.toNat payload)).1.take dataLength.toNat =
      payload.drop firmwareChunkPrefixSize := by
    have all : slice 7 dataLength.toNat payload = payload.drop firmwareChunkPrefixSize :=
      List.take_of_length_le (Nat.le_of_eq sized)
    have fits : (payload.drop firmwareChunkPrefixSize).length ≤ 192 := by
      rw [sized]
      exact BitVec.not_lt.mp bounded
    rw [all, padded_short fits]
    exact List.take_left' sized
  let chunk : Firmware.FirmwareChunk :=
    { offset := getU32Be (payload.drop 1), length := dataLength, data := padded 192 (slice 7 dataLength.toNat payload) }
  have accepted : ReadAlike mirrorChunk DecodedChunk (.ok chunk) (.ok (mirrorChunk chunk)) :=
    .accepted chunk ⟨positive, BitVec.not_lt.mp bounded⟩
  rw [mirrorChunk, FirmwareChunk.bytes, kept] at accepted
  exact accepted

theorem decodeAction_mirrors (payload : List U8) :
    (firmwareDecodeAction payload = .ok ∧ decodeFirmwareAction payload = .ok ()) ∨
      (firmwareDecodeAction payload = .invalidPayload ∧ ∃ failure, decodeFirmwareAction payload = .error failure) := by
  unfold firmwareDecodeAction decodeFirmwareAction
  by_cases size : payload.length ≠ 1
  · rw [if_pos size, if_pos size]
    exact Or.inr ⟨rfl, _, rfl⟩
  rw [if_neg size, if_neg size]
  by_cases schema : payload.getD 0 0 ≠ firmwareSchemaVersion
  · rw [if_pos schema, if_pos schema]
    exact Or.inr ⟨rfl, _, rfl⟩
  · rw [if_neg schema, if_neg schema]
    exact Or.inl ⟨rfl, rfl⟩

end decoding

end Guardian.Simulator
