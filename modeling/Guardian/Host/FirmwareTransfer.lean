import Guardian.Host.FirmwareCodec
import Guardian.Lib.Check
import Guardian.Lib.Layout
import Guardian.Simulator.FirmwareMirror

namespace Guardian.Host

open Word ByteString Guardian.Crypto Guardian.Firmware Guardian.Simulator

section fields

variable {manifest : FirmwareManifest} {fields : FirmwareManifestFields}

theorem requireUint_ok {value : Int} {bits : Nat} {field : FirmwareField} {word : BitVec bits} :
    requireUint value bits field = .ok word ↔ value = word.toNat := by
  unfold requireUint
  constructor
  · intro given
    split_ifs at given with fits
    cases given
    rw [BitVec.toNat_ofInt]
    have small : value < ((2 ^ bits : ℕ) : ℤ) := by
      push_cast
      omega
    rw [Int.emod_eq_of_lt fits.1 small, Int.toNat_of_nonneg fits.1]
  · rintro rfl
    have small : (word.toNat : ℤ) < ((2 ^ bits : ℕ) : ℤ) := Int.ofNat_lt.mpr word.isLt
    push_cast at small
    rw [if_pos ⟨Int.natCast_nonneg _, by omega⟩, BitVec.ofInt_natCast, BitVec.ofNat_toNat, BitVec.setWidth_eq]

theorem algorithm_ok {raw : Int} {algorithm : FirmwareSignatureAlgorithm} :
    FirmwareSignatureAlgorithm.ofInt raw = .ok algorithm ↔ raw = algorithm.code.toNat := by
  unfold FirmwareSignatureAlgorithm.ofInt
  constructor
  · intro given
    split_ifs at given with ed25519 demo
    · cases given
      exact ed25519
    · cases given
      exact demo
  · rintro rfl
    cases algorithm with
    | ed25519 => rfl
    | demoHmacSha256 => rfl

theorem requireDigest_ok {digest : List U8} {bytes : Bytes 32} : requireDigest digest = .ok bytes ↔ digest = bytes.1 := by
  unfold requireDigest
  constructor
  · intro given
    split_ifs at given with same
    cases given
    rfl
  · rintro rfl
    exact dif_pos bytes.2

def FirmwareSignatureAlgorithm.width : FirmwareSignatureAlgorithm → Nat
  | .ed25519 => 64
  | .demoHmacSha256 => 32

theorem signature_ok {algorithm : FirmwareSignatureAlgorithm} {signature kept : List U8} :
    validateSignature algorithm signature = .ok kept ↔ signature = kept ∧ kept.length = algorithm.width := by
  have check (failure : FirmwareValueFailure) (width : Nat) :
      (if signature.length ≠ width then .error failure else .ok signature :
        Except FirmwareValueFailure (List U8)) = .ok kept ↔ signature = kept ∧ kept.length = width := by
    constructor
    · intro given
      obtain ⟨same, given⟩ := Check.accepted given
      cases given
      exact ⟨rfl, not_not.mp same⟩
    · rintro ⟨rfl, same⟩
      exact if_neg (not_not.mpr same)
  cases algorithm with
  | ed25519 => exact check .ed25519Signature 64
  | demoHmacSha256 => exact check .demoSignature 32

structure FirmwareManifest.Accepted (manifest : FirmwareManifest) : Prop where
  version : manifest.versionCounter ≠ 0
  size : manifest.imageSize ≠ 0
  signature : manifest.signature.length = manifest.signatureAlgorithm.width

theorem validateFirmwareManifest_ok {kept : FirmwareManifest} :
    validateFirmwareManifest manifest = .ok kept ↔ manifest = kept ∧ kept.Accepted := by
  unfold validateFirmwareManifest
  constructor
  · intro given
    obtain ⟨version, given⟩ := Check.accepted given
    obtain ⟨size, given⟩ := Check.accepted given
    obtain ⟨signature, valid, rfl⟩ := Check.mapped.mp given
    obtain ⟨rfl, width⟩ := signature_ok.mp valid
    exact ⟨rfl, version, size, width⟩
  · rintro ⟨rfl, version, size, width⟩
    rw [if_neg version, if_neg size, signature_ok.mpr ⟨rfl, width⟩]
    rfl

theorem normalizeFirmwareManifest_ok :
    normalizeFirmwareManifest fields = .ok manifest ↔ fields = manifest.fields ∧ manifest.Accepted := by
  unfold normalizeFirmwareManifest
  simp only [Check.bound, algorithm_ok, requireUint_ok]
  constructor
  · rintro ⟨algorithm, algorithmIs, keyId, keyIs, version, versionIs, given⟩
    obtain ⟨positive, given⟩ := Check.accepted given
    simp only [Check.bound, requireUint_ok] at given
    obtain ⟨major, majorIs, minor, minorIs, patch, patchIs, size, sizeIs, given⟩ := given
    obtain ⟨filled, given⟩ := Check.accepted given
    simp only [Check.bound, requireDigest_ok, Check.relabelled, signature_ok] at given
    obtain ⟨digest, digestIs, signature, ⟨signatureIs, width⟩, given⟩ := given
    cases given
    obtain ⟨⟩ := fields
    dsimp only at algorithmIs keyIs versionIs majorIs minorIs patchIs sizeIs digestIs signatureIs
    subst algorithmIs keyIs versionIs majorIs minorIs patchIs sizeIs digestIs signatureIs
    exact ⟨rfl, positive, filled, width⟩
  · rintro ⟨rfl, positive, filled, width⟩
    refine ⟨_, rfl, _, rfl, _, rfl, ?_⟩
    rw [if_neg positive]
    simp only [Check.bound, requireUint_ok]
    refine ⟨_, rfl, _, rfl, _, rfl, _, rfl, ?_⟩
    rw [if_neg filled]
    simp only [Check.bound, requireDigest_ok, Check.relabelled, signature_ok]
    exact ⟨_, rfl, _, ⟨rfl, width⟩, rfl⟩

end fields

section manifests

variable {manifest : FirmwareManifest}

theorem FirmwareManifest.Accepted.width_cases (accepted : manifest.Accepted) :
    manifest.signature.length = 64 ∨ manifest.signature.length = 32 := by
  rw [accepted.signature]
  cases manifest.signatureAlgorithm with
  | ed25519 => exact .inl rfl
  | demoHmacSha256 => exact .inr rfl

theorem FirmwareManifest.encoded_length (manifest : FirmwareManifest) :
    manifest.encoded.length = firmwareManifestPrefixSize + manifest.signature.length := by
  simp [FirmwareManifest.encoded, manifest.imageSha256.2, firmwareManifestPrefixSize]
  omega

theorem signatureAlgorithmOf_code (algorithm : FirmwareSignatureAlgorithm) :
    firmwareSignatureAlgorithmOf algorithm.code = .ok algorithm := by
  cases algorithm with
  | ed25519 => rfl
  | demoHmacSha256 => rfl

theorem decodeFirmwareManifest_encoded (accepted : manifest.Accepted) :
    decodeFirmwareManifest manifest.encoded = .ok manifest := by
  have digest := manifest.imageSha256.2
  have width : (BitVec.ofNat 8 manifest.signature.length).toNat = manifest.signature.length := by
    rcases accepted.width_cases with long | short
    · rw [long]
      rfl
    · rw [short]
      rfl
  have range : 1 ≤ BitVec.ofNat 8 manifest.signature.length ∧ BitVec.ofNat 8 manifest.signature.length ≤ 64 := by
    rcases accepted.width_cases with long | short
    · rw [long]
      decide
    · rw [short]
      decide
  have keyId : getU32Be (manifest.encoded.drop 2) = manifest.keyId := by
    rw [FirmwareManifest.encoded, drop_flatten 2 (by rfl)]
    exact getU32Be_put _ _
  have version : getU32Be (manifest.encoded.drop 6) = manifest.versionCounter := by
    rw [FirmwareManifest.encoded, drop_flatten 3 (by rfl)]
    exact getU32Be_put _ _
  have major : getU16Be (manifest.encoded.drop 10) = manifest.firmwareMajor := by
    rw [FirmwareManifest.encoded, drop_flatten 4 (by rfl)]
    exact getU16Be_put _ _
  have minor : getU16Be (manifest.encoded.drop 12) = manifest.firmwareMinor := by
    rw [FirmwareManifest.encoded, drop_flatten 5 (by rfl)]
    exact getU16Be_put _ _
  have patch : getU16Be (manifest.encoded.drop 14) = manifest.firmwarePatch := by
    rw [FirmwareManifest.encoded, drop_flatten 6 (by rfl)]
    exact getU16Be_put _ _
  have size : getU32Be (manifest.encoded.drop 16) = manifest.imageSize := by
    rw [FirmwareManifest.encoded, drop_flatten 7 (by rfl)]
    exact getU32Be_put _ _
  have hash : padded 32 (manifest.encoded.drop 20) = manifest.imageSha256 := by
    rw [FirmwareManifest.encoded, drop_flatten 8 (by rfl)]
    exact padded_self _ _
  have count : manifest.encoded.getD 52 0 = BitVec.ofNat 8 manifest.signature.length := by
    have last : manifest.encoded.drop 52 = BitVec.ofNat 8 manifest.signature.length :: manifest.signature := by
      rw [FirmwareManifest.encoded, drop_flatten 9 (by simp [digest])]
      simp
    have read : (manifest.encoded.drop 52).getD 0 0 = manifest.encoded.getD 52 0 := by
      simp [List.getD_eq_getElem?_getD]
    rw [← read, last]
    rfl
  have signature : manifest.encoded.drop firmwareManifestPrefixSize = manifest.signature := by
    rw [FirmwareManifest.encoded, drop_flatten 10 (by simp [digest, firmwareManifestPrefixSize])]
    simp
  have length := manifest.encoded_length
  unfold decodeFirmwareManifest
  rw [if_neg (by omega), if_neg (by exact not_not.mpr rfl)]
  dsimp only
  rw [count, if_neg (not_not.mpr range), width, if_neg (not_not.mpr length),
    show manifest.encoded.getD 1 0 = manifest.signatureAlgorithm.code from rfl, signatureAlgorithmOf_code]
  dsimp only
  rw [keyId, version, major, minor, patch, size, hash, signature]
  exact validateFirmwareManifest_ok.mpr ⟨rfl, accepted⟩

theorem decodeManifest_encoded (accepted : manifest.Accepted) :
    ∃ device, firmwareDecodeManifest manifest.encoded = .ok device ∧ DecodedManifest device ∧
      mirrorManifest device = manifest := by
  have mirrors := decodeManifest_mirrors manifest.encoded
  rw [decodeFirmwareManifest_encoded accepted] at mirrors
  generalize firmwareDecodeManifest manifest.encoded = decoded at mirrors
  cases mirrors with
  | accepted device checks => exact ⟨device, rfl, checks, rfl⟩

theorem mirrorManifest_accepted {device : Firmware.FirmwareManifest} (decoded : DecodedManifest device) :
    (mirrorManifest device).Accepted := by
  have length : (mirrorManifest device).signature.length = min device.signatureLength.toNat 64 := by
    exact (List.length_take.trans (by rw [device.signature.2]))
  refine ⟨decoded.version, decoded.size, ?_⟩
  rw [length, mirrorManifest]
  dsimp only
  rcases signatureValid_cases decoded.signature with ⟨ed25519, wide⟩ | ⟨demo, wide⟩
  · rw [ed25519, wide]
    rfl
  · rw [demo, wide]
    rfl

theorem canonical_signed {device : Firmware.FirmwareManifest} (decoded : DecodedManifest device) :
    ∃ message, firmwareSignedManifest device = some message ∧
      canonicalFirmwareManifest (mirrorManifest device) = .ok message := by
  refine ⟨_, if_pos decoded.signature, ?_⟩
  unfold canonicalFirmwareManifest
  rw [validateFirmwareManifest_ok.mpr ⟨rfl, mirrorManifest_accepted decoded⟩]
  have code : (mirrorManifest device).signatureAlgorithm.code = device.signatureAlgorithm := by
    rw [mirrorManifest]
    dsimp only
    rcases signatureValid_cases decoded.signature with ⟨ed25519, -⟩ | ⟨demo, -⟩
    · rw [ed25519]
      rfl
    · rw [demo]
      rfl
  change Except.ok (firmwareSignedDomain ++ [firmwareSchemaVersion, (mirrorManifest device).signatureAlgorithm.code] ++
    _ ++ _ ++ _ ++ _ ++ _ ++ _ ++ _) = _
  rw [code]
  rfl

structure SameSignedFields (left right : FirmwareManifestFields) : Prop where
  signatureAlgorithm : left.signatureAlgorithm = right.signatureAlgorithm
  keyId : left.keyId = right.keyId
  versionCounter : left.versionCounter = right.versionCounter
  firmwareMajor : left.firmwareMajor = right.firmwareMajor
  firmwareMinor : left.firmwareMinor = right.firmwareMinor
  firmwarePatch : left.firmwarePatch = right.firmwarePatch
  imageSize : left.imageSize = right.imageSize
  imageSha256 : left.imageSha256 = right.imageSha256

theorem canonicalManifestFields_ok {fields : FirmwareManifestFields} {canonical : List U8} :
    canonicalManifestFields fields = .ok canonical ↔
      ∃ manifest : FirmwareManifest, fields = manifest.fields ∧ manifest.Accepted ∧
        canonicalFirmwareManifest manifest = .ok canonical := by
  unfold canonicalManifestFields
  simp only [Check.bound, normalizeFirmwareManifest_ok, Check.relabelled, and_assoc]

theorem canonical_injective {left right : FirmwareManifestFields} {canonical : List U8}
    (first : canonicalManifestFields left = .ok canonical) (second : canonicalManifestFields right = .ok canonical) :
    SameSignedFields left right := by
  obtain ⟨left, rfl, leftAccepted, leftSigned⟩ := canonicalManifestFields_ok.mp first
  obtain ⟨right, rfl, rightAccepted, rightSigned⟩ := canonicalManifestFields_ok.mp second
  unfold canonicalFirmwareManifest at leftSigned rightSigned
  rw [validateFirmwareManifest_ok.mpr ⟨rfl, leftAccepted⟩] at leftSigned
  rw [validateFirmwareManifest_ok.mpr ⟨rfl, rightAccepted⟩] at rightSigned
  have same := (Except.ok.inj leftSigned).trans (Except.ok.inj rightSigned).symm
  simp only [List.append_assoc] at same
  have rest := (List.append_inj same rfl).2
  obtain ⟨codes, rest⟩ := List.append_inj rest rfl
  obtain ⟨keyId, rest⟩ := List.append_inj rest rfl
  obtain ⟨version, rest⟩ := List.append_inj rest rfl
  obtain ⟨major, rest⟩ := List.append_inj rest rfl
  obtain ⟨minor, rest⟩ := List.append_inj rest rfl
  obtain ⟨patch, rest⟩ := List.append_inj rest rfl
  obtain ⟨size, digest⟩ := List.append_inj rest rfl
  have code : left.signatureAlgorithm.code = right.signatureAlgorithm.code := by
    simpa using codes
  exact
    { signatureAlgorithm := by rw [FirmwareManifest.fields, FirmwareManifest.fields, code]
      keyId := by rw [FirmwareManifest.fields, FirmwareManifest.fields, putU32Be_injective keyId]
      versionCounter := by rw [FirmwareManifest.fields, FirmwareManifest.fields, putU32Be_injective version]
      firmwareMajor := by rw [FirmwareManifest.fields, FirmwareManifest.fields, putU16Be_injective major]
      firmwareMinor := by rw [FirmwareManifest.fields, FirmwareManifest.fields, putU16Be_injective minor]
      firmwarePatch := by rw [FirmwareManifest.fields, FirmwareManifest.fields, putU16Be_injective patch]
      imageSize := by rw [FirmwareManifest.fields, FirmwareManifest.fields, putU32Be_injective size]
      imageSha256 := digest }

end manifests

section chunks

variable {offset : Int} {data payload : List U8}

/-- A chunk that the encoder accepts is read back by the host and by the device. -/
structure ChunkTransferred (offset : Int) (data payload : List U8) : Prop where
  host : ∃ chunk, decodeFirmwareChunk payload = .ok chunk ∧ (chunk.offset.toNat : ℤ) = offset ∧ chunk.data = data
  device : ∃ chunk, firmwareDecodeChunk payload = .ok chunk ∧ (chunk.offset.toNat : ℤ) = offset ∧ chunk.bytes = data

theorem encodeFirmwareChunk_ok {start : U32} (positive : 1 ≤ data.length)
    (bounded : data.length ≤ firmwareChunkMaxData.toNat) :
    encodeFirmwareChunk start.toNat data =
      .ok [[firmwareSchemaVersion], putU32Be start, putU16Be (BitVec.ofNat 16 data.length), data].flatten := by
  unfold encodeFirmwareChunk
  rw [requireUint_ok.mpr rfl]
  exact if_neg (not_not.mpr ⟨positive, bounded⟩)

theorem encodeFirmwareChunk_transfers (encodes : encodeFirmwareChunk offset data = .ok payload) :
    ChunkTransferred offset data payload := by
  unfold encodeFirmwareChunk at encodes
  cases fits : requireUint offset 32 .offset with
  | error failure =>
    rw [fits] at encodes
    cases encodes
  | ok start =>
    rw [fits] at encodes
    dsimp only at encodes
    obtain ⟨range, encodes⟩ := Check.accepted encodes
    obtain rfl := requireUint_ok.mp fits
    obtain ⟨positive, bounded⟩ := not_not.mp range
    have largest : firmwareChunkMaxData.toNat = 192 := rfl
    have payloadIs := (Except.ok.inj encodes).symm
    have count : (BitVec.ofNat 16 data.length).toNat = data.length := by
      rw [BitVec.toNat_ofNat, Nat.mod_eq_of_lt (by omega)]
    have length : payload.length = firmwareChunkPrefixSize + data.length := by
      rw [payloadIs]
      simp [firmwareChunkPrefixSize]
      omega
    have start' : getU32Be (payload.drop 1) = start := by
      rw [payloadIs, drop_flatten 1 (by rfl)]
      exact getU32Be_put _ _
    have dataLength : getU16Be (payload.drop 5) = BitVec.ofNat 16 data.length := by
      rw [payloadIs, drop_flatten 2 (by rfl)]
      exact getU16Be_put _ _
    have bytes : payload.drop firmwareChunkPrefixSize = data := by
      rw [payloadIs, drop_flatten 3 (by rfl)]
      simp
    have inside : 1 ≤ BitVec.ofNat 16 data.length ∧ BitVec.ofNat 16 data.length ≤ firmwareChunkMaxData := by
      rw [BitVec.le_def, BitVec.le_def, count]
      exact ⟨positive, bounded⟩
    have host : decodeFirmwareChunk payload = .ok ⟨start, data⟩ := by
      unfold decodeFirmwareChunk
      rw [if_neg (by omega), if_neg (by rw [payloadIs]; exact not_not.mpr rfl)]
      dsimp only
      rw [dataLength, if_neg (not_not.mpr inside), count, if_neg (not_not.mpr length), start', bytes]
    have mirrors := decodeChunk_mirrors payload
    rw [host] at mirrors
    generalize decoded : firmwareDecodeChunk payload = device at mirrors
    have read : ∃ chunk, device = .ok chunk ∧ mirrorChunk chunk = ⟨start, data⟩ := by
      generalize wanted : (⟨start, data⟩ : FirmwareChunk) = chunk at mirrors
      cases mirrors with
      | accepted value checks => exact ⟨value, rfl, rfl⟩
    obtain ⟨chunk, rfl, mirrored⟩ := read
    obtain ⟨offsets, datas⟩ := FirmwareChunk.mk.inj mirrored
    exact ⟨⟨_, host, rfl, rfl⟩, ⟨chunk, decoded, by rw [offsets], datas⟩⟩

end chunks

section packages

variable {package : FirmwarePackage} {encoded image : List U8}

structure FirmwarePackage.Whole (package : FirmwarePackage) (manifest : FirmwareManifest) : Prop where
  fields : package.manifest = manifest.fields
  accepted : manifest.Accepted
  length : package.image.length = manifest.imageSize.toNat
  digest : sha256 package.image = manifest.imageSha256.1

theorem encodeFirmwarePackage_whole (encodes : encodeFirmwarePackage package = .ok encoded) :
    ∃ manifest, package.Whole manifest ∧
      encoded = [firmwarePackageMagic, putU16Be (BitVec.ofNat 16 manifest.encoded.length), manifest.encoded,
        package.image].flatten := by
  unfold encodeFirmwarePackage at encodes
  cases normal : normalizeFirmwareManifest package.manifest with
  | error failure =>
    rw [normal] at encodes
    cases encodes
  | ok manifest =>
    rw [normal] at encodes
    dsimp only at encodes
    obtain ⟨length, encodes⟩ := Check.accepted encodes
    obtain ⟨digest, encodes⟩ := Check.accepted encodes
    obtain ⟨count, fits, rfl⟩ := Check.mapped.mp encodes
    have count' : BitVec.ofNat 16 manifest.encoded.length = count := by
      rw [Int.ofNat_inj.mp (requireUint_ok.mp fits), BitVec.ofNat_toNat, BitVec.setWidth_eq]
    obtain ⟨fields, accepted⟩ := normalizeFirmwareManifest_ok.mp normal
    exact ⟨manifest, ⟨fields, accepted, not_not.mp length, not_not.mp digest⟩, by rw [count']⟩

theorem decodeFirmwarePackage_encoded (encodes : encodeFirmwarePackage package = .ok encoded) :
    decodeFirmwarePackage encoded = .ok package := by
  obtain ⟨manifest, whole, encodedIs⟩ := encodeFirmwarePackage_whole encodes
  have magic : encoded.take 4 = firmwarePackageMagic := by
    rw [encodedIs]
    rfl
  have manifestLength : manifest.encoded.length < 2 ^ 16 := by
    have length := manifest.encoded_length
    have size : firmwareManifestPrefixSize = 53 := rfl
    rcases whole.accepted.width_cases with long | short <;> omega
  have count : (getU16Be (encoded.drop 4)).toNat = manifest.encoded.length := by
    rw [encodedIs, drop_flatten 1 (by rfl)]
    simp only [List.drop_succ_cons, List.drop_zero, List.flatten_cons, getU16Be_put, BitVec.toNat_ofNat]
    exact Nat.mod_eq_of_lt manifestLength
  have length : encoded.length = firmwarePackagePrefixSize + manifest.encoded.length + package.image.length := by
    rw [encodedIs]
    simp [firmwarePackagePrefixSize, firmwarePackageMagic]
    omega
  have body : encoded.drop firmwarePackagePrefixSize = manifest.encoded ++ package.image := by
    rw [encodedIs, drop_flatten 2 (by rfl)]
    simp
  have inner : slice firmwarePackagePrefixSize manifest.encoded.length encoded = manifest.encoded := by
    rw [slice, body, List.take_left]
  have image : encoded.drop (firmwarePackagePrefixSize + manifest.encoded.length) = package.image := by
    rw [← List.drop_drop, body, List.drop_left]
  unfold decodeFirmwarePackage
  rw [if_neg (by omega), if_neg (not_not.mpr magic)]
  dsimp only
  rw [count, if_neg (by omega), inner, decodeFirmwareManifest_encoded whole.accepted]
  dsimp only
  rw [image, if_neg (not_not.mpr whole.length), if_neg (not_not.mpr whole.digest), ← whole.fields]

theorem decodeFirmwarePackage_whole (decodes : decodeFirmwarePackage encoded = .ok package) :
    ∃ manifest, package.Whole manifest := by
  unfold decodeFirmwarePackage at decodes
  obtain ⟨-, decodes⟩ := Check.accepted decodes
  obtain ⟨-, decodes⟩ := Check.accepted decodes
  dsimp only at decodes
  obtain ⟨-, decodes⟩ := Check.accepted decodes
  split at decodes
  · cases decodes
  · rename_i manifest inner
    obtain ⟨length, decodes⟩ := Check.accepted decodes
    obtain ⟨digest, decodes⟩ := Check.accepted decodes
    cases decodes
    refine ⟨manifest, rfl, ?_, not_not.mp length, not_not.mp digest⟩
    unfold decodeFirmwareManifest at inner
    obtain ⟨-, inner⟩ := Check.accepted inner
    obtain ⟨-, inner⟩ := Check.accepted inner
    dsimp only at inner
    obtain ⟨-, inner⟩ := Check.accepted inner
    obtain ⟨-, inner⟩ := Check.accepted inner
    split at inner
    · cases inner
    · exact (validateFirmwareManifest_ok.mp inner).2

end packages

section uploads

variable {image : List U8}

theorem slice_append_drop (offset length : Nat) (bytes : List U8) :
    slice offset length bytes ++ bytes.drop (offset + (slice offset length bytes).length) = bytes.drop offset := by
  rw [← List.drop_drop, slice]
  generalize bytes.drop offset = rest
  rw [List.length_take]
  by_cases short : length ≤ rest.length
  · rw [Nat.min_eq_left short, List.take_append_drop]
  · rw [Nat.min_eq_right (by omega), List.take_of_length_le (by omega), List.drop_length, List.append_nil]

theorem uploadChunks_image (image : List U8) (offset : Nat) :
    ((uploadChunks image offset).map Prod.snd).flatten = image.drop offset := by
  fun_induction uploadChunks image offset with
  | case1 offset inside chunk ih =>
    rw [List.map_cons, List.flatten_cons, ih]
    exact slice_append_drop _ _ _
  | case2 offset outside => exact (List.drop_of_length_le (Nat.not_lt.mp outside)).symm

/-- Each slice starts where those before it end, and fits a chunk. -/
structure UploadSlice (image : List U8) (chunk : Nat × List U8) : Prop where
  inside : chunk.1 < image.length
  positive : 1 ≤ chunk.2.length
  bounded : chunk.2.length ≤ firmwareChunkMaxData.toNat

theorem uploadChunks_slice (image : List U8) (offset : Nat) :
    ∀ chunk ∈ uploadChunks image offset, UploadSlice image chunk := by
  fun_induction uploadChunks image offset with
  | case1 offset inside chunk ih =>
    have largest : firmwareChunkMaxData.toNat = 192 := rfl
    have length : chunk.length = min 192 (image.length - offset) := by
      simp [chunk, slice, largest]
    intro other member
    rcases List.mem_cons.mp member with rfl | later
    · exact ⟨inside, by dsimp only; omega, by dsimp only; omega⟩
    · exact ih other later
  | case2 offset outside => simp

theorem uploadChunkRequests_ok {chunks : List (Nat × List U8)} (fits : image.length ≤ 2 ^ 32)
    (slices : ∀ chunk ∈ chunks, UploadSlice image chunk) :
    ∃ payloads : List (List U8), uploadChunkRequests chunks = .ok (payloads.map .chunk) ∧
      List.Forall₂ (fun chunk payload => ChunkTransferred chunk.1 chunk.2 payload) chunks payloads := by
  induction chunks with
  | nil => exact ⟨[], rfl, .nil⟩
  | cons chunk chunks ih =>
    obtain ⟨payloads, later, transferred⟩ := ih fun other member => slices other (List.mem_cons_of_mem _ member)
    obtain ⟨inside, positive, bounded⟩ := slices chunk List.mem_cons_self
    have start : (BitVec.ofNat 32 chunk.1).toNat = chunk.1 := by
      rw [BitVec.toNat_ofNat, Nat.mod_eq_of_lt (by omega)]
    have encodes := @encodeFirmwareChunk_ok chunk.2 (BitVec.ofNat 32 chunk.1) positive bounded
    rw [start] at encodes
    refine ⟨_ :: payloads, ?_, .cons (encodeFirmwareChunk_transfers encodes) transferred⟩
    rw [uploadChunkRequests, encodes]
    dsimp only
    rw [later]
    rfl

theorem uploadChunks_sequential (image : List U8) (offset : Nat) (before : List (Nat × List U8)) (chunk : Nat × List U8)
    (after : List (Nat × List U8)) : uploadChunks image offset = before ++ chunk :: after →
      chunk.1 = offset + (before.map Prod.snd).flatten.length := by
  fun_induction uploadChunks image offset generalizing before with
  | case1 offset inside first ih =>
    intro split
    cases before with
    | nil =>
      obtain ⟨rfl, -⟩ := List.cons.inj split
      rfl
    | cons other before =>
      obtain ⟨rfl, later⟩ := List.cons.inj split
      rw [ih before later, List.map_cons, List.flatten_cons, List.length_append, Nat.add_assoc]
  | case2 offset outside => simp

/-- What an upload sends: the manifest, the slices that make up the image, and the closing actions. -/
structure UploadDelivers (package : FirmwarePackage) (activate : Bool) (manifest : List U8)
    (chunks : List (Nat × List U8)) (payloads : List (List U8)) : Prop where
  requests : uploadFirmwarePackage package activate = .ok (.start manifest :: payloads.map .chunk ++
    .finalize encodeFirmwareAction :: if activate then [.activate encodeFirmwareAction] else [])
  transferred : List.Forall₂ (fun chunk payload => ChunkTransferred chunk.1 chunk.2 payload) chunks payloads
  image : (chunks.map Prod.snd).flatten = package.image
  sequential : ∀ before chunk after, chunks = before ++ chunk :: after →
    chunk.1 = (before.map Prod.snd).flatten.length

theorem uploadFirmwarePackage_delivers {package : FirmwarePackage} {manifest : List U8}
    (encodes : encodeFirmwareManifest package.manifest = .ok manifest) (fits : package.image.length ≤ 2 ^ 32)
    (activate : Bool) : ∃ payloads, UploadDelivers package activate manifest (uploadChunks package.image 0) payloads := by
  obtain ⟨payloads, requests, transferred⟩ := uploadChunkRequests_ok fits (uploadChunks_slice package.image 0)
  refine ⟨payloads, ?_, transferred, uploadChunks_image package.image 0, fun before chunk after split => ?_⟩
  · unfold uploadFirmwarePackage
    rw [encodes, requests]
    rfl
  · rw [uploadChunks_sequential package.image 0 before chunk after split, Nat.zero_add]

end uploads

/-- The codecs of the host and of the device fit together, from a manifest to the last slice of an upload. -/
structure FirmwareCodecsAgree : Prop where
  manifest : ∀ fields encoded, encodeFirmwareManifest fields = .ok encoded → ∃ device,
    firmwareDecodeManifest encoded = .ok device ∧ (mirrorManifest device).fields = fields
  chunk : ∀ offset data encoded, encodeFirmwareChunk offset data = .ok encoded → ChunkTransferred offset data encoded
  decodeManifest : ∀ payload,
    ReadAlike mirrorManifest DecodedManifest (firmwareDecodeManifest payload) (decodeFirmwareManifest payload)
  decodeChunk : ∀ payload,
    ReadAlike mirrorChunk DecodedChunk (firmwareDecodeChunk payload) (decodeFirmwareChunk payload)
  canonical : ∀ fields message, canonicalManifestFields fields = .ok message → ∃ encoded device,
    encodeFirmwareManifest fields = .ok encoded ∧ firmwareDecodeManifest encoded = .ok device ∧
      firmwareSignedManifest device = some message
  signed : ∀ device, DecodedManifest device → ∃ message, firmwareSignedManifest device = some message ∧
    canonicalManifestFields (mirrorManifest device).fields = .ok message
  injective : ∀ left right message, canonicalManifestFields left = .ok message →
    canonicalManifestFields right = .ok message → SameSignedFields left right
  package : ∀ package encoded, encodeFirmwarePackage package = .ok encoded → decodeFirmwarePackage encoded = .ok package
  slices : ∀ image, ((uploadChunks image 0).map Prod.snd).flatten = image
  upload : ∀ encoded package activate, decodeFirmwarePackage encoded = .ok package → ∃ manifest payloads,
    UploadDelivers package activate manifest (uploadChunks package.image 0) payloads
  uploads : ∀ package manifest activate, encodeFirmwareManifest package.manifest = .ok manifest →
    package.image.length ≤ 2 ^ 32 → ∃ payloads,
      UploadDelivers package activate manifest (uploadChunks package.image 0) payloads

theorem encodeFirmwareManifest_ok {fields : FirmwareManifestFields} {encoded : List U8} :
    encodeFirmwareManifest fields = .ok encoded ↔
      ∃ manifest : FirmwareManifest, (fields = manifest.fields ∧ manifest.Accepted) ∧ manifest.encoded = encoded := by
  unfold encodeFirmwareManifest
  simp only [Check.mapped, normalizeFirmwareManifest_ok]

theorem firmware_codecs_agree : FirmwareCodecsAgree where
  manifest fields encoded encodes := by
    obtain ⟨manifest, ⟨rfl, accepted⟩, rfl⟩ := encodeFirmwareManifest_ok.mp encodes
    obtain ⟨device, decodes, -, mirrored⟩ := decodeManifest_encoded accepted
    exact ⟨device, decodes, by rw [mirrored]⟩
  chunk offset data encoded := encodeFirmwareChunk_transfers
  decodeManifest := decodeManifest_mirrors
  decodeChunk := decodeChunk_mirrors
  canonical fields message signs := by
    obtain ⟨manifest, rfl, accepted, signed⟩ := canonicalManifestFields_ok.mp signs
    obtain ⟨device, decodes, decoded, rfl⟩ := decodeManifest_encoded accepted
    obtain ⟨other, built, same⟩ := canonical_signed decoded
    rw [same] at signed
    cases signed
    exact ⟨_, device, encodeFirmwareManifest_ok.mpr ⟨_, ⟨rfl, accepted⟩, rfl⟩, decodes, built⟩
  signed device decoded := by
    obtain ⟨message, built, same⟩ := canonical_signed decoded
    exact ⟨message, built, canonicalManifestFields_ok.mpr ⟨_, rfl, mirrorManifest_accepted decoded, same⟩⟩
  injective left right message := canonical_injective
  package package encoded := decodeFirmwarePackage_encoded
  slices image := uploadChunks_image image 0
  upload encoded package activate decodes := by
    obtain ⟨manifest, whole⟩ := decodeFirmwarePackage_whole decodes
    have encodes := encodeFirmwareManifest_ok.mpr ⟨manifest, ⟨whole.fields, whole.accepted⟩, rfl⟩
    have fits : package.image.length ≤ 2 ^ 32 := by
      rw [whole.length]
      exact manifest.imageSize.isLt.le
    exact ⟨_, uploadFirmwarePackage_delivers encodes fits activate⟩
  uploads package manifest activate encodes fits := uploadFirmwarePackage_delivers encodes fits activate

end Guardian.Host
