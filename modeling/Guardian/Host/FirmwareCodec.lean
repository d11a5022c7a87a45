import Mathlib.Algebra.Group.Int.Defs
import Guardian.Crypto.Sha256
import Guardian.Firmware.FirmwareLifecycle

namespace Guardian.Host

open Word ByteString Guardian.Crypto Guardian.Firmware

/-- Each failure stands for one message and carries the values in it. -/
inductive FirmwareValueFailure
  | versionCounter
  | imageSize
  | ed25519Signature
  | demoSignature
  | algorithmValue (raw : U8)
  | manifestTruncated
  | schemaVersion (schema : U8)
  | signatureLength
  | manifestSize
  | chunkTruncated
  | chunkLength
  | chunkSize
  | actionSize
  | statusSize (received : Nat)
  | stateValue (raw : U8)
  | failureValue (raw : U8)
  deriving DecidableEq, Repr

inductive FirmwareSignatureAlgorithm
  | ed25519
  | demoHmacSha256
  deriving DecidableEq, Repr

def FirmwareSignatureAlgorithm.code : FirmwareSignatureAlgorithm → U8
  | .ed25519 => firmwareSignatureEd25519
  | .demoHmacSha256 => firmwareSignatureDemoHmacSha256

/-- `FirmwareSignatureAlgorithm(value)`. -/
def firmwareSignatureAlgorithmOf (raw : U8) : Except FirmwareValueFailure FirmwareSignatureAlgorithm :=
  if raw = firmwareSignatureEd25519 then .ok .ed25519
  else if raw = firmwareSignatureDemoHmacSha256 then .ok .demoHmacSha256
  else .error (.algorithmValue raw)

structure FirmwareManifest where
  signatureAlgorithm : FirmwareSignatureAlgorithm
  keyId : U32
  versionCounter : U32
  firmwareMajor : U16
  firmwareMinor : U16
  firmwarePatch : U16
  imageSize : U32
  imageSha256 : Bytes 32
  signature : List U8
  deriving DecidableEq

structure FirmwareChunk where
  offset : U32
  data : List U8
  deriving DecidableEq, Repr

def validateSignature (algorithm : FirmwareSignatureAlgorithm) (signature : List U8) :
    Except FirmwareValueFailure (List U8) :=
  match algorithm with
  | .ed25519 => if signature.length ≠ 64 then .error .ed25519Signature else .ok signature
  | .demoHmacSha256 => if signature.length ≠ 32 then .error .demoSignature else .ok signature

def validateFirmwareManifest (manifest : FirmwareManifest) : Except FirmwareValueFailure FirmwareManifest :=
  if manifest.versionCounter = 0 then .error .versionCounter
  else if manifest.imageSize = 0 then .error .imageSize
  else (validateSignature manifest.signatureAlgorithm manifest.signature).map fun signature =>
    { manifest with signature }

def canonicalFirmwareManifest (manifest : FirmwareManifest) : Except FirmwareValueFailure (List U8) :=
  (validateFirmwareManifest manifest).map fun normalized =>
    firmwareSignedDomain ++ [firmwareSchemaVersion, normalized.signatureAlgorithm.code] ++ putU32Be normalized.keyId ++
      putU32Be normalized.versionCounter ++ putU16Be normalized.firmwareMajor ++ putU16Be normalized.firmwareMinor ++
      putU16Be normalized.firmwarePatch ++ putU32Be normalized.imageSize ++ normalized.imageSha256.1

def demoSignFirmwareManifest (manifest : FirmwareManifest) (key : Bytes 32) :
    Except FirmwareValueFailure FirmwareManifest :=
  let unsigned := { manifest with signatureAlgorithm := .demoHmacSha256, signature := List.replicate 32 0 }
  (canonicalFirmwareManifest unsigned).map fun canonical => { unsigned with signature := hmacSha256 key.1 canonical }

def demoVerifyFirmwareManifest (manifest : FirmwareManifest) (key : Bytes 32) : Except FirmwareValueFailure Bool :=
  match validateFirmwareManifest manifest with
  | .error failure => .error failure
  | .ok normalized =>
    if normalized.signatureAlgorithm ≠ .demoHmacSha256 then .ok false
    else (demoSignFirmwareManifest normalized key).map fun expected => normalized.signature = expected.signature

def decodeFirmwareManifest (encoded : List U8) : Except FirmwareValueFailure FirmwareManifest :=
  if encoded.length < firmwareManifestPrefixSize then .error .manifestTruncated
  else if encoded.getD 0 0 ≠ firmwareSchemaVersion then .error (.schemaVersion (encoded.getD 0 0))
  else
    let signatureLength := encoded.getD 52 0
    if ¬ (1 ≤ signatureLength ∧ signatureLength ≤ 64) then .error .signatureLength
    else if encoded.length ≠ firmwareManifestPrefixSize + signatureLength.toNat then .error .manifestSize
    else match firmwareSignatureAlgorithmOf (encoded.getD 1 0) with
      | .error failure => .error failure
      | .ok signatureAlgorithm =>
        validateFirmwareManifest
          { signatureAlgorithm
            keyId := getU32Be (encoded.drop 2)
            versionCounter := getU32Be (encoded.drop 6)
            firmwareMajor := getU16Be (encoded.drop 10)
            firmwareMinor := getU16Be (encoded.drop 12)
            firmwarePatch := getU16Be (encoded.drop 14)
            imageSize := getU32Be (encoded.drop 16)
            imageSha256 := padded 32 (encoded.drop 20)
            signature := encoded.drop firmwareManifestPrefixSize }

def decodeFirmwareChunk (encoded : List U8) : Except FirmwareValueFailure FirmwareChunk :=
  if encoded.length ≤ firmwareChunkPrefixSize then .error .chunkTruncated
  else if encoded.getD 0 0 ≠ firmwareSchemaVersion then .error (.schemaVersion (encoded.getD 0 0))
  else
    let dataLength := getU16Be (encoded.drop 5)
    if ¬ (1 ≤ dataLength ∧ dataLength ≤ firmwareChunkMaxData) then .error .chunkLength
    else if encoded.length ≠ firmwareChunkPrefixSize + dataLength.toNat then .error .chunkSize
    else .ok ⟨getU32Be (encoded.drop 1), encoded.drop firmwareChunkPrefixSize⟩

def decodeFirmwareAction (encoded : List U8) : Except FirmwareValueFailure Unit :=
  if encoded.length ≠ 1 then .error .actionSize
  else if encoded.getD 0 0 ≠ firmwareSchemaVersion then .error (.schemaVersion (encoded.getD 0 0))
  else .ok ()

structure FirmwareStatus where
  state : FirmwareState
  failure : FirmwareFailure
  signatureAlgorithm : Nat
  activeVersionCounter : Nat
  rollbackFloor : Nat
  candidateVersionCounter : Nat
  bytesReceived : Nat
  imageSize : Nat
  keyId : Nat
  firmwareMajor : Nat
  firmwareMinor : Nat
  firmwarePatch : Nat
  deriving DecidableEq, Repr

/-- The lifecycle record of the device, as the host library holds it. -/
def readFirmwareStatus (status : Firmware.FirmwareStatus) : FirmwareStatus where
  state := status.state
  failure := status.failure
  signatureAlgorithm := status.signatureAlgorithm.toNat
  activeVersionCounter := status.activeVersionCounter.toNat
  rollbackFloor := status.rollbackFloor.toNat
  candidateVersionCounter := status.candidateVersionCounter.toNat
  bytesReceived := status.bytesReceived.toNat
  imageSize := status.imageSize.toNat
  keyId := status.keyId.toNat
  firmwareMajor := status.firmwareMajor.toNat
  firmwareMinor := status.firmwareMinor.toNat
  firmwarePatch := status.firmwarePatch.toNat

/-- The fields of `FirmwareManifest` as a caller may set them. -/
structure FirmwareManifestFields where
  signatureAlgorithm : Int
  keyId : Int
  versionCounter : Int
  firmwareMajor : Int
  firmwareMinor : Int
  firmwarePatch : Int
  imageSize : Int
  imageSha256 : List U8
  signature : List U8
  deriving DecidableEq

/-- The name in the message of `_require_uint`. -/
inductive FirmwareField
  | keyId
  | versionCounter
  | firmwareMajor
  | firmwareMinor
  | firmwarePatch
  | imageSize
  | offset
  | manifestLength
  deriving DecidableEq, Repr

inductive FirmwareCodecFailure
  | value (failure : FirmwareValueFailure)
  | algorithm (raw : Int)
  | unsigned (field : FirmwareField) (bits : Nat)
  | digestSize
  | chunkData
  | packageTruncated
  | packageMagic
  | packageManifestTruncated
  | packageImageLength
  | packageDigest
  deriving DecidableEq, Repr

def requireUint (value : Int) (bits : Nat) (field : FirmwareField) : Except FirmwareCodecFailure (BitVec bits) :=
  if 0 ≤ value ∧ value ≤ 2 ^ bits - 1 then .ok (BitVec.ofInt bits value) else .error (.unsigned field bits)

def FirmwareSignatureAlgorithm.ofInt (raw : Int) : Except FirmwareCodecFailure FirmwareSignatureAlgorithm :=
  if raw = 0x01 then .ok .ed25519 else if raw = 0xFE then .ok .demoHmacSha256 else .error (.algorithm raw)

def requireDigest (digest : List U8) : Except FirmwareCodecFailure (Bytes 32) :=
  if same : digest.length = 32 then .ok ⟨digest, same⟩ else .error .digestSize

/-- `validate_firmware_manifest` on the fields of a caller. -/
def normalizeFirmwareManifest (fields : FirmwareManifestFields) : Except FirmwareCodecFailure FirmwareManifest := do
  let signatureAlgorithm ← FirmwareSignatureAlgorithm.ofInt fields.signatureAlgorithm
  let keyId ← requireUint fields.keyId 32 .keyId
  let versionCounter ← requireUint fields.versionCounter 32 .versionCounter
  if versionCounter = 0 then .error (.value .versionCounter) else
  let firmwareMajor ← requireUint fields.firmwareMajor 16 .firmwareMajor
  let firmwareMinor ← requireUint fields.firmwareMinor 16 .firmwareMinor
  let firmwarePatch ← requireUint fields.firmwarePatch 16 .firmwarePatch
  let imageSize ← requireUint fields.imageSize 32 .imageSize
  if imageSize = 0 then .error (.value .imageSize) else
  let imageSha256 ← requireDigest fields.imageSha256
  let signature ← (validateSignature signatureAlgorithm fields.signature).mapError .value
  .ok { signatureAlgorithm, keyId, versionCounter, firmwareMajor, firmwareMinor, firmwarePatch, imageSize, imageSha256,
        signature }

def FirmwareManifest.fields (manifest : FirmwareManifest) : FirmwareManifestFields where
  signatureAlgorithm := manifest.signatureAlgorithm.code.toNat
  keyId := manifest.keyId.toNat
  versionCounter := manifest.versionCounter.toNat
  firmwareMajor := manifest.firmwareMajor.toNat
  firmwareMinor := manifest.firmwareMinor.toNat
  firmwarePatch := manifest.firmwarePatch.toNat
  imageSize := manifest.imageSize.toNat
  imageSha256 := manifest.imageSha256.1
  signature := manifest.signature

/-- `_MANIFEST_PREFIX` and the signature. -/
def FirmwareManifest.encoded (manifest : FirmwareManifest) : List U8 :=
  [[firmwareSchemaVersion], [manifest.signatureAlgorithm.code], putU32Be manifest.keyId,
    putU32Be manifest.versionCounter, putU16Be manifest.firmwareMajor, putU16Be manifest.firmwareMinor,
    putU16Be manifest.firmwarePatch, putU32Be manifest.imageSize, manifest.imageSha256.1,
    [BitVec.ofNat 8 manifest.signature.length], manifest.signature].flatten

def encodeFirmwareManifest (fields : FirmwareManifestFields) : Except FirmwareCodecFailure (List U8) :=
  (normalizeFirmwareManifest fields).map FirmwareManifest.encoded

/-- `canonical_firmware_manifest` on the fields of a caller. -/
def canonicalManifestFields (fields : FirmwareManifestFields) : Except FirmwareCodecFailure (List U8) :=
  normalizeFirmwareManifest fields >>= fun manifest => (canonicalFirmwareManifest manifest).mapError .value

def encodeFirmwareChunk (offset : Int) (data : List U8) : Except FirmwareCodecFailure (List U8) :=
  match requireUint offset 32 .offset with
  | .error failure => .error failure
  | .ok offset =>
    if ¬ (1 ≤ data.length ∧ data.length ≤ firmwareChunkMaxData.toNat) then .error .chunkData
    else .ok [[firmwareSchemaVersion], putU32Be offset, putU16Be (BitVec.ofNat 16 data.length), data].flatten

structure FirmwarePackage where
  manifest : FirmwareManifestFields
  image : List U8
  deriving DecidableEq

/-- `GFU1`. -/
def firmwarePackageMagic : List U8 := [0x47, 0x46, 0x55, 0x31]

def firmwarePackagePrefixSize : Nat := 6

def encodeFirmwarePackage (package : FirmwarePackage) : Except FirmwareCodecFailure (List U8) :=
  match normalizeFirmwareManifest package.manifest with
  | .error failure => .error failure
  | .ok manifest =>
    if package.image.length ≠ manifest.imageSize.toNat then .error .packageImageLength
    else if sha256 package.image ≠ manifest.imageSha256.1 then .error .packageDigest
    else (requireUint manifest.encoded.length 16 .manifestLength).map fun manifestLength =>
      [firmwarePackageMagic, putU16Be manifestLength, manifest.encoded, package.image].flatten

def decodeFirmwarePackage (encoded : List U8) : Except FirmwareCodecFailure FirmwarePackage :=
  if encoded.length < firmwarePackagePrefixSize then .error .packageTruncated
  else if encoded.take 4 ≠ firmwarePackageMagic then .error .packageMagic
  else
    let manifestLength := (getU16Be (encoded.drop 4)).toNat
    let manifestEnd := firmwarePackagePrefixSize + manifestLength
    if manifestEnd > encoded.length then .error .packageManifestTruncated
    else match decodeFirmwareManifest (slice firmwarePackagePrefixSize manifestLength encoded) with
      | .error failure => .error (.value failure)
      | .ok manifest =>
        let image := encoded.drop manifestEnd
        if image.length ≠ manifest.imageSize.toNat then .error .packageImageLength
        else if sha256 image ≠ manifest.imageSha256.1 then .error .packageDigest
        else .ok ⟨manifest.fields, image⟩

/-- The slices of the image that the loop of an upload hands to `firmware_chunk`, from an offset on. -/
def uploadChunks (image : List U8) (offset : Nat) : List (Nat × List U8) :=
  if offset < image.length then
    let chunk := slice offset firmwareChunkMaxData.toNat image
    (offset, chunk) :: uploadChunks image (offset + chunk.length)
  else []
termination_by image.length - offset
decreasing_by
  have bound : firmwareChunkMaxData.toNat = 192 := rfl
  simp only [slice, List.length_take, List.length_drop, bound]
  omega

inductive FirmwareRequest
  | start (payload : List U8)
  | chunk (payload : List U8)
  | finalize (payload : List U8)
  | activate (payload : List U8)
  deriving DecidableEq, Repr

def encodeFirmwareAction : List U8 := [firmwareSchemaVersion]

def uploadChunkRequests : List (Nat × List U8) → Except FirmwareCodecFailure (List FirmwareRequest)
  | [] => .ok []
  | (offset, data) :: chunks =>
    match encodeFirmwareChunk offset data with
    | .error failure => .error failure
    | .ok payload => (uploadChunkRequests chunks).map (.chunk payload :: ·)

/-- The privileged requests of an upload all of whose exchanges succeed. -/
def uploadFirmwarePackage (package : FirmwarePackage) (activate : Bool) :
    Except FirmwareCodecFailure (List FirmwareRequest) := do
  let payload ← encodeFirmwareManifest package.manifest
  let chunks ← uploadChunkRequests (uploadChunks package.image 0)
  .ok (.start payload :: chunks ++ .finalize encodeFirmwareAction ::
    if activate then [.activate encodeFirmwareAction] else [])

end Guardian.Host
