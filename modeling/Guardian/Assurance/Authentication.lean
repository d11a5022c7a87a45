import Guardian.Assurance.TrustStores

namespace Guardian.Assurance

open JsonText Raising Word

variable {ε : Type}

inductive CryptoResultCode
  | verified
  | signatureInvalid
  | algorithmUnsupported
  | cryptoProviderUnavailable
  | cryptoProviderFailure
  | internalError
  deriving DecidableEq, Repr

structure VerificationResult where
  code : CryptoResultCode
  detail : Option String := none
  deriving DecidableEq

/-- `provider.verify` on an algorithm, a public key, a transcript and a signature. -/
abbrev Provider := PyString → List U8 → List U8 → List U8 → VerificationResult

/-- What a call of the cryptography package ends in; an exception has its type's name. -/
inductive PackageCall (α : Type)
  | returned (value : α)
  | refused (name : String)
  | raised (name : String)

/-- The Ed25519 of the cryptography package: `refused` is a `TypeError` or `ValueError` of the first function and the
`InvalidSignature` of the second. -/
structure Ed25519Package (κ : Type) where
  fromPublicBytes : List U8 → PackageCall κ
  verify : κ → List U8 → List U8 → PackageCall Unit

/-- `HostEd25519Provider.verify`. -/
def hostEd25519Provider {κ : Type} (package : Ed25519Package κ) : Provider :=
  fun algorithm publicKey transcript signature =>
  if algorithm ≠ signatureAlgorithmName then ⟨.algorithmUnsupported, some "unsupported cryptographic algorithm"⟩
  else if publicKey.length ≠ 32 then ⟨.cryptoProviderFailure, some "Ed25519 public key must be exactly 32 bytes"⟩
  else if signature.length ≠ 64 then ⟨.signatureInvalid, some "Ed25519 signature must be exactly 64 bytes"⟩
  else match package.fromPublicBytes publicKey with
    | .refused name => ⟨.cryptoProviderFailure, some ("public key construction failed: " ++ name)⟩
    | .raised name => ⟨.internalError, some ("unexpected key-construction failure: " ++ name)⟩
    | .returned key => match package.verify key signature transcript with
      | .refused _ => ⟨.signatureInvalid, some "signature does not verify"⟩
      | .raised name => ⟨.cryptoProviderFailure, some ("provider verification failure: " ++ name)⟩
      | .returned _ => { code := .verified }

def ascii (literal : String) : List U8 := (py literal).map (BitVec.ofNat 8)

def encodeU16 (error : ε) (value : ℕ) : Raises ε (List U8) := do
  require (value ≤ 0xFFFF) error
  return [BitVec.ofNat 8 (value / 0x100), BitVec.ofNat 8 value]

def encodeU32 (error : ε) (value : ℕ) : Raises ε (List U8) := do
  require (value ≤ 0xFFFFFFFF) error
  return [BitVec.ofNat 8 (value / 0x1000000), BitVec.ofNat 8 (value / 0x10000), BitVec.ofNat 8 (value / 0x100),
    BitVec.ofNat 8 value]

def joinTranscript (short long : ε) (purpose keyId subject canonical : List U8) : Raises ε (List U8) := do
  let keyIdLength ← encodeU16 short keyId.length
  let subjectLength ← encodeU16 short subject.length
  let canonicalLength ← encodeU32 long canonical.length
  return purpose ++ keyIdLength ++ keyId ++ subjectLength ++ subject ++ canonicalLength ++ canonical

/-- An error of the assurance transcript: its own, or one of the envelope. -/
inductive AssuranceTranscriptError
  | transcript (error : TranscriptError)
  | assurance (error : AssuranceError)
  deriving DecidableEq

def transcriptError (text : String) : AssuranceTranscriptError := .transcript ⟨text⟩

/-- `PURPOSE_DOMAINS`. -/
def purposeDomain? (objectType : PyString) : Option (List U8) :=
  if objectType = py "observation" then some (ascii "GUARDIAN-F401:M15:SIGNED-ASSURANCE:V1:OBSERVATION")
  else if objectType = py "decision" then some (ascii "GUARDIAN-F401:M15:SIGNED-ASSURANCE:V1:DECISION")
  else if objectType = py "witness" then some (ascii "GUARDIAN-F401:M15:SIGNED-ASSURANCE:V1:WITNESS")
  else none

/-- `canonicalize_envelope`. `dumps` is the RFC 8785 canonicaliser. -/
def canonicalizeEnvelope (dumps : Value → Option (List U8)) (raw : ByteArray) : Raises AssuranceError (List U8) := do
  let value ← parseAndValidateEnvelope raw
  match dumps (.dict value) with
  | some canonical => return canonical
  | none => raise ⟨.canonicalization, .text "RFC 8785 encoding failed"⟩

/-- `value.get(key)`, which must be a string. -/
def memberText (members : Members) (key : PyString) (error : ε) : Raises ε PyString :=
  match members.lookup key with
  | some (.str codes) => .ok codes
  | _ => raise error

def buildSignedAssuranceTranscript (dumps : Value → Option (List U8)) (raw : ByteArray) (keyId : PyString) :
    Raises AssuranceTranscriptError (List U8) := do
  let keyIdBytes ← rewrap .transcript (validateKeyId (.str keyId))
  let value ← rewrap .assurance (parseAndValidateEnvelope raw)
  let objectType ← memberText value (py "object_type") (transcriptError "validated object has no string object_type")
  match purposeDomain? objectType with
  | none => raise (transcriptError "object_type has no M15 purpose signing domain")
  | some purpose => do
    let producerId ← memberText value (py "producer_id") (transcriptError "validated object has no string producer_id")
    let producerIdBytes ← encodeUtf8 producerId
    require (producerIdBytes.length ≤ 0xFFFF) (transcriptError "producer_id exceeds transcript uint16 bound")
    let canonical ← rewrap .assurance (canonicalizeEnvelope dumps raw)
    require (canonical.length ≤ 0xFFFFFFFF) (transcriptError "canonical assurance object exceeds uint32 bound")
    joinTranscript (transcriptError "value does not fit uint16") (transcriptError "value does not fit uint32") purpose
      keyIdBytes producerIdBytes canonical

structure AuthorizationTranscriptError where
  text : String
  deriving DecidableEq

def AuthorizationObject.authorizationType {ι : Type} : AuthorizationObject ι → AuthorizationType
  | .bootstrap _ => .bootstrap
  | .epochTransition _ => .epochTransition

/-- `_purpose_domain`. -/
def authorizationPurposeDomain : AuthorizationType → List U8
  | .bootstrap => ascii "GUARDIAN-F401:M15:AUTHORIZATION:V1:BOOTSTRAP"
  | .epochTransition => ascii "GUARDIAN-F401:M15:AUTHORIZATION:V1:EPOCH-TRANSITION"

/-- `str` of a natural number. -/
def decimalText (value : ℕ) : PyString := py (toString value)

def highWaterMembers : Option LogicalTime → Members
  | none => [(py "initial_high_water_state", .str (py "HIGH_WATER_UNSET")), (py "initial_logical_time", .null)]
  | some time =>
    [(py "initial_high_water_state", .str (py "HIGH_WATER_ESTABLISHED")), (py "initial_logical_time", .int time.val)]

def authorizationMapping : AuthorizationObject PyString → Members
  | .bootstrap authorization =>
    [(py "schema_version", .str bootstrapSchemaVersion), (py "authorization_type", .str bootstrapType),
      (py "authorization_id", .str authorization.authorizationId),
      (py "authority_id", .str authorization.authorityId), (py "producer_id", .str authorization.producerId),
      (py "authorization_sequence", .str (decimalText authorization.authorizationSequence)),
      (py "producer_epoch", .str authorization.producerEpoch)] ++ highWaterMembers authorization.initialHighWater
  | .epochTransition authorization =>
    [(py "schema_version", .str epochTransitionSchemaVersion), (py "authorization_type", .str epochTransitionType),
      (py "authorization_id", .str authorization.authorizationId),
      (py "authority_id", .str authorization.authorityId), (py "producer_id", .str authorization.producerId),
      (py "authorization_sequence", .str (decimalText authorization.authorizationSequence)),
      (py "from_epoch", .str authorization.fromEpoch), (py "to_epoch", .str authorization.toEpoch),
      (py "transition_sequence", .str (decimalText authorization.transitionSequence))]

def authorizationCanonicalObjectMaxBytes : ℕ := 8192

def canonicalizeAuthorizationObject (dumps : Value → Option (List U8)) (raw : ByteArray) :
    Raises AuthorizationTranscriptError (List U8) := do
  let authorization ← rewrap (fun _ => ⟨"authorization object validation failed"⟩)
    (parseAndValidateAuthorizationObject raw)
  match dumps (.dict (authorizationMapping authorization)) with
  | none => raise ⟨"RFC 8785 authorization canonicalization failed"⟩
  | some canonical => do
    require (canonical.length ≤ authorizationCanonicalObjectMaxBytes)
      ⟨"canonical authorization object exceeds 8192 bytes"⟩
    return canonical

/-- `build_authorization_transcript`, for the one algorithm and version. -/
def buildAuthorizationTranscript (dumps : Value → Option (List U8)) (raw : ByteArray) (keyId authorityId : PyString) :
    Raises AuthorizationTranscriptError (List U8) := do
  let keyIdBytes ← rewrap (fun _ => ⟨"invalid authority key_id"⟩) (validateKeyId (.str keyId))
  match encodeAscii authorityId with
  | none => raise ⟨"authority_id must be ASCII"⟩
  | some authorityIdBytes => do
    require (1 ≤ authorityIdBytes.length ∧ authorityIdBytes.length ≤ 128) ⟨"authority_id exceeds M15 bound"⟩
    let authorization ← rewrap (fun _ => ⟨"authorization object validation failed"⟩)
      (parseAndValidateAuthorizationObject raw)
    require (authorization.authorityId = authorityId) ⟨"authority_id does not match authorization object"⟩
    let canonical ← canonicalizeAuthorizationObject dumps raw
    joinTranscript ⟨"value does not fit uint16"⟩ ⟨"value does not fit uint32"⟩
      (authorizationPurposeDomain authorization.authorizationType) keyIdBytes authorityIdBytes canonical

inductive AuthenticationResultCode
  | authenticated
  | identityUnknown
  | keyUnknown
  | keyRevoked
  | keyRetiredForNewUse
  | algorithmUnsupported
  | signatureEncodingInvalid
  | signatureInvalid
  | transcriptVersionUnsupported
  | cryptoProviderUnavailable
  | cryptoProviderFailure
  | internalError
  deriving DecidableEq, Repr

structure AuthenticationResult where
  code : AuthenticationResultCode
  producerId : Option Value := none
  producerEpoch : Option Value := none
  logicalTime : Option Value := none
  keyId : Option PyString := none
  algorithm : Option PyString := none
  trustCode : Option TrustStoreErrorCode := none
  cryptoCode : Option CryptoResultCode := none
  detail : Option Detail := none

/-- `_TRUST_RESULT_MAP`. -/
def trustResultMap : TrustStoreErrorCode → Option AuthenticationResultCode
  | .identityUnknown => some .identityUnknown
  | .keyUnknown => some .keyUnknown
  | .keyRevoked => some .keyRevoked
  | .keyRetiredForNewUse => some .keyRetiredForNewUse
  | .algorithmUnsupported => some .algorithmUnsupported
  | _ => none

/-- `_CRYPTO_RESULT_MAP`. -/
def cryptoResultMap : CryptoResultCode → Option AuthenticationResultCode
  | .signatureInvalid => some .signatureInvalid
  | .algorithmUnsupported => some .algorithmUnsupported
  | .cryptoProviderUnavailable => some .cryptoProviderUnavailable
  | .cryptoProviderFailure => some .cryptoProviderFailure
  | .internalError => some .internalError
  | .verified => none

/-- `_wrapper_security_result`. -/
def wrapperSecurityResult (error : SignedWrapperError) : Option AuthenticationResult :=
  match error.code with
  | .signatureEncodingInvalid => some { code := .signatureEncodingInvalid, detail := some error.detail }
  | .transcriptVersionUnsupported => some { code := .transcriptVersionUnsupported, detail := some error.detail }
  | .algorithmUnsupported => some { code := .algorithmUnsupported, detail := some error.detail }
  | _ => none

/-- What `authenticate_signed_assurance` raises: an error of the wrapper, or one of the canonicalisation. -/
inductive AuthenticationError
  | wrapper (error : SignedWrapperError)
  | assurance (error : AssuranceError)
  deriving DecidableEq

/-- `authenticate_signed_assurance`, from the validated wrapper on. -/
def authenticateWrapper (dumps : Value → Option (List U8)) (store : TrustStore) (provider : Provider)
    (wrapper : ValidatedSignedWrapper) : Raises AuthenticationError AuthenticationResult := do
  let producerId ← item wrapper.assuranceObject (py "producer_id")
  let producerEpoch ← item wrapper.assuranceObject (py "producer_epoch")
  let logicalTime ← item wrapper.assuranceObject (py "logical_time")
  let trust := resolveTrustedCredential store (textOf producerId) wrapper.keyId signatureAlgorithmName
  let result (code : AuthenticationResultCode) : AuthenticationResult :=
    { code := code, producerId := some producerId, keyId := some wrapper.keyId,
      algorithm := some signatureAlgorithmName, trustCode := some trust.code }
  if trust.code ≠ .resolved ∨ trust.record = none then match trustResultMap trust.code with
    | none => return { result .internalError with detail := some (.text "unmapped trust resolution result") }
    | some code => return { result code with detail := trust.detail.map .text }
  else match trust.record with
  | none =>
    return { result .internalError with
      detail := some (.text "resolved trust result contained no credential record") }
  | some record => do
    match ← attempt (buildSignedAssuranceTranscript dumps wrapper.assuranceObjectRaw wrapper.keyId) with
    | .error (.transcript error) =>
      return { result .internalError with detail := some (.text ("transcript invariant failure: " ++ error.text)) }
    | .error (.assurance error) => raise (.assurance error)
    | .ok transcript =>
      let crypto := provider signatureAlgorithmName record.publicKeyBytes transcript wrapper.signatureBytes
      if crypto.code ≠ .verified then
        return { result ((cryptoResultMap crypto.code).getD .internalError) with
          cryptoCode := some crypto.code, detail := crypto.detail.map .text }
      else
        return { result .authenticated with
          producerEpoch := some producerEpoch, logicalTime := some logicalTime, cryptoCode := some crypto.code }

def authenticateSignedAssurance (dumps : Value → Option (List U8)) (raw : ByteArray) (store : TrustStore)
    (provider : Provider) : Raises AuthenticationError AuthenticationResult := do
  match ← attempt (parseAndValidateSignedWrapper raw) with
  | .error error => match wrapperSecurityResult error with
    | some mapped => return mapped
    | none => raise (.wrapper error)
  | .ok wrapper => authenticateWrapper dumps store provider wrapper

structure AuthorizationAuthentication extends AuthorizationAuthenticationResult PyString where
  keyId : Option PyString := none
  algorithm : Option PyString := none
  authorizationObjectRaw : Option ByteArray := none
  trustCode : Option AuthorizationTrustErrorCode := none
  cryptoCode : Option CryptoResultCode := none
  detail : Option Detail := none

/-- `_TRUST_RESULT_MAP`. -/
def authorizationTrustResultMap : AuthorizationTrustErrorCode → Option AuthorizationAuthenticationResultCode
  | .authorityUnknown => some .authorityUnknown
  | .keyUnknown => some .keyUnknown
  | .capabilityMismatch => some .capabilityMismatch
  | .keyRetiredForNewUse => some .keyRetired
  | .keyRevoked => some .keyRevoked
  | .algorithmUnsupported => some .algorithmUnsupported
  | _ => none

/-- `_CRYPTO_RESULT_MAP`. -/
def authorizationCryptoResultMap : CryptoResultCode → Option AuthorizationAuthenticationResultCode
  | .signatureInvalid => some .signatureInvalid
  | .algorithmUnsupported => some .algorithmUnsupported
  | .cryptoProviderUnavailable | .cryptoProviderFailure => some .cryptoProviderFailure
  | .internalError => some .internalError
  | .verified => none

def requiredCapability : AuthorizationType → Capability
  | .bootstrap => .bootstrapAuthority
  | .epochTransition => .epochTransitionAuthority

/-- What `authenticate_authorization` returns about an authorization whose signature it verified. -/
def AuthorizationObject.authenticated {ι : Type} : AuthorizationObject ι → AuthorizationAuthenticationResult ι
  | .bootstrap authorization => authorization.authenticated
  | .epochTransition authorization => authorization.authenticated

/-- `authenticate_authorization`, from the validated envelope on. -/
def authenticateEnvelope (dumps : Value → Option (List U8)) (store : AuthorizationTrustStore) (provider : Provider)
    (envelope : ValidatedSignedAuthorization) : Raises Empty AuthorizationAuthentication := do
  let authorization := envelope.authorizationObject
  let trust := resolveAuthorizationCredential store envelope.authorityId envelope.keyId signatureAlgorithmName
    (requiredCapability authorization.authorizationType)
  let result (code : AuthorizationAuthenticationResultCode) : AuthorizationAuthentication :=
    { authorization.authenticated with
      code := code, authorizationObject := none, authorityId := some envelope.authorityId,
      keyId := some envelope.keyId, algorithm := some signatureAlgorithmName, trustCode := some trust.code }
  if trust.code ≠ .resolved then
    return { result ((authorizationTrustResultMap trust.code).getD .internalError) with
      detail := trust.detail.map .text }
  else match trust.record with
  | none =>
    return { result .internalError with
      detail := some (.text "resolved authorization trust result contained no credential") }
  | some record => do
    match ← attempt (buildAuthorizationTranscript dumps envelope.authorizationObjectRaw envelope.keyId
      envelope.authorityId) with
    | .error error =>
      return { result .internalError with
        detail := some (.text ("authorization transcript invariant failure: " ++ error.text)) }
    | .ok transcript =>
      let crypto := provider signatureAlgorithmName record.publicKey transcript envelope.signatureBytes
      if crypto.code ≠ .verified then
        return { result ((authorizationCryptoResultMap crypto.code).getD .internalError) with
          cryptoCode := some crypto.code, detail := crypto.detail.map .text }
      else
        return { result .authorizationAuthenticated with
          authorizationObject := some authorization
          authorizationObjectRaw := some envelope.authorizationObjectRaw
          cryptoCode := some crypto.code }

def Detail.after (text : String) : Detail → Detail
  | .text rest => .text (text ++ rest)
  | .about rest name => .about (text ++ rest) name

def authenticateAuthorization (dumps : Value → Option (List U8)) (raw : ByteArray) (store : AuthorizationTrustStore)
    (provider : Provider) : Raises Empty AuthorizationAuthentication := do
  match ← attempt (parseAndValidateSignedAuthorization raw) with
  | .error error =>
    return { code := .signedAuthorizationInvalid, authorityId := none, authorizationType := none,
             authorizationId := none, authorizationSequence := none, producerId := none, authorizationObject := none,
             detail := some (error.detail.after (error.code.value ++ ": ")) }
  | .ok envelope => authenticateEnvelope dumps store provider envelope

end Guardian.Assurance
