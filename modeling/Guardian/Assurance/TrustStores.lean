import Guardian.Crypto.Sha256
import Guardian.Assurance.SignedText

namespace Guardian.Assurance

open JsonText Raising Word Crypto

attribute [local instance] pyString_lawfulBEq

variable {ε : Type}

inductive CredentialState
  | active
  | retired
  | revoked
  deriving DecidableEq, Repr

/-- The state that a value names, if it is in `_LIFECYCLE_STATES`: the question needs the value's hash. -/
def credentialState (value : Value) : Raises ε (Option CredentialState) :=
  if ¬ hashable value then .error .typeError
  else if isText value (py "ACTIVE") then .ok (some .active)
  else if isText value (py "RETIRED") then .ok (some .retired)
  else if isText value (py "REVOKED") then .ok (some .revoked)
  else .ok none

def decodeKey (decode : PyString → Except String (List U8)) (error : String → ε) : Value → Raises ε (List U8)
  | .str codes => match decode codes with
    | .ok bytes => .ok bytes
    | .error text => raise (error text)
  | _ => raise (error "public_key must be a string")

def topLevelKeys : List PyString := [py "schema_version", py "environment", py "records"]

def octetsOf (raw : ByteArray) : List U8 := raw.toList.map UInt8.toBitVec

def hexDigitUpper (value : ℕ) : ℕ := if value < 10 then 48 + value else 55 + value

/-- `hexdigest().upper()`. -/
def hexUpper (bytes : List U8) : PyString :=
  bytes.flatMap fun byte => [hexDigitUpper (byte.toNat / 16), hexDigitUpper (byte.toNat % 16)]

inductive TrustStoreErrorCode
  | rawLimit
  | invalidUtf8
  | invalidJson
  | duplicateKey
  | schema
  | recordLimit
  | identityUnknown
  | keyUnknown
  | algorithmUnsupported
  | keyRevoked
  | keyRetiredForNewUse
  | resolved
  deriving DecidableEq, Repr

structure TrustStoreError where
  code : TrustStoreErrorCode
  detail : Detail
  deriving DecidableEq

structure TrustRecord where
  producerId : PyString
  keyId : PyString
  algorithm : PyString
  publicKey : PyString
  publicKeyBytes : List U8
  lifecycleState : CredentialState
  deriving DecidableEq

structure TrustStore where
  environment : PyString
  records : List TrustRecord
  rawSha256 : PyString
  canonicalSha256 : PyString

def storeError (text : String) : TrustStoreError := ⟨.schema, .text text⟩

def trustStoreSchemaVersion : PyString := py "guardian-f401:m15:trust-store:v1"

def trustStoreMaxRawBytes : ℕ := 1048576

def trustStoreMaxRecords : ℕ := 4096

def recordKeys : List PyString :=
  [py "producer_id", py "key_id", py "algorithm", py "public_key", py "lifecycle_state"]

def environments : List PyString := [py "TEST", py "PRODUCTION"]

structure OpenedRecord where
  producerId : PyString
  keyId : PyString
  algorithm : PyString
  publicKey : PyString
  publicKeyBytes : List U8
  lifecycleState : Value

/-- `_validate_record`, up to the lifecycle state. -/
def openRecord (value : Value) : Raises TrustStoreError OpenedRecord :=
  match value with
  | .dict members => do
    require (HasExactly recordKeys members) (storeError "TrustRecord must contain exactly the defined members")
    let producerId ← rewrap (fun _ => storeError "invalid producer_id")
      (validateProducerId (← item members (py "producer_id")))
    let keyId ← item members (py "key_id")
    let _ ← rewrap (fun _ => storeError "invalid key_id") (validateKeyId keyId)
    let algorithm ← item members (py "algorithm")
    require (isText algorithm signatureAlgorithmName)
      ⟨.algorithmUnsupported, .text "unsupported trust-record algorithm"⟩
    let publicKey ← item members (py "public_key")
    let publicKeyBytes ← decodeKey decodePublicKey storeError publicKey
    let lifecycleState ← item members (py "lifecycle_state")
    return ⟨producerId, textOf keyId, textOf algorithm, textOf publicKey, publicKeyBytes, lifecycleState⟩
  | _ => raise (storeError "TrustRecord must contain exactly the defined members")

def validateRecord (value : Value) : Raises TrustStoreError TrustRecord := do
  let opened ← openRecord value
  match ← credentialState opened.lifecycleState with
  | some state =>
    return ⟨opened.producerId, opened.keyId, opened.algorithm, opened.publicKey, opened.publicKeyBytes, state⟩
  | none => raise (storeError "invalid lifecycle_state")

def checkDistinct : List TrustRecord → List TrustRecord → Raises TrustStoreError Unit
  | _, [] => return ()
  | seen, record :: records => do
    require (¬ seen.any fun other =>
        (other.producerId, other.keyId, other.algorithm) = (record.producerId, record.keyId, record.algorithm))
      (storeError "duplicate credential record")
    require (¬ seen.any fun other => (other.producerId, other.keyId) = (record.producerId, record.keyId))
      (storeError "duplicate producer_id + key_id mapping")
    checkDistinct (seen ++ [record]) records

def trustStoreHooks : Hooks (Raised TrustStoreError) :=
  dictHooks (fun key => ⟨.duplicateKey, .about "duplicate JSON member: " key⟩) fun _ => some .valueError

/-- The members of a trust store's bytes, with the schema version checked. -/
def openTrustStore (raw : ByteArray) (expectedEnvironment : PyString) : Raises TrustStoreError Members := do
  require (raw.size ≤ trustStoreMaxRawBytes) ⟨.rawLimit, .text "trust store exceeds 1,048,576-byte limit"⟩
  require (expectedEnvironment ∈ environments) (storeError "invalid configured verifier environment")
  let text ← decodeUtf8 ⟨.invalidUtf8, .text "trust store is not valid UTF-8"⟩ raw
  let value ← onValueError ⟨.invalidJson, .text "trust store is not valid strict JSON"⟩
    (loadJson trustStoreHooks text)
  match value with
  | .dict members => do
    require (HasExactly topLevelKeys members)
      (storeError "trust store must contain exactly schema_version, environment, records")
    let version ← item members (py "schema_version")
    require (isText version trustStoreSchemaVersion) (storeError "unsupported trust-store schema_version")
    return members
  | _ => raise (storeError "trust store must contain exactly schema_version, environment, records")

/-- The items of the records, once the environment has been found to be in the set and as expected. -/
def recordItems (environment records : Value) (expectedEnvironment : PyString) :
    Raises TrustStoreError (List Value) := do
  let known ← memberOf environments environment
  require known (storeError "invalid trust-store environment")
  require (isText environment expectedEnvironment)
    (storeError "trust-store environment does not match verifier configuration")
  match records with
  | .list items => do
    require (items.length ≤ trustStoreMaxRecords) ⟨.recordLimit, .text "trust store exceeds 4,096-record limit"⟩
    return items
  | _ => raise (storeError "records must be an array")

/-- `parse_and_validate_trust_store`. `dumps` is the RFC 8785 canonicaliser. -/
def parseAndValidateTrustStore (dumps : Value → Option (List U8)) (raw : ByteArray) (expectedEnvironment : PyString) :
    Raises TrustStoreError TrustStore := do
  let members ← openTrustStore raw expectedEnvironment
  let environment ← item members (py "environment")
  let items ← recordItems environment (← item members (py "records")) expectedEnvironment
  let records ← items.mapM validateRecord
  checkDistinct [] records
  match dumps (.dict members) with
  | none => raise (storeError "RFC 8785 canonicalization failed")
  | some canonical =>
    return ⟨expectedEnvironment, records, hexUpper (sha256 (octetsOf raw)), hexUpper (sha256 canonical)⟩

structure TrustResolutionResult where
  code : TrustStoreErrorCode
  record : Option TrustRecord := none
  detail : Option String := none
  deriving DecidableEq

/-- `resolve_trusted_credential`, for new authentication. -/
def resolveTrustedCredential (store : TrustStore) (producerId keyId algorithm : PyString) : TrustResolutionResult :=
  if algorithm ≠ signatureAlgorithmName then { code := .algorithmUnsupported, detail := some "unsupported algorithm" }
  else
    let producerRecords := store.records.filter (·.producerId = producerId)
    if producerRecords = [] then { code := .identityUnknown, detail := some "producer_id not found" }
    else
      let keyRecords := producerRecords.filter (·.keyId = keyId)
      if keyRecords = [] then { code := .keyUnknown, detail := some "key_id not found for producer" }
      else match keyRecords.filter (·.algorithm = algorithm) with
        | [record] => match record.lifecycleState with
          | .revoked => ⟨.keyRevoked, some record, some "credential is revoked"⟩
          | .retired =>
            ⟨.keyRetiredForNewUse, some record, some "retired credential is not valid for new authentication"⟩
          | .active => { code := .resolved, record := some record }
        | _ =>
          { code := .algorithmUnsupported, detail := some "exact producer/key/algorithm mapping not found" }

inductive AuthorizationTrustErrorCode
  | resolved
  | rawLimit
  | invalidUtf8
  | invalidJson
  | duplicateKey
  | schema
  | environmentMismatch
  | authorityUnknown
  | keyUnknown
  | algorithmUnsupported
  | capabilityMismatch
  | keyRetiredForNewUse
  | keyRevoked
  deriving DecidableEq, Repr

structure AuthorizationTrustError where
  code : AuthorizationTrustErrorCode
  detail : Detail
  deriving DecidableEq

inductive Capability
  | bootstrapAuthority
  | epochTransitionAuthority
  deriving DecidableEq, Repr

def capability? (name : PyString) : Option Capability :=
  if name = py "BOOTSTRAP_AUTHORITY" then some .bootstrapAuthority
  else if name = py "EPOCH_TRANSITION_AUTHORITY" then some .epochTransitionAuthority
  else none

structure AuthorizationTrustRecord where
  authorityId : PyString
  keyId : PyString
  algorithm : PyString
  publicKey : List U8
  lifecycleState : CredentialState
  capabilities : List Capability
  deriving DecidableEq

structure AuthorizationTrustStore where
  environment : PyString
  records : List AuthorizationTrustRecord
  rawSha256 : PyString

def trustError (text : String) : AuthorizationTrustError := ⟨.schema, .text text⟩

def authorizationTrustStoreSchemaVersion : PyString := py "guardian-f401:m15:authorization-trust-store:v1"

def authorizationTrustStoreMaxRawBytes : ℕ := 262144

def authorizationTrustStoreMaxRecords : ℕ := 1024

def authorizationTrustRecordMaxCapabilities : ℕ := 2

def authorizationRecordKeys : List PyString :=
  [py "authority_id", py "key_id", py "algorithm", py "public_key", py "lifecycle_state", py "capabilities"]

def text? : Value → Option PyString
  | .str codes => some codes
  | _ => none

def capabilitiesOf (value : Value) : Raises AuthorizationTrustError (List Capability) :=
  match value with
  | .list items => do
    require (1 ≤ items.length ∧ items.length ≤ authorizationTrustRecordMaxCapabilities)
      (trustError "invalid capability count")
    match items.mapM text? with
    | none => raise (trustError "capability must be a string")
    | some names => do
      require names.Nodup (trustError "duplicate capability")
      match names.mapM capability? with
      | none => raise (trustError "unknown authorization capability")
      | some capabilities => return capabilities
  | _ => raise (trustError "capabilities must be an array")

/-- A record before its lifecycle state and its capabilities have been looked at. -/
structure OpenedAuthorizationRecord where
  authorityId : PyString
  keyId : PyString
  algorithm : PyString
  publicKey : List U8
  lifecycleState : Value
  capabilities : Value

/-- `_validate_record`, up to the lifecycle state. -/
def openAuthorizationRecord (value : Value) : Raises AuthorizationTrustError OpenedAuthorizationRecord :=
  match value with
  | .dict members => do
    require (HasExactly authorizationRecordKeys members)
      (trustError "authorization trust record members do not match schema")
    let authorityId ← rewrap (fun _ => trustError "invalid authority_id")
      (validateAuthorityId (← item members (py "authority_id")))
    let keyId ← item members (py "key_id")
    let _ ← rewrap (fun _ => trustError "invalid key_id") (validateKeyId keyId)
    let algorithm ← item members (py "algorithm")
    require (isText algorithm signatureAlgorithmName) (trustError "unsupported authorization trust algorithm")
    let publicKey ← decodeKey decodeAuthorizationPublicKey trustError (← item members (py "public_key"))
    let lifecycleState ← item members (py "lifecycle_state")
    let capabilities ← item members (py "capabilities")
    return ⟨authorityId, textOf keyId, textOf algorithm, publicKey, lifecycleState, capabilities⟩
  | _ => raise (trustError "authorization trust record members do not match schema")

def validateAuthorizationRecord (value : Value) : Raises AuthorizationTrustError AuthorizationTrustRecord := do
  let opened ← openAuthorizationRecord value
  match ← credentialState opened.lifecycleState with
  | some state => do
    let capabilities ← capabilitiesOf opened.capabilities
    return ⟨opened.authorityId, opened.keyId, opened.algorithm, opened.publicKey, state, capabilities⟩
  | none => raise (trustError "invalid lifecycle_state")

def checkDistinctAuthorities : List AuthorizationTrustRecord → List AuthorizationTrustRecord →
    Raises AuthorizationTrustError Unit
  | _, [] => return ()
  | seen, record :: records => do
    require (¬ seen.any fun other =>
        (other.authorityId, other.keyId, other.algorithm) = (record.authorityId, record.keyId, record.algorithm))
      (trustError "duplicate authority_id + key_id + algorithm mapping")
    require (¬ seen.any fun other => (other.authorityId, other.keyId) = (record.authorityId, record.keyId))
      (trustError "duplicate authority_id + key_id mapping")
    checkDistinctAuthorities (seen ++ [record]) records

def authorizationTrustStoreHooks : Hooks (Raised AuthorizationTrustError) :=
  dictHooks (fun key => ⟨.duplicateKey, .about "duplicate member " key⟩)
    fun spelling => some (.own ⟨.invalidJson, constantDetail spelling⟩)

/-- The items of the records of an authorization trust store's bytes. -/
def openAuthorizationTrustStore (raw : ByteArray) (expectedEnvironment : PyString) :
    Raises AuthorizationTrustError (List Value) := do
  require (raw.size ≤ authorizationTrustStoreMaxRawBytes)
    ⟨.rawLimit, .text "authorization trust store raw-byte limit exceeded"⟩
  let text ← decodeUtf8 ⟨.invalidUtf8, .text "authorization trust store is not strict UTF-8"⟩ raw
  let value ← onValueError ⟨.invalidJson, .text "authorization trust store is not valid JSON"⟩
    (loadJson authorizationTrustStoreHooks text)
  match value with
  | .dict members => do
    require (HasExactly topLevelKeys members) (trustError "authorization trust store members do not match schema")
    let version ← item members (py "schema_version")
    require (isText version authorizationTrustStoreSchemaVersion)
      (trustError "unsupported authorization trust-store schema_version")
    let environment ← item members (py "environment")
    require (isText environment expectedEnvironment)
      ⟨.environmentMismatch, .text "authorization trust-store environment mismatch"⟩
    match ← item members (py "records") with
    | .list items => do
      require (items.length ≤ authorizationTrustStoreMaxRecords)
        (trustError "authorization trust-store record limit exceeded")
      return items
    | _ => raise (trustError "records must be an array")
  | _ => raise (trustError "authorization trust store members do not match schema")

/-- `parse_and_validate_authorization_trust_store`. -/
def parseAndValidateAuthorizationTrustStore (raw : ByteArray) (expectedEnvironment : PyString) :
    Raises AuthorizationTrustError AuthorizationTrustStore := do
  let items ← openAuthorizationTrustStore raw expectedEnvironment
  let records ← items.mapM validateAuthorizationRecord
  checkDistinctAuthorities [] records
  return ⟨expectedEnvironment, records, hexUpper (sha256 (octetsOf raw))⟩

structure AuthorizationTrustResolutionResult where
  code : AuthorizationTrustErrorCode
  record : Option AuthorizationTrustRecord := none
  detail : Option String := none
  deriving DecidableEq

/-- `resolve_authorization_credential`, for a new authorization and one of the two capabilities. -/
def resolveAuthorizationCredential (store : AuthorizationTrustStore) (authorityId keyId algorithm : PyString)
    (required : Capability) : AuthorizationTrustResolutionResult :=
  let authorityRecords := store.records.filter (·.authorityId = authorityId)
  if authorityRecords = [] then { code := .authorityUnknown, detail := some "authority_id not found" }
  else
    let keyRecords := authorityRecords.filter (·.keyId = keyId)
    if keyRecords = [] then { code := .keyUnknown, detail := some "key_id not found for authority" }
    else match keyRecords.filter (·.algorithm = algorithm) with
      | [record] => match record.lifecycleState with
        | .revoked => ⟨.keyRevoked, some record, some "authorization credential is revoked"⟩
        | .retired =>
          ⟨.keyRetiredForNewUse, some record, some "retired authorization credential is not valid for new use"⟩
        | .active =>
          if required ∉ record.capabilities then
            ⟨.capabilityMismatch, some record, some "authorization credential lacks required capability"⟩
          else { code := .resolved, record := some record }
      | _ => { code := .algorithmUnsupported, detail := some "exact authority/key/algorithm mapping not found" }

end Guardian.Assurance
