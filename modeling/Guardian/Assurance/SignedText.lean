import Guardian.Assurance.AuthorizationObjects

namespace Guardian.Assurance

open JsonText Raising Word

attribute [local instance] pyString_lawfulBEq

variable {ε : Type}

/-- The errors in which the two scanners differ, and the characters at which a scalar ends. -/
structure MemberScanner (ε : Type) where
  invalidJson : String → ε
  notObject : ε
  invalidName : ε
  missingColon : ε
  invalidSeparator : ε
  mismatched : ε
  unopened : ε
  missingMember : ε
  stops : List Char

/-- `text[start:stop]`, where positions are given by what follows them. -/
def upTo (start stop : List Char) : List Char := start.take (start.length - stop.length)

def stringEnd (scanner : MemberScanner ε) : Bool → List Char → Raises ε (List Char)
  | _, [] => raise (scanner.invalidJson "unterminated JSON string")
  | true, _ :: rest => stringEnd scanner false rest
  | false, c :: rest =>
    if c = '\\' then stringEnd scanner true rest
    else if c = '"' then .ok rest
    else stringEnd scanner false rest

def scanStringEnd (scanner : MemberScanner ε) : List Char → Raises ε (List Char)
  | '"' :: rest => stringEnd scanner false rest
  | _ => raise (scanner.invalidJson "expected JSON string")

def closerOf (opener : Char) : Char := if opener = '[' then ']' else '}'

/-- The end of a container: the brackets that are open, and whether the scanner is in a string and after a backslash. -/
def containerEnd (scanner : MemberScanner ε) : List Char → Bool → Bool → List Char → Raises ε (List Char)
  | _, _, _, [] => raise (scanner.invalidJson "unterminated JSON container")
  | stack, true, true, _ :: rest => containerEnd scanner stack true false rest
  | stack, true, false, c :: rest =>
    if c = '\\' then containerEnd scanner stack true true rest
    else if c = '"' then containerEnd scanner stack false false rest
    else containerEnd scanner stack true false rest
  | stack, false, _, c :: rest =>
    if c = '"' then containerEnd scanner stack true false rest
    else if c = '[' ∨ c = '{' then containerEnd scanner (c :: stack) false false rest
    else if c = ']' ∨ c = '}' then match stack with
      | [] => raise scanner.unopened
      | opener :: outer =>
        if c ≠ closerOf opener then raise scanner.mismatched
        else if outer = [] then .ok rest
        else containerEnd scanner outer false false rest
    else containerEnd scanner stack false false rest

/-- `_scan_value_end`. -/
def scanValueEnd (scanner : MemberScanner ε) : List Char → Raises ε (List Char)
  | [] => raise (scanner.invalidJson "missing JSON value")
  | c :: rest =>
    if c = '"' then scanStringEnd scanner (c :: rest)
    else if c = '[' ∨ c = '{' then containerEnd scanner [c] false false rest
    else .ok ((c :: rest).dropWhile (· ∉ scanner.stops))

def plainHooks : Hooks Empty where
  object members := .ok (.dict members)
  constant _ := none

/-- `json.loads` of a member name. -/
def loadName (scanner : MemberScanner ε) (text : List Char) : Raises ε Value :=
  match loads plainHooks text with
  | .ok value => .ok value
  | .error _ => raise scanner.invalidName

/-- The loop over the members, after an opening brace or a comma. -/
def extractMember (scanner : MemberScanner ε) (target : PyString) : ℕ → List Char → Raises ε (List Char)
  | 0, _ => raise scanner.missingMember
  | fuel + 1, text =>
    match skipSpace text with
    | [] => raise scanner.missingMember
    | '}' :: _ => raise scanner.missingMember
    | keyStart => do
      let keyEnd ← scanStringEnd scanner keyStart
      let key ← loadName scanner (upTo keyStart keyEnd)
      match skipSpace keyEnd with
      | ':' :: after => do
        let valueStart := skipSpace after
        let valueEnd ← scanValueEnd scanner valueStart
        if isText key target then return upTo valueStart valueEnd
        else match skipSpace valueEnd with
          | ',' :: rest => extractMember scanner target fuel rest
          | '}' :: _ => raise scanner.missingMember
          | _ => raise scanner.invalidSeparator
      | _ => raise scanner.missingColon

/-- `_extract_top_level_member_raw`. -/
def extractTopLevelMemberRaw (scanner : MemberScanner ε) (text : List Char) (target : PyString) :
    Raises ε (List Char) :=
  match skipSpace text with
  | '{' :: rest => extractMember scanner target (text.length + 1) rest
  | _ => raise scanner.notObject

structure TranscriptError where
  text : String
  deriving DecidableEq

/-- `encode("ascii")`. -/
def encodeAscii (codes : PyString) : Option (List U8) :=
  if codes.all (· < 128) then some (codes.map (BitVec.ofNat 8)) else none

def validateKeyId : Value → Raises TranscriptError (List U8)
  | .str codes =>
    if ¬ isIdentifier 128 codes then raise ⟨"key_id does not satisfy the M15 grammar"⟩
    else match encodeAscii codes with
      | none => raise ⟨"key_id must be ASCII"⟩
      | some encoded => if 128 < encoded.length then raise ⟨"key_id exceeds M15 bound"⟩ else .ok encoded
  | _ => raise ⟨"key_id must be a string"⟩

def textOf : Value → PyString
  | .str codes => codes
  | _ => []

def decodeSignature (decode : PyString → Except String (List U8)) (error : String → ε) :
    Value → Raises ε (List U8)
  | .str codes => match decode codes with
    | .ok bytes => .ok bytes
    | .error text => raise (error text)
  | _ => raise (error "signature must be a string")

/-- The hook that keeps the members of an object as a list of pairs. -/
def pairHooks (constant : List Char → Option (Raised ε)) : Hooks (Raised ε) where
  object pairs := .ok (.list (pairs.map fun pair => .pair pair.1 pair.2))
  constant := constant

def signatureAlgorithmName : PyString := py "ed25519"

inductive SignedWrapperErrorCode
  | rawLimit
  | invalidUtf8
  | invalidJson
  | duplicateKey
  | schema
  | transcriptVersionUnsupported
  | algorithmUnsupported
  | keyIdInvalid
  | signatureEncodingInvalid
  | assuranceObjectInvalid
  deriving DecidableEq, Repr

structure SignedWrapperError where
  code : SignedWrapperErrorCode
  detail : Detail
  deriving DecidableEq

structure ValidatedSignedWrapper where
  keyId : PyString
  assuranceObject : Members
  assuranceObjectRaw : ByteArray
  signature : PyString
  signatureBytes : List U8

def signedWrapperMaxRawBytes : ℕ := 66048

def transcriptVersion : PyString := py "guardian-f401:m15:signed-assurance:v1"

def wrapperKeys : List PyString :=
  [py "signature_version", py "signature_algorithm", py "key_id", py "assurance_object", py "signature"]

def wrapperScanner : MemberScanner SignedWrapperError where
  invalidJson text := ⟨.invalidJson, .text text⟩
  notObject := ⟨.schema, .text "wrapper must be a JSON object"⟩
  invalidName := ⟨.invalidJson, .text "invalid wrapper member name"⟩
  missingColon := ⟨.invalidJson, .text "missing wrapper member colon"⟩
  invalidSeparator := ⟨.invalidJson, .text "invalid wrapper member separator"⟩
  mismatched := ⟨.invalidJson, .text "invalid JSON nesting"⟩
  unopened := ⟨.invalidJson, .text "invalid JSON nesting"⟩
  missingMember := ⟨.schema, .text "required wrapper member not found: assurance_object"⟩
  stops := [',', '}']

def pair? : Value → Option (PyString × Value)
  | .pair key value => some (key, value)
  | _ => none

/-- `_parse_pairs` of the wrapper. -/
def wrapperPairs (text : List Char) : Raises SignedWrapperError Members := do
  let value ← onValueError ⟨.invalidJson, .text "wrapper is not valid strict JSON"⟩
    (loadJson (pairHooks fun _ => some .valueError) text)
  match value with
  | .list items => match items.mapM pair? with
    | some pairs => return pairs
    | none => raise ⟨.schema, .text "wrapper must be a JSON object"⟩
  | _ => raise ⟨.schema, .text "wrapper must be a JSON object"⟩

/-- `_top_level_mapping` of the wrapper. -/
def wrapperTopLevel (pairs : Members) : Raises SignedWrapperError Members := do
  let members ← uniqueMembers (fun key => ⟨.duplicateKey, .about "duplicate wrapper member: " key⟩) [] pairs
  require (HasExactly wrapperKeys members) ⟨.schema, .text "wrapper must contain exactly the five defined members"⟩
  return members

/-- What the checks of an envelope leave: its fields, and the text of the signed object. -/
structure OpenedWrapper where
  keyId : PyString
  signature : PyString
  signatureBytes : List U8
  source : List Char

/-- `parse_and_validate_signed_wrapper`, up to the assurance object. -/
def openSignedWrapper (raw : ByteArray) : Raises SignedWrapperError OpenedWrapper := do
  require (raw.size ≤ signedWrapperMaxRawBytes)
    ⟨.rawLimit, .text "signed wrapper exceeds 66,048-byte raw limit"⟩
  let text ← decodeUtf8 ⟨.invalidUtf8, .text "wrapper is not valid UTF-8"⟩ raw
  let pairs ← wrapperPairs text
  let wrapper ← wrapperTopLevel pairs
  let version ← item wrapper (py "signature_version")
  require (isText version transcriptVersion)
    ⟨.transcriptVersionUnsupported, .text "unsupported signature_version"⟩
  let algorithm ← item wrapper (py "signature_algorithm")
  require (isText algorithm signatureAlgorithmName) ⟨.algorithmUnsupported, .text "unsupported signature_algorithm"⟩
  let keyId ← item wrapper (py "key_id")
  let _ ← rewrap (fun _ => ⟨.keyIdInvalid, .text "invalid key_id"⟩) (validateKeyId keyId)
  let signature ← item wrapper (py "signature")
  let signatureBytes ← decodeSignature decodeSignatureBase64url (fun text => ⟨.signatureEncodingInvalid, .text text⟩)
    signature
  let source ← extractTopLevelMemberRaw wrapperScanner text (py "assurance_object")
  return ⟨textOf keyId, textOf signature, signatureBytes, source⟩

def parseAndValidateSignedWrapper (raw : ByteArray) : Raises SignedWrapperError ValidatedSignedWrapper := do
  let opened ← openSignedWrapper raw
  let assuranceRaw := (String.ofList opened.source).toUTF8
  let assuranceObject ← rewrap
    (fun error => ⟨.assuranceObjectInvalid, .text ("M14 assurance object rejected: " ++ error.code.value)⟩)
    (parseAndValidateEnvelope assuranceRaw)
  return ⟨opened.keyId, assuranceObject, assuranceRaw, opened.signature, opened.signatureBytes⟩

inductive SignedAuthorizationErrorCode
  | rawLimit
  | invalidUtf8
  | invalidJson
  | duplicateKey
  | schema
  | versionUnsupported
  | algorithmUnsupported
  | authorityIdInvalid
  | authorityIdMismatch
  | keyIdInvalid
  | signatureEncodingInvalid
  | authorizationObjectInvalid
  deriving DecidableEq, Repr

def SignedAuthorizationErrorCode.value : SignedAuthorizationErrorCode → String
  | .rawLimit => "SIGNED_AUTHORIZATION_RAW_LIMIT"
  | .invalidUtf8 => "SIGNED_AUTHORIZATION_INVALID_UTF8"
  | .invalidJson => "SIGNED_AUTHORIZATION_INVALID_JSON"
  | .duplicateKey => "SIGNED_AUTHORIZATION_DUPLICATE_KEY"
  | .schema => "SIGNED_AUTHORIZATION_INVALID"
  | .versionUnsupported => "SIGNED_AUTHORIZATION_VERSION_UNSUPPORTED"
  | .algorithmUnsupported => "SIGNED_AUTHORIZATION_ALGORITHM_UNSUPPORTED"
  | .authorityIdInvalid => "SIGNED_AUTHORIZATION_AUTHORITY_ID_INVALID"
  | .authorityIdMismatch => "SIGNED_AUTHORIZATION_AUTHORITY_ID_MISMATCH"
  | .keyIdInvalid => "SIGNED_AUTHORIZATION_KEY_ID_INVALID"
  | .signatureEncodingInvalid => "SIGNED_AUTHORIZATION_SIGNATURE_ENCODING_INVALID"
  | .authorizationObjectInvalid => "SIGNED_AUTHORIZATION_OBJECT_INVALID"

structure SignedAuthorizationError where
  code : SignedAuthorizationErrorCode
  detail : Detail
  deriving DecidableEq

structure ValidatedSignedAuthorization where
  authorityId : PyString
  keyId : PyString
  authorizationObject : AuthorizationObject PyString
  authorizationObjectRaw : ByteArray
  signature : PyString
  signatureBytes : List U8

def AuthorizationObject.authorityId {ι : Type} : AuthorizationObject ι → ι
  | .bootstrap authorization => authorization.authorityId
  | .epochTransition authorization => authorization.authorityId

def signedAuthorizationMaxRawBytes : ℕ := 16384

def authorizationTranscriptVersion : PyString := py "guardian-f401:m15:authorization-transcript:v1"

def authorizationEnvelopeKeys : List PyString :=
  [py "signature_version", py "signature_algorithm", py "authority_id", py "key_id", py "authorization_object",
    py "signature"]

def authorizationScanner : MemberScanner SignedAuthorizationError where
  invalidJson text := ⟨.invalidJson, .text text⟩
  notObject := ⟨.invalidJson, .text "signed authorization envelope must be an object"⟩
  invalidName := ⟨.invalidJson, .text "invalid envelope member name"⟩
  missingColon := ⟨.invalidJson, .text "missing envelope member colon"⟩
  invalidSeparator := ⟨.invalidJson, .text "invalid envelope member separator"⟩
  mismatched := ⟨.invalidJson, .text "mismatched JSON container"⟩
  unopened := ⟨.invalidJson, .text "unterminated JSON container"⟩
  missingMember := ⟨.schema, .text "missing envelope member 'authorization_object'"⟩
  stops := [',', '}', ']']

/-- `_parse_pairs` of the signed authorization. It lets every array pass. -/
def authorizationItems (text : List Char) : Raises SignedAuthorizationError (List Value) := do
  let value ← onValueError ⟨.invalidJson, .text "signed authorization is not valid JSON"⟩
    (loadJson (pairHooks fun spelling => some (.own ⟨.invalidJson, constantDetail spelling⟩)) text)
  match value with
  | .list items => return items
  | _ => raise ⟨.schema, .text "signed authorization envelope must be an object"⟩

/-- An item is unpacked into a name and a value, which are put in the dictionary. -/
def unpackItem (result : Members) (entry : Value) : Raises SignedAuthorizationError Members := do
  let (key, value) ← unpackTwo entry
  match key with
  | .str name =>
    require (name ∉ result.map Prod.fst) ⟨.duplicateKey, .about "duplicate envelope member " name⟩
    return result ++ [(name, value)]
  | _ => raise ⟨.schema, .text "envelope member name must be a string"⟩

/-- `_top_level_mapping` of the signed authorization. -/
def authorizationTopLevel (items : List Value) : Raises SignedAuthorizationError Members := do
  let members ← items.foldlM unpackItem []
  require (HasExactly authorizationEnvelopeKeys members)
    ⟨.schema, .text "signed authorization envelope must contain exactly the defined members"⟩
  return members

structure OpenedAuthorization extends OpenedWrapper where
  authorityId : PyString

/-- `parse_and_validate_signed_authorization` on its items, up to the authorization object. -/
def openAuthorizationItems (text : List Char) (items : List Value) :
    Raises SignedAuthorizationError OpenedAuthorization := do
  let envelope ← authorizationTopLevel items
  let version ← item envelope (py "signature_version")
  require (isText version authorizationTranscriptVersion)
    ⟨.versionUnsupported, .text "unsupported authorization signature_version"⟩
  let algorithm ← item envelope (py "signature_algorithm")
  require (isText algorithm signatureAlgorithmName)
    ⟨.algorithmUnsupported, .text "unsupported authorization signature_algorithm"⟩
  let authorityId ← rewrap (fun _ => ⟨.authorityIdInvalid, .text "invalid authority_id"⟩)
    (validateAuthorityId (← item envelope (py "authority_id")))
  let keyId ← item envelope (py "key_id")
  let _ ← rewrap (fun _ => ⟨.keyIdInvalid, .text "invalid authority key_id"⟩) (validateKeyId keyId)
  let signature ← item envelope (py "signature")
  let signatureBytes ← decodeSignature decodeAuthorizationSignatureBase64url
    (fun text => ⟨.signatureEncodingInvalid, .text text⟩) signature
  let source ← extractTopLevelMemberRaw authorizationScanner text (py "authorization_object")
  return ⟨⟨textOf keyId, textOf signature, signatureBytes, source⟩, authorityId⟩

/-- The items of a signed authorization's bytes, with their text. -/
def decodeSignedAuthorization (raw : ByteArray) : Raises SignedAuthorizationError (List Char × List Value) := do
  require (raw.size ≤ signedAuthorizationMaxRawBytes)
    ⟨.rawLimit, .text "signed authorization envelope exceeds 16384 bytes"⟩
  let text ← decodeUtf8 ⟨.invalidUtf8, .text "signed authorization envelope is not strict UTF-8"⟩ raw
  let items ← authorizationItems text
  return (text, items)

def openSignedAuthorization (raw : ByteArray) : Raises SignedAuthorizationError OpenedAuthorization := do
  let (text, items) ← decodeSignedAuthorization raw
  openAuthorizationItems text items

def parseAndValidateSignedAuthorization (raw : ByteArray) :
    Raises SignedAuthorizationError ValidatedSignedAuthorization := do
  let opened ← openSignedAuthorization raw
  let authorizationRaw := (String.ofList opened.source).toUTF8
  let authorizationObject ← rewrap
    (fun _ => ⟨.authorizationObjectInvalid, .text "authorization_object failed closed validation"⟩)
    (parseAndValidateAuthorizationObject authorizationRaw)
  require (authorizationObject.authorityId = opened.authorityId)
    ⟨.authorityIdMismatch, .text "envelope authority_id does not match authorization_object authority_id"⟩
  return ⟨opened.authorityId, opened.keyId, authorizationObject, authorizationRaw, opened.signature,
    opened.signatureBytes⟩

end Guardian.Assurance
