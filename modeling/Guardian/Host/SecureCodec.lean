import Guardian.Host.Transport
import Guardian.Security.SecurityTranscript

namespace Guardian.Host

open Word ByteString Guardian.Crypto Guardian.Protocol Guardian.Session

def securitySessionKeySize : Nat := 32
def maxSecureRequestInnerPayload : Nat := 224
def maxSecureResponseInnerPayload : Nat := 223

/-- Each failure stands for one message and carries the values in it. -/
inductive SecurityValueFailure
  | roleValue (raw : U8)
  | roleNone
  | sessionId
  | schemaVersion (schema : U8)
  | authBeginSize (received : Nat)
  | authFinishSize (received : Nat)
  | authBeginRequestSize (received : Nat)
  | authFinishRequestSize (received : Nat)
  | timeoutSeconds
  | statusSize (received : Nat)
  | statusBooleans
  | sessionKey
  | requestInnerSize
  | requestTruncated
  | requestInnerLength
  | requestTag
  | responseTruncated
  | responseInnerLength
  | messageTypeValue (raw : U8)
  | responseMessageType
  | responseInnerSize
  | responseTag
  deriving DecidableEq, Repr

structure AuthChallenge where
  role : SecurityRole
  sessionId : U32
  deviceNonce : Bytes 16
  serverProof : List U8
  deriving DecidableEq

structure AuthenticatedSession where
  role : SecurityRole
  sessionId : U32
  timeoutSeconds : U16
  deriving DecidableEq, Repr

structure SecureResponse where
  sessionId : U32
  counter : Nat
  innerMessageType : MessageType
  innerCommand : U8
  innerPayload : List U8
  deriving DecidableEq, Repr

/-- `SecurityRole(value)`. -/
def securityRoleOf (raw : U8) : Except SecurityValueFailure SecurityRole :=
  if raw > roleAdmin then .error (.roleValue raw) else .ok raw

def hostTranscript (label : List U8) (role : SecurityRole) (sessionId : U32) (clientNonce deviceNonce : Bytes 16) :
    Except SecurityValueFailure (List U8) :=
  match securityRoleOf role with
  | .error failure => .error failure
  | .ok roleValue =>
    if sessionId = 0 then .error .sessionId
    else
      .ok (label ++ [securitySchemaVersion, roleValue] ++ putU32Be sessionId ++ clientNonce.1 ++ deviceNonce.1)

def computeServerProof (psk : Bytes 32) (role : SecurityRole) (sessionId : U32) (clientNonce deviceNonce : Bytes 16) :
    Except SecurityValueFailure (List U8) :=
  (hostTranscript securityServerLabel role sessionId clientNonce deviceNonce).map fun transcript =>
    (hmacSha256 psk.1 transcript).take securityTagSize

def computeClientProof (psk : Bytes 32) (role : SecurityRole) (sessionId : U32) (clientNonce deviceNonce : Bytes 16) :
    Except SecurityValueFailure (List U8) :=
  (hostTranscript securityClientLabel role sessionId clientNonce deviceNonce).map fun transcript =>
    (hmacSha256 psk.1 transcript).take securityTagSize

def deriveSessionKey (psk : Bytes 32) (role : SecurityRole) (sessionId : U32) (clientNonce deviceNonce : Bytes 16) :
    Except SecurityValueFailure (List U8) :=
  (hostTranscript securitySessionLabel role sessionId clientNonce deviceNonce).map (hmacSha256 psk.1)

def encodeAuthBegin (role : SecurityRole) (clientNonce : Bytes 16) : Except SecurityValueFailure (List U8) :=
  match securityRoleOf role with
  | .error failure => .error failure
  | .ok role =>
    if role = roleNone then .error .roleNone else .ok ([securitySchemaVersion, role] ++ clientNonce.1)

def decodeAuthChallenge (encoded : List U8) : Except SecurityValueFailure AuthChallenge :=
  if encoded.length ≠ securityAuthBeginResponseSize then .error (.authBeginSize encoded.length)
  else if encoded.getD 0 0 ≠ securitySchemaVersion then .error (.schemaVersion (encoded.getD 0 0))
  else match securityRoleOf (encoded.getD 1 0) with
    | .error failure => .error failure
    | .ok role =>
      .ok
        { role
          sessionId := getU32Be (encoded.drop 2)
          deviceNonce := padded 16 (encoded.drop 6)
          serverProof := slice 22 securityTagSize encoded }

def encodeAuthFinish (role : SecurityRole) (sessionId : U32) (clientProof : List U8) :
    Except SecurityValueFailure (List U8) :=
  match securityRoleOf role with
  | .error failure => .error failure
  | .ok role => .ok ([securitySchemaVersion, role] ++ putU32Be sessionId ++ clientProof)

def decodeAuthenticatedSession (encoded : List U8) : Except SecurityValueFailure AuthenticatedSession :=
  if encoded.length ≠ securityAuthFinishResponseSize then .error (.authFinishSize encoded.length)
  else if encoded.getD 0 0 ≠ securitySchemaVersion then .error (.schemaVersion (encoded.getD 0 0))
  else match securityRoleOf (encoded.getD 1 0) with
    | .error failure => .error failure
    | .ok role =>
      .ok { role, sessionId := getU32Be (encoded.drop 2), timeoutSeconds := getU16Be (encoded.drop 6) }

/-- What the encoder raises: a `ValueError`, or the `OverflowError` of a counter that has no eight bytes. -/
inductive SecureEncodeError
  | value (failure : SecurityValueFailure)
  | counterOverflow
  deriving DecidableEq, Repr

def secureRequestMacInput (sessionId : U32) (counter : Nat) (outerSequence : U32) (innerCommand : U8)
    (innerPayload : List U8) : Except SecureEncodeError (List U8) :=
  if innerPayload.length > maxSecureRequestInnerPayload then .error (.value .requestInnerSize)
  else if counter ≥ 2 ^ 64 then .error .counterOverflow
  else
    .ok (securityRequestLabel ++ [securitySchemaVersion] ++ putU32Be sessionId ++ putU64Be (BitVec.ofNat 64 counter) ++
      putU32Be outerSequence ++ [innerCommand] ++ putU16Be (BitVec.ofNat 16 innerPayload.length) ++ innerPayload)

def encodeSecureRequest (sessionKey : List U8) (sessionId : U32) (counter : Nat) (outerSequence : U32)
    (innerCommand : U8) (innerPayload : List U8) : Except SecureEncodeError (List U8) :=
  if sessionKey.length ≠ securitySessionKeySize then .error (.value .sessionKey)
  else match secureRequestMacInput sessionId counter outerSequence innerCommand innerPayload with
    | .error failure => .error failure
    | .ok macInput =>
      let tag := (hmacSha256 sessionKey macInput).take securityTagSize
      .ok ([securitySchemaVersion] ++ putU32Be sessionId ++ putU64Be (BitVec.ofNat 64 counter) ++ [innerCommand] ++
        putU16Be (BitVec.ofNat 16 innerPayload.length) ++ innerPayload ++ tag)

def secureResponseMacInput (sessionId : U32) (counter : U64) (outerSequence : U32) (innerMessageType : MessageType)
    (innerCommand : U8) (innerPayload : List U8) : Except SecurityValueFailure (List U8) :=
  if innerPayload.length > maxSecureResponseInnerPayload then .error .responseInnerSize
  else
    .ok (securityResponseLabel ++ [securitySchemaVersion] ++ putU32Be sessionId ++ putU64Be counter ++
      putU32Be outerSequence ++ [innerMessageType.code, innerCommand] ++
      putU16Be (BitVec.ofNat 16 innerPayload.length) ++ innerPayload)

def decodeSecureResponse (encoded sessionKey : List U8) (outerSequence : U32) :
    Except SecurityValueFailure SecureResponse :=
  if sessionKey.length ≠ securitySessionKeySize then .error .sessionKey
  else if encoded.length < 17 + securityTagSize then .error .responseTruncated
  else if encoded.getD 0 0 ≠ securitySchemaVersion then .error (.schemaVersion (encoded.getD 0 0))
  else
    let sessionId := getU32Be (encoded.drop 1)
    let counter := getU64Be (encoded.drop 5)
    let innerCommand := encoded.getD 14 0
    let innerLength := (getU16Be (encoded.drop 15)).toNat
    if encoded.length ≠ 17 + innerLength + securityTagSize then .error .responseInnerLength
    else match MessageType.ofCode (encoded.getD 13 0) with
      | none => .error (.messageTypeValue (encoded.getD 13 0))
      | some messageType =>
        if ¬ (messageType = .response ∨ messageType = .error) then .error .responseMessageType
        else
          let innerPayload := slice 17 innerLength encoded
          let receivedTag := encoded.drop (encoded.length - securityTagSize)
          match secureResponseMacInput sessionId counter outerSequence messageType innerCommand innerPayload with
          | .error failure => .error failure
          | .ok macInput =>
            if (hmacSha256 sessionKey macInput).take securityTagSize ≠ receivedTag then .error .responseTag
            else .ok ⟨sessionId, counter.toNat, messageType, innerCommand, innerPayload⟩

theorem deriveSessionKey_ok {psk : Bytes 32} {role : SecurityRole} {sessionId : U32} {clientNonce deviceNonce : Bytes 16}
    {key : List U8} (derived : deriveSessionKey psk role sessionId clientNonce deviceNonce = .ok key) :
    key = hmacSha256 psk.1 (handshakeTranscript securitySessionLabel role sessionId clientNonce deviceNonce) := by
  unfold deriveSessionKey at derived
  cases joined : hostTranscript securitySessionLabel role sessionId clientNonce deviceNonce with
  | error failure =>
    rw [joined] at derived
    cases derived
  | ok transcript =>
    rw [joined] at derived
    cases derived
    unfold hostTranscript securityRoleOf at joined
    by_cases unknown : role > roleAdmin
    · rw [if_pos unknown] at joined
      cases joined
    rw [if_neg unknown] at joined
    obtain ⟨-, joined⟩ := Check.accepted joined
    cases joined
    simp only [handshakeTranscript, List.append_assoc]

theorem encodeSecureRequest_ok {sessionKey innerPayload encoded : List U8} {sessionId outerSequence : U32} {counter : Nat}
    {innerCommand : U8}
    (sent : encodeSecureRequest sessionKey sessionId counter outerSequence innerCommand innerPayload = .ok encoded) :
    encoded = requestEnvelope sessionId (BitVec.ofNat 64 counter) innerCommand innerPayload
        (macTag sessionKey (requestTranscript sessionId (BitVec.ofNat 64 counter) outerSequence innerCommand
          innerPayload)) ∧
      counter < 2 ^ 64 ∧ innerPayload.length ≤ securityMaxRequestInnerPayload := by
  unfold encodeSecureRequest at sent
  obtain ⟨-, sent⟩ := Check.accepted sent
  cases input : secureRequestMacInput sessionId counter outerSequence innerCommand innerPayload with
  | error failure =>
    rw [input] at sent
    cases sent
  | ok macInput =>
    rw [input] at sent
    cases sent
    unfold secureRequestMacInput at input
    obtain ⟨small, input⟩ := Check.accepted input
    obtain ⟨counted, input⟩ := Check.accepted input
    cases input
    refine ⟨?_, Nat.lt_of_not_le counted, Nat.not_lt.mp small⟩
    simp only [requestEnvelope, macTag, requestTranscript, List.append_assoc]

theorem responseEnvelope_fields {sessionId : U32} {counter : U64} {messageType : MessageType} {innerCommand : U8}
    {innerPayload tag : List U8} (fits : innerPayload.length ≤ securityMaxResponseInnerPayload)
    (tagged : tag.length = securityTagSize) :
    let encoded := responseEnvelope sessionId counter messageType innerCommand innerPayload tag
    getU32Be (encoded.drop 1) = sessionId ∧ getU64Be (encoded.drop 5) = counter ∧
      (getU16Be (encoded.drop 15)).toNat = innerPayload.length ∧
      slice 17 innerPayload.length encoded = innerPayload ∧ encoded.drop (encoded.length - securityTagSize) = tag := by
  intro encoded
  have start : encoded.drop 17 = innerPayload ++ tag := by
    show (responseEnvelope sessionId counter messageType innerCommand innerPayload tag).drop 17 = _
    rw [responseEnvelope, List.append_assoc]
    rfl
  have size : (getU16Be (encoded.drop 15)).toNat = innerPayload.length := by
    have field : encoded.drop 15 = putU16Be (BitVec.ofNat 16 innerPayload.length) ++ (innerPayload ++ tag) := by
      show (responseEnvelope sessionId counter messageType innerCommand innerPayload tag).drop 15 = _
      rw [responseEnvelope, List.append_assoc, List.append_assoc]
      rfl
    unfold securityMaxResponseInnerPayload maxPayloadSize at fits
    rw [field, getU16Be_put, BitVec.toNat_ofNat]
    omega
  refine ⟨getU32Be_put sessionId _, getU64Be_put counter _, size, ?_, ?_⟩
  · rw [slice, start, List.take_left]
  · have long : encoded.length - securityTagSize = 17 + innerPayload.length := by
      have joined := congrArg List.length start
      rw [List.length_drop, List.length_append, tagged, securityTagSize] at joined
      rw [securityTagSize]
      omega
    rw [long, ← List.drop_drop, start, List.drop_left]

theorem decodeSecureResponse_read {sessionKey tag innerPayload : List U8} {sessionId outerSequence : U32}
    {counter : U64} {messageType : MessageType} {innerCommand : U8} (sized : sessionKey.length = securitySessionKeySize)
    (tagged : tag.length = securityTagSize) (fits : innerPayload.length ≤ securityMaxResponseInnerPayload) :
    decodeSecureResponse (responseEnvelope sessionId counter messageType innerCommand innerPayload tag)
      sessionKey outerSequence =
        if ¬ (messageType = .response ∨ messageType = .error) then .error .responseMessageType
        else if macTag sessionKey (responseTranscript sessionId counter outerSequence messageType innerCommand
          innerPayload) ≠ tag then .error .responseTag
        else .ok ⟨sessionId, counter.toNat, messageType, innerCommand, innerPayload⟩ := by
  obtain ⟨identifier, count, size, payload, last⟩ :=
    @responseEnvelope_fields sessionId counter messageType innerCommand innerPayload tag fits tagged
  have whole : (responseEnvelope sessionId counter messageType innerCommand innerPayload tag).length =
      17 + innerPayload.length + securityTagSize := by
    simp only [responseEnvelope, List.length_append, List.length_cons, List.length_nil, putU32Be_length,
      putU64Be_length, putU16Be_length, tagged]
  have schema : (responseEnvelope sessionId counter messageType innerCommand innerPayload tag).getD 0 0 =
      securitySchemaVersion := rfl
  have type : (responseEnvelope sessionId counter messageType innerCommand innerPayload tag).getD 13 0 =
      messageType.code := rfl
  have command : (responseEnvelope sessionId counter messageType innerCommand innerPayload tag).getD 14 0 =
      innerCommand := rfl
  have long : ¬ (responseEnvelope sessionId counter messageType innerCommand innerPayload tag).length <
      17 + securityTagSize := by
    omega
  have small : ¬ innerPayload.length > maxSecureResponseInnerPayload := Nat.not_lt.mpr fits
  have mac : (hmacSha256 sessionKey (securityResponseLabel ++ [securitySchemaVersion] ++ putU32Be sessionId ++
      putU64Be counter ++ putU32Be outerSequence ++ [messageType.code, innerCommand] ++
        putU16Be (BitVec.ofNat 16 innerPayload.length) ++ innerPayload)).take securityTagSize =
      macTag sessionKey (responseTranscript sessionId counter outerSequence messageType innerCommand innerPayload) := by
    simp only [macTag, responseTranscript, List.append_assoc]
  unfold decodeSecureResponse
  dsimp only
  rw [if_neg (not_not.mpr sized), if_neg long, if_neg (not_not.mpr schema), size, if_neg (not_not.mpr whole),
    identifier, count, type, command, payload, last, MessageType.ofCode_code]
  dsimp only
  rw [secureResponseMacInput, if_neg small]
  dsimp only
  rw [mac]

theorem decodeSecureResponse_envelope {sessionKey tag innerPayload : List U8} {sessionId outerSequence : U32}
    {counter : U64} {messageType : MessageType} {innerCommand : U8} (tagged : tag.length = securityTagSize)
    (fits : innerPayload.length ≤ securityMaxResponseInnerPayload) {response : SecureResponse}
    (decoded : decodeSecureResponse (responseEnvelope sessionId counter messageType innerCommand innerPayload tag)
      sessionKey outerSequence = .ok response) :
    response = ⟨sessionId, counter.toNat, messageType, innerCommand, innerPayload⟩ ∧
      macTag sessionKey (responseTranscript sessionId counter outerSequence messageType innerCommand innerPayload) =
        tag := by
  have given := decoded
  unfold decodeSecureResponse at given
  obtain ⟨sized, -⟩ := Check.accepted given
  rw [decodeSecureResponse_read (not_not.mp sized) tagged fits] at decoded
  obtain ⟨-, decoded⟩ := Check.accepted decoded
  obtain ⟨equal, decoded⟩ := Check.accepted decoded
  cases decoded
  exact ⟨rfl, not_not.mp equal⟩

structure AuthBegin where
  role : SecurityRole
  clientNonce : Bytes 16
  deriving DecidableEq

structure AuthFinish where
  role : SecurityRole
  sessionId : U32
  clientProof : List U8
  deriving DecidableEq, Repr

structure SecureRequest where
  sessionId : U32
  counter : Nat
  innerCommand : U8
  innerPayload : List U8
  deriving DecidableEq, Repr

def decodeAuthBegin (encoded : List U8) : Except SecurityValueFailure AuthBegin :=
  if encoded.length ≠ securityAuthBeginRequestSize then .error (.authBeginRequestSize encoded.length)
  else if encoded.getD 0 0 ≠ securitySchemaVersion then .error (.schemaVersion (encoded.getD 0 0))
  else match securityRoleOf (encoded.getD 1 0) with
    | .error failure => .error failure
    | .ok role =>
      if role = roleNone then .error .roleNone else .ok { role, clientNonce := padded 16 (encoded.drop 2) }

/-- The nonce and the proof have their sizes: the one by type, the other as a truncated tag. -/
def encodeAuthChallenge (challenge : AuthChallenge) : Except SecurityValueFailure (List U8) :=
  (securityRoleOf challenge.role).map fun role =>
    [securitySchemaVersion, role] ++ putU32Be challenge.sessionId ++ challenge.deviceNonce.1 ++ challenge.serverProof

def decodeAuthFinish (encoded : List U8) : Except SecurityValueFailure AuthFinish :=
  if encoded.length ≠ securityAuthFinishRequestSize then .error (.authFinishRequestSize encoded.length)
  else if encoded.getD 0 0 ≠ securitySchemaVersion then .error (.schemaVersion (encoded.getD 0 0))
  else (securityRoleOf (encoded.getD 1 0)).map fun role =>
    { role, sessionId := getU32Be (encoded.drop 2), clientProof := encoded.drop 6 }

def encodeAuthenticatedSession (session : AuthenticatedSession) : Except SecurityValueFailure (List U8) :=
  match securityRoleOf session.role with
  | .error failure => .error failure
  | .ok role =>
    if session.timeoutSeconds = 0 then .error .timeoutSeconds
    else .ok ([securitySchemaVersion, role] ++ putU32Be session.sessionId ++ putU16Be session.timeoutSeconds)

/-- A counter read from the wire has eight bytes, so that only the size of the inner request can be refused. -/
def decodeSecureRequest (encoded sessionKey : List U8) (outerSequence : U32) :
    Except SecurityValueFailure SecureRequest :=
  if sessionKey.length ≠ securitySessionKeySize then .error .sessionKey
  else if encoded.length < 16 + securityTagSize then .error .requestTruncated
  else if encoded.getD 0 0 ≠ securitySchemaVersion then .error (.schemaVersion (encoded.getD 0 0))
  else
    let sessionId := getU32Be (encoded.drop 1)
    let counter := getU64Be (encoded.drop 5)
    let innerCommand := encoded.getD 13 0
    let innerLength := (getU16Be (encoded.drop 14)).toNat
    if encoded.length ≠ 16 + innerLength + securityTagSize then .error .requestInnerLength
    else
      let innerPayload := slice 16 innerLength encoded
      let receivedTag := encoded.drop (encoded.length - securityTagSize)
      match secureRequestMacInput sessionId counter.toNat outerSequence innerCommand innerPayload with
      | .error _ => .error .requestInnerSize
      | .ok macInput =>
        if (hmacSha256 sessionKey macInput).take securityTagSize ≠ receivedTag then .error .requestTag
        else .ok ⟨sessionId, counter.toNat, innerCommand, innerPayload⟩

end Guardian.Host
