import Guardian.Host.SecuritySession

namespace Guardian.Host

open Word ByteString Guardian.Crypto Guardian.Protocol Guardian.Session

theorem securityRoleOf_ok {role : SecurityRole} (admin : role ≤ roleAdmin) : securityRoleOf role = .ok role :=
  if_neg (BitVec.not_lt.mpr admin)

theorem hostTranscript_ok {role : SecurityRole} {sessionId : U32} (admin : role ≤ roleAdmin) (identified : sessionId ≠ 0)
    (label : List U8) (clientNonce deviceNonce : Bytes 16) :
    hostTranscript label role sessionId clientNonce deviceNonce =
      .ok (handshakeTranscript label role sessionId clientNonce deviceNonce) := by
  unfold hostTranscript
  rw [securityRoleOf_ok admin]
  dsimp only
  rw [if_neg identified]
  simp only [handshakeTranscript, List.append_assoc]

structure Handshake where
  psk : Bytes 32
  role : SecurityRole
  sessionId : U32
  clientNonce : Bytes 16
  deviceNonce : Bytes 16
  observer : roleObserver ≤ role
  admin : role ≤ roleAdmin
  identified : sessionId ≠ 0

def Handshake.transcript (handshake : Handshake) (label : List U8) : List U8 :=
  handshakeTranscript label handshake.role handshake.sessionId handshake.clientNonce handshake.deviceNonce

def Handshake.proof (handshake : Handshake) (label : List U8) : List U8 :=
  macTag handshake.psk.1 (handshake.transcript label)

def Handshake.sessionKey (handshake : Handshake) : Bytes 32 :=
  ⟨hmacSha256 handshake.psk.1 (handshake.transcript securitySessionLabel), hmacSha256_length _ _⟩

def Handshake.beginRequest (handshake : Handshake) : List U8 :=
  [securitySchemaVersion, handshake.role] ++ handshake.clientNonce.1

def Handshake.challenge (handshake : Handshake) : List U8 :=
  [securitySchemaVersion, handshake.role] ++ putU32Be handshake.sessionId ++ handshake.deviceNonce.1 ++
    handshake.proof securityServerLabel

def Handshake.finishRequest (handshake : Handshake) : List U8 :=
  [securitySchemaVersion, handshake.role] ++ putU32Be handshake.sessionId ++ handshake.proof securityClientLabel

def Handshake.opened (handshake : Handshake) (sessionTimeoutSeconds : U16) : List U8 :=
  [securitySchemaVersion, handshake.role] ++ putU32Be handshake.sessionId ++ putU16Be sessionTimeoutSeconds

/-- The challenge that the device keeps, and the session that follows it. -/
def Handshake.pending (handshake : Handshake) (nowSeconds : U32) : SecurityPending :=
  ⟨1, handshake.role, handshake.sessionId, handshake.clientNonce, handshake.deviceNonce, nowSeconds⟩

def Handshake.session (handshake : Handshake) (nowSeconds : U32) : SecuritySession :=
  ⟨1, handshake.role, handshake.sessionId, handshake.sessionKey, 1, nowSeconds⟩

section handshake

variable (handshake : Handshake)

theorem Handshake.roleOf : securityRoleOf handshake.role = .ok handshake.role := securityRoleOf_ok handshake.admin

theorem Handshake.role_ne_none : handshake.role ≠ roleNone := by
  intro none
  have observer := handshake.observer
  rw [none] at observer
  exact absurd observer (by decide)

theorem encodeAuthBegin_handshake :
    encodeAuthBegin handshake.role handshake.clientNonce = .ok handshake.beginRequest := by
  unfold encodeAuthBegin
  rw [handshake.roleOf]
  exact if_neg handshake.role_ne_none

theorem hostTranscript_handshake (label : List U8) :
    hostTranscript label handshake.role handshake.sessionId handshake.clientNonce handshake.deviceNonce =
      .ok (handshake.transcript label) :=
  hostTranscript_ok handshake.admin handshake.identified label handshake.clientNonce handshake.deviceNonce

theorem computeServerProof_handshake : computeServerProof handshake.psk handshake.role handshake.sessionId
    handshake.clientNonce handshake.deviceNonce = .ok (handshake.proof securityServerLabel) := by
  rw [computeServerProof, hostTranscript_handshake]
  rfl

theorem computeClientProof_handshake : computeClientProof handshake.psk handshake.role handshake.sessionId
    handshake.clientNonce handshake.deviceNonce = .ok (handshake.proof securityClientLabel) := by
  rw [computeClientProof, hostTranscript_handshake]
  rfl

theorem deriveSessionKey_handshake : deriveSessionKey handshake.psk handshake.role handshake.sessionId
    handshake.clientNonce handshake.deviceNonce = .ok handshake.sessionKey.1 := by
  rw [deriveSessionKey, hostTranscript_handshake]
  rfl

theorem decodeAuthChallenge_handshake : decodeAuthChallenge handshake.challenge = .ok
    ⟨handshake.role, handshake.sessionId, handshake.deviceNonce, handshake.proof securityServerLabel⟩ := by
  have nonce := handshake.deviceNonce.2
  have proof : (handshake.proof securityServerLabel).length = securityTagSize := rfl
  have size : handshake.challenge.length = securityAuthBeginResponseSize := by
    simp only [Handshake.challenge, List.length_append, putU32Be_length, nonce, proof, List.length_cons,
      List.length_nil]
    rfl
  have rest : handshake.challenge.drop 6 = handshake.deviceNonce.1 ++ handshake.proof securityServerLabel := by
    rw [Handshake.challenge, List.append_assoc]
    rfl
  have last : slice 22 securityTagSize handshake.challenge = handshake.proof securityServerLabel := by
    have start : handshake.challenge.drop 22 = handshake.proof securityServerLabel := by
      rw [show 22 = 6 + 16 from rfl, ← List.drop_drop, rest, List.drop_left' nonce]
    rw [slice, start]
    exact List.take_of_length_le (Nat.le_of_eq proof)
  have identifier : getU32Be (handshake.challenge.drop 2) = handshake.sessionId := getU32Be_put _ _
  have role : handshake.challenge.getD 1 0 = handshake.role := rfl
  have schema : handshake.challenge.getD 0 0 = securitySchemaVersion := rfl
  unfold decodeAuthChallenge
  rw [if_neg (not_not.mpr size), if_neg (not_not.mpr schema), role, handshake.roleOf, identifier, rest, last,
    padded_self]

theorem encodeAuthFinish_handshake :
    encodeAuthFinish handshake.role handshake.sessionId (handshake.proof securityClientLabel) =
      .ok handshake.finishRequest := by
  unfold encodeAuthFinish
  rw [handshake.roleOf]
  rfl

theorem decodeAuthenticatedSession_handshake (sessionTimeoutSeconds : U16) :
    decodeAuthenticatedSession (handshake.opened sessionTimeoutSeconds) =
      .ok ⟨handshake.role, handshake.sessionId, sessionTimeoutSeconds⟩ := by
  have identifier : getU32Be ((handshake.opened sessionTimeoutSeconds).drop 2) = handshake.sessionId :=
    getU32Be_put _ _
  have timeout : getU16Be ((handshake.opened sessionTimeoutSeconds).drop 6) = sessionTimeoutSeconds :=
    getU16Be_put _ []
  have size : (handshake.opened sessionTimeoutSeconds).length = securityAuthFinishResponseSize := rfl
  have role : (handshake.opened sessionTimeoutSeconds).getD 1 0 = handshake.role := rfl
  have schema : (handshake.opened sessionTimeoutSeconds).getD 0 0 = securitySchemaVersion := rfl
  unfold decodeAuthenticatedSession
  rw [if_neg (not_not.mpr size), if_neg (not_not.mpr schema), role, handshake.roleOf, identifier, timeout]

variable {handshake} {security : Security} {nowSeconds : U32}

structure Handshake.Drawn (handshake : Handshake) (randomBytes : Bytes 20) : Prop where
  sessionId : handshake.sessionId = if getU32Be randomBytes.1 = 0 then 1 else getU32Be randomBytes.1
  deviceNonce : handshake.deviceNonce = padded 16 (randomBytes.1.drop 4)

theorem securityAuthBegin_handshake (configured : security.configured ≠ 0) (psk : security.config.psk = handshake.psk)
    (bounded : handshake.role ≤ security.config.maxRole) {randomBytes : Bytes 20}
    (drawn : handshake.Drawn randomBytes) :
    securityAuthBegin security handshake.beginRequest nowSeconds maxPayloadSize (some randomBytes) =
      (.ok handshake.challenge,
        { securityExpirePending security nowSeconds with pending := handshake.pending nowSeconds }) := by
  have size : handshake.beginRequest.length = securityAuthBeginRequestSize := by
    simp only [Handshake.beginRequest, List.length_append, handshake.clientNonce.2, List.length_cons, List.length_nil]
    rfl
  have role : handshake.beginRequest.getD 1 0 = handshake.role := rfl
  have schema : handshake.beginRequest.getD 0 0 = securitySchemaVersion := rfl
  have allowed : ¬ (handshake.role < roleObserver ∨ handshake.role > security.config.maxRole) :=
    not_or.mpr ⟨BitVec.not_lt.mpr handshake.observer, BitVec.not_lt.mpr bounded⟩
  have nonce : padded 16 (handshake.beginRequest.drop 2) = handshake.clientNonce :=
    (congrArg (padded 16) (List.append_nil _).symm).trans (padded_self handshake.clientNonce [])
  unfold securityAuthBegin
  rw [if_neg configured, if_neg (not_not.mpr size), if_neg (by decide), if_neg (not_not.mpr schema), role]
  dsimp only
  rw [if_neg allowed, nonce, ← drawn.sessionId, ← drawn.deviceNonce,
    securityHandshakeMac_eq _ (by decide : securityServerLabel.length ≤ 15)]
  dsimp only
  rw [securityExpirePending_config, psk]
  rfl

theorem securityAuthFinish_handshake (configured : security.configured ≠ 0) (psk : security.config.psk = handshake.psk)
    {started : U32} (pending : security.pending = handshake.pending started)
    (fresh : nowSeconds - started < securityPendingTimeoutSeconds) :
    securityAuthFinish security handshake.finishRequest nowSeconds maxPayloadSize =
      (.ok (handshake.opened security.config.sessionTimeoutSeconds),
        { security with
          pending := zeroPending
          session := handshake.session nowSeconds
          authSuccesses := securityIncrementU32 security.authSuccesses }) := by
  have live : ¬ (handshake.pending started).valid = 0 := (by decide : ¬ (1 : U8) = 0)
  have unexpired : securityExpirePending security nowSeconds = security := by
    unfold securityExpirePending
    rw [pending]
    have late : ¬ nowSeconds - (handshake.pending started).startedSeconds ≥ securityPendingTimeoutSeconds :=
      BitVec.not_le.mpr fresh
    rw [if_neg live, if_neg late]
  have proof : (handshake.proof securityClientLabel).length = securityTagSize := rfl
  have size : handshake.finishRequest.length = securityAuthFinishRequestSize := by
    simp only [Handshake.finishRequest, List.length_append, putU32Be_length, proof, List.length_cons, List.length_nil]
    rfl
  have role : handshake.finishRequest.getD 1 0 = handshake.role := rfl
  have schema : handshake.finishRequest.getD 0 0 = securitySchemaVersion := rfl
  have identifier : getU32Be (handshake.finishRequest.drop 2) = handshake.sessionId := getU32Be_put _ _
  have sent : handshake.finishRequest.drop 6 = handshake.proof securityClientLabel := rfl
  have proved : cryptoConstantTimeEqual (hmacSha256 handshake.psk.1 (handshake.transcript securityClientLabel))
      (handshake.proof securityClientLabel) securityTagSize = true := by
    have long : securityTagSize ≤ (hmacSha256 handshake.psk.1 (handshake.transcript securityClientLabel)).length := by
      rw [hmacSha256_length]
      decide
    apply (cryptoConstantTimeEqual_iff (by decide) long (Nat.le_of_eq proof.symm)).mpr
    rw [Handshake.proof, macTag, List.take_take, Nat.min_self]
  have mac {label : List U8} (short : label.length ≤ 15) : securityHandshakeMac security label handshake.role
      handshake.sessionId (handshake.pending started).clientNonce (handshake.pending started).deviceNonce =
        some (hmacSha256 handshake.psk.1 (handshake.transcript label)) := by
    rw [securityHandshakeMac_eq _ short, psk]
    rfl
  have key : padded 32 (hmacSha256 handshake.psk.1 (handshake.transcript securitySessionLabel)) =
      handshake.sessionKey :=
    (congrArg (padded 32) (List.append_nil _).symm).trans (padded_self handshake.sessionKey [])
  have same : ¬ (handshake.role ≠ (handshake.pending started).role ∨
      handshake.sessionId ≠ (handshake.pending started).sessionId) := not_or.mpr ⟨not_not.mpr rfl, not_not.mpr rfl⟩
  unfold securityAuthFinish
  rw [if_neg configured, unexpired]
  dsimp only
  rw [if_neg (not_not.mpr size), if_neg (by decide), pending, if_neg live, if_neg (not_not.mpr schema), role,
    identifier, if_neg same, mac (by decide), sent]
  dsimp only
  rw [proved, mac (by decide)]
  dsimp only
  rw [key]
  rfl

end handshake

section exchange

variable {sessionId outerSequence : U32} {command : U8} {payload : List U8}

theorem encodeSecureRequest_envelope (sessionKey : Bytes 32) {counter : Nat} (counted : counter < 2 ^ 64)
    (fits : payload.length ≤ securityMaxRequestInnerPayload) :
    encodeSecureRequest sessionKey.1 sessionId counter outerSequence command payload =
      .ok (requestEnvelope sessionId (BitVec.ofNat 64 counter) command payload
        (macTag sessionKey.1 (requestTranscript sessionId (BitVec.ofNat 64 counter) outerSequence command payload))) := by
  have sized : sessionKey.1.length = securitySessionKeySize := sessionKey.2
  have small : ¬ payload.length > maxSecureRequestInnerPayload := Nat.not_lt.mpr fits
  unfold encodeSecureRequest secureRequestMacInput
  rw [if_neg (not_not.mpr sized), if_neg small, if_neg (Nat.not_le.mpr counted)]
  simp only [requestEnvelope, macTag, requestTranscript, List.append_assoc]

theorem decodeSecureResponse_answer (sessionKey : Bytes 32) {counter : U64} {messageType : MessageType}
    (fits : payload.length ≤ securityMaxResponseInnerPayload) (type : messageType = .response ∨ messageType = .error) :
    decodeSecureResponse (responseEnvelope sessionId counter messageType command payload (macTag sessionKey.1
        (responseTranscript sessionId counter outerSequence messageType command payload))) sessionKey.1 outerSequence =
      .ok ⟨sessionId, counter.toNat, messageType, command, payload⟩ := by
  rw [decodeSecureResponse_read sessionKey.2 (macTag_length _ _) fits, if_neg (not_not.mpr type),
    if_neg (not_not.mpr rfl)]

/-- The device finds the next request of the session authentic, and accepts it unless its counter is the last. -/
theorem securityUnwrapRequest_next {security : Security} {outerRequest : Frame} {nowSeconds : U32}
    (live : security.Live nowSeconds) (fits : payload.length ≤ securityMaxRequestInnerPayload)
    (carried : outerRequest.payload = requestEnvelope security.session.sessionId security.session.nextCounter command
      payload (macTag security.session.sessionKey.1 (requestTranscript security.session.sessionId
        security.session.nextCounter outerRequest.sequence command payload))) :
    securityUnwrapRequest security outerRequest nowSeconds =
      if security.session.nextCounter + 1 = 0 then (.error .errorReplay, securityClearSession security)
      else (.ok (hostRequest command outerRequest.sequence payload, security.session.nextCounter),
        { security with session :=
            { security.session with
              nextCounter := security.session.nextCounter + 1
              lastActivitySeconds := nowSeconds } }) := by
  have unexpired : securityExpireSession security nowSeconds = security := by
    unfold securityExpireSession
    rw [if_neg live.1, if_neg (BitVec.not_le.mpr live.2)]
  obtain ⟨identifier, counter, inside, inner, tag, size⟩ := requestEnvelope_fields carried fits
  have whole : outerRequest.payload.length = securityRequestOverhead + payload.length := by
    rw [carried]
    simp only [requestEnvelope, List.length_append, List.length_cons, List.length_nil, putU32Be_length,
      putU64Be_length, putU16Be_length, macTag_length, securityTagSize, securityRequestOverhead]
    omega
  have schema : outerRequest.payload.getD 0 0 = securitySchemaVersion := by
    rw [carried]
    rfl
  have mac : securityRequestTag security outerRequest security.session.sessionId security.session.nextCounter command
      payload = some (hmacSha256 security.session.sessionKey.1 (requestTranscript security.session.sessionId
        security.session.nextCounter outerRequest.sequence command payload)) :=
    securityRequestTag_some security outerRequest _ _ command fits
  have right : cryptoConstantTimeEqual (hmacSha256 security.session.sessionKey.1 (requestTranscript
      security.session.sessionId security.session.nextCounter outerRequest.sequence command payload))
        (secureTag outerRequest) securityTagSize = true := by
    rw [tag]
    have long : securityTagSize ≤ (hmacSha256 security.session.sessionKey.1 (requestTranscript
        security.session.sessionId security.session.nextCounter outerRequest.sequence command payload)).length := by
      rw [hmacSha256_length]
      decide
    apply (cryptoConstantTimeEqual_iff (by decide) long (Nat.le_of_eq (macTag_length _ _).symm)).mpr
    rw [macTag, List.take_take, Nat.min_self]
  have long : ¬ outerRequest.payload.length < securityRequestOverhead := by omega
  unfold securityUnwrapRequest
  rw [unexpired]
  dsimp only
  rw [if_neg live.1, if_neg long, if_neg (not_not.mpr schema), identifier, if_neg (not_not.mpr rfl), size,
    if_neg (Nat.not_lt.mpr fits), if_neg (not_not.mpr whole), counter, inside, inner, mac]
  dsimp only
  rw [right, if_neg (not_not.mpr rfl)]
  rfl

theorem securityUnwrapRequest_envelope {security : Security} {outerRequest : Frame} {nowSeconds : U32}
    (live : security.Live nowSeconds) (fits : payload.length ≤ securityMaxRequestInnerPayload)
    (more : security.session.nextCounter + 1 ≠ 0)
    (carried : outerRequest.payload = requestEnvelope security.session.sessionId security.session.nextCounter command
      payload (macTag security.session.sessionKey.1 (requestTranscript security.session.sessionId
        security.session.nextCounter outerRequest.sequence command payload))) :
    securityUnwrapRequest security outerRequest nowSeconds =
      (.ok (hostRequest command outerRequest.sequence payload, security.session.nextCounter),
        { security with session :=
            { security.session with
              nextCounter := security.session.nextCounter + 1
              lastActivitySeconds := nowSeconds } }) := by
  rw [securityUnwrapRequest_next live fits carried, if_neg more]

end exchange

end Guardian.Host
