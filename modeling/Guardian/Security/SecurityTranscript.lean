import Guardian.Security.SecurityRun

namespace Guardian.Session

open Word ByteString Guardian.Crypto Guardian.Protocol

def handshakeTranscript (label : List U8) (role : SecurityRole) (sessionId : U32) (clientNonce deviceNonce : Bytes 16) :
    List U8 :=
  label ++ ([securitySchemaVersion, role] ++ putU32Be sessionId) ++ clientNonce.1 ++ deviceNonce.1

def requestTranscript (sessionId : U32) (counter : U64) (outerSequence : U32) (command : U8) (payload : List U8) :
    List U8 :=
  securityRequestLabel ++ ([securitySchemaVersion] ++ putU32Be sessionId ++ putU64Be counter ++
    putU32Be outerSequence ++ [command] ++ putU16Be (BitVec.ofNat 16 payload.length)) ++ payload

def responseTranscript (sessionId : U32) (counter : U64) (outerSequence : U32) (messageType : MessageType) (command : U8)
    (payload : List U8) : List U8 :=
  securityResponseLabel ++ ([securitySchemaVersion] ++ putU32Be sessionId ++ putU64Be counter ++
    putU32Be outerSequence ++ [messageType.code, command] ++ putU16Be (BitVec.ofNat 16 payload.length)) ++ payload

def requestEnvelope (sessionId : U32) (counter : U64) (command : U8) (payload tag : List U8) : List U8 :=
  [securitySchemaVersion] ++ putU32Be sessionId ++ putU64Be counter ++ [command] ++
    putU16Be (BitVec.ofNat 16 payload.length) ++ payload ++ tag

def responseEnvelope (sessionId : U32) (counter : U64) (messageType : MessageType) (command : U8)
    (payload tag : List U8) : List U8 :=
  [securitySchemaVersion] ++ putU32Be sessionId ++ putU64Be counter ++ [messageType.code, command] ++
    putU16Be (BitVec.ofNat 16 payload.length) ++ payload ++ tag

def macTag (key transcript : List U8) : List U8 := (hmacSha256 key transcript).take securityTagSize

@[simp] theorem macTag_length (key transcript : List U8) : (macTag key transcript).length = securityTagSize := rfl

theorem handshakeTranscript_nonces {label : List U8} {role role' : SecurityRole} {sessionId sessionId' : U32}
    {clientNonce deviceNonce clientNonce' deviceNonce' : Bytes 16}
    (same : handshakeTranscript label role sessionId clientNonce deviceNonce =
      handshakeTranscript label role' sessionId' clientNonce' deviceNonce') :
    clientNonce = clientNonce' ∧ deviceNonce = deviceNonce' := by
  unfold handshakeTranscript at same
  have outer := List.append_inj' same (by rw [deviceNonce.2, deviceNonce'.2])
  have inner := List.append_inj' outer.1 (by rw [clientNonce.2, clientNonce'.2])
  exact ⟨Subtype.ext inner.2, Subtype.ext outer.2⟩

theorem requestTranscript_ne_response (sessionId sessionId' : U32) (counter counter' : U64)
    (outerSequence outerSequence' : U32) (command command' : U8) (payload payload' : List U8)
    (messageType : MessageType) :
    requestTranscript sessionId counter outerSequence command payload ≠
      responseTranscript sessionId' counter' outerSequence' messageType command' payload' := by
  intro same
  have labels := congrArg (List.take 10) same
  revert labels
  show ¬ securityRequestLabel.take 10 = securityResponseLabel.take 10
  decide

theorem securityHandshakeMac_eq (security : Security) {label : List U8} (short : label.length ≤ 15)
    (role : SecurityRole) (sessionId : U32) (clientNonce deviceNonce : Bytes 16) :
    securityHandshakeMac security label role sessionId clientNonce deviceNonce =
      some (hmacSha256 security.config.psk.1 (handshakeTranscript label role sessionId clientNonce deviceNonce)) := by
  have joined : [label, [securitySchemaVersion, role] ++ putU32Be sessionId, clientNonce.1, deviceNonce.1].flatten =
      handshakeTranscript label role sessionId clientNonce deviceNonce := by
    simp [handshakeTranscript]
  unfold securityHandshakeMac securityTranscript
  dsimp only
  rw [joined, if_neg]
  · rfl
  · rw [handshakeTranscript]
    simp only [List.length_append, putU32Be_length, clientNonce.2, deviceNonce.2, List.length_cons, List.length_nil,
      securityTranscriptCapacity]
    omega

theorem securityRequestTag_some (security : Security) (outerRequest : Frame) (sessionId : U32) (counter : U64)
    (command : U8) {payload : List U8} (fits : payload.length ≤ securityMaxRequestInnerPayload) :
    securityRequestTag security outerRequest sessionId counter command payload =
      some (hmacSha256 security.session.sessionKey.1
        (requestTranscript sessionId counter outerRequest.sequence command payload)) := by
  have small : ¬ [securityRequestLabel, [securitySchemaVersion] ++ putU32Be sessionId ++ putU64Be counter ++
      putU32Be outerRequest.sequence ++ [command] ++ putU16Be (BitVec.ofNat 16 payload.length),
        payload].flatten.length > securityTranscriptCapacity := by
    unfold securityMaxRequestInnerPayload maxPayloadSize securityRequestOverhead at fits
    simp [securityRequestLabel, securityTranscriptCapacity]
    omega
  unfold securityRequestTag securityTranscript
  dsimp only
  rw [if_neg small]
  simp [requestTranscript]

theorem securityResponseTag_some (security : Security) (outerRequest : Frame) (sessionId : U32) (counter : U64)
    {innerResponse : Frame} (fits : innerResponse.payload.length ≤ securityMaxResponseInnerPayload) :
    securityResponseTag security outerRequest sessionId counter innerResponse =
      some (hmacSha256 security.session.sessionKey.1 (responseTranscript sessionId counter outerRequest.sequence
        innerResponse.messageType innerResponse.command innerResponse.payload)) := by
  have small : ¬ [securityResponseLabel, [securitySchemaVersion] ++ putU32Be sessionId ++ putU64Be counter ++
      putU32Be outerRequest.sequence ++ [innerResponse.messageType.code, innerResponse.command] ++
        putU16Be innerResponse.payloadLength, innerResponse.payload].flatten.length >
          securityTranscriptCapacity := by
    unfold securityMaxResponseInnerPayload maxPayloadSize securityResponseOverhead at fits
    simp [securityResponseLabel, securityTranscriptCapacity]
    omega
  unfold securityResponseTag securityTranscript
  dsimp only
  rw [if_neg small]
  simp [responseTranscript, Frame.payloadLength]

theorem securityRequestTag_eq {security : Security} {outerRequest : Frame} {sessionId : U32} {counter : U64}
    {command : U8} {payload tag : List U8}
    (tagged : securityRequestTag security outerRequest sessionId counter command payload = some tag) :
    tag = hmacSha256 security.session.sessionKey.1
      (requestTranscript sessionId counter outerRequest.sequence command payload) := by
  obtain ⟨transcript, joined, rfl⟩ := Option.map_eq_some_iff.mp tagged
  unfold securityTranscript at joined
  split_ifs at joined
  cases joined
  simp [requestTranscript]

theorem securityResponseTag_eq {security : Security} {outerRequest innerResponse : Frame} {sessionId : U32}
    {counter : U64} {tag : List U8}
    (tagged : securityResponseTag security outerRequest sessionId counter innerResponse = some tag) :
    tag = hmacSha256 security.session.sessionKey.1 (responseTranscript sessionId counter outerRequest.sequence
      innerResponse.messageType innerResponse.command innerResponse.payload) := by
  obtain ⟨transcript, joined, rfl⟩ := Option.map_eq_some_iff.mp tagged
  unfold securityTranscript at joined
  split_ifs at joined
  cases joined
  simp [responseTranscript, Frame.payloadLength]

theorem securityWrapResponse_ok {security : Security} {outerRequest innerResponse output : Frame} {counter : U64}
    (wrapped : securityWrapResponse security outerRequest counter innerResponse = .ok output) :
    output = outerRequest.answer .response (responseEnvelope security.session.sessionId counter
      innerResponse.messageType innerResponse.command innerResponse.payload
      (macTag security.session.sessionKey.1 (responseTranscript security.session.sessionId counter outerRequest.sequence
        innerResponse.messageType innerResponse.command innerResponse.payload))) ∧
      innerResponse.payload.length ≤ securityMaxResponseInnerPayload := by
  unfold securityWrapResponse at wrapped
  by_cases idle : security.session.valid = 0
  · rw [if_pos idle] at wrapped
    cases wrapped
  rw [if_neg idle] at wrapped
  by_cases large : innerResponse.payload.length > securityMaxResponseInnerPayload
  · rw [if_pos large] at wrapped
    cases wrapped
  rw [if_neg large] at wrapped
  cases tagged : securityResponseTag security outerRequest security.session.sessionId counter innerResponse with
  | none =>
    rw [tagged] at wrapped
    cases wrapped
  | some tag =>
    rw [tagged] at wrapped
    cases wrapped
    refine ⟨?_, Nat.not_lt.mp large⟩
    rw [macTag, ← securityResponseTag_eq tagged]
    rfl

theorem securityWrapResponse_fits {security : Security} (active : security.session.valid ≠ 0) (outerRequest : Frame)
    (counter : U64) {innerResponse : Frame} (fits : innerResponse.payload.length ≤ securityMaxResponseInnerPayload) :
    securityWrapResponse security outerRequest counter innerResponse =
      .ok (outerRequest.answer .response (responseEnvelope security.session.sessionId counter
        innerResponse.messageType innerResponse.command innerResponse.payload
        (macTag security.session.sessionKey.1 (responseTranscript security.session.sessionId counter
          outerRequest.sequence innerResponse.messageType innerResponse.command innerResponse.payload)))) := by
  unfold securityWrapResponse
  rw [if_neg active, if_neg (Nat.not_lt.mpr fits),
    securityResponseTag_some security outerRequest security.session.sessionId counter fits]
  rfl

theorem responseEnvelope_size {sessionId : U32} {counter : U64} {messageType : MessageType} {command : U8}
    {payload tag : List U8} (fits : payload.length ≤ securityMaxResponseInnerPayload)
    (tagged : tag.length = securityTagSize) :
    (responseEnvelope sessionId counter messageType command payload tag).length ≤ maxPayloadSize := by
  unfold securityMaxResponseInnerPayload maxPayloadSize securityResponseOverhead at fits
  simp only [responseEnvelope, List.length_append, List.length_cons, List.length_nil, putU32Be_length,
    putU64Be_length, putU16Be_length, tagged, securityTagSize, maxPayloadSize]
  omega

/-- The request inside the envelope, as the device hands it on. -/
def secureInnerRequest (outerRequest : Frame) : Frame :=
  { messageType := .request
    command := secureInnerCommand outerRequest
    flags := supportedFlags
    sequence := outerRequest.sequence
    payload := secureInnerPayload outerRequest }

/-- What an accepted request carried: its exact length, the tag of its contents, and the fields handed on. -/
theorem securityUnwrapRequest_accepted {security : Security} {outerRequest innerRequest : Frame} {nowSeconds : U32}
    {counter : U64}
    (accepted : (securityUnwrapRequest security outerRequest nowSeconds).1 = .ok (innerRequest, counter)) :
    innerRequest = secureInnerRequest outerRequest ∧ counter = secureCounter outerRequest ∧
      outerRequest.payload.length = securityRequestOverhead + secureInnerLength outerRequest := by
  unfold securityUnwrapRequest at accepted
  dsimp only at accepted
  obtain ⟨-, accepted⟩ := Check.succeeded accepted
  obtain ⟨-, accepted⟩ := Check.succeeded accepted
  obtain ⟨-, accepted⟩ := Check.succeeded accepted
  obtain ⟨-, accepted⟩ := Check.succeeded accepted
  obtain ⟨-, accepted⟩ := Check.succeeded accepted
  obtain ⟨length, accepted⟩ := Check.succeeded accepted
  cases tagged : securityRequestTag (securityExpireSession security nowSeconds) outerRequest
      (secureSessionId outerRequest) (secureCounter outerRequest) (secureInnerCommand outerRequest)
      (secureInnerPayload outerRequest) with
  | none =>
    rw [tagged] at accepted
    cases accepted
  | some tag =>
    rw [tagged] at accepted
    dsimp only at accepted
    obtain ⟨-, accepted⟩ := Check.succeeded accepted
    obtain ⟨-, accepted⟩ := Check.succeeded accepted
    obtain ⟨-, accepted⟩ := Check.succeeded accepted
    cases accepted
    exact ⟨rfl, rfl, not_not.mp length⟩

theorem securityAuthFinish_key {security : Security} {request response : List U8} {nowSeconds : U32} {capacity : Nat}
    (activated : (securityAuthFinish security request nowSeconds capacity).1 = .ok response) :
    (securityAuthFinish security request nowSeconds capacity).2.session.sessionKey.1 =
      hmacSha256 security.config.psk.1 (handshakeTranscript securitySessionLabel security.pending.role
        security.pending.sessionId security.pending.clientNonce security.pending.deviceNonce) := by
  unfold securityAuthFinish at activated ⊢
  dsimp only at activated ⊢
  obtain ⟨configured, activated⟩ := Check.succeeded activated
  obtain ⟨length, activated⟩ := Check.succeeded activated
  obtain ⟨small, activated⟩ := Check.succeeded activated
  obtain ⟨live, activated⟩ := Check.succeeded activated
  obtain ⟨schema, activated⟩ := Check.succeeded activated
  obtain ⟨other, activated⟩ := Check.succeeded activated
  rw [if_neg configured, if_neg length, if_neg small, if_neg live, if_neg schema, if_neg other]
  obtain ⟨role, sessionId⟩ := not_or.mp other
  rw [(securityExpirePending_live live).2] at activated role sessionId ⊢
  rw [not_not.mp role, not_not.mp sessionId] at activated ⊢
  rw [securityHandshakeMac_eq security (by decide : securityClientLabel.length ≤ 15)] at activated ⊢
  dsimp only at activated ⊢
  obtain ⟨proved, activated⟩ := Check.succeeded activated
  rw [if_neg proved, securityHandshakeMac_eq security (by decide : securitySessionLabel.length ≤ 15)]
  rw [securityClearPending]
  exact congrArg Subtype.val (padded_self ⟨hmacSha256 _ _, hmacSha256_length _ _⟩ [])

theorem requestEnvelope_fields {outerRequest : Frame} {sessionId : U32} {counter : U64} {command : U8}
    {payload tag : List U8} (carried : outerRequest.payload = requestEnvelope sessionId counter command payload tag)
    (fits : payload.length ≤ securityMaxRequestInnerPayload) :
    secureSessionId outerRequest = sessionId ∧ secureCounter outerRequest = counter ∧
      secureInnerCommand outerRequest = command ∧ secureInnerPayload outerRequest = payload ∧
      secureTag outerRequest = tag ∧ secureInnerLength outerRequest = payload.length := by
  have size : secureInnerLength outerRequest = payload.length := by
    have field : (requestEnvelope sessionId counter command payload tag).drop 14 =
        putU16Be (BitVec.ofNat 16 payload.length) ++ (payload ++ tag) := by
      rw [requestEnvelope, List.append_assoc, List.append_assoc]
      rfl
    unfold securityMaxRequestInnerPayload maxPayloadSize at fits
    rw [secureInnerLength, carried, field, getU16Be_put, BitVec.toNat_ofNat]
    omega
  have start : (requestEnvelope sessionId counter command payload tag).drop 16 = payload ++ tag := by
    rw [requestEnvelope, List.append_assoc]
    rfl
  refine ⟨?_, ?_, ?_, ?_, ?_, size⟩
  · rw [secureSessionId, carried]
    exact getU32Be_put sessionId _
  · rw [secureCounter, carried]
    exact getU64Be_put counter _
  · rw [secureInnerCommand, carried]
    rfl
  · rw [secureInnerPayload, size, carried, slice, start, List.take_left]
  · rw [secureTag, size, carried, ← List.drop_drop, start, List.drop_left]

end Guardian.Session
