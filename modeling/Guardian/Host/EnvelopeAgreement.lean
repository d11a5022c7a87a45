import Guardian.Host.SecureAgreement
import Guardian.Platform.LinkAnswers

namespace Guardian.Host

open Word ByteString Guardian.Crypto Guardian.Protocol Guardian.Session

/-- The proofs and the key of the host are the device's MACs over the same values. -/
structure MacsAgree (security : Security) (role : SecurityRole) (sessionId : U32) (clientNonce deviceNonce : Bytes 16) :
    Prop where
  server : ∃ mac, securityHandshakeMac security securityServerLabel role sessionId clientNonce deviceNonce = some mac ∧
    computeServerProof security.config.psk role sessionId clientNonce deviceNonce = .ok (mac.take securityTagSize)
  client : ∃ mac, securityHandshakeMac security securityClientLabel role sessionId clientNonce deviceNonce = some mac ∧
    computeClientProof security.config.psk role sessionId clientNonce deviceNonce = .ok (mac.take securityTagSize)
  session : ∃ mac, securityHandshakeMac security securitySessionLabel role sessionId clientNonce deviceNonce = some mac ∧
    deriveSessionKey security.config.psk role sessionId clientNonce deviceNonce = .ok mac

theorem macsAgree (security : Security) {role : SecurityRole} {sessionId : U32} (admin : role ≤ roleAdmin)
    (identified : sessionId ≠ 0) (clientNonce deviceNonce : Bytes 16) :
    MacsAgree security role sessionId clientNonce deviceNonce where
  server := by
    refine ⟨_, securityHandshakeMac_eq security (by decide) role sessionId clientNonce deviceNonce, ?_⟩
    rw [computeServerProof, hostTranscript_ok admin identified]
    rfl
  client := by
    refine ⟨_, securityHandshakeMac_eq security (by decide) role sessionId clientNonce deviceNonce, ?_⟩
    rw [computeClientProof, hostTranscript_ok admin identified]
    rfl
  session := by
    refine ⟨_, securityHandshakeMac_eq security (by decide) role sessionId clientNonce deviceNonce, ?_⟩
    rw [deriveSessionKey, hostTranscript_ok admin identified]
    rfl

/-- The host's proofs and key are those of a device that went through the same handshake. -/
structure HandshakeAgrees (handshake : Handshake) (security : Security) (nowSeconds : U32) : Prop where
  challenged : ∀ randomBytes : Bytes 20, handshake.Drawn randomBytes → ∃ serverProof,
    computeServerProof handshake.psk handshake.role handshake.sessionId handshake.clientNonce handshake.deviceNonce =
      .ok serverProof ∧
    (securityAuthBegin security handshake.beginRequest nowSeconds maxPayloadSize (some randomBytes)).1 =
      .ok ([securitySchemaVersion, handshake.role] ++ putU32Be handshake.sessionId ++ handshake.deviceNonce.1 ++
        serverProof)
  proved : ∀ started : U32, security.pending = handshake.pending started →
    nowSeconds - started < securityPendingTimeoutSeconds → ∃ clientProof request sessionKey,
      computeClientProof handshake.psk handshake.role handshake.sessionId handshake.clientNonce
        handshake.deviceNonce = .ok clientProof ∧
      encodeAuthFinish handshake.role handshake.sessionId clientProof = .ok request ∧
      deriveSessionKey handshake.psk handshake.role handshake.sessionId handshake.clientNonce handshake.deviceNonce =
        .ok sessionKey ∧
      (securityAuthFinish security request nowSeconds maxPayloadSize).1 =
        .ok (handshake.opened security.config.sessionTimeoutSeconds) ∧
      (securityAuthFinish security request nowSeconds maxPayloadSize).2.session.sessionKey.1 = sessionKey

theorem handshakeAgrees (handshake : Handshake) {security : Security} (configured : security.configured ≠ 0)
    (psk : security.config.psk = handshake.psk) (bounded : handshake.role ≤ security.config.maxRole) (nowSeconds : U32) :
    HandshakeAgrees handshake security nowSeconds where
  challenged := by
    intro randomBytes drawn
    refine ⟨_, computeServerProof_handshake handshake, ?_⟩
    rw [securityAuthBegin_handshake configured psk bounded drawn]
    rfl
  proved := by
    intro started pending fresh
    have finished := securityAuthFinish_handshake configured psk pending fresh
    refine ⟨_, _, _, computeClientProof_handshake handshake, encodeAuthFinish_handshake handshake,
      deriveSessionKey_handshake handshake, ?_, ?_⟩
    · rw [finished]
    · rw [finished]
      rfl

/-- The session of the device that a request with this counter is next in. -/
structure Matching (security : Security) (sessionKey : Bytes 32) (sessionId : U32) (counter : U64) (nowSeconds : U32) :
    Prop where
  live : security.Live nowSeconds
  sessionKey : security.session.sessionKey = sessionKey
  sessionId : security.session.sessionId = sessionId
  next : security.session.nextCounter = counter

/-- What the device makes of a request that is next in its session. -/
def acceptance (security : Security) (request : Frame) (counter : U64) (nowSeconds : U32) :
    Except SecurityResult (Frame × U64) × Security :=
  (.ok (request, counter), { security with session :=
    { security.session with nextCounter := counter + 1, lastActivitySeconds := nowSeconds } })

/-- The host encodes a request, and the device hands on what is in it. -/
def RequestAgrees (sessionKey : Bytes 32) (sessionId : U32) (counter : U64) (outerSequence : U32) (command : U8)
    (payload : List U8) : Prop :=
  ∃ encoded, encodeSecureRequest sessionKey.1 sessionId counter.toNat outerSequence command payload = .ok encoded ∧
    encoded.length ≤ maxPayloadSize ∧
    ∀ (security : Security) (outerRequest : Frame) (nowSeconds : U32),
      Matching security sessionKey sessionId counter nowSeconds → outerRequest.sequence = outerSequence →
      outerRequest.payload = encoded →
      securityUnwrapRequest security outerRequest nowSeconds =
        if counter + 1 = 0 then (.error .errorReplay, securityClearSession security)
        else acceptance security (hostRequest command outerSequence payload) counter nowSeconds

theorem requestAgrees (sessionKey : Bytes 32) (sessionId : U32) (counter : U64) (outerSequence : U32) (command : U8)
    {payload : List U8} (fits : payload.length ≤ maxSecureRequestInnerPayload) :
    RequestAgrees sessionKey sessionId counter outerSequence command payload := by
  have encoded := @encodeSecureRequest_envelope sessionId outerSequence command payload sessionKey counter.toNat
    counter.isLt fits
  rw [BitVec.ofNat_toNat, BitVec.setWidth_eq] at encoded
  refine ⟨_, encoded, ?_, ?_⟩
  · unfold maxSecureRequestInnerPayload at fits
    simp only [requestEnvelope, List.length_append, List.length_cons, List.length_nil, putU32Be_length,
      putU64Be_length, putU16Be_length, macTag_length, securityTagSize, maxPayloadSize]
    omega
  · intro security outerRequest nowSeconds matching sequence carried
    obtain ⟨live, rfl, rfl, rfl⟩ := matching
    subst sequence
    exact securityUnwrapRequest_next live fits carried

/-- The device wraps an answer, and the host takes out what is in it. -/
def ResponseAgrees (security : Security) (outerRequest : Frame) (counter : U64) (innerResponse : Frame) : Prop :=
  ∃ output, securityWrapResponse security outerRequest counter innerResponse = .ok output ∧
    output.Answers outerRequest ∧
    decodeSecureResponse output.payload security.session.sessionKey.1 outerRequest.sequence =
      .ok ⟨security.session.sessionId, counter.toNat, innerResponse.messageType, innerResponse.command,
        innerResponse.payload⟩

theorem responseAgrees {security : Security} (active : security.session.valid ≠ 0) (outerRequest : Frame) (counter : U64)
    {innerResponse : Frame} (fits : innerResponse.payload.length ≤ securityMaxResponseInnerPayload)
    (type : innerResponse.messageType = .response ∨ innerResponse.messageType = .error) :
    ResponseAgrees security outerRequest counter innerResponse := by
  refine ⟨_, securityWrapResponse_fits active outerRequest counter fits, ?_, ?_⟩
  · exact Frame.answer_answers outerRequest (responseEnvelope_size fits (macTag_length _ _))
  · exact decodeSecureResponse_answer security.session.sessionKey fits type

section dispatch

open Guardian.Platform

variable {α ρ : Type} [Zero ρ]

theorem embeddedAuthorize_type (platform : LinkPlatform) (protocolResult : ProtocolResult) (link : EmbeddedLink α ρ)
    {innerRequest innerResponse : Frame}
    (answered : (embeddedAuthorize platform protocolResult link innerRequest).1 = .ok innerResponse) :
    innerResponse.messageType = .response ∨ innerResponse.messageType = .error := by
  unfold embeddedAuthorize at answered
  dsimp only at answered
  by_cases authorized : (securityAuthorize link.security innerRequest.command).1 = true
  · rw [if_pos authorized] at answered
    obtain ⟨answer, dispatched, answers, -⟩ := embeddedDispatchPrivileged_answers platform
      { link with security := (securityAuthorize link.security innerRequest.command).2 } innerRequest
    rw [dispatched] at answered
    cases answered
    exact answers.1
  · rw [if_neg authorized] at answered
    by_cases fine : protocolResult = .ok
    · rw [if_pos fine] at answered
      cases answered
      exact Or.inr rfl
    · rw [if_neg fine] at answered
      cases answered

end dispatch

/-- Proofs, keys, requests and answers are the same at both ends. The last counter of a session is refused. -/
theorem secure_envelopes_agree :
    (∀ (security : Security) (role : SecurityRole) (sessionId : U32) (clientNonce deviceNonce : Bytes 16),
      role ≤ roleAdmin → sessionId ≠ 0 → MacsAgree security role sessionId clientNonce deviceNonce) ∧
    (∀ (handshake : Handshake) (security : Security) (nowSeconds : U32), security.configured ≠ 0 →
      security.config.psk = handshake.psk → handshake.role ≤ security.config.maxRole →
      HandshakeAgrees handshake security nowSeconds) ∧
    (∀ (sessionKey : Bytes 32) (sessionId : U32) (counter : U64) (outerSequence : U32) (command : U8)
      (payload : List U8), payload.length ≤ maxSecureRequestInnerPayload →
      RequestAgrees sessionKey sessionId counter outerSequence command payload) ∧
    (∀ (security : Security) (outerRequest : Frame) (counter : U64) (innerResponse : Frame),
      security.session.valid ≠ 0 → innerResponse.payload.length ≤ securityMaxResponseInnerPayload →
      innerResponse.messageType = .response ∨ innerResponse.messageType = .error →
      ResponseAgrees security outerRequest counter innerResponse) ∧
    ∀ (α ρ : Type) [Zero ρ] (platform : Platform.LinkPlatform) (protocolResult : ProtocolResult)
      (link : Platform.EmbeddedLink α ρ) (innerRequest innerResponse : Frame),
      (Platform.embeddedAuthorize platform protocolResult link innerRequest).1 = .ok innerResponse →
      innerResponse.messageType = .response ∨ innerResponse.messageType = .error := by
  refine ⟨?_, ?_, ?_, ?_, ?_⟩
  · intro security role sessionId clientNonce deviceNonce admin identified
    exact macsAgree security admin identified clientNonce deviceNonce
  · intro handshake security nowSeconds configured psk bounded
    exact handshakeAgrees handshake configured psk bounded nowSeconds
  · intro sessionKey sessionId counter outerSequence command payload fits
    exact requestAgrees sessionKey sessionId counter outerSequence command fits
  · intro security outerRequest counter innerResponse active fits type
    exact responseAgrees active outerRequest counter fits type
  · intro α ρ _ platform protocolResult link innerRequest innerResponse answered
    exact embeddedAuthorize_type platform protocolResult link answered

def lastSession : Security :=
  { securityInit with
    config := ⟨padded 32 [], roleAdmin, securityDefaultSessionTimeoutSeconds⟩
    configured := 1
    session := ⟨1, roleAdmin, 1, padded 32 [], 0xFFFFFFFFFFFFFFFF, 0⟩ }

/-- The request with the last counter is refused, an event is no answer for the host, and it has no session zero. -/
theorem last_counter_refused :
    (∃ encoded, encodeSecureRequest lastSession.session.sessionKey.1 1 0xFFFFFFFFFFFFFFFF 7 commandControlCommand [] =
        .ok encoded ∧
      (securityUnwrapRequest lastSession ⟨.request, commandSecureCommand, supportedFlags, 7, encoded⟩ 0).1 =
        .error .errorReplay) ∧
    (∃ output, securityWrapResponse lastSession ⟨.request, commandSecureCommand, supportedFlags, 7, []⟩ 1
        ⟨.event, commandControlCommand, supportedFlags, 7, []⟩ = .ok output ∧
      decodeSecureResponse output.payload lastSession.session.sessionKey.1 7 = .error .responseMessageType) ∧
    computeServerProof lastSession.config.psk roleAdmin 0 (padded 16 []) (padded 16 []) = .error .sessionId := by
  have active : lastSession.session.valid ≠ 0 := by decide
  have none : ([] : List U8).length ≤ maxSecureRequestInnerPayload := Nat.zero_le _
  refine ⟨?_, ?_, rfl⟩
  · obtain ⟨encoded, sent, -, received⟩ := requestAgrees lastSession.session.sessionKey 1 0xFFFFFFFFFFFFFFFF 7
      commandControlCommand none
    refine ⟨encoded, sent, ?_⟩
    have matching : Matching lastSession lastSession.session.sessionKey 1 0xFFFFFFFFFFFFFFFF 0 :=
      ⟨⟨active, by decide⟩, rfl, rfl, rfl⟩
    rw [received lastSession ⟨.request, commandSecureCommand, supportedFlags, 7, encoded⟩ 0 matching rfl rfl]
    rfl
  · refine ⟨_, securityWrapResponse_fits active _ _ (Nat.zero_le _), ?_⟩
    have type : ¬ (MessageType.event = .response ∨ MessageType.event = .error) := by decide
    exact (decodeSecureResponse_read lastSession.session.sessionKey.2 (macTag_length _ _) (Nat.zero_le _)).trans
      (if_pos type)

end Guardian.Host
