import Guardian.Lib.Check
import Guardian.Lib.Layout
import Guardian.Security.SecurityTranscript

namespace Guardian.Session

open Word ByteString Guardian.Crypto Guardian.Protocol

inductive SecurityPurpose
  | serverProof
  | clientProof
  | sessionKey
  | request
  | response
  deriving DecidableEq

def SecurityPurpose.label : SecurityPurpose → List U8
  | .serverProof => securityServerLabel
  | .clientProof => securityClientLabel
  | .sessionKey => securitySessionLabel
  | .request => securityRequestLabel
  | .response => securityResponseLabel

inductive SecurityMac
  | serverProof (role : SecurityRole) (sessionId : U32) (clientNonce deviceNonce : Bytes 16)
  | clientProof (role : SecurityRole) (sessionId : U32) (clientNonce deviceNonce : Bytes 16)
  | sessionKey (role : SecurityRole) (sessionId : U32) (clientNonce deviceNonce : Bytes 16)
  | request (sessionId : U32) (counter : U64) (outerSequence : U32) (command : U8) (payload : List U8)
  | response (sessionId : U32) (counter : U64) (outerSequence : U32) (messageType : MessageType) (command : U8)
      (payload : List U8)

def SecurityMac.purpose : SecurityMac → SecurityPurpose
  | .serverProof .. => .serverProof
  | .clientProof .. => .clientProof
  | .sessionKey .. => .sessionKey
  | .request .. => .request
  | .response .. => .response

def SecurityMac.transcript : SecurityMac → List U8
  | .serverProof role sessionId clientNonce deviceNonce =>
    handshakeTranscript securityServerLabel role sessionId clientNonce deviceNonce
  | .clientProof role sessionId clientNonce deviceNonce =>
    handshakeTranscript securityClientLabel role sessionId clientNonce deviceNonce
  | .sessionKey role sessionId clientNonce deviceNonce =>
    handshakeTranscript securitySessionLabel role sessionId clientNonce deviceNonce
  | .request sessionId counter outerSequence command payload =>
    requestTranscript sessionId counter outerSequence command payload
  | .response sessionId counter outerSequence messageType command payload =>
    responseTranscript sessionId counter outerSequence messageType command payload

theorem SecurityPurpose.label_prefix {purpose purpose' : SecurityPurpose}
    (same : purpose.label.take 10 = purpose'.label.take 10) : purpose = purpose' := by
  cases purpose <;> cases purpose' <;> first | rfl | exact absurd same (by decide)

theorem SecurityMac.transcript_prefix (mac : SecurityMac) : mac.transcript.take 10 = mac.purpose.label.take 10 := by
  cases mac <;> rfl

theorem SecurityMac.purpose_eq {left right : SecurityMac} (same : left.transcript = right.transcript) :
    left.purpose = right.purpose := by
  apply SecurityPurpose.label_prefix
  rw [← left.transcript_prefix, ← right.transcript_prefix, same]

theorem MessageType.code_injective {left right : MessageType} (same : left.code = right.code) : left = right := by
  have decoded := MessageType.ofCode_code left
  rw [same, MessageType.ofCode_code] at decoded
  exact (Option.some.inj decoded).symm

theorem handshakeTranscript_fields {label : List U8} {role role' : SecurityRole} {sessionId sessionId' : U32}
    {clientNonce deviceNonce clientNonce' deviceNonce' : Bytes 16}
    (same : handshakeTranscript label role sessionId clientNonce deviceNonce =
      handshakeTranscript label role' sessionId' clientNonce' deviceNonce') :
    role = role' ∧ sessionId = sessionId' ∧ clientNonce = clientNonce' ∧ deviceNonce = deviceNonce' := by
  obtain ⟨client, device⟩ := handshakeTranscript_nonces same
  subst client device
  have scalar := List.append_cancel_left (List.append_cancel_right (List.append_cancel_right same))
  obtain ⟨head, identifier⟩ := List.append_inj scalar rfl
  cases head
  exact ⟨rfl, putU32Be_injective identifier, rfl, rfl⟩

theorem requestTranscript_fields {sessionId sessionId' outerSequence outerSequence' : U32} {counter counter' : U64}
    {command command' : U8} {payload payload' : List U8}
    (same : requestTranscript sessionId counter outerSequence command payload =
      requestTranscript sessionId' counter' outerSequence' command' payload') :
    sessionId = sessionId' ∧ counter = counter' ∧ outerSequence = outerSequence' ∧ command = command' ∧
      payload = payload' := by
  have layout (sessionId outerSequence : U32) (counter : U64) (command : U8) (payload : List U8) :
      requestTranscript sessionId counter outerSequence command payload =
        [securityRequestLabel, [securitySchemaVersion], putU32Be sessionId, putU64Be counter, putU32Be outerSequence,
          [command], putU16Be (BitVec.ofNat 16 payload.length)].flatten ++ payload := by
    simp [requestTranscript]
  rw [layout, layout] at same
  obtain ⟨fields, body⟩ := fields_last_eq (by rfl) same
  simp only [List.cons.injEq, and_true, true_and] at fields
  obtain ⟨identifier, count, sequence, inner, -⟩ := fields
  exact ⟨putU32Be_injective identifier, putU64Be_injective count, putU32Be_injective sequence, inner, body⟩

theorem responseTranscript_fields {sessionId sessionId' outerSequence outerSequence' : U32} {counter counter' : U64}
    {messageType messageType' : MessageType} {command command' : U8} {payload payload' : List U8}
    (same : responseTranscript sessionId counter outerSequence messageType command payload =
      responseTranscript sessionId' counter' outerSequence' messageType' command' payload') :
    sessionId = sessionId' ∧ counter = counter' ∧ outerSequence = outerSequence' ∧ messageType = messageType' ∧
      command = command' ∧ payload = payload' := by
  have layout (sessionId outerSequence : U32) (counter : U64) (messageType : MessageType) (command : U8)
      (payload : List U8) : responseTranscript sessionId counter outerSequence messageType command payload =
        [securityResponseLabel, [securitySchemaVersion], putU32Be sessionId, putU64Be counter, putU32Be outerSequence,
          [messageType.code], [command], putU16Be (BitVec.ofNat 16 payload.length)].flatten ++ payload := by
    simp [responseTranscript]
  rw [layout, layout] at same
  obtain ⟨fields, body⟩ := fields_last_eq (by rfl) same
  simp only [List.cons.injEq, and_true, true_and] at fields
  obtain ⟨identifier, count, sequence, type, inner, -⟩ := fields
  exact ⟨putU32Be_injective identifier, putU64Be_injective count, putU32Be_injective sequence,
    MessageType.code_injective type, inner, body⟩

theorem SecurityMac.transcript_injective : Function.Injective SecurityMac.transcript := by
  intro left right same
  have purposes := SecurityMac.purpose_eq same
  match left, right, purposes with
  | .serverProof .., .serverProof .., _ | .clientProof .., .clientProof .., _ | .sessionKey .., .sessionKey .., _ =>
    obtain ⟨rfl, rfl, rfl, rfl⟩ := handshakeTranscript_fields same
    rfl
  | .request .., .request .., _ =>
    obtain ⟨rfl, rfl, rfl, rfl, rfl⟩ := requestTranscript_fields same
    rfl
  | .response .., .response .., _ =>
    obtain ⟨rfl, rfl, rfl, rfl, rfl, rfl⟩ := responseTranscript_fields same
    rfl

/-- A computed MAC is that of its transcript, which its buffer holds. -/
def SecurityMac.Computed (bound : SecurityMac) (key : List U8) (mac : Option (List U8)) : Prop :=
  mac = some (hmacSha256 key bound.transcript) ∧ bound.transcript.length ≤ securityTranscriptCapacity

section computed

variable (security : Security) (outerRequest : Frame)

theorem handshakeTranscript_fits {label : List U8} (short : label.length ≤ 15) (role : SecurityRole) (sessionId : U32)
    (clientNonce deviceNonce : Bytes 16) :
    (handshakeTranscript label role sessionId clientNonce deviceNonce).length ≤ securityTranscriptCapacity := by
  have client := clientNonce.2
  have device := deviceNonce.2
  simp only [handshakeTranscript, List.length_append, List.length_cons, List.length_nil, putU32Be_length,
    securityTranscriptCapacity]
  omega

theorem requestTag_computed (sessionId : U32) (counter : U64) (command : U8) {payload : List U8}
    (fits : payload.length ≤ securityMaxRequestInnerPayload) :
    (SecurityMac.request sessionId counter outerRequest.sequence command payload).Computed
      security.session.sessionKey.1 (securityRequestTag security outerRequest sessionId counter command payload) := by
  constructor
  · exact securityRequestTag_some security outerRequest sessionId counter command fits
  · unfold securityMaxRequestInnerPayload maxPayloadSize securityRequestOverhead at fits
    simp only [SecurityMac.transcript, requestTranscript, List.length_append, List.length_cons, List.length_nil,
      putU16Be_length, putU32Be_length, putU64Be_length, securityRequestLabel, securityTranscriptCapacity]
    omega

theorem responseTag_computed (sessionId : U32) (counter : U64) {innerResponse : Frame}
    (fits : innerResponse.payload.length ≤ securityMaxResponseInnerPayload) :
    (SecurityMac.response sessionId counter outerRequest.sequence innerResponse.messageType innerResponse.command
      innerResponse.payload).Computed security.session.sessionKey.1
        (securityResponseTag security outerRequest sessionId counter innerResponse) := by
  constructor
  · exact securityResponseTag_some security outerRequest sessionId counter fits
  · unfold securityMaxResponseInnerPayload maxPayloadSize securityResponseOverhead at fits
    simp only [SecurityMac.transcript, responseTranscript, List.length_append, List.length_cons, List.length_nil,
      putU16Be_length, putU32Be_length, putU64Be_length, securityResponseLabel, securityTranscriptCapacity]
    omega

theorem secureInnerPayload_length {outerRequest : Frame}
    (whole : outerRequest.payload.length = securityRequestOverhead + secureInnerLength outerRequest) :
    (secureInnerPayload outerRequest).length = secureInnerLength outerRequest := by
  apply slice_length
  rw [whole, securityRequestOverhead]
  omega

theorem securityWrapResponse_tagged (counter : U64) (innerResponse : Frame) :
    securityWrapResponse security outerRequest counter innerResponse ≠ .error .errorInvalidPayload := by
  intro failed
  unfold securityWrapResponse at failed
  obtain ⟨-, failed⟩ := Check.passed failed (by simp)
  obtain ⟨fits, failed⟩ := Check.passed failed (by simp)
  rw [securityResponseTag_some security outerRequest _ counter (Nat.not_lt.mp fits)] at failed
  cases failed

end computed

/-- Each MAC is over a transcript of its own: no two purposes share one, every field is bound, and the buffer holds
every transcript that the module comes to. -/
theorem security_macs_separated :
    Function.Injective SecurityMac.transcript ∧
      (∀ (security : Security) (role : SecurityRole) (sessionId : U32) (clientNonce deviceNonce : Bytes 16),
        (SecurityMac.serverProof role sessionId clientNonce deviceNonce).Computed security.config.psk.1
            (securityHandshakeMac security securityServerLabel role sessionId clientNonce deviceNonce) ∧
          (SecurityMac.clientProof role sessionId clientNonce deviceNonce).Computed security.config.psk.1
            (securityHandshakeMac security securityClientLabel role sessionId clientNonce deviceNonce) ∧
          (SecurityMac.sessionKey role sessionId clientNonce deviceNonce).Computed security.config.psk.1
            (securityHandshakeMac security securitySessionLabel role sessionId clientNonce deviceNonce)) ∧
      (∀ (security : Security) (outerRequest : Frame),
        secureInnerLength outerRequest ≤ securityMaxRequestInnerPayload →
        outerRequest.payload.length = securityRequestOverhead + secureInnerLength outerRequest →
        (SecurityMac.request (secureSessionId outerRequest) (secureCounter outerRequest) outerRequest.sequence
          (secureInnerCommand outerRequest) (secureInnerPayload outerRequest)).Computed security.session.sessionKey.1
            (securityRequestTag security outerRequest (secureSessionId outerRequest) (secureCounter outerRequest)
              (secureInnerCommand outerRequest) (secureInnerPayload outerRequest))) ∧
      ∀ (security : Security) (outerRequest innerResponse : Frame) (counter : U64),
        securityWrapResponse security outerRequest counter innerResponse ≠ .error .errorInvalidPayload ∧
          (innerResponse.payload.length ≤ securityMaxResponseInnerPayload →
            (SecurityMac.response security.session.sessionId counter outerRequest.sequence innerResponse.messageType
              innerResponse.command innerResponse.payload).Computed security.session.sessionKey.1
                (securityResponseTag security outerRequest security.session.sessionId counter innerResponse)) := by
  refine ⟨SecurityMac.transcript_injective, ?_, ?_, ?_⟩
  · intro security role sessionId clientNonce deviceNonce
    have computed {label : List U8} (short : label.length ≤ 15) :=
      And.intro (securityHandshakeMac_eq security short role sessionId clientNonce deviceNonce)
        (handshakeTranscript_fits short role sessionId clientNonce deviceNonce)
    exact ⟨computed (by decide), computed (by decide), computed (by decide)⟩
  · intro security outerRequest fits whole
    apply requestTag_computed
    rw [secureInnerPayload_length whole]
    exact fits
  · intro security outerRequest innerResponse counter
    exact ⟨securityWrapResponse_tagged security outerRequest counter innerResponse,
      responseTag_computed security outerRequest _ counter⟩

end Guardian.Session
