import Guardian.Platform.EmbeddedLink
import Guardian.Security.SecurityTranscript

namespace Guardian.Platform

open Word Guardian.Crypto Guardian.Protocol Guardian.App Guardian.Dsp Guardian.Health Guardian.Supervision
  Guardian.Session Guardian.Firmware

section security

variable {security : Security}

theorem securityAuthBegin_size {request : List U8} {nowSeconds : U32} {capacity : Nat} {random : Option (Bytes 20)}
    {payload : List U8} (issued : (securityAuthBegin security request nowSeconds capacity random).1 = .ok payload) :
    payload.length ≤ maxPayloadSize := by
  unfold securityAuthBegin at issued
  dsimp only at issued
  cases random with
  | none => split_ifs at issued
  | some randomBytes =>
    dsimp only at issued
    generalize (if getU32Be randomBytes.1 = 0 then 1 else getU32Be randomBytes.1) = sessionId at issued
    split_ifs at issued
    split at issued
    · cases issued
    · cases issued
      simp only [List.length_append, List.length_cons, List.length_nil, putU32Be_length, List.length_take,
        securityTagSize, maxPayloadSize, (padded 16 _).2]
      omega

theorem securityAuthFinish_size {request : List U8} {nowSeconds : U32} {capacity : Nat} {payload : List U8}
    (activated : (securityAuthFinish security request nowSeconds capacity).1 = .ok payload) :
    payload.length ≤ maxPayloadSize := by
  unfold securityAuthFinish at activated
  dsimp only at activated
  split_ifs at activated
  split at activated
  · cases activated
  · split_ifs at activated
    split at activated
    · cases activated
    · cases activated
      simp [maxPayloadSize]

theorem securityWrapResponse_answers (active : security.session.valid ≠ 0) (outerRequest : Frame) (counter : U64)
    (innerResponse : Frame) (small : innerResponse.payload.length ≤ healthStatusPayloadSize) :
    ∃ answer, securityWrapResponse security outerRequest counter innerResponse = .ok answer ∧
      answer.Answers outerRequest ∧ answer.messageType = .response := by
  have fits : innerResponse.payload.length ≤ securityMaxResponseInnerPayload := Nat.le_trans small (by decide)
  refine ⟨_, securityWrapResponse_fits active outerRequest counter fits, ?_, rfl⟩
  exact Frame.answer_answers outerRequest (responseEnvelope_size fits (macTag_length _ _))

theorem embeddedSecurityAnswer_answers (request : Frame) {result : Except SecurityResult (List U8)}
    (size : ∀ payload, result = .ok payload → payload.length ≤ maxPayloadSize) :
    (embeddedSecurityAnswer request result).Answers request := by
  cases result with
  | ok payload => exact Frame.answer_answers request (size payload rfl)
  | error failure => exact makeError_answers request _

end security

section dispatch

variable {α ρ : Type} (platform : LinkPlatform) (link : EmbeddedLink α ρ) (request : Frame)

theorem embeddedFirmwareAnswer_answers (ran : FirmwareResult × FirmwareSystem) :
    ∃ answer, (embeddedFirmwareAnswer link request ran).1 = .ok answer ∧ answer.Answers request ∧
      answer.payload.length ≤ healthStatusPayloadSize := by
  unfold embeddedFirmwareAnswer
  split_ifs
  · exact ⟨_, rfl, makeError_answers request _, (by decide : 1 ≤ healthStatusPayloadSize)⟩
  · exact ⟨_, rfl, Frame.answer_answers request (by decide), (by decide : 0 ≤ healthStatusPayloadSize)⟩

variable [Zero ρ]

theorem embeddedDispatchPrivileged_answers :
    ∃ answer, (embeddedDispatchPrivileged platform link request).1 = .ok answer ∧ answer.Answers request ∧
      answer.payload.length ≤ healthStatusPayloadSize := by
  unfold embeddedDispatchPrivileged
  dsimp only
  split_ifs
  · obtain ⟨answer, handled, answers⟩ := healthHandleRequest_answers link.health request
    rw [handled]
    exact ⟨answer, rfl, answers⟩
  · obtain ⟨answer, handled, answers, small⟩ := controlHandleRequest_answers platform.output link.control request
    exact ⟨answer, handled, answers, Nat.le_trans small (by decide)⟩
  · exact embeddedFirmwareAnswer_answers link request _
  · exact embeddedFirmwareAnswer_answers link request _
  · exact embeddedFirmwareAnswer_answers link request _
  · exact embeddedFirmwareAnswer_answers link request _
  · exact embeddedFirmwareAnswer_answers link request _
  · exact embeddedFirmwareAnswer_answers link request _
  · exact ⟨_, rfl, makeError_answers request _, (by decide : 1 ≤ healthStatusPayloadSize)⟩

omit [Zero ρ] in
theorem embeddedSyncControlState_security (link : EmbeddedLink α ρ) :
    (embeddedSyncControlState link).security = link.security := by
  unfold embeddedSyncControlState
  dsimp only
  split_ifs <;> rfl

theorem embeddedDispatchPrivileged_security : (embeddedDispatchPrivileged platform link request).2.security = link.security := by
  unfold embeddedDispatchPrivileged
  dsimp only
  split_ifs
  · obtain ⟨answer, handled, -⟩ := healthHandleRequest_answers link.health request
    rw [handled]
    dsimp only
    split_ifs
    · exact embeddedSyncControlState_security _
    · rfl
  · exact embeddedSyncControlState_security _
  all_goals rfl

theorem securityAuthorize_session (security : Security) (command : U8) :
    (securityAuthorize security command).2.session = security.session := by
  unfold securityAuthorize
  split_ifs <;> rfl

theorem securityAuthorize_pending (security : Security) (command : U8) :
    (securityAuthorize security command).2.pending = security.pending := by
  unfold securityAuthorize
  split_ifs <;> rfl

theorem embeddedAuthorize_kept (protocolResult : ProtocolResult) :
    (embeddedAuthorize platform protocolResult link request).2.security.session = link.security.session ∧
      (embeddedAuthorize platform protocolResult link request).2.security.pending = link.security.pending := by
  have session := securityAuthorize_session link.security request.command
  have pending := securityAuthorize_pending link.security request.command
  unfold embeddedAuthorize
  dsimp only
  split_ifs
  · rw [embeddedDispatchPrivileged_security]
    exact ⟨session, pending⟩
  · exact ⟨session, pending⟩
  · exact ⟨session, pending⟩

theorem embeddedService_security (runtimeSeconds : U32) :
    (embeddedService platform link request runtimeSeconds).2.security = link.security := by
  unfold embeddedService
  dsimp only
  split_ifs
  · rfl
  · rfl
  · rfl
  · exact embeddedDispatchPrivileged_security platform link request
  · exact embeddedSyncControlState_security _
  · exact embeddedDispatchPrivileged_security platform link request
  · rfl

theorem embeddedAuthorize_answers :
    (∃ answer, (embeddedAuthorize platform .ok link request).1 = .ok answer ∧
      answer.payload.length ≤ healthStatusPayloadSize) ∧
      (embeddedAuthorize platform .ok link request).2.security.session = link.security.session := by
  unfold embeddedAuthorize
  dsimp only
  rw [if_pos rfl]
  have same := securityAuthorize_session link.security request.command
  split_ifs
  · obtain ⟨answer, dispatched, -, small⟩ := embeddedDispatchPrivileged_answers platform
      { link with security := (securityAuthorize link.security request.command).2 } request
    refine ⟨⟨answer, dispatched, small⟩, ?_⟩
    rw [embeddedDispatchPrivileged_security]
    exact same
  · exact ⟨⟨_, rfl, (by decide : 1 ≤ healthStatusPayloadSize)⟩, same⟩

theorem embeddedSecureCommand_answers (nowSeconds : U32) :
    ∃ answer after, embeddedSecureCommand platform .ok link request nowSeconds = ⟨.ok, some answer, after⟩ ∧
      answer.Answers request := by
  have unwraps := securityUnwrapRequest_unwraps link.security request nowSeconds
  unfold embeddedSecureCommand
  dsimp only
  generalize securityUnwrapRequest link.security request nowSeconds = unwrapped at unwraps ⊢
  obtain ⟨result, security⟩ := unwrapped
  cases unwraps with
  | refuses config pending session => exact ⟨_, _, rfl, makeError_answers request _⟩
  | exhausts authentic config pending session => exact ⟨_, _, rfl, makeError_answers request _⟩
  | accepts innerRequest authentic command type more =>
    dsimp only
    generalize guarded : ({ link with security := _ } : EmbeddedLink α ρ) = accepting
    obtain ⟨⟨innerResponse, dispatched, small⟩, same⟩ := embeddedAuthorize_answers platform accepting innerRequest
    have active : (embeddedAuthorize platform .ok accepting innerRequest).2.security.session.valid ≠ 0 := by
      rw [same, ← guarded]
      exact authentic.live.1
    obtain ⟨answer, wrapped, answers, -⟩ :=
      securityWrapResponse_answers active request (secureCounter request) innerResponse small
    unfold embeddedWrap
    rw [dispatched]
    dsimp only
    rw [wrapped]
    exact ⟨_, _, rfl, answers⟩

theorem embeddedService_answers (runtimeSeconds : U32) :
    ∃ answer, (embeddedService platform link request runtimeSeconds).1 = .ok answer ∧ answer.Answers request := by
  have privileged : ∃ answer, (embeddedDispatchPrivileged platform link request).1 = .ok answer ∧
      answer.Answers request := by
    obtain ⟨answer, dispatched, answers, -⟩ := embeddedDispatchPrivileged_answers platform link request
    exact ⟨answer, dispatched, answers⟩
  unfold embeddedService
  dsimp only
  split_ifs
  · exact telemetryHandleRequest_answers link.telemetry request
  · exact dspHandleRequest_answers _ _ request
  · obtain ⟨answer, handled, answers, -⟩ := healthHandleRequest_answers link.health request
    exact ⟨answer, handled, answers⟩
  · exact privileged
  · obtain ⟨answer, handled, answers, -⟩ := controlHandleRequest_answers platform.output link.control request
    exact ⟨answer, handled, answers⟩
  · exact privileged
  · exact deviceServiceHandle_answers _ _ request

theorem embeddedDispatch_answers (nowSeconds runtimeSeconds : U32) :
    ∃ answer after, embeddedDispatch platform .ok link request nowSeconds runtimeSeconds = ⟨.ok, some answer, after⟩ ∧
      answer.Answers request := by
  unfold embeddedDispatch
  split_ifs
  · exact ⟨_, _, rfl, embeddedSecurityAnswer_answers request fun _ => securityAuthBegin_size⟩
  · exact ⟨_, _, rfl, embeddedSecurityAnswer_answers request fun _ => securityAuthFinish_size⟩
  · unfold embeddedGetSecurityStatus
    split_ifs
    · exact ⟨_, _, rfl, makeError_answers request _⟩
    · exact ⟨_, _, rfl, Frame.answer_answers request (by simp [maxPayloadSize])⟩
  · unfold embeddedGetFirmwareStatus
    split_ifs
    · exact ⟨_, _, rfl, makeError_answers request _⟩
    · exact ⟨_, _, rfl, Frame.answer_answers request (by simp [maxPayloadSize])⟩
  · exact embeddedSecureCommand_answers platform link request nowSeconds
  · exact ⟨_, _, rfl, makeError_answers request _⟩
  · obtain ⟨answer, handled, answers⟩ := embeddedService_answers platform link request runtimeSeconds
    dsimp only
    rw [handled]
    exact ⟨answer, _, rfl, answers⟩

omit [Zero ρ] in
theorem PollBranch.handled_link (result : Except ProtocolResult Frame) (after : EmbeddedLink α ρ) :
    (PollBranch.handled result after).link = after := by
  cases result <;> rfl

end dispatch

/-- The branches leave the parser, the switch for security and, all but one, the telemetry. -/
def EmbeddedLink.Steady {α ρ : Type} (before after : EmbeddedLink α ρ) : Prop :=
  after.parser = before.parser ∧ after.securityRequired = before.securityRequired ∧ after.telemetry = before.telemetry

section steady

variable {α ρ : Type} (platform : LinkPlatform) (link : EmbeddedLink α ρ) (request : Frame)

theorem embeddedSyncControlState_steady : link.Steady (embeddedSyncControlState link) := by
  unfold embeddedSyncControlState
  dsimp only
  split_ifs <;> exact ⟨rfl, rfl, rfl⟩

variable [Zero ρ]

theorem embeddedDispatchPrivileged_steady : link.Steady (embeddedDispatchPrivileged platform link request).2 := by
  unfold embeddedDispatchPrivileged
  dsimp only
  split_ifs
  · obtain ⟨answer, handled, -⟩ := healthHandleRequest_answers link.health request
    rw [handled]
    dsimp only
    split_ifs
    · exact embeddedSyncControlState_steady _
    · exact ⟨rfl, rfl, rfl⟩
  · exact embeddedSyncControlState_steady _
  all_goals exact ⟨rfl, rfl, rfl⟩

omit [Zero ρ] in
theorem embeddedWrap_link (counter : U64) (dispatched : Except ProtocolResult Frame × EmbeddedLink α ρ) :
    (embeddedWrap request counter dispatched).link = dispatched.2 := by
  unfold embeddedWrap
  split
  · rfl
  · split <;> rfl

theorem embeddedAuthorize_steady (protocolResult : ProtocolResult) :
    link.Steady (embeddedAuthorize platform protocolResult link request).2 := by
  unfold embeddedAuthorize
  dsimp only
  split_ifs
  · exact embeddedDispatchPrivileged_steady platform { link with security := _ } request
  · exact ⟨rfl, rfl, rfl⟩
  · exact ⟨rfl, rfl, rfl⟩

theorem embeddedSecureCommand_steady (protocolResult : ProtocolResult) (nowSeconds : U32) :
    link.Steady (embeddedSecureCommand platform protocolResult link request nowSeconds).link := by
  unfold embeddedSecureCommand
  dsimp only
  generalize securityUnwrapRequest link.security request nowSeconds = unwrapped
  obtain ⟨failed | ⟨innerRequest, counter⟩, security⟩ := unwrapped
  · exact ⟨rfl, rfl, rfl⟩
  · dsimp only
    rw [embeddedWrap_link]
    exact embeddedAuthorize_steady platform { link with security := security } innerRequest protocolResult

theorem embeddedService_steady (runtimeSeconds : U32) :
    link.Steady (embeddedService platform link request runtimeSeconds).2 ∨
      (embeddedService platform link request runtimeSeconds).2 =
        { link with telemetry := (telemetryHandleRequest link.telemetry request).2 } := by
  unfold embeddedService
  dsimp only
  split_ifs
  · exact Or.inr rfl
  · exact Or.inl ⟨rfl, rfl, rfl⟩
  · exact Or.inl ⟨rfl, rfl, rfl⟩
  · exact Or.inl (embeddedDispatchPrivileged_steady platform link request)
  · exact Or.inl (embeddedSyncControlState_steady _)
  · exact Or.inl (embeddedDispatchPrivileged_steady platform link request)
  · exact Or.inl ⟨rfl, rfl, rfl⟩

theorem embeddedDispatch_steady (protocolResult : ProtocolResult) (nowSeconds runtimeSeconds : U32) :
    link.Steady (embeddedDispatch platform protocolResult link request nowSeconds runtimeSeconds).link ∨
      (embeddedDispatch platform protocolResult link request nowSeconds runtimeSeconds).link =
        { link with telemetry := (telemetryHandleRequest link.telemetry request).2 } := by
  unfold embeddedDispatch
  split_ifs
  · exact Or.inl ⟨rfl, rfl, rfl⟩
  · exact Or.inl ⟨rfl, rfl, rfl⟩
  · unfold embeddedGetSecurityStatus
    split_ifs <;> exact Or.inl ⟨rfl, rfl, rfl⟩
  · unfold embeddedGetFirmwareStatus
    split_ifs <;> exact Or.inl ⟨rfl, rfl, rfl⟩
  · exact Or.inl (embeddedSecureCommand_steady platform link request protocolResult nowSeconds)
  · exact Or.inl ⟨rfl, rfl, rfl⟩
  · dsimp only
    rw [PollBranch.handled_link]
    exact embeddedService_steady platform link request runtimeSeconds

theorem embeddedDispatch_parserState (protocolResult : ProtocolResult) (nowSeconds runtimeSeconds : U32) :
    (embeddedDispatch platform protocolResult link request nowSeconds runtimeSeconds).link.parser = link.parser := by
  rcases embeddedDispatch_steady platform link request protocolResult nowSeconds runtimeSeconds with steady | set
  · exact steady.1
  · rw [set]

theorem embeddedDispatch_securityRequired (protocolResult : ProtocolResult) (nowSeconds runtimeSeconds : U32) :
    (embeddedDispatch platform protocolResult link request nowSeconds runtimeSeconds).link.securityRequired =
      link.securityRequired := by
  rcases embeddedDispatch_steady platform link request protocolResult nowSeconds runtimeSeconds with steady | set
  · exact steady.2.1
  · rw [set]

end steady

end Guardian.Platform
