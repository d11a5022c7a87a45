import Guardian.Platform.LinkPrivilege

namespace Guardian.Platform

open Word Guardian.Crypto Guardian.Protocol Guardian.App Guardian.Dsp Guardian.Health Guardian.Supervision
  Guardian.Session Guardian.Firmware

/-- The commands that the poll loop runs by itself, without a look at the message type. -/
def TypeUnchecked (command : U8) : Prop :=
  command = commandAuthBegin ∨ command = commandAuthFinish ∨ command = commandGetSecurityStatus ∨
    command = commandGetFirmwareStatus ∨ command = commandSecureCommand

section requests

variable {α ρ : Type}

def EmbeddedLink.ChecksType (link : EmbeddedLink α ρ) (command : U8) : Prop :=
  ¬ TypeUnchecked command ∧ ¬ (link.securityRequired ≠ 0 ∧ embeddedPrivileged command)

structure EmbeddedLink.Kept (before after : EmbeddedLink α ρ) : Prop where
  unprivileged : before.Unprivileged after
  security : after.security = before.security
  telemetry : after.telemetry = before.telemetry

/-- Health, control, firmware and the telemetry configuration are the same, and the session and the handshake too unless
they expired. -/
structure EmbeddedLink.Untouched (before after : EmbeddedLink α ρ) (nowSeconds : U32) : Prop where
  unprivileged : before.Unprivileged after
  session : after.security.session = before.security.session ∨
    after.security.session = (securityExpireSession before.security nowSeconds).session
  pending : after.security.pending = before.security.pending ∨
    after.security.pending = (securityExpirePending before.security nowSeconds).pending
  enabled : after.telemetry.enabled = before.telemetry.enabled
  period : after.telemetry.periodMs = before.telemetry.periodMs

/-- The poll acted on nothing and answered `frame` as malformed. -/
structure PollLoop.Rejects (link : EmbeddedLink α ρ) (frame : Frame) (nowSeconds : U32) (poll : PollLoop α ρ) : Prop where
  untouched : link.Untouched poll.link nowSeconds
  answer : ∃ telemetry : Option Frame,
    poll.writes.map LinkWrite.bytes = (makeError frame .malformedFrame :: telemetry.toList).map Frame.wire ∧
      ∀ other ∈ telemetry, other.messageType = .telemetry

theorem makeError_ne_response {request answer : Frame} (response : answer.messageType = .response) (error : ErrorCode) :
    answer ≠ makeError request error := by
  rintro rfl
  cases response

theorem makeError_ne {request : Frame} {left right : ErrorCode} (different : left ≠ right) :
    makeError request left ≠ makeError request right := by
  intro same
  have payload := congrArg Frame.payload same
  exact different (ErrorCode.code_injective (List.singleton_injective payload))

theorem embeddedSecurityAnswer_ne (request : Frame) (result : Except SecurityResult (List U8)) :
    embeddedSecurityAnswer request result ≠ makeError request .malformedFrame := by
  cases result with
  | ok payload => exact makeError_ne_response rfl _
  | error failure => exact makeError_ne (by cases failure <;> decide)

theorem securityWrapResponse_type {security : Security} {outerRequest innerResponse output : Frame} {counter : U64}
    (wrapped : securityWrapResponse security outerRequest counter innerResponse = .ok output) :
    output.messageType = .response := by
  unfold securityWrapResponse at wrapped
  split_ifs at wrapped
  split at wrapped
  · cases wrapped
  · cases wrapped
    rfl

theorem embeddedWrap_ne (request : Frame) (counter : U64)
    (dispatched : Except ProtocolResult Frame × EmbeddedLink α ρ) :
    (embeddedWrap request counter dispatched).output ≠ some (makeError request .malformedFrame) := by
  unfold embeddedWrap
  split
  · exact Option.some_ne_none _ |>.symm
  · split
    · next output wrapped =>
      exact fun same => makeError_ne_response (securityWrapResponse_type wrapped) _ (Option.some.inj same)
    · next failure wrapped =>
      exact fun same => makeError_ne (by cases failure <;> decide) (Option.some.inj same)

variable [Zero ρ] (platform : LinkPlatform) (link : EmbeddedLink α ρ) (request : Frame)

theorem embeddedDispatch_unchecked (unchecked : ¬ link.ChecksType request.command) (protocolResult : ProtocolResult)
    (nowSeconds runtimeSeconds : U32) :
    (embeddedDispatch platform protocolResult link request nowSeconds runtimeSeconds).output ≠
      some (makeError request .malformedFrame) := by
  unfold embeddedDispatch
  split_ifs with begin' finish status firmware secure gate
  · exact fun same => embeddedSecurityAnswer_ne request _ (Option.some.inj same)
  · exact fun same => embeddedSecurityAnswer_ne request _ (Option.some.inj same)
  · unfold embeddedGetSecurityStatus
    split_ifs
    · exact fun same => makeError_ne (by decide) (Option.some.inj same)
    · exact fun same => makeError_ne_response rfl _ (Option.some.inj same)
  · unfold embeddedGetFirmwareStatus
    split_ifs
    · exact fun same => makeError_ne (by decide) (Option.some.inj same)
    · exact fun same => makeError_ne_response rfl _ (Option.some.inj same)
  · unfold embeddedSecureCommand
    dsimp only
    split
    · next failure _ => exact fun same => makeError_ne (by cases failure <;> decide) (Option.some.inj same)
    · exact embeddedWrap_ne request _ _
  · exact fun same => makeError_ne (by decide) (Option.some.inj same)
  · refine absurd ⟨?_, gate⟩ unchecked
    rintro (same | same | same | same | same)
    · exact begin' same
    · exact finish same
    · exact status same
    · exact firmware same
    · exact secure same

omit [Zero ρ] in
theorem embeddedSyncControlState_kept : link.Kept (embeddedSyncControlState link) := by
  refine ⟨embeddedSyncControlState_unprivileged link, ?_, (embeddedSyncControlState_steady link).2.2⟩
  unfold embeddedSyncControlState
  dsimp only
  split_ifs <;> rfl

theorem embeddedService_malformed (other : request.messageType ≠ .request) (runtimeSeconds : U32) :
    (embeddedService platform link request runtimeSeconds).1 = .ok (makeError request .malformedFrame) ∧
      link.Kept (embeddedService platform link request runtimeSeconds).2 := by
  have same : link.Kept link := ⟨.same link, rfl, rfl⟩
  unfold embeddedService
  dsimp only
  split_ifs with telemetry features health baseline status control
  · unfold telemetryHandleRequest
    rw [if_pos other]
    exact ⟨rfl, same⟩
  · unfold dspHandleRequest
    rw [if_neg (not_not.mpr features), if_pos other]
    exact ⟨rfl, same⟩
  · rw [healthHandleRequest_malformed link.health other]
    exact ⟨rfl, same⟩
  · unfold embeddedDispatchPrivileged
    dsimp only
    rw [if_pos baseline, healthHandleRequest_malformed link.health other]
    exact ⟨rfl, same⟩
  · rw [controlHandleRequest_malformed platform.output link.control other]
    exact ⟨rfl, embeddedSyncControlState_kept link⟩
  · unfold embeddedDispatchPrivileged
    dsimp only
    rw [if_neg baseline, if_pos control, controlHandleRequest_malformed platform.output link.control other]
    exact ⟨rfl, embeddedSyncControlState_kept link⟩
  · unfold deviceServiceHandle
    rw [if_pos other]
    exact ⟨rfl, same⟩

theorem embeddedDispatch_malformed (other : request.messageType ≠ .request) (checks : link.ChecksType request.command)
    (protocolResult : ProtocolResult) (nowSeconds runtimeSeconds : U32) :
    ∃ after, embeddedDispatch platform protocolResult link request nowSeconds runtimeSeconds =
      ⟨.ok, some (makeError request .malformedFrame), after⟩ ∧ link.Kept after := by
  obtain ⟨unchecked, gate⟩ := checks
  simp only [TypeUnchecked, not_or] at unchecked
  obtain ⟨begin', finish, status, firmware, secure⟩ := unchecked
  obtain ⟨answered, kept⟩ := embeddedService_malformed platform link request other runtimeSeconds
  unfold embeddedDispatch
  rw [if_neg begin', if_neg finish, if_neg status, if_neg firmware, if_neg secure, if_neg gate]
  dsimp only
  rw [answered]
  exact ⟨_, rfl, kept⟩

variable (environment : PollEnvironment)

theorem embeddedReceive_silent (loop : PollLoop α ρ) {byte : U8}
    (silent : (parserPushByte loop.link.parser byte).1.frame? = none) :
    ∃ stats, embeddedReceive platform environment loop byte =
      { loop with link := { loop.link with parser := (parserPushByte loop.link.parser byte).2, stats } } := by
  unfold embeddedReceive
  dsimp only
  split
  · exact ⟨_, rfl⟩
  · next frame ready =>
    rw [ready] at silent
    cases silent
  · exact ⟨_, rfl⟩

theorem embeddedReceive_run_silent (loop : PollLoop α ρ) {stream : List U8}
    (silent : loop.link.parser.delivered stream = []) :
    ∃ stats, Run.after (embeddedReceive platform environment) stream loop =
      { loop with link := { loop.link with parser := loop.link.parser.after stream, stats } } := by
  induction stream generalizing loop with
  | nil => exact ⟨_, rfl⟩
  | cons byte stream ih =>
    rw [Parser.delivered, List.append_eq_nil_iff, Option.toList_eq_nil_iff] at silent
    obtain ⟨stats, received⟩ := embeddedReceive_silent platform environment loop silent.1
    rw [Run.after_cons, received]
    exact ih { loop with link := { loop.link with parser := (parserPushByte loop.link.parser byte).2, stats } } silent.2

theorem embeddedReceive_run_single (loop : PollLoop α ρ) {stream : List U8} {frame : Frame}
    (single : loop.link.parser.delivered stream = [frame]) :
    ∃ parser stats parserAfter statsAfter, Run.after (embeddedReceive platform environment) stream loop =
      let handled := embeddedHandleFrame platform environment
        { loop with link := { loop.link with parser, stats } } frame
      { handled with link := { handled.link with parser := parserAfter, stats := statsAfter } } := by
  induction stream generalizing loop with
  | nil => cases single
  | cons byte stream ih =>
    rw [Parser.delivered] at single
    cases ready : (parserPushByte loop.link.parser byte).1.frame? with
    | none =>
      rw [ready, Option.toList_none, List.nil_append] at single
      obtain ⟨stats, received⟩ := embeddedReceive_silent platform environment loop ready
      rw [Run.after_cons, received]
      exact ih { loop with link := { loop.link with parser := (parserPushByte loop.link.parser byte).2, stats } } single
    | some first =>
      rw [ready, Option.toList_some, List.singleton_append, List.cons.injEq] at single
      obtain ⟨rfl, silent⟩ := single
      have received : embeddedReceive platform environment loop byte = embeddedHandleFrame platform environment
          { loop with link := { loop.link with parser := (parserPushByte loop.link.parser byte).2 } } first := by
        unfold embeddedReceive
        dsimp only
        split
        · next nothing =>
          rw [nothing] at ready
          cases ready
        · next request completed =>
          rw [completed] at ready
          cases ready
          rfl
        · next other _ incomplete =>
          revert ready
          cases pushed : (parserPushByte loop.link.parser byte).1 with
          | frameReady request => exact absurd pushed (incomplete request)
          | _ => rintro ⟨⟩
      rw [Run.after_cons, received]
      generalize pushed : ({ loop with link := { loop.link with parser := (parserPushByte loop.link.parser byte).2 } } :
        PollLoop α ρ) = current
      obtain ⟨stats, handled⟩ := embeddedHandleFrame_stats environment platform current first
      have parser : (embeddedHandleFrame platform environment current first).link.parser =
          (parserPushByte loop.link.parser byte).2 := by
        rw [handled]
        exact (embeddedDispatch_parserState platform current.link.received first _ _ _).trans (by rw [← pushed]; rfl)
      rw [← parser] at silent
      obtain ⟨statsAfter, ended⟩ := embeddedReceive_run_silent platform environment _ silent
      subst pushed
      exact ⟨_, _, _, _, ended⟩

omit [Zero ρ] in
theorem embeddedFlushTelemetry_sends (loop : PollLoop α ρ) :
    ∃ telemetry : Option Frame,
      (embeddedFlushTelemetry environment loop).writes.map LinkWrite.bytes =
          loop.writes.map LinkWrite.bytes ++ telemetry.toList.map Frame.wire ∧
        (∀ other ∈ telemetry, other.messageType = .telemetry) ∧
        (embeddedFlushTelemetry environment loop).link.telemetry.enabled = loop.link.telemetry.enabled ∧
        (embeddedFlushTelemetry environment loop).link.telemetry.periodMs = loop.link.telemetry.periodMs := by
  have still : (telemetryMakeDueFrame loop.link.telemetry loop.link.state).2.enabled = loop.link.telemetry.enabled ∧
      (telemetryMakeDueFrame loop.link.telemetry loop.link.state).2.periodMs = loop.link.telemetry.periodMs := by
    unfold telemetryMakeDueFrame
    split_ifs <;> exact ⟨rfl, rfl⟩
  unfold embeddedFlushTelemetry
  dsimp only
  split
  · exact ⟨none, by simp, by simp, still⟩
  · next frame due =>
    obtain ⟨-, -, type, encodable⟩ := telemetryMakeDueFrame_due due
    generalize flushed : ({ loop with link := { loop.link with telemetry := _ } } : PollLoop α ρ) = last
    obtain ⟨stats, sent⟩ := embeddedTransmit_stats environment last (some frame)
    have written := embeddedTransmit_writes environment last encodable
    subst flushed
    refine ⟨some frame, ?_, ?_, ?_⟩
    · rw [written, List.map_append]
      rfl
    · intro other member
      cases member
      exact type
    · rw [sent]
      exact still

theorem embeddedReceive_run_answers {stream : List U8} {frame : Frame}
    (single : link.parser.delivered stream = [frame]) :
    ∃ parser stats answer after, embeddedDispatch platform .ok { link with parser, stats } frame
        (environment.uptimeSeconds 0) (environment.uptimeSeconds 1) = ⟨.ok, some answer, after⟩ ∧
      answer.Answers frame ∧
      (∃ parserAfter statsAfter, (Run.after (embeddedReceive platform environment) stream (embeddedPollStart link)).link =
        { after with parser := parserAfter, stats := statsAfter }) ∧
      (Run.after (embeddedReceive platform environment) stream (embeddedPollStart link)).writes.map LinkWrite.bytes =
        [answer.wire] := by
  obtain ⟨parser, stats, parserAfter, statsAfter, ended⟩ :=
    embeddedReceive_run_single platform environment (embeddedPollStart link) single
  generalize received : ({ embeddedPollStart link with link := { (embeddedPollStart link).link with parser, stats } } :
    PollLoop α ρ) = loop at ended
  have clean : loop.protocolResult = .ok := by rw [← received]; rfl
  obtain ⟨answer, after, dispatched, answers⟩ := embeddedDispatch_answers platform loop.link.received frame
    (environment.uptimeSeconds (2 * loop.frames)) (environment.uptimeSeconds (2 * loop.frames + 1))
  have handled := embeddedHandleFrame_eq environment platform loop clean dispatched
  have writes : (embeddedHandleFrame platform environment loop frame).writes.map LinkWrite.bytes = [answer.wire] := by
    rw [handled, embeddedTransmit_writes environment _ answers.2.2.2, ← received]
    rfl
  obtain ⟨sent, same⟩ := embeddedHandleFrame_stats environment platform loop frame
  rw [clean, dispatched] at same
  rw [ended]
  subst received
  refine ⟨parser, _, answer, after, dispatched, answers, ⟨parserAfter, statsAfter, ?_⟩, writes⟩
  dsimp only
  rw [same]

theorem embeddedLinkPoll_single {incoming : List U8} {rxBudget : Nat} {frame : Frame}
    (single : link.parser.delivered (embeddedConsumed incoming rxBudget) = [frame]) :
    ∃ parser stats answer after, embeddedDispatch platform .ok { link with parser, stats } frame
        (environment.uptimeSeconds 0) (environment.uptimeSeconds 1) = ⟨.ok, some answer, after⟩ ∧
      answer.Answers frame ∧
      after.Unprivileged (embeddedLinkPoll platform environment link incoming rxBudget).link ∧
      (embeddedLinkPoll platform environment link incoming rxBudget).link.security = after.security ∧
      (embeddedLinkPoll platform environment link incoming rxBudget).link.telemetry.enabled = after.telemetry.enabled ∧
      (embeddedLinkPoll platform environment link incoming rxBudget).link.telemetry.periodMs =
        after.telemetry.periodMs ∧
      ∃ telemetry : Option Frame, (embeddedLinkPoll platform environment link incoming rxBudget).writes.map
          LinkWrite.bytes = (answer :: telemetry.toList).map Frame.wire ∧
        ∀ other ∈ telemetry, other.messageType = .telemetry := by
  obtain ⟨parser, stats, answer, after, dispatched, answers, ⟨parserAfter, statsAfter, reached⟩, writes⟩ :=
    embeddedReceive_run_answers platform link environment single
  unfold embeddedLinkPoll
  generalize Run.after (embeddedReceive platform environment) (embeddedConsumed incoming rxBudget)
    (embeddedPollStart link) = loop at reached writes ⊢
  obtain ⟨telemetry, written, types, enabled, period⟩ := embeddedFlushTelemetry_sends environment loop
  obtain ⟨flushedTelemetry, flushedStats, flushed⟩ := embeddedFlushTelemetry_link environment loop
  rw [writes] at written
  rw [reached] at enabled period flushed
  refine ⟨parser, stats, answer, after, dispatched, answers, ?_, ?_, enabled, period, telemetry, written, types⟩
  · rw [flushed]
    exact ⟨rfl, rfl, rfl⟩
  · rw [flushed]

end requests

/-- A poll that receives a frame that is not a request rejects it exactly when its branch checks the type. -/
theorem requests_only {α ρ : Type} [Zero ρ] (platform : LinkPlatform) (environment : PollEnvironment)
    (link : EmbeddedLink α ρ) (incoming : List U8) (rxBudget : Nat) (frame : Frame)
    (single : link.parser.delivered (embeddedConsumed incoming rxBudget) = [frame])
    (other : frame.messageType ≠ .request) :
    (embeddedLinkPoll platform environment link incoming rxBudget).Rejects link frame (environment.uptimeSeconds 0) ↔
      link.ChecksType frame.command := by
  obtain ⟨parser, stats, answer, after, dispatched, answers, unprivileged, security, enabled, period, telemetry, written,
    types⟩ := embeddedLinkPoll_single platform link environment single
  constructor
  · intro rejects
    by_contra unchecked
    obtain ⟨sent, writes, -⟩ := rejects.answer
    rw [written, List.map_cons, List.map_cons] at writes
    have same := Frame.wire_injective answers.2.2.2 (makeError_answers frame _).2.2.2 (List.cons.inj writes).1
    have never := embeddedDispatch_unchecked platform { link with parser, stats } frame unchecked .ok
      (environment.uptimeSeconds 0) (environment.uptimeSeconds 1)
    rw [dispatched, same] at never
    exact never rfl
  · intro checks
    obtain ⟨kept, malformed, same⟩ := embeddedDispatch_malformed platform { link with parser, stats } frame other checks
      .ok (environment.uptimeSeconds 0) (environment.uptimeSeconds 1)
    rw [dispatched] at malformed
    cases malformed
    have left : link.Unprivileged (embeddedLinkPoll platform environment link incoming rxBudget).link :=
      ⟨unprivileged.health.trans same.unprivileged.health, unprivileged.control.trans same.unprivileged.control,
        unprivileged.firmware.trans same.unprivileged.firmware⟩
    have secured := security.trans same.security
    refine ⟨⟨left, Or.inl ?_, Or.inl ?_, ?_, ?_⟩, telemetry, written, types⟩
    · rw [secured]
    · rw [secured]
    · rw [enabled, same.telemetry]
    · rw [period, same.telemetry]

def pongStream : List U8 := [0x47, 0x46, 1, 2, 1, 0, 0, 0, 0, 1, 0, 0, 0x0D, 0x8F, 0x62, 0xAD]

theorem requests_only_pong :
    (embeddedLinkPoll steadyPlatform (.still 5) bareLink pongStream 0).Rejects bareLink
      ⟨.response, commandPing, supportedFlags, 1, []⟩ 5 := by
  have single : bareLink.parser.delivered (embeddedConsumed pongStream 0) =
      [⟨.response, commandPing, supportedFlags, 1, []⟩] := by decide +kernel
  apply (requests_only steadyPlatform (.still 5) bareLink pongStream 0 _ single (by decide)).mpr
  constructor
  · unfold TypeUnchecked
    decide
  · decide

def provisionedLink : EmbeddedLink Unit Nat :=
  { bareLink with security := (securityConfigure securityInit ⟨padded 32 [], roleAdmin, 0⟩).2 }

def seededPlatform : LinkPlatform := { steadyPlatform with random := fun _ => some (padded 20 [1]) }

def reflectedBegin : Frame := ⟨.response, commandAuthBegin, supportedFlags, 1, [1, 1] ++ List.replicate 16 0⟩

/-- The device starts a handshake for a frame that is not a request. -/
theorem reflected_begin_acted :
    provisionedLink.parser.delivered (embeddedConsumed reflectedBegin.wire 0) = [reflectedBegin] ∧
      reflectedBegin.messageType ≠ .request ∧
      (embeddedLinkPoll seededPlatform (.still 5) provisionedLink reflectedBegin.wire 0).link.security.pending.valid = 1 ∧
      ¬ (embeddedLinkPoll seededPlatform (.still 5) provisionedLink reflectedBegin.wire 0).Rejects provisionedLink
        reflectedBegin 5 := by
  have started : (embeddedLinkPoll seededPlatform (.still 5) provisionedLink
      reflectedBegin.wire 0).link.security.pending.valid = 1 := by decide +kernel
  refine ⟨by decide +kernel, by decide, started, ?_⟩
  intro rejects
  rcases rejects.untouched.pending with same | same
  · rw [same] at started
    exact absurd started (by decide)
  · rw [same] at started
    exact absurd started (by decide)

end Guardian.Platform
