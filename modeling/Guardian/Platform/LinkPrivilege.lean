import Guardian.Platform.LinkRun

namespace Guardian.Platform

open Word ByteString Guardian.Protocol Guardian.App Guardian.Health Guardian.Supervision Guardian.Session Guardian.Firmware

def Operates (command : U8) : Prop := command = commandBaselineControl ∨ command = commandControlCommand

def Updates (command : U8) : Prop :=
  command = commandFirmwareBegin ∨ command = commandFirmwareChunk ∨ command = commandFirmwareFinalize ∨
    command = commandFirmwareActivate

section privilege

variable {α ρ : Type}

/-- The health baseline, the supervision and the firmware update are the same. -/
structure EmbeddedLink.Unprivileged (before after : EmbeddedLink α ρ) : Prop where
  health : after.health = before.health
  control : after.control = before.control
  firmware : after.firmware = before.firmware

/-- What a command may change in a session of `role`. -/
def EmbeddedLink.Permits (before after : EmbeddedLink α ρ) (role : SecurityRole) (command : U8) : Prop :=
  (Operates command ∧ roleOperator ≤ role ∧ after.firmware = before.firmware) ∨
    (Updates command ∧ roleAdmin ≤ role ∧ after.health = before.health ∧ after.control = before.control)

/-- The change was asked for by a protected request with a verified tag, the expected counter and a sufficient role. -/
structure EmbeddedLink.Authorized (before after : EmbeddedLink α ρ) (request : Frame) (nowSeconds : U32) : Prop where
  secure : request.command = commandSecureCommand
  authentic : before.security.Authentic request nowSeconds
  permits : before.Permits after before.security.session.role (secureInnerCommand request)

theorem EmbeddedLink.Unprivileged.same (link : EmbeddedLink α ρ) : link.Unprivileged link := ⟨rfl, rfl, rfl⟩

theorem embeddedSyncControlState_unprivileged (link : EmbeddedLink α ρ) :
    link.Unprivileged (embeddedSyncControlState link) := by
  unfold embeddedSyncControlState
  dsimp only
  split_ifs <;> exact ⟨rfl, rfl, rfl⟩

theorem securityAuthorize_role {security : Security} {command : U8} (allowed : (securityAuthorize security command).1) :
    securityRequiredRole command ≤ security.session.role := by
  unfold securityAuthorize at allowed
  split_ifs at allowed with idle low
  · exact BitVec.not_lt.mp low

theorem securityRequiredRole_operates {command : U8} (operates : Operates command) :
    securityRequiredRole command = roleOperator := by
  rcases operates with rfl | rfl <;> rfl

theorem securityRequiredRole_updates {command : U8} (updates : Updates command) :
    securityRequiredRole command = roleAdmin := by
  rcases updates with rfl | rfl | rfl | rfl <;> rfl

variable [Zero ρ] (platform : LinkPlatform) (link : EmbeddedLink α ρ) (request : Frame)

theorem embeddedDispatchPrivileged_changes :
    (Operates request.command ∧ (embeddedDispatchPrivileged platform link request).2.firmware = link.firmware) ∨
      (Updates request.command ∧ (embeddedDispatchPrivileged platform link request).2.health = link.health ∧
        (embeddedDispatchPrivileged platform link request).2.control = link.control) ∨
      link.Unprivileged (embeddedDispatchPrivileged platform link request).2 := by
  unfold embeddedDispatchPrivileged
  dsimp only
  split_ifs with baseline control begin' chunk finalize
  · obtain ⟨answer, handled, -⟩ := healthHandleRequest_answers link.health request
    rw [handled]
    refine Or.inl ⟨Or.inl baseline, ?_⟩
    dsimp only
    split_ifs
    · exact (embeddedSyncControlState_unprivileged _).firmware
    · rfl
  · exact Or.inl ⟨Or.inr control, (embeddedSyncControlState_unprivileged _).firmware⟩
  · exact Or.inr (Or.inl ⟨Or.inl begin', rfl, rfl⟩)
  · exact Or.inr (Or.inl ⟨Or.inr (Or.inl chunk), rfl, rfl⟩)
  · exact Or.inr (Or.inl ⟨Or.inr (Or.inr (Or.inl finalize)), rfl, rfl⟩)
  · exact Or.inr (Or.inl ⟨Or.inr (Or.inr (Or.inl finalize)), rfl, rfl⟩)
  · next activate _ => exact Or.inr (Or.inl ⟨Or.inr (Or.inr (Or.inr activate)), rfl, rfl⟩)
  · next activate _ => exact Or.inr (Or.inl ⟨Or.inr (Or.inr (Or.inr activate)), rfl, rfl⟩)
  · exact Or.inr (Or.inr ⟨rfl, rfl, rfl⟩)

theorem embeddedAuthorize_changes (protocolResult : ProtocolResult) :
    link.Unprivileged (embeddedAuthorize platform protocolResult link request).2 ∨
      link.Permits (embeddedAuthorize platform protocolResult link request).2 link.security.session.role
        request.command := by
  unfold embeddedAuthorize
  dsimp only
  split_ifs with allowed
  · have role := securityAuthorize_role allowed
    rcases embeddedDispatchPrivileged_changes platform
      { link with security := (securityAuthorize link.security request.command).2 } request with
      ⟨operates, firmware⟩ | ⟨updates, health, control⟩ | same
    · rw [securityRequiredRole_operates operates] at role
      exact Or.inr (Or.inl ⟨operates, role, firmware⟩)
    · rw [securityRequiredRole_updates updates] at role
      exact Or.inr (Or.inr ⟨updates, role, health, control⟩)
    · exact Or.inl ⟨same.health, same.control, same.firmware⟩
  · exact Or.inl ⟨rfl, rfl, rfl⟩
  · exact Or.inl ⟨rfl, rfl, rfl⟩

theorem embeddedSecureCommand_changes (secure : request.command = commandSecureCommand)
    (protocolResult : ProtocolResult) (nowSeconds : U32) :
    link.Unprivileged (embeddedSecureCommand platform protocolResult link request nowSeconds).link ∨
      link.Authorized (embeddedSecureCommand platform protocolResult link request nowSeconds).link request
        nowSeconds := by
  have unwraps := securityUnwrapRequest_unwraps link.security request nowSeconds
  unfold embeddedSecureCommand
  dsimp only
  generalize securityUnwrapRequest link.security request nowSeconds = unwrapped at unwraps ⊢
  obtain ⟨result, security⟩ := unwrapped
  cases unwraps with
  | refuses config pending session => exact Or.inl ⟨rfl, rfl, rfl⟩
  | exhausts authentic config pending session => exact Or.inl ⟨rfl, rfl, rfl⟩
  | accepts innerRequest authentic command type more =>
    dsimp only
    rw [embeddedWrap_link]
    generalize accepted : ({ link with security := _ } : EmbeddedLink α ρ) = accepting
    have changes := embeddedAuthorize_changes platform accepting innerRequest protocolResult
    subst accepted
    rcases changes with same | permits
    · exact Or.inl ⟨same.health, same.control, same.firmware⟩
    · rw [command] at permits
      exact Or.inr ⟨secure, authentic, permits⟩

theorem embeddedService_unprivileged (other : ¬ embeddedPrivileged request.command) (runtimeSeconds : U32) :
    link.Unprivileged (embeddedService platform link request runtimeSeconds).2 := by
  simp only [embeddedPrivileged, decide_eq_true_eq, not_or] at other
  unfold embeddedService
  dsimp only
  split_ifs with telemetry features health baseline status control
  · exact ⟨rfl, rfl, rfl⟩
  · exact ⟨rfl, rfl, rfl⟩
  · exact ⟨healthHandleRequest_keeps link.health other.1, rfl, rfl⟩
  · exact absurd baseline other.1
  · have kept := controlHandleRequest_keeps platform.output link.control other.2.1
    have synced := embeddedSyncControlState_unprivileged
      { link with control := (controlHandleRequest platform.output link.control request).2 }
    exact ⟨synced.health, synced.control.trans kept, synced.firmware⟩
  · exact absurd control other.2.1
  · exact ⟨rfl, rfl, rfl⟩

theorem embeddedDispatch_changes (secured : link.securityRequired ≠ 0) (protocolResult : ProtocolResult)
    (nowSeconds runtimeSeconds : U32) :
    link.Unprivileged (embeddedDispatch platform protocolResult link request nowSeconds runtimeSeconds).link ∨
      link.Authorized (embeddedDispatch platform protocolResult link request nowSeconds runtimeSeconds).link request
        nowSeconds := by
  unfold embeddedDispatch
  split_ifs with begin' finish status firmware secure gate
  · exact Or.inl ⟨rfl, rfl, rfl⟩
  · exact Or.inl ⟨rfl, rfl, rfl⟩
  · unfold embeddedGetSecurityStatus
    split_ifs <;> exact Or.inl ⟨rfl, rfl, rfl⟩
  · unfold embeddedGetFirmwareStatus
    split_ifs <;> exact Or.inl ⟨rfl, rfl, rfl⟩
  · exact embeddedSecureCommand_changes platform link request secure protocolResult nowSeconds
  · exact Or.inl ⟨rfl, rfl, rfl⟩
  · have other : ¬ embeddedPrivileged request.command := fun privileged => gate ⟨secured, privileged⟩
    dsimp only
    rw [PollBranch.handled_link]
    exact Or.inl (embeddedService_unprivileged platform link request other runtimeSeconds)

theorem embeddedReceive_changes (environment : PollEnvironment) (loop : PollLoop α ρ)
    (secured : loop.link.securityRequired ≠ 0) (byte : U8) :
    loop.link.Unprivileged (embeddedReceive platform environment loop byte).link ∨
      ∃ request, (parserPushByte loop.link.parser byte).1 = .frameReady request ∧
        loop.link.Authorized (embeddedReceive platform environment loop byte).link request
          (environment.uptimeSeconds (2 * loop.frames)) := by
  unfold embeddedReceive
  dsimp only
  split
  · exact Or.inl ⟨rfl, rfl, rfl⟩
  · next request ready =>
    generalize pushed : ({ loop with link := { loop.link with parser := (parserPushByte loop.link.parser byte).2 } } :
      PollLoop α ρ) = current
    obtain ⟨stats, handled⟩ := embeddedHandleFrame_stats environment platform current request
    rw [handled]
    have secured' : current.link.received.securityRequired ≠ 0 := by
      rw [← pushed]
      exact secured
    rcases embeddedDispatch_changes platform current.link.received request secured' current.protocolResult
      (environment.uptimeSeconds (2 * current.frames)) (environment.uptimeSeconds (2 * current.frames + 1)) with
      same | authorized
    · subst pushed
      exact Or.inl ⟨same.health, same.control, same.firmware⟩
    · subst pushed
      exact Or.inr ⟨request, ready, authorized.secure, authorized.authentic, authorized.permits⟩
  · exact Or.inl ⟨rfl, rfl, rfl⟩

theorem embeddedReceive_securityRequired (environment : PollEnvironment) (loop : PollLoop α ρ) (byte : U8) :
    (embeddedReceive platform environment loop byte).link.securityRequired = loop.link.securityRequired := by
  unfold embeddedReceive
  dsimp only
  split
  · rfl
  · next request ready =>
    obtain ⟨stats, handled⟩ := embeddedHandleFrame_stats environment platform
      { loop with link := { loop.link with parser := (parserPushByte loop.link.parser byte).2 } } request
    rw [handled]
    exact embeddedDispatch_securityRequired platform _ request _ _ _
  · rfl

theorem embeddedReceive_run_securityRequired (environment : PollEnvironment) (loop : PollLoop α ρ)
    (received : List U8) :
    (Run.after (embeddedReceive platform environment) received loop).link.securityRequired =
      loop.link.securityRequired := by
  induction received generalizing loop with
  | nil => rfl
  | cons byte received ih =>
    rw [Run.after_cons, ih, embeddedReceive_securityRequired]

omit [Zero ρ] in
theorem embeddedFlushTelemetry_link (environment : PollEnvironment) (loop : PollLoop α ρ) :
    ∃ telemetry stats, (embeddedFlushTelemetry environment loop).link = { loop.link with telemetry, stats } := by
  unfold embeddedFlushTelemetry
  dsimp only
  split
  · exact ⟨_, _, rfl⟩
  · next frame due =>
    obtain ⟨stats, sent⟩ := embeddedTransmit_stats environment
      { loop with link := { loop.link with telemetry := (telemetryMakeDueFrame loop.link.telemetry loop.link.state).2 } }
      (some frame)
    exact ⟨_, stats, sent⟩

theorem embeddedLinkPoll_securityRequired (environment : PollEnvironment) (incoming : List U8) (rxBudget : Nat) :
    (embeddedLinkPoll platform environment link incoming rxBudget).link.securityRequired = link.securityRequired := by
  unfold embeddedLinkPoll
  obtain ⟨telemetry, stats, flushed⟩ := embeddedFlushTelemetry_link environment
    (Run.after (embeddedReceive platform environment) (embeddedConsumed incoming rxBudget) (embeddedPollStart link))
  rw [flushed]
  exact embeddedReceive_run_securityRequired platform environment (embeddedPollStart link) _

end privilege

/-- Security stays required in whatever else happens to the link. -/
def LinkEvent.Secured {α ρ : Type} : LinkEvent α ρ → Prop
  | .operate link => link.securityRequired ≠ 0
  | _ => True

theorem linkRun_secured {α ρ : Type} [Zero ρ] (platform : LinkPlatform) {link : EmbeddedLink α ρ}
    (secured : link.securityRequired ≠ 0) {events : List (LinkEvent α ρ)} (kept : ∀ event ∈ events, event.Secured) :
    (linkRun platform link events).link.securityRequired ≠ 0 := by
  have run : ∀ state : LinkRun α ρ, state.link.securityRequired ≠ 0 →
      (Run.after (linkStep platform) events state).link.securityRequired ≠ 0 := by
    induction events with
    | nil => exact fun _ required => required
    | cons event events ih =>
      intro state required
      have step : (linkStep platform state event).link.securityRequired ≠ 0 := by
        cases event with
        | receive bytes => exact required
        | operate other => exact kept _ List.mem_cons_self
        | poll rxBudget environment =>
          have same := embeddedLinkPoll_securityRequired platform state.link environment state.waiting rxBudget
          exact fun off => required (same.symm.trans off)
      exact ih (fun later member => kept later (List.mem_cons_of_mem _ member)) _ step
  exact run _ secured

/-- With security required, a poll after any schedule changes the health baseline, the supervision or the firmware
update only at the last byte of an authorized request. -/
theorem privileged_gate {α ρ : Type} [Zero ρ] (platform : LinkPlatform) (link : EmbeddedLink α ρ)
    (secured : link.securityRequired ≠ 0) (events : List (LinkEvent α ρ)) (kept : ∀ event ∈ events, event.Secured)
    (rxBudget : Nat) (environment : PollEnvironment) :
    let run := linkRun platform link events
    let loop (received : List U8) : PollLoop α ρ :=
      Run.after (embeddedReceive platform environment) received (embeddedPollStart run.link)
    let consumed := embeddedConsumed run.waiting rxBudget
    (loop consumed).link.Unprivileged (embeddedLinkPoll platform environment run.link run.waiting rxBudget).link ∧
      ∀ before byte rest, consumed = before ++ byte :: rest →
        (loop before).link.Unprivileged (loop (before ++ [byte])).link ∨
          ∃ request, (parserPushByte (loop before).link.parser byte).1 = .frameReady request ∧
            (loop before).link.Authorized (loop (before ++ [byte])).link request
              (environment.uptimeSeconds (2 * (loop before).frames)) := by
  intro run loop consumed
  constructor
  · obtain ⟨telemetry, stats, flushed⟩ := embeddedFlushTelemetry_link environment (loop consumed)
    unfold embeddedLinkPoll
    rw [flushed]
    exact ⟨rfl, rfl, rfl⟩
  · intro before byte rest split
    have required : (loop before).link.securityRequired ≠ 0 := by
      have same := embeddedReceive_run_securityRequired platform environment (embeddedPollStart run.link) before
      exact fun off => linkRun_secured platform secured kept (same.symm.trans off)
    have step : loop (before ++ [byte]) = embeddedReceive platform environment (loop before) byte :=
      Run.after_snoc _ _ _ _
    rw [step]
    exact embeddedReceive_changes platform environment (loop before) required byte

/-- A link with security required and a session of an operator. -/
def operatorLink : EmbeddedLink Unit Nat :=
  { bareLink with
    securityRequired := 1
    security := { (securityConfigure securityInit ⟨padded 32 [], roleAdmin, 0⟩).2 with
      session := ⟨1, roleOperator, 7, padded 32 [1], 1, 5⟩ } }

/-- The start of a baseline under a session, with the tag that session 7 asks for. -/
def protectedStart (sessionId : U32) : Frame :=
  ⟨.request, commandSecureCommand, supportedFlags, 1,
    requestEnvelope sessionId 1 commandBaselineControl [1, baselineActionStart, 0, 16]
      [70, 203, 115, 201, 235, 154, 119, 89, 23, 196, 147, 22, 200, 55, 86, 47]⟩

def protectedStream : List U8 := (protectedStart 8).wire ++ (protectedStart 7).wire

def operatorLoop (received : List U8) : PollLoop Unit Nat :=
  Run.after (embeddedReceive steadyPlatform (.still 6)) received (embeddedPollStart operatorLink)

theorem privileged_gate_start :
    (operatorLoop (protectedStream.take 51)).link.Unprivileged (operatorLoop (protectedStream.take 52)).link ∧
      (operatorLoop (protectedStream.take 103)).link.Authorized (operatorLoop (protectedStream.take 104)).link
        (protectedStart 7) 6 := by
  have gate := privileged_gate steadyPlatform operatorLink (by decide) [.receive protectedStream]
    (by simp [LinkEvent.Secured]) 128 (.still 6)
  have waiting : embeddedConsumed (linkRun steadyPlatform operatorLink [.receive protectedStream]).waiting 128 =
      protectedStream := List.take_of_length_le (by decide +kernel)
  have stepped (count next : ℕ) (follows : count + 1 = next) (inside : count < protectedStream.length) :
      (operatorLoop (protectedStream.take count)).link.Unprivileged (operatorLoop (protectedStream.take next)).link ∨
        ∃ request, (parserPushByte (operatorLoop (protectedStream.take count)).link.parser
            (protectedStream.getD count 0)).1 = .frameReady request ∧
          (operatorLoop (protectedStream.take count)).link.Authorized
            (operatorLoop (protectedStream.take next)).link request 6 := by
    subst next
    have split : protectedStream =
        protectedStream.take count ++ protectedStream[count] :: protectedStream.drop (count + 1) := by
      rw [List.getElem_cons_drop, List.take_append_drop]
    rw [← List.take_append_getElem inside, List.getD_eq_getElem _ _ inside]
    exact gate.2 _ _ _ (waiting.trans split)
  constructor
  · rcases stepped 51 52 rfl (by decide +kernel) with same | ⟨request, ready, authorized⟩
    · exact same
    · have refused : (parserPushByte (operatorLoop (protectedStream.take 51)).link.parser (protectedStream.getD 51 0)).1 =
          .frameReady (protectedStart 8) := by decide +kernel
      cases refused.symm.trans ready
      exact absurd authorized.authentic.session (by decide +kernel)
  · rcases stepped 103 104 rfl (by decide +kernel) with same | ⟨request, ready, authorized⟩
    · have started : (operatorLoop (protectedStream.take 104)).link.health.status.state ≠
          (operatorLoop (protectedStream.take 103)).link.health.status.state := by decide +kernel
      rw [same.health] at started
      exact absurd rfl started
    · have accepted : (parserPushByte (operatorLoop (protectedStream.take 103)).link.parser
          (protectedStream.getD 103 0)).1 =
          .frameReady (protectedStart 7) := by decide +kernel
      cases accepted.symm.trans ready
      exact authorized

end Guardian.Platform
