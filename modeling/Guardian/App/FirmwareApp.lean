import Guardian.Platform.LinkOperation
import Guardian.Security.SecurityLifetime

namespace Guardian.App

open Word Guardian.Protocol Guardian.Platform Guardian.Session Guardian.Health Guardian.Firmware

section link

variable {α ρ : Type} (platform : LinkPlatform) (link : EmbeddedLink α ρ) (request : Frame) (nowSeconds : U32)

def linkChallenges : Bool :=
  request.command = commandAuthBegin &&
    (securityAuthBegin link.security request.payload nowSeconds maxPayloadSize (platform.random link.randomCalls)).1.isOk

def linkOpens : Bool :=
  request.command = commandAuthFinish &&
    (securityAuthFinish link.security request.payload nowSeconds maxPayloadSize).1.isOk

def linkAccepts : Bool :=
  request.command = commandSecureCommand && (securityUnwrapRequest link.security request nowSeconds).1.isOk

variable {link request nowSeconds} in
theorem linkOpens_challenges (opens : linkOpens link request nowSeconds) : link.security.Challenges nowSeconds := by
  unfold linkOpens at opens
  exact securityAuthFinish_challenges (Bool.and_eq_true_iff.mp opens).2

variable {link request nowSeconds} in
theorem linkAccepts_live (accepts : linkAccepts link request nowSeconds) : link.security.Live nowSeconds := by
  unfold linkAccepts at accepts
  exact securityUnwrapRequest_live (Bool.and_eq_true_iff.mp accepts).2

variable [Zero ρ]

theorem embeddedSecureCommand_ages (protocolResult : ProtocolResult) :
    link.security.Ages (embeddedSecureCommand platform protocolResult link request nowSeconds).link.security nowSeconds
      (securityUnwrapRequest link.security request nowSeconds).1.isOk false := by
  have ages := securityUnwrapRequest_ages link.security request nowSeconds
  unfold embeddedSecureCommand
  dsimp only
  generalize securityUnwrapRequest link.security request nowSeconds = unwrapped at ages ⊢
  obtain ⟨failed | ⟨innerRequest, counter⟩, security⟩ := unwrapped
  · exact ages
  · dsimp only
    rw [embeddedWrap_link]
    obtain ⟨session, pending⟩ := embeddedAuthorize_kept platform { link with security } innerRequest protocolResult
    exact ages.congr session pending

theorem embeddedDispatch_ages (protocolResult : ProtocolResult) (runtimeSeconds : U32) :
    link.security.Ages (embeddedDispatch platform protocolResult link request nowSeconds runtimeSeconds).link.security
      nowSeconds (linkOpens link request nowSeconds || linkAccepts link request nowSeconds)
      (linkChallenges platform link request nowSeconds) := by
  have same : link.security.Ages link.security nowSeconds false false := .unchanged nowSeconds (Or.inl rfl) (Or.inl rfl)
  unfold embeddedDispatch linkOpens linkAccepts linkChallenges
  split_ifs with begin' finish status firmware secure gate
  · have ages := securityAuthBegin_ages link.security request.payload nowSeconds maxPayloadSize
      (platform.random link.randomCalls)
    simpa [begin', commandAuthBegin, commandAuthFinish, commandSecureCommand, embeddedAuthBegin] using ages
  · have ages := securityAuthFinish_ages link.security request.payload nowSeconds maxPayloadSize
    simpa [finish, commandAuthBegin, commandAuthFinish, commandSecureCommand, embeddedAuthFinish] using ages
  · have other : request.command ≠ commandSecureCommand := by
      rw [status]
      decide
    simp only [begin', finish, other, decide_false, Bool.false_and, Bool.or_false]
    unfold embeddedGetSecurityStatus
    split_ifs
    · exact same
    · exact securityStatus_ages link.security nowSeconds
  · have other : request.command ≠ commandSecureCommand := by
      rw [firmware]
      decide
    simp only [begin', finish, other, decide_false, Bool.false_and, Bool.or_false]
    unfold embeddedGetFirmwareStatus
    split_ifs <;> exact same
  · have ages := embeddedSecureCommand_ages platform link request nowSeconds protocolResult
    simpa [secure, commandAuthBegin, commandAuthFinish, commandSecureCommand] using ages
  · simpa [begin', finish, secure] using same
  · dsimp only
    rw [PollBranch.handled_link, embeddedService_security]
    simpa [begin', finish, secure] using same

end link

theorem embeddedOperate_ages {α ρ : Type} [HealthNumber ρ] (platform : LinkPlatform) (link : EmbeddedLink α ρ)
    {operation : LinkOperation α}
    (poll : ∀ incoming rxBudget environment, operation ≠ .poll incoming rxBudget environment) (nowSeconds : U32) :
    link.security.Ages (embeddedOperate platform link operation).security nowSeconds false false := by
  have same : link.security.Ages link.security nowSeconds false false := .unchanged nowSeconds (Or.inl rfl) (Or.inl rfl)
  cases operation with
  | poll incoming rxBudget environment => exact absurd rfl (poll incoming rxBudget environment)
  | securityStatus now => exact (securityStatus_ages link.security now).unrenewed nowSeconds
  | configureSecurity config =>
    unfold embeddedOperate securityConfigure
    dsimp only
    by_cases invalid : config.maxRole < roleObserver ∨ config.maxRole > roleAdmin
    · rw [if_pos invalid]
      exact same
    · rw [if_neg invalid]
      exact .unchanged nowSeconds (Or.inr rfl) (Or.inr rfl)
  | setState state =>
    unfold embeddedOperate embeddedSetState
    dsimp only
    split_ifs <;> exact same
  | updateDsp features =>
    unfold embeddedOperate embeddedUpdateDsp embeddedUpdateControlHealth
    dsimp only
    rw [embeddedSyncControlState_security]
    exact same
  | configureControlOutput output =>
    unfold embeddedOperate embeddedConfigureControlOutput
    dsimp only
    rw [embeddedSyncControlState_security]
    exact same
  | setLocalRunRequest requested =>
    unfold embeddedOperate embeddedSetLocalRunRequest
    dsimp only
    rw [embeddedSyncControlState_security]
    exact same
  | setInterlock closed =>
    unfold embeddedOperate embeddedSetInterlock
    dsimp only
    rw [embeddedSyncControlState_security]
    exact same
  | _ => exact same

section app

variable {ρ : Type}

structure FirmwareApp (ρ : Type) where
  uptimeMs : U32
  loop : PollLoop Unit ρ

def LinkOperation.Untimed : LinkOperation Unit → Prop
  | .poll _ _ _ => False
  | .securityStatus _ => False
  | .tick => False
  | _ => True

/-- What happens to the application: the tick interrupt, a step of a poll, or a call from the rest of the firmware. -/
inductive FirmwareEvent
  | tick
  | pollStart
  | receive (byte : U8) (accepts : Nat → Bool)
  | pollEnd (accepts : Nat → Bool)
  | securityStatus
  | call (operation : LinkOperation Unit) (untimed : LinkOperation.Untimed operation)

def firmwareUptimeSeconds (uptimeMs : U32) : U32 := uptimeMs / 1000

def FirmwareApp.environment (app : FirmwareApp ρ) (accepts : Nat → Bool) : PollEnvironment :=
  ⟨fun _ => firmwareUptimeSeconds app.uptimeMs, accepts⟩

def FirmwareApp.withLink (app : FirmwareApp ρ) (link : EmbeddedLink Unit ρ) : FirmwareApp ρ :=
  { app with loop := { app.loop with link } }

def firmwareAppTick (app : FirmwareApp ρ) : FirmwareApp ρ :=
  let link := app.loop.link
  FirmwareApp.withLink
    { app with uptimeMs := if app.uptimeMs ≠ 0xFFFFFFFF then app.uptimeMs + 1 else app.uptimeMs }
    { link with telemetry := telemetryTick1ms link.telemetry }

variable [HealthNumber ρ]

def guardianModel : List U8 :=
  [0x47, 0x75, 0x61, 0x72, 0x64, 0x69, 0x61, 0x6E, 0x2D, 0x46, 0x34, 0x30, 0x31, 0x2D, 0x48, 0x57]

/-- The application once the hardware checks of its start-up have passed. -/
def firmwareAppInit (platform : LinkPlatform) (flash : FirmwarePlatform) (deviceId : U32) : FirmwareApp ρ :=
  let operations : List (LinkOperation Unit) :=
    [.requireSecurity 1, .configureControlOutput (), .setInterlock 0, .setLocalRunRequest 0]
  ⟨0, embeddedPollStart
    (Run.after (embeddedOperate platform) operations (embeddedLinkInit flash ⟨guardianModel, 0, 13, 0, deviceId⟩).2)⟩

variable (platform : LinkPlatform)

def firmwareStep (app : FirmwareApp ρ) : FirmwareEvent → FirmwareApp ρ
  | .tick => firmwareAppTick app
  | .pollStart => { app with loop := embeddedPollStart app.loop.link }
  | .receive byte accepts =>
    { app with loop := embeddedReceive platform (app.environment accepts) app.loop byte }
  | .pollEnd accepts => { app with loop := embeddedFlushTelemetry (app.environment accepts) app.loop }
  | .securityStatus =>
    app.withLink (embeddedOperate platform app.loop.link (.securityStatus (firmwareUptimeSeconds app.uptimeMs)))
  | .call operation _ => app.withLink (embeddedOperate platform app.loop.link operation)

def FirmwareApp.completed (app : FirmwareApp ρ) : FirmwareEvent → Option Frame
  | .receive byte _ => (parserPushByte app.loop.link.parser byte).1.frame?
  | _ => none

def FirmwareApp.challenges (app : FirmwareApp ρ) (event : FirmwareEvent) : Bool :=
  (app.completed event).any (linkChallenges platform app.loop.link · (firmwareUptimeSeconds app.uptimeMs))

def FirmwareApp.opens (app : FirmwareApp ρ) (event : FirmwareEvent) : Bool :=
  (app.completed event).any (linkOpens app.loop.link · (firmwareUptimeSeconds app.uptimeMs))

def FirmwareApp.accepts (app : FirmwareApp ρ) (event : FirmwareEvent) : Bool :=
  (app.completed event).any (linkAccepts app.loop.link · (firmwareUptimeSeconds app.uptimeMs))

/-- The application with the ticks since a session was opened or its last request was accepted, and since the last
challenge was created. -/
structure FirmwareHistory (ρ : Type) where
  app : FirmwareApp ρ
  sinceActivity : Nat
  sinceChallenge : Nat

def FirmwareHistory.step (history : FirmwareHistory ρ) (event : FirmwareEvent) : FirmwareHistory ρ :=
  let ticks := match event with
    | .tick => 1
    | _ => 0
  { app := firmwareStep platform history.app event
    sinceActivity :=
      if history.app.opens event || history.app.accepts event then 0 else history.sinceActivity + ticks
    sinceChallenge := if history.app.challenges platform event then 0 else history.sinceChallenge + ticks }

def firmwareRun (flash : FirmwarePlatform) (deviceId : U32) (events : List FirmwareEvent) : FirmwareHistory ρ :=
  Run.after (FirmwareHistory.step platform) events ⟨firmwareAppInit platform flash deviceId, 0, 0⟩

end app

end Guardian.App
