import Guardian.Control.ControlCoherence
import Guardian.Health.HealthIngest
import Guardian.Platform.LinkPrivilege

namespace Guardian.Platform

open Word Guardian.Protocol Guardian.App Guardian.Dsp Guardian.Health Guardian.Supervision Guardian.Session
  Guardian.Firmware

/-- A call of the link's interface. A poll finds the bytes `incoming` in its queue. -/
inductive LinkOperation (α : Type)
  | poll (incoming : List U8) (rxBudget : Nat) (environment : PollEnvironment)
  | setState (state : DeviceState)
  | updateTelemetry (measurements : MachineMeasurements)
  | updateDsp (features : DspFeatures)
  | configureControlOutput (output : α)
  | setLocalRunRequest (requested : U8)
  | setInterlock (closed : U8)
  | configureSecurity (config : SecurityConfig)
  | requireSecurity (required : U8)
  | securityStatus (nowSeconds : U32)
  | configureFirmware (config : FirmwareConfig)
  | confirmFirmwareBoot (bootedVersionCounter : U32)
  | reportFirmwareBootFailure (attemptedVersionCounter : U32)
  | tick

section operations

variable {α ρ : Type}

def embeddedSetState (link : EmbeddedLink α ρ) (state : DeviceState) : EmbeddedLink α ρ :=
  let status := link.control.status
  if status.supervisionEnabled ≠ 0 ∨ status.state = .faultLatched then link else { link with state }

variable (platform : LinkPlatform)

def embeddedUpdateDsp [HealthNumber ρ] (link : EmbeddedLink α ρ) (features : DspFeatures) : EmbeddedLink α ρ :=
  embeddedUpdateControlHealth platform
    { link with dspFeatures := features, dspFeaturesValid := 1, health := healthIngest link.health features }

def embeddedConfigureControlOutput (link : EmbeddedLink α ρ) (output : α) : EmbeddedLink α ρ :=
  embeddedSyncControlState { link with control := (controlConfigureOutput platform.output link.control output).2 }

def embeddedSetLocalRunRequest (link : EmbeddedLink α ρ) (requested : U8) : EmbeddedLink α ρ :=
  embeddedSyncControlState { link with control := controlSetLocalRunRequest platform.output link.control requested }

def embeddedSetInterlock (link : EmbeddedLink α ρ) (closed : U8) : EmbeddedLink α ρ :=
  embeddedSyncControlState { link with control := controlSetInterlock platform.output link.control closed }

def embeddedConfirmFirmwareBoot (link : EmbeddedLink α ρ) (bootedVersionCounter : U32) : EmbeddedLink α ρ :=
  let confirmed := firmwareConfirmBoot link.firmware bootedVersionCounter (platform.callback link.callbackCalls)
    (platform.callback (link.callbackCalls + 1))
  { link with firmware := confirmed.2, callbackCalls := link.callbackCalls + 2 }

def embeddedReportFirmwareBootFailure (link : EmbeddedLink α ρ) (attemptedVersionCounter : U32) : EmbeddedLink α ρ :=
  let reported := firmwareReportBootFailure link.firmware attemptedVersionCounter
    (platform.callback link.callbackCalls)
  { link with firmware := reported.2, callbackCalls := link.callbackCalls + 1 }

def embeddedOperate [HealthNumber ρ] (link : EmbeddedLink α ρ) : LinkOperation α → EmbeddedLink α ρ
  | .poll incoming rxBudget environment => (embeddedLinkPoll platform environment link incoming rxBudget).link
  | .setState state => embeddedSetState link state
  | .updateTelemetry measurements =>
    { link with telemetry := telemetrySetMeasurements link.telemetry measurements }
  | .updateDsp features => embeddedUpdateDsp platform link features
  | .configureControlOutput output => embeddedConfigureControlOutput platform link output
  | .setLocalRunRequest requested => embeddedSetLocalRunRequest platform link requested
  | .setInterlock closed => embeddedSetInterlock platform link closed
  | .configureSecurity config => { link with security := (securityConfigure link.security config).2 }
  | .requireSecurity required => { link with securityRequired := if required ≠ 0 then 1 else 0 }
  | .securityStatus nowSeconds => { link with security := (Session.securityStatus link.security nowSeconds).2 }
  | .configureFirmware config =>
    { link with firmware :=
        { link.firmware with lifecycle := (firmwareLifecycleConfigure link.firmware.lifecycle config).2 } }
  | .confirmFirmwareBoot bootedVersionCounter => embeddedConfirmFirmwareBoot platform link bootedVersionCounter
  | .reportFirmwareBootFailure attemptedVersionCounter =>
    embeddedReportFirmwareBootFailure platform link attemptedVersionCounter
  | .tick => { link with telemetry := telemetryTick1ms link.telemetry }

end operations

section core

variable {α ρ : Type}

structure LinkCore (α ρ : Type) where
  health : HealthModel ρ
  control : Control α
  state : DeviceState

def EmbeddedLink.core (link : EmbeddedLink α ρ) : LinkCore α ρ := ⟨link.health, link.control, link.state⟩

def LinkCore.synced (core : LinkCore α ρ) : LinkCore α ρ :=
  if core.control.status.supervisionEnabled = 0 ∧ core.control.status.state ≠ .faultLatched then core
  else { core with state := embeddedControlDeviceState core.control.status }

theorem embeddedSyncControlState_core (link : EmbeddedLink α ρ) :
    (embeddedSyncControlState link).core = link.core.synced := by
  unfold embeddedSyncControlState LinkCore.synced
  by_cases early : link.control.status.supervisionEnabled = 0 ∧ link.control.status.state ≠ .faultLatched
  · rw [if_pos early]
    exact (if_pos early).symm
  · rw [if_neg early]
    exact (if_neg early).symm

variable (outcome : Nat → Bool)

/-- What one operation, or one byte of a poll, does. `commanded` is the action that a frame asks of the control. -/
inductive LinkCore.Moves (before : LinkCore α ρ) (commanded : Option ControlAction) : LinkCore α ρ → Prop
  | stays : Moves before commanded before
  | syncs : Moves before commanded before.synced
  | follows (health : HealthModel ρ) : Moves before commanded
      (LinkCore.synced ⟨health, controlUpdateHealth outcome before.control health.status, before.state⟩)
  | inputs (operation : Operation α) (isLocal : operation.Local) :
      Moves before commanded (LinkCore.synced { before with control := before.control.step outcome operation })
  | acts (action : ControlAction) (asked : commanded = some action) : Moves before commanded
      (LinkCore.synced { before with control := (controlAction outcome before.control action).2 })

/-- The action leaves a published state that says more than disabled control. -/
def LinkCore.Strands (core : LinkCore α ρ) (action : ControlAction) : Prop :=
  core.control.Disengages outcome action ∧ core.control.status.state ≠ .armed

def LinkCore.Agrees (core : LinkCore α ρ) : Prop := core.state = embeddedControlDeviceState core.control.status

structure LinkCore.Sound (core : LinkCore α ρ) : Prop where
  safe : core.control.Safe
  coherent : core.control.Coherent
  verdict : core.control.status.verdict =
    (core.health.status.state, core.health.status.healthScore, core.health.status.anomalyScore)
  published : core.control.Engaged → core.Agrees

theorem LinkCore.synced_engaged {core : LinkCore α ρ} (engaged : core.control.Engaged) : core.synced.Agrees := by
  have late : ¬ (core.control.status.supervisionEnabled = 0 ∧ core.control.status.state ≠ .faultLatched) := by
    rintro ⟨idle, other⟩
    exact engaged.elim (fun supervised => supervised idle) other
  unfold LinkCore.synced
  rw [if_neg late]
  rfl

theorem LinkCore.synced_disengaged {core : LinkCore α ρ} (idle : ¬ core.control.Engaged) : core.synced = core := by
  obtain ⟨unsupervised, clear⟩ := not_or.mp idle
  exact if_pos ⟨not_not.mp unsupervised, clear⟩

@[simp] theorem LinkCore.synced_health (core : LinkCore α ρ) : core.synced.health = core.health := by
  unfold LinkCore.synced
  split_ifs <;> rfl

@[simp] theorem LinkCore.synced_control (core : LinkCore α ρ) : core.synced.control = core.control := by
  unfold LinkCore.synced
  split_ifs <;> rfl

theorem LinkCore.synced_published {core : LinkCore α ρ} : core.synced.control.Engaged → core.synced.Agrees := by
  rw [LinkCore.synced_control]
  exact LinkCore.synced_engaged

theorem LinkCore.synced_sound {core : LinkCore α ρ} (safe : core.control.Safe) (coherent : core.control.Coherent)
    (verdict : core.control.status.verdict =
      (core.health.status.state, core.health.status.healthScore, core.health.status.anomalyScore)) :
    core.synced.Sound := by
  refine ⟨?_, ?_, ?_, LinkCore.synced_published⟩
  · rwa [LinkCore.synced_control]
  · rwa [LinkCore.synced_control]
  · rwa [LinkCore.synced_control, LinkCore.synced_health]

variable {outcome}

theorem LinkCore.Moves.sound {before after : LinkCore α ρ} {commanded : Option ControlAction}
    (moves : before.Moves outcome commanded after) (sound : before.Sound) : after.Sound := by
  obtain ⟨safe, coherent, verdict, published⟩ := sound
  cases moves with
  | stays => exact ⟨safe, coherent, verdict, published⟩
  | syncs => exact LinkCore.synced_sound safe coherent verdict
  | follows health =>
    obtain ⟨followed, coherent', -⟩ := controlUpdateHealth_continues outcome coherent health.status
    exact LinkCore.synced_sound (controlUpdateHealth_yields outcome safe health.status).safe coherent' followed
  | inputs operation isLocal =>
    have continues := step_continues outcome coherent isLocal
    exact LinkCore.synced_sound (step_safe outcome _ operation safe) continues.coherent
      (continues.verdict.trans verdict)
  | acts action asked =>
    have safe' := step_safe outcome _ (.action action) safe
    rcases controlAction_cases outcome coherent action with continues | ⟨-, releases⟩
    · exact LinkCore.synced_sound safe' continues.coherent (continues.verdict.trans verdict)
    · exact LinkCore.synced_sound safe' releases.coherent (releases.verdict.trans verdict)

end core

section commanded

variable {α ρ : Type}

/-- The action that a frame makes the link run: of a direct request where security is not required, or of an
authorised one. -/
def EmbeddedLink.commanded (link : EmbeddedLink α ρ) (request : Frame) (nowSeconds : U32) : Option ControlAction :=
  if request.command = commandSecureCommand then
    let unwrapped := securityUnwrapRequest link.security request nowSeconds
    match unwrapped.1 with
    | .error _ => none
    | .ok (innerRequest, _) =>
      if (securityAuthorize unwrapped.2 innerRequest.command).1 then controlRequestedAction innerRequest else none
  else if link.securityRequired ≠ 0 then none
  else controlRequestedAction request

/-- The action that the next byte of a poll makes the link run. -/
def PollLoop.commanded (environment : PollEnvironment) (loop : PollLoop α ρ) (byte : U8) : Option ControlAction :=
  match (parserPushByte loop.link.parser byte).1 with
  | .frameReady request => loop.link.commanded request (environment.uptimeSeconds (2 * loop.frames))
  | _ => none

variable [Zero ρ] (platform : LinkPlatform) (link : EmbeddedLink α ρ) (request : Frame)

theorem embeddedDispatchPrivileged_moves :
    link.core.Moves platform.output (controlRequestedAction request)
      (embeddedDispatchPrivileged platform link request).2.core := by
  unfold embeddedDispatchPrivileged
  dsimp only
  split_ifs with baseline control
  · obtain ⟨answer, handled, -⟩ := healthHandleRequest_answers link.health request
    rw [handled]
    dsimp only
    split_ifs with response
    · unfold embeddedUpdateControlHealth
      rw [embeddedSyncControlState_core]
      exact .follows _
    · have same := healthHandleRequest_refused link.health handled response
      rw [same]
      exact .stays
  · rw [embeddedSyncControlState_core, controlHandleRequest_acts]
    rcases asked : controlRequestedAction request with _ | action
    · exact .syncs
    · exact .acts action rfl
  all_goals exact .stays

theorem embeddedAuthorize_moves (protocolResult : ProtocolResult) :
    link.core.Moves platform.output
      (if (securityAuthorize link.security request.command).1 then controlRequestedAction request else none)
      (embeddedAuthorize platform protocolResult link request).2.core := by
  unfold embeddedAuthorize
  dsimp only
  split_ifs
  · exact embeddedDispatchPrivileged_moves platform
      { link with security := (securityAuthorize link.security request.command).2 } request
  · exact .stays
  · exact .stays

theorem embeddedSecureCommand_moves (secure : request.command = commandSecureCommand) (protocolResult : ProtocolResult)
    (nowSeconds : U32) :
    link.core.Moves platform.output (link.commanded request nowSeconds)
      (embeddedSecureCommand platform protocolResult link request nowSeconds).link.core := by
  unfold embeddedSecureCommand EmbeddedLink.commanded
  rw [if_pos secure]
  dsimp only
  generalize securityUnwrapRequest link.security request nowSeconds = unwrapped
  obtain ⟨failed | ⟨innerRequest, counter⟩, security⟩ := unwrapped
  · exact .stays
  · dsimp only
    rw [embeddedWrap_link]
    exact embeddedAuthorize_moves platform { link with security } innerRequest protocolResult

theorem embeddedService_moves (runtimeSeconds : U32) :
    link.core.Moves platform.output (controlRequestedAction request)
      (embeddedService platform link request runtimeSeconds).2.core := by
  unfold embeddedService
  dsimp only
  split_ifs with telemetry features health baseline status control
  · exact .stays
  · exact .stays
  · have other : request.command ≠ commandBaselineControl := by
      rw [health]
      decide
    rw [healthHandleRequest_keeps link.health other]
    exact .stays
  · exact embeddedDispatchPrivileged_moves platform link request
  · have other : request.command ≠ commandControlCommand := by
      rw [status]
      decide
    rw [embeddedSyncControlState_core, controlHandleRequest_keeps platform.output link.control other]
    exact .syncs
  · exact embeddedDispatchPrivileged_moves platform link request
  · exact .stays

theorem controlRequestedAction_other {request : Frame} (other : request.command ≠ commandControlCommand) :
    controlRequestedAction request = none := if_neg fun asked => other asked.2.1

theorem embeddedDispatch_moves (protocolResult : ProtocolResult) (nowSeconds runtimeSeconds : U32) :
    link.core.Moves platform.output (link.commanded request nowSeconds)
      (embeddedDispatch platform protocolResult link request nowSeconds runtimeSeconds).link.core := by
  unfold embeddedDispatch
  split_ifs with begin' finish status firmware secure gate
  · exact .stays
  · exact .stays
  · unfold embeddedGetSecurityStatus
    split_ifs <;> exact .stays
  · unfold embeddedGetFirmwareStatus
    split_ifs <;> exact .stays
  · exact embeddedSecureCommand_moves platform link request secure protocolResult nowSeconds
  · exact .stays
  · dsimp only
    rw [PollBranch.handled_link]
    have moves := embeddedService_moves platform link request runtimeSeconds
    unfold EmbeddedLink.commanded
    rw [if_neg secure]
    split_ifs with required
    · have other : request.command ≠ commandControlCommand := fun control => gate ⟨required, by
        simp [embeddedPrivileged, control]⟩
      rwa [controlRequestedAction_other other] at moves
    · exact moves

theorem embeddedReceive_moves (environment : PollEnvironment) (loop : PollLoop α ρ) (byte : U8) :
    loop.link.core.Moves platform.output (loop.commanded environment byte)
      (embeddedReceive platform environment loop byte).link.core := by
  unfold embeddedReceive PollLoop.commanded
  dsimp only
  cases (parserPushByte loop.link.parser byte).1 with
  | frameReady request =>
    obtain ⟨stats, handled⟩ := embeddedHandleFrame_stats environment platform
      { loop with link := { loop.link with parser := (parserPushByte loop.link.parser byte).2 } } request
    rw [handled]
    exact embeddedDispatch_moves platform
      (EmbeddedLink.received { loop.link with parser := (parserPushByte loop.link.parser byte).2 }) request _ _ _
  | _ => exact .stays

omit [Zero ρ] in
theorem embeddedFlushTelemetry_core (environment : PollEnvironment) (loop : PollLoop α ρ) :
    (embeddedFlushTelemetry environment loop).link.core = loop.link.core := by
  obtain ⟨telemetry, stats, flushed⟩ := embeddedFlushTelemetry_link environment loop
  rw [flushed]
  rfl

end commanded

section operate

variable {α ρ : Type} [HealthNumber ρ] (platform : LinkPlatform) (link : EmbeddedLink α ρ)

theorem embeddedOperate_moves {operation : LinkOperation α}
    (poll : ∀ incoming rxBudget environment, operation ≠ .poll incoming rxBudget environment)
    (publish : ∀ state, operation ≠ .setState state) :
    link.core.Moves platform.output none (embeddedOperate platform link operation).core := by
  cases operation with
  | poll incoming rxBudget environment => exact absurd rfl (poll incoming rxBudget environment)
  | setState state => exact absurd rfl (publish state)
  | updateDsp features =>
    unfold embeddedOperate embeddedUpdateDsp embeddedUpdateControlHealth
    dsimp only
    rw [embeddedSyncControlState_core]
    exact .follows _
  | configureControlOutput output =>
    unfold embeddedOperate embeddedConfigureControlOutput
    dsimp only
    rw [embeddedSyncControlState_core]
    exact .inputs (.configureOutput output) trivial
  | setLocalRunRequest requested =>
    unfold embeddedOperate embeddedSetLocalRunRequest
    dsimp only
    rw [embeddedSyncControlState_core]
    exact .inputs (.setLocalRunRequest requested) trivial
  | setInterlock closed =>
    unfold embeddedOperate embeddedSetInterlock
    dsimp only
    rw [embeddedSyncControlState_core]
    exact .inputs (.setInterlock closed) trivial
  | _ => exact .stays

omit [HealthNumber ρ] in
theorem embeddedSetState_sound (sound : link.core.Sound) (state : DeviceState) :
    (embeddedSetState link state).core.Sound := by
  unfold embeddedSetState
  dsimp only
  split_ifs with engaged
  · exact sound
  · exact ⟨sound.safe, sound.coherent, sound.verdict, fun still => absurd still engaged⟩

theorem embeddedOperate_sound (link : EmbeddedLink α ρ) (operation : LinkOperation α) (sound : link.core.Sound) :
    (embeddedOperate platform link operation).core.Sound := by
  cases operation with
  | poll incoming rxBudget environment =>
    unfold embeddedOperate embeddedLinkPoll
    dsimp only
    rw [embeddedFlushTelemetry_core]
    exact @Run.after_invariant _ _ (embeddedReceive platform environment) (fun loop => loop.link.core.Sound)
      (fun loop byte sound => (embeddedReceive_moves platform environment loop byte).sound sound) _ sound _
  | setState state => exact embeddedSetState_sound link sound state
  | _ => exact (embeddedOperate_moves platform link (by simp) (by simp)).sound sound

theorem embeddedLinkInit_sound (flash : FirmwarePlatform) (identity : DeviceIdentity) :
    (embeddedLinkInit flash identity : ProtocolResult × EmbeddedLink α ρ).2.core.Sound := by
  have started : (⟨healthInit, controlInit, .idle⟩ : LinkCore α ρ).Sound :=
    ⟨controlInit_safe, controlInit_coherent, rfl, fun _ => rfl⟩
  unfold embeddedLinkInit
  dsimp only
  split <;> exact started

end operate

end Guardian.Platform
