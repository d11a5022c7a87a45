import Guardian.Platform.LinkOperation

namespace Guardian.Platform

open Word Guardian.Protocol Guardian.App Guardian.Dsp Guardian.Health Guardian.Supervision Guardian.Session
  Guardian.Firmware

section health

variable {α ρ : Type} [HealthNumber ρ] (platform : LinkPlatform) (flash : FirmwarePlatform) (identity : DeviceIdentity)

/-- The link after its initialisation and a sequence of operations. -/
def embeddedRun (operations : List (LinkOperation α)) : EmbeddedLink α ρ :=
  Run.after (embeddedOperate platform) operations (embeddedLinkInit flash identity).2

theorem embeddedRun_append (left right : List (LinkOperation α)) :
    (embeddedRun platform flash identity (left ++ right) : EmbeddedLink α ρ) =
      Run.after (embeddedOperate platform) right (embeddedRun platform flash identity left) := Run.after_append _ _ _ _

theorem embeddedRun_sound (operations : List (LinkOperation α)) :
    (embeddedRun platform flash identity operations : EmbeddedLink α ρ).core.Sound :=
  @Run.after_invariant _ _ (embeddedOperate platform) (fun link : EmbeddedLink α ρ => link.core.Sound)
    (embeddedOperate_sound platform) _ (embeddedLinkInit_sound flash identity) operations

/-- After every operation the control keeps the verdict of the health model, and gives no permit against it. -/
theorem control_follows_health (operations : List (LinkOperation α)) :
    let link : EmbeddedLink α ρ := embeddedRun platform flash identity operations
    link.control.status.healthState = link.health.status.state ∧
      link.control.status.healthScore = link.health.status.healthScore ∧
      link.control.status.anomalyScore = link.health.status.anomalyScore ∧
      (link.control.status.runPermit = 1 →
        link.health.status.state = .ready ∨ link.health.status.state = .warning) := by
  intro link
  have sound : link.core.Sound := embeddedRun_sound platform flash identity operations
  have verdict : link.control.status.verdict =
      (link.health.status.state, link.health.status.healthScore, link.health.status.anomalyScore) := sound.verdict
  simp only [ControlStatus.verdict, Prod.mk.injEq] at verdict
  obtain ⟨state, score, anomaly⟩ := verdict
  refine ⟨state, score, anomaly, fun permit => ?_⟩
  have energised := sound.safe.energised permit
  rw [← state]
  exact energised.health

end health

section published

variable {α ρ : Type} {outcome : Nat → Bool}

theorem LinkCore.Sound.latched {core : LinkCore α ρ} (sound : core.Sound)
    (faulted : core.control.status.state = .faultLatched) : core.control.status.latchedFaults ≠ 0 :=
  sound.coherent.latched.mpr faulted

theorem embeddedControlDeviceState_disabled {status : ControlStatus} (disabled : status.state = .disabled) :
    embeddedControlDeviceState status = .idle := by
  simp [embeddedControlDeviceState, disabled]

theorem embeddedControlDeviceState_engaged {status : ControlStatus} (other : status.state ≠ .armed)
    (enabled : status.state ≠ .disabled) : embeddedControlDeviceState status ≠ .idle := by
  cases state : status.state <;> simp_all [embeddedControlDeviceState]

theorem engaged_enabled {control : Control α} (coherent : control.Coherent) (engaged : control.Engaged) :
    control.status.state ≠ .disabled := by
  intro disabled
  rcases engaged with supervised | latched
  · have running := coherent.supervised.mp supervised
    rw [disabled] at running
    exact absurd running (by decide)
  · exact absurd (disabled.symm.trans latched) (by decide)

theorem LinkCore.synced_agrees {before core : LinkCore α ρ} (sound : before.Sound) (agrees : before.Agrees)
    (state : core.state = before.state) (coherent : core.control.Coherent)
    (engaged : before.control.Engaged → core.control.Engaged) : core.synced.Agrees := by
  by_cases now : core.control.Engaged
  · exact LinkCore.synced_engaged now
  · have idle := (coherent.disengaged now).2.2
    have disabled := (sound.coherent.disengaged (mt engaged now)).2.2
    rw [LinkCore.synced_disengaged now, LinkCore.Agrees, state, agrees, embeddedControlDeviceState_disabled idle,
      embeddedControlDeviceState_disabled disabled]

theorem LinkCore.acts_agrees {core : LinkCore α ρ} (sound : core.Sound) (agrees : core.Agrees) (action : ControlAction) :
    (LinkCore.synced { core with control := (controlAction outcome core.control action).2 }).Agrees ↔
      ¬ core.Strands outcome action := by
  rcases controlAction_cases outcome sound.coherent action with continues | ⟨conditions, releases⟩
  · refine iff_of_true (LinkCore.synced_agrees sound agrees rfl continues.coherent continues.engaged) fun strands => ?_
    exact engaged_enabled continues.coherent (continues.engaged strands.1.engaged)
      (controlAction_disengages outcome sound.coherent strands.1)
  · obtain ⟨idle, disabled⟩ := releases.disabled
    have free : ¬ (controlAction outcome core.control action).2.Engaged := by
      rintro (supervised | latched)
      · exact supervised idle
      · exact absurd (disabled.symm.trans latched) (by decide)
    rw [LinkCore.synced_disengaged free, LinkCore.Agrees, embeddedControlDeviceState_disabled disabled]
    dsimp only
    rw [agrees]
    by_cases armed : core.control.status.state = .armed
    · refine iff_of_true ?_ fun strands => strands.2 armed
      simp [embeddedControlDeviceState, armed]
    · have enabled := engaged_enabled sound.coherent conditions.engaged
      exact iff_of_false (embeddedControlDeviceState_engaged armed enabled) (not_not.mpr ⟨conditions, armed⟩)

theorem LinkCore.Moves.agrees {before after : LinkCore α ρ} {commanded : Option ControlAction}
    (moves : before.Moves outcome commanded after) (sound : before.Sound) (agrees : before.Agrees)
    (kept : ∀ action, commanded = some action → ¬ before.Strands outcome action) : after.Agrees := by
  cases moves with
  | stays => exact agrees
  | syncs => exact LinkCore.synced_agrees sound agrees rfl sound.coherent id
  | follows health =>
    obtain ⟨-, coherent, engaged⟩ := controlUpdateHealth_continues outcome sound.coherent health.status
    exact LinkCore.synced_agrees sound agrees rfl coherent engaged
  | inputs operation isLocal =>
    have continues := step_continues outcome sound.coherent isLocal
    exact LinkCore.synced_agrees sound agrees rfl continues.coherent continues.engaged
  | acts action asked => exact (LinkCore.acts_agrees sound agrees action).mpr (kept action asked)

/-- The next byte of a poll completes a frame whose action strands the published state. -/
def PollLoop.Strands (platform : LinkPlatform) (environment : PollEnvironment) (loop : PollLoop α ρ) (byte : U8) : Prop :=
  ∃ action, loop.commanded environment byte = some action ∧ loop.link.core.Strands platform.output action

variable [HealthNumber ρ] (platform : LinkPlatform)

def LinkOperation.Strands (link : EmbeddedLink α ρ) : LinkOperation α → Prop
  | .poll incoming rxBudget environment => ∃ earlier byte later,
      embeddedConsumed incoming rxBudget = earlier ++ byte :: later ∧
        (Run.after (embeddedReceive platform environment) earlier (embeddedPollStart link)).Strands platform environment
          byte
  | _ => False

def LinkOperation.Publishes : LinkOperation α → Prop
  | .setState _ => True
  | _ => False

def EmbeddedLink.InStep (link : EmbeddedLink α ρ) : Prop := link.core.Sound ∧ link.core.Agrees

theorem embeddedReceive_inStep (environment : PollEnvironment) (loop : PollLoop α ρ) (byte : U8)
    (inStep : loop.link.InStep) (kept : ¬ loop.Strands platform environment byte) :
    (embeddedReceive platform environment loop byte).link.InStep := by
  have moves := embeddedReceive_moves platform environment loop byte
  refine ⟨moves.sound inStep.1, moves.agrees inStep.1 inStep.2 ?_⟩
  exact fun action asked strands => kept ⟨action, asked, strands⟩

theorem embeddedReceive_run_inStep (environment : PollEnvironment) {loop : PollLoop α ρ} (inStep : loop.link.InStep)
    {received : List U8} (kept : ∀ earlier byte later, received = earlier ++ byte :: later →
      ¬ (Run.after (embeddedReceive platform environment) earlier loop).Strands platform environment byte) :
    (Run.after (embeddedReceive platform environment) received loop).link.InStep :=
  @Run.after_guarded _ _ (embeddedReceive platform environment) (fun loop : PollLoop α ρ => loop.link.InStep) _
    (embeddedReceive_inStep platform environment) _ inStep _ kept

omit [HealthNumber ρ] in
theorem embeddedFlushTelemetry_inStep (environment : PollEnvironment) {loop : PollLoop α ρ}
    (inStep : loop.link.InStep) : (embeddedFlushTelemetry environment loop).link.InStep := by
  unfold EmbeddedLink.InStep
  rwa [embeddedFlushTelemetry_core]

theorem embeddedOperate_inStep (link : EmbeddedLink α ρ) (operation : LinkOperation α) (inStep : link.InStep)
    (kept : ¬ operation.Publishes ∧ ¬ operation.Strands platform link) :
    (embeddedOperate platform link operation).InStep := by
  cases operation with
  | poll incoming rxBudget environment =>
    apply embeddedFlushTelemetry_inStep
    have started : (embeddedPollStart link).link.InStep := inStep
    apply embeddedReceive_run_inStep platform environment started
    exact fun earlier byte later split strands => kept.2 ⟨earlier, byte, later, split, strands⟩
  | setState state => exact absurd trivial kept.1
  | _ =>
    refine ⟨embeddedOperate_sound platform link _ inStep.1, ?_⟩
    exact (embeddedOperate_moves platform link (by simp) (by simp)).agrees inStep.1 inStep.2 (by simp)

/-- From a byte of a poll on that leaves supervision enabled, as long as no action strands the published state and the
application sets none. -/
theorem published_state_follows (flash : FirmwarePlatform) (identity : DeviceIdentity)
    (before rest : List (LinkOperation α)) (incoming : List U8) (rxBudget : Nat) (environment : PollEnvironment)
    (received remaining : List U8) (consumed : embeddedConsumed incoming rxBudget = received ++ remaining) :
    let run (operations : List (LinkOperation α)) : EmbeddedLink α ρ := embeddedRun platform flash identity operations
    let loop (received : List U8) : PollLoop α ρ :=
      Run.after (embeddedReceive platform environment) received (embeddedPollStart (run before))
    let polled := before ++ [.poll incoming rxBudget environment]
    (loop received).link.control.status.supervisionEnabled ≠ 0 →
      (∀ earlier byte later, remaining = earlier ++ byte :: later →
        ¬ (loop (received ++ earlier)).Strands platform environment byte) →
      (∀ earlier operation later, rest = earlier ++ operation :: later →
        ¬ operation.Publishes ∧ ¬ operation.Strands platform (run (polled ++ earlier))) →
      let link := run (polled ++ rest)
      link.state = embeddedControlDeviceState link.control.status ∧
        (link.state = .running → link.control.status.state = .active) ∧
        (link.state = .fault → link.control.status.latchedFaults ≠ 0) := by
  intro run loop polled supervised kept later link
  have started : (embeddedPollStart (run before)).link.core.Sound :=
    embeddedRun_sound platform flash identity before
  have sound : (loop received).link.core.Sound :=
    @Run.after_invariant _ _ (embeddedReceive platform environment) (fun loop => loop.link.core.Sound)
      (fun loop byte sound => (embeddedReceive_moves platform environment loop byte).sound sound) _ started _
  have enabled : (loop received).link.InStep := ⟨sound, sound.published (Or.inl supervised)⟩
  have pollEnd : (run polled).InStep := by
    have ended : (Run.after (embeddedReceive platform environment) remaining (loop received)).link.InStep := by
      apply embeddedReceive_run_inStep platform environment enabled
      intro earlier byte rest split
      rw [← Run.after_append]
      exact kept earlier byte rest split
    have flushed := embeddedFlushTelemetry_inStep environment ended
    have same : run polled = (embeddedLinkPoll platform environment (run before) incoming rxBudget).link :=
      Run.after_snoc _ _ _ _
    rw [same, embeddedLinkPoll, consumed, Run.after_append]
    exact flushed
  have inStep : link.InStep := by
    have split : link = Run.after (embeddedOperate platform) rest (run polled) :=
      embeddedRun_append platform flash identity polled rest
    rw [split]
    apply Run.after_guarded (embeddedOperate_inStep platform) pollEnd
    intro earlier operation after found
    have kept' := later earlier operation after found
    rwa [show run (polled ++ earlier) = _ from embeddedRun_append platform flash identity polled earlier] at kept'
  have agrees : link.state = embeddedControlDeviceState link.control.status := inStep.2
  refine ⟨agrees, fun running => ?_, fun fault => inStep.1.latched ?_⟩
  · rw [agrees] at running
    unfold embeddedControlDeviceState at running
    split_ifs at running with active
    exact active
  · rw [agrees] at fault
    unfold embeddedControlDeviceState at fault
    split_ifs at fault with active degraded latched
    exact latched

end published

def steadyFeatures : DspFeatures := ⟨1, 1000, 100, 140, 1400, 5000, 60, 6000, 400, 400, 200, 1, 1⟩

def commandStream (command : U8) (payload : List U8) : List U8 :=
  Frame.wire ⟨.request, command, supportedFlags, 1, payload⟩

def stillPoll (stream : List U8) : LinkOperation Unit := .poll stream 0 (.still 5)

def trainedOperations : List (LinkOperation Unit) :=
  [.configureControlOutput (), .setInterlock 1, stillPoll (commandStream commandBaselineControl [1, 1, 0, 16])] ++
    List.replicate 16 (.updateDsp steadyFeatures)

def armStream : List U8 := commandStream commandControlCommand [controlSchemaVersion, 1]
def disarmStream : List U8 := commandStream commandControlCommand [controlSchemaVersion, 2]

def bareFlash : FirmwarePlatform := ⟨fun _ => 0xFF, none, 0, 0⟩
def bareIdentity : DeviceIdentity := ⟨[0x46], 1, 0, 0, 7⟩

theorem published_state_follows_start :
    let link : EmbeddedLink Unit ℚ := embeddedRun steadyPlatform bareFlash bareIdentity
      (trainedOperations ++ [.poll armStream 0 (.still 5)] ++ [.setLocalRunRequest 1, .setInterlock 0])
    link.state = embeddedControlDeviceState link.control.status := by
  have follows := published_state_follows (ρ := ℚ) steadyPlatform bareFlash bareIdentity trainedOperations
    [.setLocalRunRequest 1, .setInterlock 0] armStream 0 (.still 5) armStream [] (by decide +kernel) (by decide +kernel)
    (by simp) (by
      intro earlier operation later split
      have member : operation ∈ [.setLocalRunRequest 1, .setInterlock (0 : U8)] := by
        rw [split]
        simp
      rcases List.mem_pair.mp member with rfl | rfl <;> exact ⟨id, id⟩)
  dsimp only at follows ⊢
  exact follows.1

/-- A machine that runs is disarmed, and stays published as running. -/
theorem disarmed_published_running :
    let run (operations : List (LinkOperation Unit)) : EmbeddedLink Unit ℚ :=
      embeddedRun steadyPlatform bareFlash bareIdentity operations
    let started := trainedOperations ++ [stillPoll armStream, .setLocalRunRequest 1]
    let stopped := started ++ [stillPoll disarmStream]
    (∀ operation ∈ stopped, ¬ operation.Publishes) ∧ (run started).control.status.supervisionEnabled ≠ 0 ∧
      (run stopped).control.status.state = .disabled ∧ (run stopped).state = .running ∧
      (run stopped).state ≠ embeddedControlDeviceState (run stopped).control.status := by
  intro run started stopped
  refine ⟨?_, by decide +kernel⟩
  intro operation member
  simp [stopped, started, trainedOperations, stillPoll] at member
  rcases member with rfl | rfl | rfl | rfl | rfl | rfl | rfl <;> exact id

end Guardian.Platform
