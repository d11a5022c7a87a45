import Guardian.Lib.Run
import Guardian.Control.Control

namespace Guardian.Supervision

open Word Health

inductive Operation (α : Type)
  | configureOutput (output : α)
  | setLocalRunRequest (requested : U8)
  | setInterlock (closed : U8)
  | updateHealth (health : HealthStatus)
  | action (action : ControlAction)

section Steps

variable {α : Type} (outcome : Nat → Bool)

/-- The result of an operation that has one, and the control state it leaves. -/
def Control.perform (control : Control α) : Operation α → ControlResult × Control α
  | .configureOutput output => controlConfigureOutput outcome control output
  | .setLocalRunRequest requested => (.ok, controlSetLocalRunRequest outcome control requested)
  | .setInterlock closed => (.ok, controlSetInterlock outcome control closed)
  | .updateHealth health => (.ok, controlUpdateHealth outcome control health)
  | .action action => controlAction outcome control action

def Control.step (control : Control α) (operation : Operation α) : Control α := (control.perform outcome operation).2

def Control.after (control : Control α) (operations : List (Operation α)) : Control α :=
  Run.after (Control.step outcome) operations control

end Steps

section Status

variable (status : ControlStatus) (state : ControlState) (reason : U8)

@[simp] theorem transition_state : (status.transition state reason).state = state := by
  rw [ControlStatus.transition]
  split_ifs with changed
  · rfl
  · exact not_not.mp changed

@[simp] theorem transition_supervisionEnabled :
    (status.transition state reason).supervisionEnabled = status.supervisionEnabled := by
  rw [ControlStatus.transition]
  split_ifs <;> rfl

@[simp] theorem transition_localRunRequest :
    (status.transition state reason).localRunRequest = status.localRunRequest := by
  rw [ControlStatus.transition]
  split_ifs <;> rfl

@[simp] theorem transition_runPermit : (status.transition state reason).runPermit = status.runPermit := by
  rw [ControlStatus.transition]
  split_ifs <;> rfl

@[simp] theorem transition_interlockClosed :
    (status.transition state reason).interlockClosed = status.interlockClosed := by
  rw [ControlStatus.transition]
  split_ifs <;> rfl

@[simp] theorem transition_healthState : (status.transition state reason).healthState = status.healthState := by
  rw [ControlStatus.transition]
  split_ifs <;> rfl

@[simp] theorem transition_latchedFaults : (status.transition state reason).latchedFaults = status.latchedFaults := by
  rw [ControlStatus.transition]
  split_ifs <;> rfl

@[simp] theorem transition_activeFaults : (status.transition state reason).activeFaults = status.activeFaults := by
  rw [ControlStatus.transition]
  split_ifs <;> rfl

@[simp] theorem controlActiveFaults_transition :
    controlActiveFaults (status.transition state reason) = controlActiveFaults status := by
  rw [ControlStatus.transition]
  split_ifs <;> rfl

end Status

section Policy

variable {α : Type} (outcome : Nat → Bool) {control : Control α}

def Control.Refreshed (control : Control α) : Prop := control.status.activeFaults = controlActiveFaults control.status

structure Control.Energised (control : Control α) : Prop where
  supervision : control.status.supervisionEnabled ≠ 0
  unlatched : control.status.latchedFaults = 0
  interlock : control.status.interlockClosed ≠ 0
  request : control.status.localRunRequest ≠ 0
  health : control.status.healthState = .ready ∨ control.status.healthState = .warning
  state : control.status.state = .active ∨ control.status.state = .degraded
  driven : ∃ adapter, control.output = some adapter ∧ control.commands.head? = some ⟨adapter, 1, true⟩

/-- `after` clears no latch, arms nothing and asserts no request that `before` had not. -/
structure Control.Restrains (before after : Control α) : Prop where
  unlatched : after.status.latchedFaults = 0 → before.status.latchedFaults = 0
  supervision : after.status.supervisionEnabled ≠ 0 → before.status.supervisionEnabled ≠ 0
  request : after.status.localRunRequest = before.status.localRunRequest

theorem Control.Restrains.trans {first second third : Control α} (earlier : first.Restrains second)
    (later : second.Restrains third) : first.Restrains third :=
  ⟨fun clear => earlier.unlatched (later.unlatched clear), fun armed => earlier.supervision (later.supervision armed),
    later.request.trans earlier.request⟩

/-- What an evaluation or a failed command makes of `before`. -/
structure Control.Yields (before after : Control α) : Prop where
  restrains : before.Restrains after
  refreshed : after.Refreshed
  energised : after.status.runPermit = 1 → after.Energised

theorem Control.Restrains.yields {first second third : Control α} (earlier : first.Restrains second)
    (later : second.Yields third) : first.Yields third :=
  ⟨earlier.trans later.restrains, later.refreshed, later.energised⟩

@[simp] theorem drive_status (control : Control α) (adapter : α) (runPermit : U8) :
    (drive outcome control adapter runPermit).2.status = control.status := rfl

theorem drive_restrains (control : Control α) (adapter : α) (runPermit : U8) :
    control.Restrains (drive outcome control adapter runPermit).2 := ⟨id, id, rfl⟩

theorem controlLatchFault_eq (control : Control α) (faults : U16) (reason : U8) :
    ∃ latchedFaults faultLatchCount commands, controlLatchFault outcome control faults reason =
        { control with
          status := ({ control.status with
            latchedFaults, faultLatchCount, supervisionEnabled := 0, runPermit := 0 }.transition
              .faultLatched reason).refresh
          commands } ∧
      (latchedFaults = 0 → control.status.latchedFaults = 0 ∧ faults = 0) := by
  rcases control with ⟨status, _ | adapter, commands⟩
  · exact ⟨_, _, _, rfl, BitVec.or_eq_zero_iff.mp⟩
  · by_cases applied : outcome commands.length = true
    · refine ⟨status.latchedFaults ||| faults, if faults &&& ~~~status.latchedFaults ≠ 0 then
        incrementU32 status.faultLatchCount else status.faultLatchCount, ⟨adapter, 0, true⟩ :: commands, ?_,
        BitVec.or_eq_zero_iff.mp⟩
      simp only [controlLatchFault, drive, applied, if_true]
    · refine ⟨status.latchedFaults ||| faults ||| faultOutputFailure,
        if faults &&& ~~~status.latchedFaults ≠ 0 then
          incrementU32 status.faultLatchCount else status.faultLatchCount, ⟨adapter, 0, false⟩ :: commands, ?_,
        fun clear => BitVec.or_eq_zero_iff.mp (BitVec.or_eq_zero_iff.mp clear).1⟩
      rw [Bool.not_eq_true] at applied
      simp only [controlLatchFault, drive, applied, Bool.false_eq_true, if_false]

theorem controlLatchFault_yields (control : Control α) (faults : U16) (reason : U8) :
    control.Yields (controlLatchFault outcome control faults reason) := by
  obtain ⟨latchedFaults, count, commands, same, clear⟩ := controlLatchFault_eq outcome control faults reason
  rw [same]
  constructor
  · constructor
    · intro unlatched
      exact (clear (by simpa [ControlStatus.refresh] using unlatched)).1
    · intro armed
      exact absurd (by simp [ControlStatus.refresh]) armed
    · simp [ControlStatus.refresh]
  · rfl
  · intro permit
    exact absurd permit (by simp [ControlStatus.refresh])

theorem controlLatchFault_withdrawn (control : Control α) (faults : U16) (reason : U8) :
    (controlLatchFault outcome control faults reason).status.runPermit = 0 := by
  obtain ⟨latchedFaults, count, commands, same, clear⟩ := controlLatchFault_eq outcome control faults reason
  simp [same, ControlStatus.refresh]

theorem controlApplyOutput_none (missing : control.output = none) (runPermit : U8) :
    controlApplyOutput outcome control runPermit =
      (.errorDenied, { control with status := { control.status with outputAvailable := 0 }.refresh }) := by
  simp [controlApplyOutput, missing]

theorem controlApplyOutput_failed {adapter : α} (installed : control.output = some adapter)
    (failed : outcome control.commands.length = false) (runPermit : U8) :
    controlApplyOutput outcome control runPermit = (.errorOutput, controlLatchFault outcome
      { control with commands := ⟨adapter, if runPermit ≠ 0 then 1 else 0, false⟩ :: control.commands }
      faultOutputFailure reasonOutputFailure) := by
  simp [controlApplyOutput, installed, drive, failed]

theorem controlApplyOutput_applied {adapter : α} (installed : control.output = some adapter)
    (applied : outcome control.commands.length = true) (runPermit : U8) :
    controlApplyOutput outcome control runPermit = (.ok, { control with
      status := { control.status with runPermit := if runPermit ≠ 0 then 1 else 0 }
      commands := ⟨adapter, if runPermit ≠ 0 then 1 else 0, true⟩ :: control.commands }) := by
  simp [controlApplyOutput, installed, drive, applied]

theorem controlApplyOutput_ok {runPermit : U8} (accepted : (controlApplyOutput outcome control runPermit).1 = .ok) :
    ∃ adapter, control.output = some adapter ∧ outcome control.commands.length = true := by
  cases installed : control.output with
  | none => exact absurd accepted (by simp [controlApplyOutput_none outcome installed])
  | some adapter =>
    cases answer : outcome control.commands.length with
    | false => exact absurd accepted (by simp [controlApplyOutput_failed outcome installed answer])
    | true => exact ⟨adapter, rfl, rfl⟩

theorem controlApplyOutput_yields (refreshed : control.Refreshed)
    (given : control.output = none → control.status.runPermit ≠ 1) (runPermit : U8)
    (safe : (controlApplyOutput outcome control runPermit).1 = .ok → runPermit = 0) :
    control.Yields (controlApplyOutput outcome control runPermit).2 := by
  cases installed : control.output with
  | none =>
    rw [controlApplyOutput_none outcome installed]
    exact ⟨⟨id, id, rfl⟩, rfl, fun permit => absurd permit (given installed)⟩
  | some adapter =>
    cases answer : outcome control.commands.length with
    | false =>
      rw [controlApplyOutput_failed outcome installed answer]
      have commanded := drive_restrains outcome control adapter (if runPermit ≠ 0 then 1 else 0)
      rw [drive, answer] at commanded
      exact commanded.yields (controlLatchFault_yields outcome _ _ _)
    | true =>
      rw [controlApplyOutput_applied outcome installed answer] at safe ⊢
      rw [safe rfl]
      exact ⟨⟨id, id, rfl⟩, refreshed, fun permit => absurd permit (by simp)⟩

theorem controlStayDisabled_yields (refreshed : control.Refreshed) : control.Yields (controlStayDisabled control) := by
  refine ⟨⟨?_, ?_, ?_⟩, ?_, fun permit => absurd permit ?_⟩
  · simp [controlStayDisabled]
  · simp [controlStayDisabled]
  · simp [controlStayDisabled]
  · rw [Control.Refreshed, controlStayDisabled, transition_activeFaults, controlActiveFaults_transition]
    exact refreshed
  · simp [controlStayDisabled]

theorem activeFaults_bits : ∀ notReady alarm open' unavailable failed : Bool,
    let faults := faultIf notReady faultHealthNotReady ||| faultIf alarm faultHealthAlarm |||
      faultIf open' faultInterlockOpen ||| faultIf unavailable faultOutputUnavailable ||| faultIf failed faultOutputFailure
    (faults &&& faultInterlockOpen = 0 → open' = false) ∧ (faults &&& faultHealthNotReady = 0 → notReady = false) ∧
      (faults &&& faultHealthAlarm = 0 → alarm = false) := by
  decide

theorem controlActiveFaults_admitted {status : ControlStatus}
    (closed : controlActiveFaults status &&& faultInterlockOpen = 0)
    (ready : controlActiveFaults status &&& faultHealthNotReady = 0)
    (calm : controlActiveFaults status &&& faultHealthAlarm = 0) :
    status.interlockClosed ≠ 0 ∧ (status.healthState = .ready ∨ status.healthState = .warning) := by
  obtain ⟨interlock, trained, quiet⟩ := activeFaults_bits (status.healthState = .untrained ∨ status.healthState = .learning)
    (status.healthState = .alarm) (status.interlockClosed = 0) (status.outputAvailable = 0)
    (status.latchedFaults &&& faultOutputFailure ≠ 0)
  have shut := interlock closed
  have learned := trained ready
  have normal := quiet calm
  refine ⟨of_decide_eq_false shut, ?_⟩
  cases health : status.healthState <;> simp_all

theorem Control.Yields.transition {before after : Control α} (yields : before.Yields after)
    (withdrawn : after.status.runPermit ≠ 1) (state : ControlState) (reason : U8) :
    before.Yields { after with status := after.status.transition state reason } := by
  obtain ⟨⟨unlatched, supervision, request⟩, refreshed, energised⟩ := yields
  refine ⟨⟨?_, ?_, ?_⟩, ?_, fun permit => absurd permit ?_⟩
  · rwa [transition_latchedFaults]
  · rwa [transition_supervisionEnabled]
  · rwa [transition_localRunRequest]
  · rw [Control.Refreshed, transition_activeFaults, controlActiveFaults_transition]
    exact refreshed
  · rwa [transition_runPermit]

theorem controlApplyOutput_energises (refreshed : control.Refreshed) (unlatched : control.status.latchedFaults = 0)
    (supervision : control.status.supervisionEnabled ≠ 0) (request : control.status.localRunRequest ≠ 0)
    (closed : controlActiveFaults control.status &&& faultInterlockOpen = 0)
    (trained : controlActiveFaults control.status &&& faultHealthNotReady = 0)
    (calm : controlActiveFaults control.status &&& faultHealthAlarm = 0)
    (accepted : (controlApplyOutput outcome control 1).1 = .ok) {state : ControlState}
    (running : state = .active ∨ state = .degraded) (reason : U8) :
    control.Yields { (controlApplyOutput outcome control 1).2 with
      status := (controlApplyOutput outcome control 1).2.status.transition state reason } := by
  obtain ⟨adapter, installed, answer⟩ := controlApplyOutput_ok outcome accepted
  obtain ⟨interlock, health⟩ := controlActiveFaults_admitted closed trained calm
  rw [controlApplyOutput_applied outcome installed answer]
  refine ⟨⟨?_, ?_, ?_⟩, ?_, fun permit => ⟨?_, ?_, ?_, ?_, ?_, ?_, adapter, installed, rfl⟩⟩
  · exact fun _ => unlatched
  · exact fun _ => supervision
  · rw [transition_localRunRequest]
  · rw [Control.Refreshed, transition_activeFaults, controlActiveFaults_transition]
    exact refreshed
  · rwa [transition_supervisionEnabled]
  · rwa [transition_latchedFaults]
  · rwa [transition_interlockClosed]
  · rwa [transition_localRunRequest]
  · rwa [transition_healthState]
  · rwa [transition_state]

theorem controlEvaluateRefreshed_yields (control : Control α) (refreshed : control.Refreshed)
    (given : control.output = none → control.status.runPermit ≠ 1) :
    control.Yields (controlEvaluateRefreshed outcome control) := by
  rw [controlEvaluateRefreshed]
  apply iteInduction
  · intro latched
    have withdrawn := controlApplyOutput_yields outcome refreshed given 0 (fun _ => rfl)
    dsimp only
    generalize (controlApplyOutput outcome control 0).2 = applied at withdrawn ⊢
    have denied : applied.status.runPermit ≠ 1 := by
      intro permit
      exact latched (withdrawn.restrains.unlatched (withdrawn.energised permit).unlatched)
    have unsupervised : control.Yields { applied with status := { applied.status with supervisionEnabled := 0 } } :=
      ⟨⟨withdrawn.restrains.unlatched, fun armed => absurd rfl armed, withdrawn.restrains.request⟩,
        withdrawn.refreshed, fun permit => absurd permit denied⟩
    exact unsupervised.transition denied .faultLatched _
  intro unlatched
  apply iteInduction
  · intro disabled
    cases installed : control.output with
    | none => exact controlStayDisabled_yields refreshed
    | some adapter =>
      have commanded := drive_restrains outcome control adapter 0
      dsimp only
      apply iteInduction
      · exact fun _ => commanded.yields (controlLatchFault_yields outcome _ _ _)
      · exact fun _ => commanded.yields (controlStayDisabled_yields refreshed)
  intro disabled
  apply iteInduction
  · exact fun _ => controlLatchFault_yields outcome control _ _
  intro opened
  apply iteInduction
  · exact fun _ => controlLatchFault_yields outcome control _ _
  intro untrained
  apply iteInduction
  · exact fun _ => controlLatchFault_yields outcome control _ _
  intro alarmed
  apply iteInduction
  · intro stopped
    have withdrawn := controlApplyOutput_yields outcome refreshed given 0 (fun _ => rfl)
    dsimp only
    apply iteInduction
    · exact fun _ => withdrawn
    · intro accepted
      obtain ⟨adapter, installed, answer⟩ := controlApplyOutput_ok outcome (not_not.mp accepted)
      apply withdrawn.transition
      rw [controlApplyOutput_applied outcome installed answer]
      simp
  intro stopped
  have energises := controlApplyOutput_energises outcome refreshed (not_not.mp unlatched) disabled stopped
    (by rw [← refreshed]; exact not_not.mp opened) (by rw [← refreshed]; exact not_not.mp untrained)
    (by rw [← refreshed]; exact not_not.mp alarmed)
  dsimp only
  apply iteInduction
  · exact fun refused => controlApplyOutput_yields outcome refreshed given 1 (fun accepted => absurd accepted refused)
  intro accepted
  apply iteInduction
  · exact fun _ => energises (not_not.mp accepted) (Or.inr rfl) _
  · exact fun _ => energises (not_not.mp accepted) (Or.inl rfl) _

theorem controlEvaluate_yields (given : control.output = none → control.status.runPermit ≠ 1) :
    control.Yields (controlEvaluate outcome control) := by
  have restrains : control.Restrains { control with status := control.status.refresh } := ⟨id, id, rfl⟩
  exact restrains.yields (controlEvaluateRefreshed_yields outcome _ rfl given)

structure Control.Safe (control : Control α) : Prop where
  refreshed : control.Refreshed
  energised : control.status.runPermit = 1 → control.Energised

theorem Control.Yields.safe {before after : Control α} (yields : before.Yields after) : after.Safe :=
  ⟨yields.refreshed, yields.energised⟩

theorem Control.Safe.yields (safe : control.Safe) : control.Yields control :=
  ⟨⟨id, id, rfl⟩, safe.refreshed, safe.energised⟩

theorem Control.Safe.given (safe : control.Safe) : control.output = none → control.status.runPermit ≠ 1 := by
  intro missing permit
  obtain ⟨adapter, installed, _⟩ := (safe.energised permit).driven
  exact absurd (missing.symm.trans installed) (by simp)

theorem controlConfigureOutput_yields (output : α) :
    control.Yields (controlConfigureOutput outcome control output).2 := by
  have installs : control.Restrains
      { control with output := some output, status := { control.status with outputAvailable := 1 } } := ⟨id, id, rfl⟩
  have commands := drive_restrains outcome
    { control with output := some output, status := { control.status with outputAvailable := 1 } } output 0
  rw [controlConfigureOutput]
  dsimp only
  split_ifs
  · exact (installs.trans commands).yields (controlLatchFault_yields outcome _ _ _)
  · exact (installs.trans commands).yields ⟨⟨id, id, rfl⟩, rfl, fun permit => absurd permit (by simp [ControlStatus.refresh])⟩

theorem controlSetLocalRunRequest_yields (safe : control.Safe) (requested : U8) :
    Control.Yields { control with status := { control.status with
      localRunRequest := if requested ≠ 0 then 1 else 0 } } (controlSetLocalRunRequest outcome control requested) :=
  controlEvaluate_yields outcome safe.given

theorem controlSetInterlock_yields (safe : control.Safe) (closed : U8) :
    control.Yields (controlSetInterlock outcome control closed) := by
  have sets : control.Restrains { control with status := { control.status with
    interlockClosed := if closed ≠ 0 then 1 else 0 } } := ⟨id, id, rfl⟩
  exact sets.yields (controlEvaluate_yields outcome safe.given)

theorem controlUpdateHealth_yields (safe : control.Safe) (health : HealthStatus) :
    control.Yields (controlUpdateHealth outcome control health) := by
  have updates : control.Restrains { control with status := { control.status with
    healthState := health.state
    healthScore := health.healthScore
    anomalyScore := health.anomalyScore } } := ⟨id, id, rfl⟩
  exact updates.yields (controlEvaluate_yields outcome safe.given)

theorem controlFinishDisarm_yields (action : ControlAction) : control.Yields (controlFinishDisarm control action).2 := by
  refine ⟨⟨?_, ?_, ?_⟩, rfl, fun permit => absurd permit ?_⟩
  · simp [controlFinishDisarm, ControlStatus.refresh]
  · simp [controlFinishDisarm, ControlStatus.refresh]
  · simp [controlFinishDisarm, ControlStatus.refresh]
  · simp [controlFinishDisarm, ControlStatus.refresh]

theorem controlDisarm_yields (action : ControlAction) : control.Yields (controlDisarm outcome control action).2 := by
  have disables : control.Restrains { control with status := { control.status with supervisionEnabled := 0 } } :=
    ⟨id, fun armed => absurd rfl armed, rfl⟩
  rw [controlDisarm]
  generalize ({ control with status := { control.status with supervisionEnabled := 0 } } : Control α) = disabled
    at disables ⊢
  dsimp only
  cases disabled.output with
  | none => exact disables.yields (controlFinishDisarm_yields action)
  | some adapter =>
    have commands := drive_restrains outcome disabled adapter 0
    dsimp only
    split_ifs
    · exact (disables.trans commands).yields (controlLatchFault_yields outcome _ _ _)
    · exact (disables.trans commands).yields (controlFinishDisarm_yields action)

/-- A fault clearance that succeeded: only while disabled, and it leaves supervision disabled. -/
structure Control.Clears (before after : Control α) : Prop where
  disabled : before.status.supervisionEnabled = 0
  stays : after.status.supervisionEnabled = 0
  request : after.status.localRunRequest = before.status.localRunRequest
  refreshed : after.Refreshed
  permit : after.status.runPermit = 0

/-- An arming that succeeded: only with no latched fault and no request, and it gives no permit. -/
structure Control.Arms (before after : Control α) : Prop where
  unlatched : before.status.latchedFaults = 0
  idle : before.status.localRunRequest = 0
  stays : after.status.localRunRequest = 0
  refreshed : after.Refreshed
  permit : after.status.runPermit = 0

theorem controlClearFault_cases (safe : control.Safe) (action : ControlAction) :
    control.Yields (controlClearFault outcome control action).2 ∨
      (controlClearFault outcome control action).1 = .ok ∧
        control.Clears (controlClearFault outcome control action).2 := by
  rw [controlClearFault]
  split_ifs with armed requested unready opened
  · exact Or.inl safe.yields
  · exact Or.inl safe.yields
  · exact Or.inl safe.yields
  · exact Or.inl safe.yields
  · cases installed : control.output with
    | none => exact Or.inl safe.yields
    | some adapter =>
      have commands := drive_restrains outcome control adapter 0
      dsimp only
      split_ifs
      · exact Or.inl (commands.yields (controlLatchFault_yields outcome _ _ _))
      · refine Or.inr ⟨rfl, not_not.mp armed, ?_, ?_, rfl, ?_⟩
        · simpa [ControlStatus.refresh] using armed
        · simp [ControlStatus.refresh]
        · simp [ControlStatus.refresh]

theorem controlArm_cases (safe : control.Safe) (action : ControlAction) :
    control.Yields (controlArm outcome control action).2 ∨
      (controlArm outcome control action).1 = .ok ∧ control.Arms (controlArm outcome control action).2 := by
  rw [controlArm]
  split_ifs with latched requested unready opened missing
  · exact Or.inl safe.yields
  · exact Or.inl safe.yields
  · exact Or.inl safe.yields
  · exact Or.inl safe.yields
  · exact Or.inl safe.yields
  · dsimp only
    split_ifs with refused
    · exact Or.inl (controlApplyOutput_yields outcome safe.refreshed safe.given 0 (fun _ => rfl))
    · obtain ⟨adapter, installed, answer⟩ := controlApplyOutput_ok outcome (not_not.mp refused)
      rw [controlApplyOutput_applied outcome installed answer]
      refine Or.inr ⟨rfl, not_not.mp latched, not_not.mp requested, ?_, rfl, ?_⟩
      · simpa [ControlStatus.refresh] using not_not.mp requested
      · simp [ControlStatus.refresh]

end Policy

end Guardian.Supervision
