import Guardian.Control.ControlRun

namespace Guardian.Supervision

open Word Health

variable {α : Type} (outcome : Nat → Bool) {control : Control α}

theorem controlInit_safe : (controlInit : Control α).Safe := by
  constructor
  · simp [Control.Refreshed, controlInit, controlActiveFaults, faultIf]
  · intro permit
    exact absurd permit (by simp [controlInit])

theorem step_cases (safe : control.Safe) (operation : Operation α) :
    control.Yields (control.step outcome operation) ∨
      (∃ requested, operation = .setLocalRunRequest requested ∧
        Control.Yields { control with status := { control.status with
          localRunRequest := if requested ≠ 0 then 1 else 0 } } (control.step outcome operation)) ∨
      (operation = .action actionClearFault ∧ (control.perform outcome operation).1 = .ok ∧
        control.Clears (control.step outcome operation)) ∨
      (operation = .action actionArm ∧ (control.perform outcome operation).1 = .ok ∧
        control.Arms (control.step outcome operation)) := by
  cases operation with
  | configureOutput output => exact Or.inl (controlConfigureOutput_yields outcome output)
  | setLocalRunRequest requested =>
    exact Or.inr (Or.inl ⟨requested, rfl, controlSetLocalRunRequest_yields outcome safe requested⟩)
  | setInterlock closed => exact Or.inl (controlSetInterlock_yields outcome safe closed)
  | updateHealth health => exact Or.inl (controlUpdateHealth_yields outcome safe health)
  | action action =>
    simp only [Control.step, Control.perform, controlAction]
    split_ifs with disarm clear arm
    · exact Or.inl (controlDisarm_yields outcome action)
    · rcases controlClearFault_cases outcome safe action with yields | ⟨accepted, clears⟩
      · exact Or.inl yields
      · exact Or.inr (Or.inr (Or.inl ⟨by rw [clear], accepted, clears⟩))
    · rcases controlArm_cases outcome safe action with yields | ⟨accepted, arms⟩
      · exact Or.inl yields
      · exact Or.inr (Or.inr (Or.inr ⟨by rw [arm], accepted, arms⟩))
    · exact Or.inl safe.yields

theorem step_safe (control : Control α) (operation : Operation α) (safe : control.Safe) :
    (control.step outcome operation).Safe := by
  rcases step_cases outcome safe operation with yields | ⟨_, _, yields⟩ | ⟨_, _, clears⟩ | ⟨_, _, arms⟩
  · exact yields.safe
  · exact yields.safe
  · exact ⟨clears.refreshed, fun permit => absurd (clears.permit.symm.trans permit) (by decide)⟩
  · exact ⟨arms.refreshed, fun permit => absurd (arms.permit.symm.trans permit) (by decide)⟩

theorem after_safe (safe : control.Safe) (operations : List (Operation α)) :
    (control.after outcome operations).Safe :=
  Run.after_invariant (step_safe outcome) safe operations

/-- The last command that `adapter` carried out. -/
def Control.lastCommand [DecidableEq α] (control : Control α) (adapter : α) : Option U8 :=
  (control.commands.find? fun command => command.adapter = adapter ∧ command.applied).map Command.runPermit

theorem run_permit_safety [DecidableEq α] (operations : List (Operation α)) :
    let control := (controlInit : Control α).after outcome operations
    control.status.activeFaults = controlActiveFaults control.status ∧
      (control.status.runPermit = 1 →
        control.status.supervisionEnabled ≠ 0 ∧ control.status.latchedFaults = 0 ∧
        control.status.interlockClosed ≠ 0 ∧ control.status.localRunRequest ≠ 0 ∧
        (control.status.healthState = .ready ∨ control.status.healthState = .warning) ∧
        (∃ adapter, control.output = some adapter ∧ control.lastCommand adapter = some 1) ∧
        (control.status.state = .active ∨ control.status.state = .degraded)) := by
  intro control
  have safe : control.Safe := after_safe outcome controlInit_safe operations
  refine ⟨safe.refreshed, fun permit => ?_⟩
  obtain ⟨supervision, unlatched, interlock, request, health, state, adapter, installed, commanded⟩ :=
    safe.energised permit
  refine ⟨supervision, unlatched, interlock, request, health, ⟨adapter, installed, ?_⟩, state⟩
  obtain ⟨older, commands⟩ := List.head?_eq_some_iff.mp commanded
  simp [Control.lastCommand, commands]

theorem controlApplyOutput_withdraws (control : Control α)
    (permit : (controlApplyOutput outcome control 0).2.status.runPermit = 1) : control.status.runPermit = 1 := by
  cases installed : control.output with
  | none =>
    rw [controlApplyOutput_none outcome installed] at permit
    exact permit
  | some adapter =>
    cases answer : outcome control.commands.length with
    | false =>
      rw [controlApplyOutput_failed outcome installed answer, controlLatchFault_withdrawn] at permit
      exact absurd permit (by decide)
    | true =>
      rw [controlApplyOutput_applied outcome installed answer] at permit
      exact absurd permit (by simp)

theorem controlFinishDisarm_withdrawn (control : Control α) (action : ControlAction) :
    (controlFinishDisarm control action).2.status.runPermit = 0 := by
  simp [controlFinishDisarm, ControlStatus.refresh]

theorem controlDisarm_withdrawn (control : Control α) (action : ControlAction) :
    (controlDisarm outcome control action).2.status.runPermit = 0 := by
  rw [controlDisarm]
  generalize ({ control with status := { control.status with supervisionEnabled := 0 } } : Control α) = disabled
  dsimp only
  cases disabled.output with
  | none => exact controlFinishDisarm_withdrawn _ action
  | some adapter =>
    dsimp only
    split_ifs
    · exact controlLatchFault_withdrawn outcome _ _ _
    · exact controlFinishDisarm_withdrawn _ action

theorem controlClearFault_withdraws (action : ControlAction)
    (permit : (controlClearFault outcome control action).2.status.runPermit = 1) : control.status.runPermit = 1 := by
  rw [controlClearFault] at permit
  split_ifs at permit
  · exact permit
  · exact permit
  · exact permit
  · exact permit
  · cases installed : control.output with
    | none =>
      rw [installed] at permit
      exact permit
    | some adapter =>
      rw [installed] at permit
      dsimp only at permit
      split_ifs at permit
      · rw [controlLatchFault_withdrawn] at permit
        exact absurd permit (by decide)
      · exact absurd permit (by simp [ControlStatus.refresh])

theorem controlArm_withdraws (action : ControlAction)
    (permit : (controlArm outcome control action).2.status.runPermit = 1) : control.status.runPermit = 1 := by
  rw [controlArm] at permit
  split_ifs at permit
  · exact permit
  · exact permit
  · exact permit
  · exact permit
  · exact permit
  · dsimp only at permit
    split_ifs at permit
    · exact controlApplyOutput_withdraws outcome control permit
    · apply controlApplyOutput_withdraws outcome control
      simpa [ControlStatus.refresh] using permit

theorem controlAction_withdraws (action : ControlAction)
    (permit : (controlAction outcome control action).2.status.runPermit = 1) : control.status.runPermit = 1 := by
  rw [controlAction] at permit
  split_ifs at permit
  · rw [controlDisarm_withdrawn] at permit
    exact absurd permit (by decide)
  · exact controlClearFault_withdraws outcome action permit
  · exact controlArm_withdraws outcome action permit
  · exact permit

theorem step_unlatches (safe : control.Safe) {operation : Operation α} (latched : control.status.latchedFaults ≠ 0)
    (unlatched : (control.step outcome operation).status.latchedFaults = 0) :
    operation = .action actionClearFault ∧ (control.perform outcome operation).1 = .ok ∧
      (control.step outcome operation).status.supervisionEnabled = 0 := by
  rcases step_cases outcome safe operation with yields | ⟨_, _, yields⟩ | ⟨clear, ok, clears⟩ | ⟨_, _, arms⟩
  · exact absurd (yields.restrains.unlatched unlatched) latched
  · exact absurd (yields.restrains.unlatched unlatched) latched
  · exact ⟨clear, ok, clears.stays⟩
  · exact absurd arms.unlatched latched

theorem step_arms (safe : control.Safe) {operation : Operation α} (disabled : control.status.supervisionEnabled = 0)
    (enabled : (control.step outcome operation).status.supervisionEnabled ≠ 0) :
    operation = .action actionArm ∧ (control.perform outcome operation).1 = .ok ∧
      control.status.localRunRequest = 0 ∧ (control.step outcome operation).status.localRunRequest = 0 := by
  rcases step_cases outcome safe operation with yields | ⟨_, _, yields⟩ | ⟨_, _, clears⟩ | ⟨arm, ok, arms⟩
  · exact absurd disabled (yields.restrains.supervision enabled)
  · exact absurd disabled (yields.restrains.supervision enabled)
  · exact absurd clears.stays enabled
  · exact ⟨arm, ok, arms.idle, arms.stays⟩

theorem step_requests (safe : control.Safe) {operation : Operation α} (idle : control.status.localRunRequest = 0)
    (requesting : (control.step outcome operation).status.localRunRequest ≠ 0) :
    ∃ requested, operation = .setLocalRunRequest requested ∧ requested ≠ 0 := by
  rcases step_cases outcome safe operation with yields | ⟨requested, request, yields⟩ | ⟨_, _, clears⟩ | ⟨_, _, arms⟩
  · exact absurd (yields.restrains.request.trans idle) requesting
  · refine ⟨requested, request, fun none => requesting ?_⟩
    rw [yields.restrains.request, none]
    rfl
  · exact absurd (clears.request.trans idle) requesting
  · exact absurd arms.stays requesting

/-- The operations that follow a latched fault clear it, then arm with no request, then assert a new request. -/
def Control.Restarts (control : Control α) (operations : List (Operation α)) : Prop :=
  ∃ untilClear untilArm untilRequest requested rest,
    operations = untilClear ++ .action actionClearFault ::
      (untilArm ++ .action actionArm :: (untilRequest ++ .setLocalRunRequest requested :: rest)) ∧
    let clearing := control.after outcome untilClear
    let arming := (clearing.step outcome (.action actionClearFault)).after outcome untilArm
    let requesting := (arming.step outcome (.action actionArm)).after outcome untilRequest
    (clearing.perform outcome (.action actionClearFault)).1 = .ok ∧
      (arming.perform outcome (.action actionArm)).1 = .ok ∧ arming.status.localRunRequest = 0 ∧
      requesting.status.localRunRequest = 0 ∧ requested ≠ 0

theorem Control.Safe.restarts (safe : control.Safe) {operations : List (Operation α)}
    (latched : control.status.latchedFaults ≠ 0)
    (permit : (control.after outcome operations).status.runPermit = 1) : control.Restarts outcome operations := by
  have energised := (after_safe outcome safe operations).energised permit
  obtain ⟨untilClear, clear, afterClear, rfl, stillLatched, cleared⟩ :=
    Run.exists_change (fun state : Control α => state.status.latchedFaults = 0) latched energised.unlatched
  have safeClear := after_safe outcome safe untilClear
  obtain ⟨rfl, clearOk, disabled⟩ := step_unlatches outcome safeClear stillLatched cleared
  have safeCleared := step_safe outcome _ (.action actionClearFault) safeClear
  rw [Control.after, Run.after_append, Run.after_cons] at energised
  obtain ⟨untilArm, arm, afterArm, rfl, stillDisabled, armed⟩ :=
    Run.exists_change (fun state : Control α => state.status.supervisionEnabled ≠ 0) (not_not.mpr disabled)
      energised.supervision
  have safeArm := after_safe outcome safeCleared untilArm
  obtain ⟨rfl, armOk, armIdle, idle⟩ := step_arms outcome safeArm (not_not.mp stillDisabled) armed
  have safeArmed := step_safe outcome _ (.action actionArm) safeArm
  rw [Run.after_append, Run.after_cons] at energised
  obtain ⟨untilRequest, request, rest, rfl, stillIdle, asserted⟩ :=
    Run.exists_change (fun state : Control α => state.status.localRunRequest ≠ 0) (not_not.mpr idle)
      energised.request
  have safeRequest := after_safe outcome safeArmed untilRequest
  obtain ⟨requested, rfl, nonzero⟩ := step_requests outcome safeRequest (not_not.mp stillIdle) asserted
  exact ⟨untilClear, untilArm, untilRequest, requested, rest, rfl, clearOk, armOk, armIdle, not_not.mp stillIdle, nonzero⟩

theorem no_automatic_restart (operations : List (Operation α)) :
    let control := (controlInit : Control α).after outcome operations
    (∀ action, (control.step outcome (.action action)).status.runPermit = 1 → control.status.runPermit = 1) ∧
      ∀ later, control.status.latchedFaults ≠ 0 → (control.after outcome later).status.runPermit = 1 →
        control.Restarts outcome later := by
  intro control
  refine ⟨fun action => controlAction_withdraws outcome action, fun later latched permit => ?_⟩
  exact (after_safe outcome controlInit_safe operations).restarts outcome latched permit

/-- The health snapshot of a trained model that sees nothing unusual. -/
def trainedHealth : HealthStatus where
  state := .ready
  baselineSamples := 64
  baselineTarget := 64
  anomalyScore := 0
  healthScore := 1000
  maxDeviationMilli := 0
  dominantFeature := 0
  consecutiveAnomalous := 0
  qualityFlags := 0
  blockSequence := 64
  currentRmsMg := 100
  currentCrestFactorMilli := 1400
  currentDominantFrequencyCentiHz := 5000
  baselineRmsMeanMg := 100
  baselineRmsStdMg := 5
  exceededFeatureMask := 0
  rejectedInputs := 0

def trippedOperations : List (Operation Unit) :=
  [.configureOutput (), .updateHealth trainedHealth, .setInterlock 1, .action actionArm, .setLocalRunRequest 1,
    .setInterlock 0]

theorem restart_after_trip :
    ((controlInit : Control Unit).after (fun _ => true) trippedOperations).Restarts (fun _ => true)
      [.setInterlock 1, .setLocalRunRequest 0, .action actionClearFault, .action actionArm, .setLocalRunRequest 1] :=
  (no_automatic_restart (fun _ => true) trippedOperations).2 _ (by decide) (by decide)

end Guardian.Supervision
