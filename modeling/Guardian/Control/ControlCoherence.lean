import Guardian.Control.ControlSafety

namespace Guardian.Supervision

open Word Health

/-- The verdict of the health model, as the control module keeps it. -/
def ControlStatus.verdict (status : ControlStatus) : HealthState × U16 × U16 :=
  (status.healthState, status.healthScore, status.anomalyScore)

@[simp] theorem transition_verdict (status : ControlStatus) (state : ControlState) (reason : U8) :
    (status.transition state reason).verdict = status.verdict := by
  rw [ControlStatus.transition]
  split_ifs <;> rfl

section coherence

variable {α : Type}

def ControlState.supervised (state : ControlState) : Bool := state = .armed ∨ state = .active ∨ state = .degraded

/-- The state says whether supervision is enabled and whether a fault is latched. -/
structure Control.Coherent (control : Control α) : Prop where
  supervised : control.status.supervisionEnabled ≠ 0 ↔ control.status.state.supervised
  latched : control.status.latchedFaults ≠ 0 ↔ control.status.state = .faultLatched

def Control.Engaged (control : Control α) : Prop :=
  control.status.supervisionEnabled ≠ 0 ∨ control.status.state = .faultLatched

/-- A coherent state follows that has the same verdict, and is engaged if the one before was. -/
structure Control.Continues (before after : Control α) : Prop where
  verdict : after.status.verdict = before.status.verdict
  coherent : after.Coherent
  engaged : before.Engaged → after.Engaged

theorem Control.Coherent.continues {control : Control α} (coherent : control.Coherent) : control.Continues control :=
  ⟨rfl, coherent, id⟩

theorem Control.Continues.trans {first second third : Control α} (earlier : first.Continues second)
    (later : second.Continues third) : first.Continues third :=
  ⟨later.verdict.trans earlier.verdict, later.coherent, fun engaged => later.engaged (earlier.engaged engaged)⟩

theorem Control.Coherent.disabled {control : Control α} (coherent : control.Coherent)
    (idle : control.status.supervisionEnabled = 0) (unlatched : control.status.latchedFaults = 0) :
    control.status.state = .disabled := by
  have unsupervised := mt coherent.supervised.mpr (not_not.mpr idle)
  have clear := mt coherent.latched.mpr (not_not.mpr unlatched)
  cases state : control.status.state <;> simp_all [ControlState.supervised]

theorem Control.Coherent.disengaged {control : Control α} (coherent : control.Coherent) (idle : ¬ control.Engaged) :
    control.status.supervisionEnabled = 0 ∧ control.status.latchedFaults = 0 ∧ control.status.state = .disabled := by
  obtain ⟨unsupervised, clear⟩ := not_or.mp idle
  have unlatched := not_not.mp (mt coherent.latched.mp clear)
  exact ⟨not_not.mp unsupervised, unlatched, coherent.disabled (not_not.mp unsupervised) unlatched⟩

theorem Control.Continues.supervise {before after : Control α} (continues : before.Continues after)
    (supervision : after.status.supervisionEnabled ≠ 0) (unlatched : after.status.latchedFaults = 0)
    {state : ControlState} (running : state.supervised) (reason : U8) :
    before.Continues { after with status := after.status.transition state reason } := by
  refine ⟨?_, ⟨?_, ?_⟩, fun _ => Or.inl ?_⟩
  · simpa using continues.verdict
  · rw [transition_supervisionEnabled, transition_state]
    exact iff_of_true supervision running
  · have other : state ≠ .faultLatched := by
      rintro rfl
      exact absurd running (by decide)
    rw [transition_latchedFaults, transition_state]
    exact iff_of_false (not_not.mpr unlatched) other
  · rwa [transition_supervisionEnabled]

theorem controlInit_coherent : (controlInit : Control α).Coherent := by
  constructor <;> simp [controlInit, ControlState.supervised]

variable (outcome : Nat → Bool) {control : Control α}

theorem faultOutputFailure_ne : faultOutputFailure ≠ 0 := by decide

theorem controlLatchFault_continues {before : Control α} (unchanged : control.status.verdict = before.status.verdict)
    {faults : U16} (some : faults ≠ 0) (reason : U8) :
    before.Continues (controlLatchFault outcome control faults reason) := by
  obtain ⟨latchedFaults, count, commands, same, clear⟩ := controlLatchFault_eq outcome control faults reason
  have latched : latchedFaults ≠ 0 := fun none => some (clear none).2
  rw [same]
  refine ⟨?_, ⟨?_, ?_⟩, fun _ => Or.inr ?_⟩
  · exact (transition_verdict _ _ _).trans unchanged
  · simp [ControlStatus.refresh, ControlState.supervised]
  · simpa [ControlStatus.refresh] using latched
  · simp [ControlStatus.refresh]

theorem drive_continues (coherent : control.Coherent) (adapter : α) (runPermit : U8) :
    control.Continues (drive outcome control adapter runPermit).2 :=
  ⟨rfl, ⟨coherent.supervised, coherent.latched⟩, id⟩

theorem controlApplyOutput_continues (coherent : control.Coherent) (runPermit : U8) :
    control.Continues (controlApplyOutput outcome control runPermit).2 := by
  cases installed : control.output with
  | none =>
    rw [controlApplyOutput_none outcome installed]
    exact ⟨rfl, ⟨coherent.supervised, coherent.latched⟩, id⟩
  | some adapter =>
    cases answer : outcome control.commands.length with
    | false =>
      rw [controlApplyOutput_failed outcome installed answer]
      have commanded := drive_continues outcome coherent adapter (if runPermit ≠ 0 then 1 else 0)
      rw [drive, answer] at commanded
      exact controlLatchFault_continues outcome commanded.verdict (by decide) _
    | true =>
      rw [controlApplyOutput_applied outcome installed answer]
      exact ⟨rfl, ⟨coherent.supervised, coherent.latched⟩, id⟩

theorem controlApplyOutput_latched (latched : control.status.latchedFaults ≠ 0) (runPermit : U8) :
    (controlApplyOutput outcome control runPermit).2.status.latchedFaults ≠ 0 := by
  cases installed : control.output with
  | none =>
    rw [controlApplyOutput_none outcome installed]
    exact latched
  | some adapter =>
    cases answer : outcome control.commands.length with
    | false =>
      rw [controlApplyOutput_failed outcome installed answer]
      have commanded := drive_restrains outcome control adapter (if runPermit ≠ 0 then 1 else 0)
      rw [drive, answer] at commanded
      have yields := commanded.yields (controlLatchFault_yields outcome _ faultOutputFailure reasonOutputFailure)
      exact fun unlatched => latched (yields.restrains.unlatched unlatched)
    | true =>
      rw [controlApplyOutput_applied outcome installed answer]
      exact latched

theorem controlApplyOutput_kept {runPermit : U8} (accepted : (controlApplyOutput outcome control runPermit).1 = .ok) :
    (controlApplyOutput outcome control runPermit).2.status =
      { control.status with runPermit := if runPermit ≠ 0 then 1 else 0 } := by
  obtain ⟨adapter, installed, answer⟩ := controlApplyOutput_ok outcome accepted
  rw [controlApplyOutput_applied outcome installed answer]

theorem controlStayDisabled_continues (coherent : control.Coherent) (idle : control.status.supervisionEnabled = 0)
    (unlatched : control.status.latchedFaults = 0) : control.Continues (controlStayDisabled control) := by
  have disabled := coherent.disabled idle unlatched
  refine ⟨?_, ⟨?_, ?_⟩, ?_⟩
  · exact transition_verdict _ _ _
  · simp [controlStayDisabled, idle, ControlState.supervised]
  · simp [controlStayDisabled, unlatched]
  · rintro (supervised | latched)
    · exact absurd idle supervised
    · exact absurd (disabled.symm.trans latched) (by decide)

theorem controlEvaluateRefreshed_continues (coherent : control.Coherent) :
    control.Continues (controlEvaluateRefreshed outcome control) := by
  rw [controlEvaluateRefreshed]
  apply iteInduction
  · intro latched
    have applied := controlApplyOutput_continues outcome coherent 0
    have still := controlApplyOutput_latched outcome latched 0
    refine ⟨?_, ⟨?_, ?_⟩, fun _ => Or.inr ?_⟩
    · exact (transition_verdict _ _ _).trans applied.verdict
    · simp [ControlState.supervised]
    · rw [transition_latchedFaults, transition_state]
      exact iff_of_true still rfl
    · rw [transition_state]
  intro unlatched
  apply iteInduction
  · intro disabled
    cases installed : control.output with
    | none => exact controlStayDisabled_continues coherent disabled (not_not.mp unlatched)
    | some adapter =>
      have commanded := drive_continues outcome coherent adapter 0
      dsimp only
      apply iteInduction
      · exact fun _ => controlLatchFault_continues outcome commanded.verdict (by decide) _
      · exact fun _ => commanded.trans
          (controlStayDisabled_continues commanded.coherent disabled (not_not.mp unlatched))
  intro supervised
  apply iteInduction
  · exact fun _ => controlLatchFault_continues outcome rfl (by decide) _
  intro opened
  apply iteInduction
  · exact fun _ => controlLatchFault_continues outcome rfl (by decide) _
  intro untrained
  apply iteInduction
  · exact fun _ => controlLatchFault_continues outcome rfl (by decide) _
  intro alarmed
  have moves (runPermit : U8) (accepted : (controlApplyOutput outcome control runPermit).1 = .ok) {state : ControlState}
      (running : state.supervised) (reason : U8) :
      control.Continues { (controlApplyOutput outcome control runPermit).2 with
        status := (controlApplyOutput outcome control runPermit).2.status.transition state reason } := by
    have kept := controlApplyOutput_kept outcome accepted
    apply (controlApplyOutput_continues outcome coherent runPermit).supervise
    · rw [kept]
      exact supervised
    · rw [kept]
      exact not_not.mp unlatched
    · exact running
  apply iteInduction
  · intro stopped
    dsimp only
    apply iteInduction
    · exact fun _ => controlApplyOutput_continues outcome coherent 0
    · exact fun accepted => moves 0 (not_not.mp accepted) rfl _
  intro requested
  dsimp only
  apply iteInduction
  · exact fun _ => controlApplyOutput_continues outcome coherent 1
  intro accepted
  apply iteInduction
  · exact fun _ => moves 1 (not_not.mp accepted) rfl _
  · exact fun _ => moves 1 (not_not.mp accepted) rfl _

theorem controlEvaluate_continues (coherent : control.Coherent) : control.Continues (controlEvaluate outcome control) := by
  have refreshed : control.Continues { control with status := control.status.refresh } :=
    ⟨rfl, ⟨coherent.supervised, coherent.latched⟩, id⟩
  exact refreshed.trans (controlEvaluateRefreshed_continues outcome refreshed.coherent)

theorem controlConfigureOutput_continues (coherent : control.Coherent) (output : α) :
    control.Continues (controlConfigureOutput outcome control output).2 := by
  have installs : control.Continues
      { control with output := some output, status := { control.status with outputAvailable := 1 } } :=
    ⟨rfl, ⟨coherent.supervised, coherent.latched⟩, id⟩
  have commands := installs.trans (drive_continues outcome installs.coherent output 0)
  rw [controlConfigureOutput]
  dsimp only
  split_ifs
  · exact controlLatchFault_continues outcome commands.verdict (by decide) _
  · exact commands.trans ⟨rfl, ⟨coherent.supervised, coherent.latched⟩, id⟩

theorem controlSetLocalRunRequest_continues (coherent : control.Coherent) (requested : U8) :
    control.Continues (controlSetLocalRunRequest outcome control requested) := by
  have sets : control.Continues { control with status := { control.status with
    localRunRequest := if requested ≠ 0 then 1 else 0 } } := ⟨rfl, ⟨coherent.supervised, coherent.latched⟩, id⟩
  exact sets.trans (controlEvaluate_continues outcome sets.coherent)

theorem controlSetInterlock_continues (coherent : control.Coherent) (closed : U8) :
    control.Continues (controlSetInterlock outcome control closed) := by
  have sets : control.Continues { control with status := { control.status with
    interlockClosed := if closed ≠ 0 then 1 else 0 } } := ⟨rfl, ⟨coherent.supervised, coherent.latched⟩, id⟩
  exact sets.trans (controlEvaluate_continues outcome sets.coherent)

theorem controlUpdateHealth_continues (coherent : control.Coherent) (health : HealthStatus) :
    (controlUpdateHealth outcome control health).status.verdict = (health.state, health.healthScore, health.anomalyScore) ∧
      (controlUpdateHealth outcome control health).Coherent ∧
      (control.Engaged → (controlUpdateHealth outcome control health).Engaged) := by
  have evaluates := @controlEvaluate_continues α outcome { control with status := { control.status with
    healthState := health.state
    healthScore := health.healthScore
    anomalyScore := health.anomalyScore } } ⟨coherent.supervised, coherent.latched⟩
  exact ⟨evaluates.verdict, evaluates.coherent, evaluates.engaged⟩

/-- The output callback, if there is one, reports a successful safe-off. -/
def Control.SafeOff (control : Control α) : Prop := control.output.isSome → outcome control.commands.length = true

/-- An action that takes a supervised or latched state to the disabled one. -/
def Control.Disengages (control : Control α) (action : ControlAction) : Prop :=
  action = actionDisarm ∧ control.status.supervisionEnabled ≠ 0 ∧ control.SafeOff outcome ∨
    action = actionClearFault ∧ control.status.state = .faultLatched ∧ control.status.localRunRequest = 0 ∧
      control.status.healthState = .ready ∧ control.status.interlockClosed ≠ 0 ∧ control.output.isSome ∧
      control.SafeOff outcome

structure Control.Releases (before after : Control α) : Prop where
  verdict : after.status.verdict = before.status.verdict
  coherent : after.Coherent
  disabled : after.status.supervisionEnabled = 0 ∧ after.status.state = .disabled

@[simp] theorem controlFinishDisarm_supervisionEnabled (control : Control α) (action : ControlAction) :
    (controlFinishDisarm control action).2.status.supervisionEnabled = control.status.supervisionEnabled :=
  transition_supervisionEnabled _ _ _

@[simp] theorem controlFinishDisarm_latchedFaults (control : Control α) (action : ControlAction) :
    (controlFinishDisarm control action).2.status.latchedFaults = control.status.latchedFaults :=
  transition_latchedFaults _ _ _

@[simp] theorem controlFinishDisarm_state (control : Control α) (action : ControlAction) :
    (controlFinishDisarm control action).2.status.state =
      if control.status.latchedFaults ≠ 0 then .faultLatched else .disabled :=
  transition_state _ _ _

theorem controlFinishDisarm_coherent (idle : control.status.supervisionEnabled = 0) (action : ControlAction) :
    (controlFinishDisarm control action).2.Coherent := by
  by_cases unlatched : control.status.latchedFaults = 0
  · constructor
    · rw [controlFinishDisarm_supervisionEnabled, controlFinishDisarm_state, if_neg (not_not.mpr unlatched)]
      exact iff_of_false (not_not.mpr idle) (by decide)
    · rw [controlFinishDisarm_latchedFaults, controlFinishDisarm_state, if_neg (not_not.mpr unlatched)]
      exact iff_of_false (not_not.mpr unlatched) (by decide)
  · constructor
    · rw [controlFinishDisarm_supervisionEnabled, controlFinishDisarm_state, if_pos unlatched]
      exact iff_of_false (not_not.mpr idle) (by decide)
    · rw [controlFinishDisarm_latchedFaults, controlFinishDisarm_state, if_pos unlatched]
      exact iff_of_true unlatched rfl

theorem Control.Coherent.unlatched (coherent : control.Coherent) (supervised : control.status.supervisionEnabled ≠ 0) :
    control.status.latchedFaults = 0 := by
  by_contra latched
  have running := coherent.supervised.mp supervised
  rw [coherent.latched.mp latched] at running
  exact absurd running (by decide)

theorem controlDisarm_cases (coherent : control.Coherent) (action : ControlAction) :
    control.Continues (controlDisarm outcome control action).2 ∨
      (control.status.supervisionEnabled ≠ 0 ∧ control.SafeOff outcome) ∧
        control.Releases (controlDisarm outcome control action).2 := by
  obtain ⟨status, output, commands⟩ := control
  have finishes (safe : Control.SafeOff outcome ⟨status, output, commands⟩) (later : List (Command α)) :
      let after := (controlFinishDisarm ⟨{ status with supervisionEnabled := 0 }, output, later⟩ action).2
      Control.Continues ⟨status, output, commands⟩ after ∨
        (status.supervisionEnabled ≠ 0 ∧ Control.SafeOff outcome ⟨status, output, commands⟩) ∧
          Control.Releases ⟨status, output, commands⟩ after := by
    intro after
    have verdict : after.status.verdict = status.verdict := transition_verdict _ _ _
    have coherent' : after.Coherent := controlFinishDisarm_coherent rfl action
    by_cases unlatched : status.latchedFaults = 0
    · by_cases idle : status.supervisionEnabled = 0
      · refine Or.inl ⟨verdict, coherent', ?_⟩
        rintro (supervised | latched)
        · exact absurd idle supervised
        · exact absurd unlatched (coherent.latched.mpr latched)
      · refine Or.inr ⟨⟨idle, safe⟩, verdict, coherent', controlFinishDisarm_supervisionEnabled _ _, ?_⟩
        exact (controlFinishDisarm_state _ _).trans (if_neg (not_not.mpr unlatched))
    · refine Or.inl ⟨verdict, coherent', fun _ => Or.inr ?_⟩
      exact (controlFinishDisarm_state _ _).trans (if_pos unlatched)
  rw [controlDisarm]
  cases output with
  | none => exact finishes (fun installed => absurd installed (by simp)) commands
  | some adapter =>
    dsimp only [drive]
    split_ifs with failed
    · left
      dsimp only
      apply controlLatchFault_continues outcome _ faultOutputFailure_ne
      rfl
    · exact finishes (fun _ => by simpa using failed) _

theorem controlClearFault_continues (coherent : control.Coherent) (action : ControlAction) :
    control.Continues (controlClearFault outcome control action).2 ∨
      control.Disengages outcome actionClearFault ∧ control.Releases (controlClearFault outcome control action).2 := by
  rw [controlClearFault]
  split_ifs with armed requested unready opened
  · exact Or.inl coherent.continues
  · exact Or.inl coherent.continues
  · exact Or.inl coherent.continues
  · exact Or.inl coherent.continues
  obtain ⟨status, output, commands⟩ := control
  cases output with
  | none => exact Or.inl coherent.continues
  | some adapter =>
    dsimp only [drive]
    split_ifs with failed
    · left
      dsimp only
      apply controlLatchFault_continues outcome _ faultOutputFailure_ne
      rfl
    have idle := not_not.mp armed
    generalize cleared : ({ status with latchedFaults := 0, runPermit := 0 } : ControlStatus) = unlatched
    have verdict : (unlatched.transition .disabled (action.setWidth 8)).refresh.verdict = status.verdict := by
      rw [← cleared]
      exact transition_verdict _ _ _
    have coherent' : Control.Coherent (⟨(unlatched.transition .disabled (action.setWidth 8)).refresh, some adapter,
        ⟨adapter, 0, outcome commands.length⟩ :: commands⟩ : Control α) := by
      rw [← cleared]
      constructor
      · simpa [ControlStatus.refresh, ControlState.supervised] using idle
      · simp [ControlStatus.refresh]
    by_cases latched : status.state = .faultLatched
    · refine Or.inr ⟨Or.inr ⟨rfl, latched, not_not.mp requested, not_not.mp unready, opened, rfl, ?_⟩, verdict,
        coherent', ?_, ?_⟩
      · exact fun _ => by simpa using failed
      · rw [← cleared]
        simpa [ControlStatus.refresh] using idle
      · simp [ControlStatus.refresh]
    · refine Or.inl ⟨verdict, coherent', ?_⟩
      rintro (supervised | still)
      · exact absurd idle supervised
      · exact absurd still latched

theorem controlArm_continues (coherent : control.Coherent) (action : ControlAction) :
    control.Continues (controlArm outcome control action).2 := by
  rw [controlArm]
  split_ifs with latched requested unready opened missing
  · exact coherent.continues
  · exact coherent.continues
  · exact coherent.continues
  · exact coherent.continues
  · exact coherent.continues
  dsimp only
  have applied := controlApplyOutput_continues outcome coherent 0
  split_ifs with refused
  · exact applied
  have kept := controlApplyOutput_kept outcome (not_not.mp refused)
  generalize (controlApplyOutput outcome control 0).2 = safe at applied kept ⊢
  refine ⟨?_, ⟨?_, ?_⟩, fun _ => Or.inl ?_⟩
  · exact (transition_verdict _ _ _).trans applied.verdict
  · simp [ControlStatus.refresh, ControlState.supervised]
  · simpa [ControlStatus.refresh, kept] using latched
  · simp [ControlStatus.refresh]

theorem controlAction_cases (coherent : control.Coherent) (action : ControlAction) :
    control.Continues (controlAction outcome control action).2 ∨
      control.Disengages outcome action ∧ control.Releases (controlAction outcome control action).2 := by
  rw [controlAction]
  split_ifs with disarm clear arm
  · rcases controlDisarm_cases outcome coherent action with continues | ⟨conditions, releases⟩
    · exact Or.inl continues
    · exact Or.inr ⟨Or.inl ⟨disarm, conditions⟩, releases⟩
  · rcases controlClearFault_continues outcome coherent action with continues | ⟨conditions, releases⟩
    · exact Or.inl continues
    · exact Or.inr ⟨clear ▸ conditions, releases⟩
  · exact Or.inl (controlArm_continues outcome coherent action)
  · exact Or.inl coherent.continues

theorem Control.Disengages.engaged {action : ControlAction} (conditions : control.Disengages outcome action) :
    control.Engaged := by
  rcases conditions with ⟨-, supervised, -⟩ | ⟨-, latched, -⟩
  · exact Or.inl supervised
  · exact Or.inr latched

theorem controlAction_disengages (coherent : control.Coherent) {action : ControlAction}
    (conditions : control.Disengages outcome action) : (controlAction outcome control action).2.status.state = .disabled := by
  obtain ⟨status, output, commands⟩ := control
  rcases conditions with ⟨rfl, supervised, safe⟩ | ⟨rfl, latched, requested, ready, closed, installed, safe⟩
  · have unlatched := coherent.unlatched supervised
    rw [controlAction, if_pos rfl, controlDisarm]
    cases output with
    | none => exact (controlFinishDisarm_state _ _).trans (if_neg (not_not.mpr unlatched))
    | some adapter =>
      have applied : outcome commands.length = true := safe rfl
      simp only [drive, applied, Bool.not_true, Bool.false_eq_true, if_false]
      exact (controlFinishDisarm_state _ _).trans (if_neg (not_not.mpr unlatched))
  · have idle : status.supervisionEnabled = 0 := by
      by_contra supervised
      exact coherent.latched.mpr latched (coherent.unlatched supervised)
    rw [controlAction, if_neg (by decide), if_pos rfl, controlClearFault]
    rw [if_neg (not_not.mpr idle), if_neg (not_not.mpr requested), if_neg (not_not.mpr ready), if_neg closed]
    cases output with
    | none => exact absurd installed (by simp)
    | some adapter =>
      have applied : outcome commands.length = true := safe rfl
      simp only [drive, applied, Bool.not_true, Bool.false_eq_true, if_false]
      exact transition_state _ _ _

def Operation.Local : Operation α → Prop
  | .updateHealth _ => False
  | .action _ => False
  | _ => True

theorem step_continues (coherent : control.Coherent) {operation : Operation α} (isLocal : operation.Local) :
    control.Continues (control.step outcome operation) := by
  cases operation with
  | configureOutput output => exact controlConfigureOutput_continues outcome coherent output
  | setLocalRunRequest requested => exact controlSetLocalRunRequest_continues outcome coherent requested
  | setInterlock closed => exact controlSetInterlock_continues outcome coherent closed
  | updateHealth health => exact isLocal.elim
  | action action => exact isLocal.elim

end coherence

end Guardian.Supervision
