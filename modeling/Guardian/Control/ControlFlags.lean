import Guardian.Control.ControlRun

namespace Guardian.Supervision

open Word Health

def Canonical (flag : U8) : Prop := flag = 0 ∨ flag = 1

theorem canonical_zero : Canonical 0 := Or.inl rfl
theorem canonical_one : Canonical 1 := Or.inr rfl

theorem canonical_ite (condition : Prop) [Decidable condition] : Canonical (if condition then 1 else 0) := by
  by_cases held : condition
  · rw [if_pos held]
    exact canonical_one
  · rw [if_neg held]
    exact canonical_zero

structure ControlStatus.Flagged (status : ControlStatus) : Prop where
  supervisionEnabled : Canonical status.supervisionEnabled
  localRunRequest : Canonical status.localRunRequest
  runPermit : Canonical status.runPermit
  interlockClosed : Canonical status.interlockClosed
  outputAvailable : Canonical status.outputAvailable

section Status

variable {status : ControlStatus}

theorem ControlStatus.Flagged.transition (flagged : status.Flagged) (state : ControlState) (reason : U8) :
    (status.transition state reason).Flagged := by
  unfold ControlStatus.transition
  split_ifs
  · exact ⟨flagged.1, flagged.2, flagged.3, flagged.4, flagged.5⟩
  · exact flagged

theorem ControlStatus.Flagged.refresh (flagged : status.Flagged) : status.refresh.Flagged :=
  ⟨flagged.1, flagged.2, flagged.3, flagged.4, flagged.5⟩

theorem ControlStatus.Flagged.permit (flagged : status.Flagged) {runPermit : U8} (canonical : Canonical runPermit) :
    ({ status with runPermit } : ControlStatus).Flagged :=
  ⟨flagged.1, flagged.2, canonical, flagged.4, flagged.5⟩

theorem ControlStatus.Flagged.supervise (flagged : status.Flagged) {supervisionEnabled : U8}
    (canonical : Canonical supervisionEnabled) : ({ status with supervisionEnabled } : ControlStatus).Flagged :=
  ⟨canonical, flagged.2, flagged.3, flagged.4, flagged.5⟩

end Status

section Policy

variable {α : Type} (outcome : Nat → Bool) {control : Control α}

def Control.Flagged (control : Control α) : Prop := control.status.Flagged

theorem controlInit_flagged : (controlInit : Control α).Flagged :=
  ⟨canonical_zero, canonical_zero, canonical_zero, canonical_zero, canonical_zero⟩

theorem controlLatchFault_flagged (flagged : control.Flagged) (faults : U16) (reason : U8) :
    (controlLatchFault outcome control faults reason).Flagged := by
  obtain ⟨latchedFaults, count, commands, same, -⟩ := controlLatchFault_eq outcome control faults reason
  rw [same]
  have withdrawn : ({ control.status with
      latchedFaults, faultLatchCount := count, supervisionEnabled := 0, runPermit := 0 } : ControlStatus).Flagged :=
    ⟨canonical_zero, flagged.2, canonical_zero, flagged.4, flagged.5⟩
  exact (withdrawn.transition _ _).refresh

theorem drive_flagged (flagged : control.Flagged) (adapter : α) (runPermit : U8) :
    (drive outcome control adapter runPermit).2.Flagged := flagged

theorem controlApplyOutput_flagged (flagged : control.Flagged) (runPermit : U8) :
    (controlApplyOutput outcome control runPermit).2.Flagged := by
  unfold controlApplyOutput
  cases control.output with
  | none =>
    have unavailable : ({ control.status with outputAvailable := 0 } : ControlStatus).Flagged :=
      ⟨flagged.1, flagged.2, flagged.3, flagged.4, canonical_zero⟩
    exact unavailable.refresh
  | some adapter =>
    have canonical : Canonical (if runPermit ≠ 0 then 1 else 0) := canonical_ite _
    generalize (if runPermit ≠ 0 then 1 else 0 : U8) = runPermit at canonical
    dsimp only
    by_cases failed : (!(drive outcome control adapter runPermit).1) = true
    · rw [if_pos failed]
      exact controlLatchFault_flagged outcome (drive_flagged outcome flagged adapter runPermit) _ _
    · rw [if_neg failed]
      exact flagged.permit canonical

theorem controlStayDisabled_flagged (flagged : control.Flagged) : (controlStayDisabled control).Flagged :=
  (ControlStatus.Flagged.permit flagged canonical_zero).transition _ _

theorem controlEvaluateRefreshed_flagged (flagged : control.Flagged) :
    (controlEvaluateRefreshed outcome control).Flagged := by
  have applied (runPermit : U8) : (controlApplyOutput outcome control runPermit).2.Flagged :=
    controlApplyOutput_flagged outcome flagged runPermit
  have latched (faults : U16) (reason : U8) : (controlLatchFault outcome control faults reason).Flagged :=
    controlLatchFault_flagged outcome flagged faults reason
  unfold controlEvaluateRefreshed
  dsimp only
  split_ifs
  · exact ((applied 0).supervise canonical_zero).transition _ _
  · cases control.output with
    | none => exact controlStayDisabled_flagged flagged
    | some adapter =>
      dsimp only
      split_ifs
      · exact controlLatchFault_flagged outcome (drive_flagged outcome flagged adapter 0) _ _
      · exact controlStayDisabled_flagged (drive_flagged outcome flagged adapter 0)
  · exact latched _ _
  · exact latched _ _
  · exact latched _ _
  · exact applied 0
  · exact (applied 0).transition _ _
  · exact applied 1
  all_goals exact (applied 1).transition _ _

theorem controlEvaluate_flagged (flagged : control.Flagged) : (controlEvaluate outcome control).Flagged :=
  controlEvaluateRefreshed_flagged outcome (ControlStatus.Flagged.refresh flagged)

theorem controlUpdateHealth_flagged (flagged : control.Flagged) (health : HealthStatus) :
    (controlUpdateHealth outcome control health).Flagged := by
  apply controlEvaluate_flagged
  exact ⟨flagged.1, flagged.2, flagged.3, flagged.4, flagged.5⟩

theorem controlDisarm_flagged (flagged : control.Flagged) (action : ControlAction) :
    (controlDisarm outcome control action).2.Flagged := by
  have unsupervised : ({ control.status with supervisionEnabled := 0 } : ControlStatus).Flagged :=
    flagged.supervise canonical_zero
  have finished : ((({ control.status with supervisionEnabled := 0, runPermit := 0 } : ControlStatus).transition
      (if control.status.latchedFaults ≠ 0 then .faultLatched else .disabled) (action.setWidth 8)).refresh).Flagged :=
    ((unsupervised.permit canonical_zero).transition _ _).refresh
  unfold controlDisarm
  dsimp only
  cases control.output with
  | none => exact finished
  | some adapter =>
    dsimp only
    split_ifs
    · apply controlLatchFault_flagged
      exact unsupervised
    · exact finished

theorem controlClearFault_flagged (flagged : control.Flagged) (action : ControlAction) :
    (controlClearFault outcome control action).2.Flagged := by
  unfold controlClearFault
  split_ifs
  · exact flagged
  · exact flagged
  · exact flagged
  · exact flagged
  cases control.output with
  | none => exact flagged
  | some adapter =>
    dsimp only
    split_ifs
    · exact controlLatchFault_flagged outcome (drive_flagged outcome flagged adapter 0) _ _
    · have cleared : ({ control.status with latchedFaults := 0, runPermit := 0 } : ControlStatus).Flagged :=
        ⟨flagged.1, flagged.2, canonical_zero, flagged.4, flagged.5⟩
      exact (cleared.transition _ _).refresh

theorem controlArm_flagged (flagged : control.Flagged) (action : ControlAction) :
    (controlArm outcome control action).2.Flagged := by
  have applied : (controlApplyOutput outcome control 0).2.Flagged := controlApplyOutput_flagged outcome flagged 0
  unfold controlArm
  dsimp only
  split_ifs
  · exact flagged
  · exact flagged
  · exact flagged
  · exact flagged
  · exact flagged
  · exact applied
  · exact ((applied.supervise canonical_one).transition _ _).refresh

theorem controlAction_flagged (flagged : control.Flagged) (action : ControlAction) :
    (controlAction outcome control action).2.Flagged := by
  unfold controlAction
  split_ifs
  · exact controlDisarm_flagged outcome flagged action
  · exact controlClearFault_flagged outcome flagged action
  · exact controlArm_flagged outcome flagged action
  · exact flagged

theorem step_flagged (operation : Operation α) (flagged : control.Flagged) : (control.step outcome operation).Flagged := by
  cases operation with
  | configureOutput output =>
    have installed : ({ control.status with outputAvailable := 1 } : ControlStatus).Flagged :=
      ⟨flagged.1, flagged.2, flagged.3, flagged.4, canonical_one⟩
    unfold Control.step Control.perform controlConfigureOutput
    dsimp only
    split_ifs
    · apply controlLatchFault_flagged
      exact installed
    · exact (installed.permit canonical_zero).refresh
  | setLocalRunRequest requested =>
    apply controlEvaluate_flagged
    exact ⟨flagged.1, canonical_ite _, flagged.3, flagged.4, flagged.5⟩
  | setInterlock closed =>
    apply controlEvaluate_flagged
    exact ⟨flagged.1, flagged.2, flagged.3, canonical_ite _, flagged.5⟩
  | updateHealth health => exact controlUpdateHealth_flagged outcome flagged health
  | action action => exact controlAction_flagged outcome flagged action

end Policy

end Guardian.Supervision
