import Guardian.Control.ControlCoherence
import Guardian.Lib.Word
import Guardian.Simulator.SimulatorControl

namespace Guardian.Simulator

open Word Health Supervision

/-- The simulator whose fields are those of the device, but for the reason of the last transition. -/
def mirror (status : Supervision.ControlStatus) (reason : Nat) : SimulatorControlModel where
  state := status.state
  supervisionEnabled := status.supervisionEnabled ≠ 0
  localRunRequest := status.localRunRequest ≠ 0
  runPermit := status.runPermit ≠ 0
  interlockClosed := status.interlockClosed ≠ 0
  healthState := status.healthState
  outputAvailable := status.outputAvailable ≠ 0
  latchedFaults := status.latchedFaults.toNat
  healthScore := status.healthScore.toNat
  anomalyScore := status.anomalyScore.toNat
  transitionCount := status.transitionCount.toNat
  faultLatchCount := status.faultLatchCount.toNat
  lastTransitionReason := reason

theorem incrementU32_toNat (value : U32) : (incrementU32 value).toNat = min 0xFFFFFFFF (value.toNat + 1) :=
  saturate_toNat (by decide) value

/-- What a transition does to the reason that the simulator keeps. -/
def reasonAfter (before state : ControlState) (reason kept : Nat) : Nat := if before ≠ state then reason else kept

theorem mirror_transition (status : Supervision.ControlStatus) (state : ControlState) (reason own : U8) (kept : Nat) :
    (mirror status kept).transition state reason.toNat =
      mirror (status.transition state own) (reasonAfter status.state state reason.toNat kept) := by
  unfold SimulatorControlModel.transition Supervision.ControlStatus.transition reasonAfter
  by_cases moved : status.state ≠ state
  · rw [if_pos moved, if_pos moved, if_pos (show (mirror status kept).state ≠ state from moved), show (0xFF : Nat) = 2 ^ 8 - 1 from rfl, toNat_and_mask]
    simp [mirror, incrementU32_toNat]
  · rw [if_neg moved, if_neg moved, if_neg (show ¬ (mirror status kept).state ≠ state from moved)]

theorem mirror_refresh (status : Supervision.ControlStatus) (kept : Nat) :
    mirror status.refresh kept = mirror status kept := rfl

theorem faultIf_toNat {condition same : Prop} [Decidable condition] [Decidable same] (fault : U16)
    (equivalent : condition ↔ same) : (if condition then fault.toNat else 0) = (faultIf same fault).toNat := by
  unfold faultIf
  by_cases holds : same
  · simp [equivalent, holds]
  · simp [equivalent, holds]

theorem mirror_activeFaults (status : Supervision.ControlStatus) (kept : Nat) :
    (mirror status kept).activeFaults = (controlActiveFaults status).toNat := by
  have failed : (mirror status kept).latchedFaults &&& simFaultOutputFailure ≠ 0 ↔
      status.latchedFaults &&& faultOutputFailure ≠ 0 := by
    rw [← toNat_ne_zero, BitVec.toNat_and]
    rfl
  have opened : (!(mirror status kept).interlockClosed) = true ↔ status.interlockClosed = 0 := by simp [mirror]
  have missing : (!(mirror status kept).outputAvailable) = true ↔ status.outputAvailable = 0 := by simp [mirror]
  simp only [SimulatorControlModel.activeFaults, controlActiveFaults, BitVec.toNat_or]
  rw [← faultIf_toNat faultHealthNotReady Iff.rfl, ← faultIf_toNat faultHealthAlarm Iff.rfl,
    ← faultIf_toNat faultInterlockOpen opened, ← faultIf_toNat faultOutputUnavailable missing,
    ← faultIf_toNat faultOutputFailure failed]
  rfl

/-- The reasons after a step, unless the step led from `degraded` to `active`. -/
def Keeps (before after : Supervision.ControlStatus) (kept next : Nat) : Prop :=
  (after.state = before.state → after.lastTransitionReason = before.lastTransitionReason ∧ next = kept) ∧
    (after.state ≠ before.state → ¬ (before.state = .degraded ∧ after.state = .active) →
      next = after.lastTransitionReason.toNat)

theorem keeps_transition (status : Supervision.ControlStatus) (state : ControlState) {reason : Nat} {own : U8}
    (kept : Nat) (same : ¬ (status.state = .degraded ∧ state = .active) → reason = own.toNat) :
    Keeps status (status.transition state own) kept (reasonAfter status.state state reason kept) := by
  unfold Keeps reasonAfter
  rw [transition_state]
  refine ⟨fun still => ?_, fun moved other => ?_⟩
  · rw [Supervision.ControlStatus.transition, if_neg (not_not.mpr still.symm), if_neg (not_not.mpr still.symm)]
    exact ⟨rfl, rfl⟩
  · rw [Supervision.ControlStatus.transition, if_pos moved.symm, if_pos moved.symm]
    exact same other

theorem transition_self (status : Supervision.ControlStatus) {state : ControlState} (same : status.state = state)
    (reason : U8) : status.transition state reason = status := if_neg (not_not.mpr same)

theorem SimulatorControlModel.transition_self (model : SimulatorControlModel) {state : ControlState}
    (same : model.state = state) (reason : Nat) : model.transition state reason = model := if_neg (not_not.mpr same)

section working

variable {α : Type} {control : Control α} {adapter : α}

def working : Nat → Bool := fun _ => true

theorem controlLatchFault_working (installed : control.output = some adapter) (faults : U16) (reason : U8) :
    (controlLatchFault working control faults reason).status =
        ({ control.status with
          latchedFaults := control.status.latchedFaults ||| faults
          faultLatchCount :=
            if faults &&& ~~~control.status.latchedFaults ≠ 0 then incrementU32 control.status.faultLatchCount
            else control.status.faultLatchCount
          supervisionEnabled := 0
          runPermit := 0 }.transition .faultLatched reason).refresh ∧
      (controlLatchFault working control faults reason).output = some adapter := by
  obtain ⟨status, output, commands⟩ := control
  cases installed
  exact ⟨rfl, rfl⟩

theorem mirror_latchFault (installed : control.output = some adapter) (faults : U16) (reason : U8) (kept : Nat) :
    (mirror control.status kept).latchFault faults.toNat reason.toNat =
      mirror (controlLatchFault working control faults reason).status
        (reasonAfter control.status.state .faultLatched reason.toNat kept) := by
  rw [(controlLatchFault_working installed faults reason).1, mirror_refresh]
  refine Eq.trans ?_ (mirror_transition _ .faultLatched reason reason kept)
  unfold SimulatorControlModel.latchFault
  have fresh : Nat.ldiff faults.toNat (mirror control.status kept).latchedFaults ≠ 0 ↔
      faults &&& ~~~control.status.latchedFaults ≠ 0 := by
    rw [← toNat_ne_zero, ldiff_toNat]
    rfl
  have counted : (if Nat.ldiff faults.toNat (mirror control.status kept).latchedFaults ≠ 0 then
      min 0xFFFFFFFF ((mirror control.status kept).faultLatchCount + 1)
      else (mirror control.status kept).faultLatchCount) =
      (if faults &&& ~~~control.status.latchedFaults ≠ 0 then incrementU32 control.status.faultLatchCount
        else control.status.faultLatchCount).toNat := by
    rw [apply_ite BitVec.toNat, incrementU32_toNat]
    simp only [fresh]
    rfl
  simp only [counted]
  simp [mirror]

/-- What the device makes of `before`, and the reason that the simulator keeps at the same step. -/
structure Mirrors (adapter : α) (before : Supervision.ControlStatus) (kept : Nat) (device : Control α)
    (simulator : SimulatorControlModel) : Prop where
  output : device.output = some adapter
  agrees : ∃ next, simulator = mirror device.status next ∧ Keeps before device.status kept next

theorem latchFault_mirrors (installed : control.output = some adapter) (faults : U16) (reason : U8) (kept : Nat) :
    Mirrors adapter control.status kept (controlLatchFault working control faults reason)
      ((mirror control.status kept).latchFault faults.toNat reason.toNat) := by
  obtain ⟨status, output⟩ := controlLatchFault_working installed faults reason
  refine ⟨output, _, mirror_latchFault installed faults reason kept, ?_⟩
  rw [status]
  exact keeps_transition _ .faultLatched kept (fun _ => rfl)

theorem applyOutput_mirrors (installed : control.output = some adapter) (runPermit : U8) (state : ControlState)
    (reason own : U8) (kept : Nat) (same : ¬ (control.status.state = .degraded ∧ state = .active) → reason = own) :
    Mirrors adapter control.status kept
      { (controlApplyOutput working control runPermit).2 with
        status := (controlApplyOutput working control runPermit).2.status.transition state own }
      ({ mirror control.status kept with runPermit := runPermit ≠ 0 }.transition state reason.toNat) := by
  rw [controlApplyOutput_applied working installed rfl]
  let commanded : Supervision.ControlStatus := { control.status with runPermit := if runPermit ≠ 0 then 1 else 0 }
  have shown : mirror commanded kept = { mirror control.status kept with runPermit := runPermit ≠ 0 } := by
    by_cases given : runPermit = 0 <;> simp [commanded, mirror, given]
  refine ⟨installed, _, ?_, keeps_transition commanded state kept (fun other => congrArg BitVec.toNat (same other))⟩
  rw [← shown]
  exact mirror_transition commanded state reason own kept

theorem faults_active : ∀ notReady alarm open' unavailable failed : Bool,
    let faults := faultIf notReady faultHealthNotReady ||| faultIf alarm faultHealthAlarm |||
      faultIf open' faultInterlockOpen ||| faultIf unavailable faultOutputUnavailable ||| faultIf failed faultOutputFailure
    (faults &&& faultInterlockOpen ≠ 0 ↔ open' = true) ∧ (faults &&& faultHealthNotReady ≠ 0 ↔ notReady = true) ∧
      (faults &&& faultHealthAlarm ≠ 0 ↔ alarm = true) := by
  decide

theorem controlEvaluateRefreshed_idle (installed : control.output = some adapter)
    (idle : control.status.supervisionEnabled = 0) (unlatched : control.status.latchedFaults = 0)
    (disabled : control.status.state = .disabled) :
    controlEvaluateRefreshed working control =
      ⟨{ control.status with runPermit := 0 }, some adapter, ⟨adapter, 0, true⟩ :: control.commands⟩ := by
  obtain ⟨status, output, commands⟩ := control
  cases installed
  let safe : Supervision.ControlStatus := { status with runPermit := 0 }
  rw [controlEvaluateRefreshed, if_neg (not_not.mpr unlatched), if_pos idle]
  change (⟨safe.transition .disabled safe.lastTransitionReason, some adapter, _⟩ : Control α) = _
  rw [transition_self safe disabled]
  rfl

theorem SimulatorControlModel.evaluate_idle {model : SimulatorControlModel} (idle : model.supervisionEnabled = false)
    (unlatched : model.latchedFaults = 0) (disabled : model.state = .disabled) :
    model.evaluate = { model with runPermit := false } := by
  rw [evaluate, if_neg (not_not.mpr unlatched), if_pos (by rw [idle, Bool.not_false])]
  exact SimulatorControlModel.transition_self { model with runPermit := false } disabled _

theorem evaluateRefreshed_mirrors (installed : control.output = some adapter) (coherent : control.Coherent)
    (refreshed : control.Refreshed) (kept : Nat) :
    Mirrors adapter control.status kept (controlEvaluateRefreshed working control)
      (mirror control.status kept).evaluate := by
  obtain ⟨opened, fresh, alarmed⟩ := faults_active
    (control.status.healthState = .untrained ∨ control.status.healthState = .learning)
    (control.status.healthState = .alarm) (control.status.interlockClosed = 0) (control.status.outputAvailable = 0)
    (control.status.latchedFaults &&& faultOutputFailure ≠ 0)
  have faults := refreshed
  rw [Control.Refreshed, controlActiveFaults] at faults
  simp only [← faults, decide_eq_true_eq] at opened fresh alarmed
  have latch : (mirror control.status kept).latchedFaults ≠ 0 ↔ control.status.latchedFaults ≠ 0 := toNat_ne_zero _
  have supervision : (!(mirror control.status kept).supervisionEnabled) = true ↔ control.status.supervisionEnabled = 0 := by
    simp [mirror]
  have interlock : (!(mirror control.status kept).interlockClosed) = true ↔ control.status.interlockClosed = 0 := by
    simp [mirror]
  have request : (!(mirror control.status kept).localRunRequest) = true ↔ control.status.localRunRequest = 0 := by
    simp [mirror]
  have health : (mirror control.status kept).healthState = control.status.healthState := rfl
  have applied (runPermit : U8) : (controlApplyOutput working control runPermit).1 = .ok := by
    rw [controlApplyOutput_applied working installed rfl]
  by_cases resting : control.status.supervisionEnabled = 0 ∧ control.status.latchedFaults = 0
  · obtain ⟨idle, unlatched⟩ := resting
    have disabled := coherent.disabled idle unlatched
    rw [controlEvaluateRefreshed_idle installed idle unlatched disabled, SimulatorControlModel.evaluate_idle
      (Bool.not_eq_true' _ |>.mp (supervision.mpr idle)) (not_not.mp (mt latch.mp (not_not.mpr unlatched))) disabled]
    exact ⟨rfl, kept, rfl, fun _ => ⟨rfl, rfl⟩, fun moved => absurd rfl moved⟩
  unfold controlEvaluateRefreshed SimulatorControlModel.evaluate
  simp only [latch, supervision, interlock, request, health, opened, fresh, alarmed, applied]
  by_cases latched : control.status.latchedFaults ≠ 0
  · have held := coherent.latched.mp latched
    let safe : Supervision.ControlStatus := { control.status with runPermit := 0, supervisionEnabled := 0 }
    rw [if_pos latched, if_pos latched, controlApplyOutput_applied working installed rfl,
      SimulatorControlModel.transition_self _ held]
    change Mirrors adapter control.status kept
      { control with status := safe.transition .faultLatched safe.lastTransitionReason, commands := _ } _
    rw [transition_self safe held]
    exact ⟨installed, kept, rfl, fun _ => ⟨rfl, rfl⟩, fun moved => absurd rfl moved⟩
  rw [if_neg latched, if_neg latched]
  have idle : ¬ control.status.supervisionEnabled = 0 := fun idle => resting ⟨idle, not_not.mp latched⟩
  rw [if_neg idle, if_neg idle]
  by_cases apart : control.status.interlockClosed = 0
  · rw [if_pos apart, if_pos apart]
    exact latchFault_mirrors installed faultInterlockOpen reasonInterlock kept
  rw [if_neg apart, if_neg apart]
  by_cases untrained : control.status.healthState = .untrained ∨ control.status.healthState = .learning
  · rw [if_pos untrained, if_pos untrained]
    exact latchFault_mirrors installed faultHealthNotReady reasonHealthNotReady kept
  rw [if_neg untrained, if_neg untrained]
  by_cases alarm : control.status.healthState = .alarm
  · rw [if_pos alarm, if_pos alarm]
    exact latchFault_mirrors installed faultHealthAlarm reasonHealthAlarm kept
  rw [if_neg alarm, if_neg alarm]
  by_cases waiting : control.status.localRunRequest = 0
  · rw [if_pos waiting, if_pos waiting]
    exact applyOutput_mirrors installed 0 .armed reasonLocalStop reasonLocalStop kept (fun _ => rfl)
  rw [if_neg waiting, if_neg waiting]
  have commanded : (controlApplyOutput working control 1).2.status.healthState = control.status.healthState ∧
      (controlApplyOutput working control 1).2.status.state = control.status.state := by
    rw [controlApplyOutput_applied working installed rfl]
    exact ⟨rfl, rfl⟩
  simp only [commanded, ne_eq, not_true_eq_false, if_false]
  by_cases warned : control.status.healthState = .warning
  · rw [if_pos warned, if_pos warned]
    exact applyOutput_mirrors installed 1 .degraded reasonHealthWarning reasonHealthWarning kept (fun _ => rfl)
  · rw [if_neg warned, if_neg warned]
    -- Only here do the reasons of the two modules differ: a recovery has one of its own on the device.
    apply applyOutput_mirrors installed 1 .active reasonLocalRun
    intro other
    exact (if_neg (fun degraded => other ⟨degraded, rfl⟩)).symm

theorem evaluate_mirrors (status : Supervision.ControlStatus) (installed : control.output = some adapter)
    (coherent : control.Coherent) (same : status.state = control.status.state)
    (reason : status.lastTransitionReason = control.status.lastTransitionReason)
    (supervision : status.supervisionEnabled = control.status.supervisionEnabled)
    (latch : status.latchedFaults = control.status.latchedFaults) (kept : Nat) :
    Mirrors adapter control.status kept (controlEvaluate working { control with status }) (mirror status kept).evaluate := by
  let fresh : Control α := { control with status := status.refresh }
  have held : fresh.Coherent := by
    constructor
    · change status.supervisionEnabled ≠ 0 ↔ status.state.supervised
      rw [supervision, same]
      exact coherent.supervised
    · change status.latchedFaults ≠ 0 ↔ status.state = .faultLatched
      rw [latch, same]
      exact coherent.latched
  have ready : fresh.output = some adapter := installed
  obtain ⟨output, next, agrees, still, moved⟩ := evaluateRefreshed_mirrors ready held rfl kept
  refine ⟨output, next, agrees, ?_, ?_⟩
  · rw [← same, ← reason]
    exact still
  · rw [← same]
    exact moved

theorem transition_mirrors (before status : Supervision.ControlStatus) (commands : List (Command α))
    (same : status.state = before.state) (reason : status.lastTransitionReason = before.lastTransitionReason)
    (state : ControlState) (own : U8) (kept : Nat) :
    Mirrors adapter before kept ⟨(status.transition state own).refresh, some adapter, commands⟩
      ((mirror status kept).transition state own.toNat) := by
  refine ⟨rfl, reasonAfter status.state state own.toNat kept, ?_, ?_⟩
  · exact mirror_transition status state own own kept
  · have keeps := keeps_transition status state kept (fun _ => (rfl : own.toNat = own.toNat))
    unfold Keeps at keeps ⊢
    rw [same, reason] at keeps
    rw [same]
    exact keeps

theorem Mirrors.unchanged (installed : control.output = some adapter) (kept : Nat) :
    Mirrors adapter control.status kept control (mirror control.status kept) :=
  ⟨installed, kept, rfl, fun _ => ⟨rfl, rfl⟩, fun moved => absurd rfl moved⟩

theorem disarm_mirrors (installed : control.output = some adapter) (kept : Nat) :
    Mirrors adapter control.status kept (controlDisarm working control actionDisarm).2 (mirror control.status kept).disarm := by
  obtain ⟨status, output, commands⟩ := control
  cases installed
  let safe : Supervision.ControlStatus := { status with supervisionEnabled := 0, runPermit := 0 }
  change Mirrors adapter status kept
    ⟨(safe.transition (if safe.latchedFaults ≠ 0 then .faultLatched else .disabled) 2).refresh, some adapter, _⟩ _
  unfold SimulatorControlModel.disarm
  have latch : (mirror status kept).latchedFaults ≠ 0 ↔ safe.latchedFaults ≠ 0 := toNat_ne_zero _
  simp only [latch]
  by_cases latched : safe.latchedFaults ≠ 0
  · rw [if_pos latched, if_pos latched]
    exact transition_mirrors status safe _ rfl rfl .faultLatched 2 kept
  · rw [if_neg latched, if_neg latched]
    exact transition_mirrors status safe _ rfl rfl .disabled 2 kept

def SafeEntry (status : Supervision.ControlStatus) : Prop :=
  status.localRunRequest = 0 ∧ status.healthState = .ready ∧ status.interlockClosed ≠ 0

instance (status : Supervision.ControlStatus) : Decidable (SafeEntry status) :=
  inferInstanceAs (Decidable (_ ∧ _ ∧ _))

theorem mirror_unsafeEntry (available : control.status.outputAvailable ≠ 0) (kept : Nat) :
    (mirror control.status kept).unsafeEntry = true ↔ ¬ SafeEntry control.status := by
  have present : ¬ control.status.outputAvailable = 0#8 := available
  rw [← not_iff_not, Bool.not_eq_true, not_not]
  simp [SimulatorControlModel.unsafeEntry, mirror, SafeEntry, present, and_assoc]

theorem ite_or {β : Type} {first second : Prop} [Decidable first] [Decidable second] (failure rest : β) :
    (if first then failure else if second then failure else rest) = if first ∨ second then failure else rest := by
  by_cases one : first
  · rw [if_pos one, if_pos (Or.inl one)]
  · by_cases two : second
    · rw [if_neg one, if_pos two, if_pos (Or.inr two)]
    · rw [if_neg one, if_neg two, if_neg (fun both => both.elim one two)]

theorem ite_safeEntry {β : Type} (status : Supervision.ControlStatus) (failure rest : β) :
    (if status.localRunRequest ≠ 0 then failure else if status.healthState ≠ .ready then failure
      else if status.interlockClosed = 0 then failure else rest) = if ¬ SafeEntry status then failure else rest := by
  rw [ite_or, ite_or]
  congr 1
  rw [SafeEntry, not_and_or, not_and_or, not_not, or_assoc]

theorem controlClearFault_working (installed : control.output = some adapter) (action : ControlAction) :
    controlClearFault working control action =
      if control.status.supervisionEnabled ≠ 0 ∨ ¬ SafeEntry control.status then (.errorDenied, control)
      else (.ok, ⟨({ control.status with latchedFaults := 0, runPermit := 0 }.transition .disabled
        (action.setWidth 8)).refresh, some adapter, ⟨adapter, 0, true⟩ :: control.commands⟩) := by
  obtain ⟨status, output, commands⟩ := control
  cases installed
  rw [← ite_or, ← ite_safeEntry]
  rfl

theorem controlArm_working (installed : control.output = some adapter) (action : ControlAction) :
    controlArm working control action =
      if control.status.latchedFaults ≠ 0 ∨ ¬ SafeEntry control.status then (.errorDenied, control)
      else (.ok, ⟨({ control.status with runPermit := 0, supervisionEnabled := 1 }.transition .armed
        (action.setWidth 8)).refresh, some adapter, ⟨adapter, 0, true⟩ :: control.commands⟩) := by
  obtain ⟨status, output, commands⟩ := control
  cases installed
  rw [← ite_or, ← ite_safeEntry]
  rfl

theorem clearFault_simulated (available : control.status.outputAvailable ≠ 0) (kept : Nat) :
    (mirror control.status kept).action 3 =
      if control.status.supervisionEnabled ≠ 0 ∨ ¬ SafeEntry control.status then
        (.error .runtimeError, mirror control.status kept)
      else
        let cleared := (mirror { control.status with latchedFaults := 0, runPermit := 0 } kept).transition .disabled 3
        (.ok (cleared.acknowledge 3), cleared) := by
  have supervised : (mirror control.status kept).supervisionEnabled = true ↔ control.status.supervisionEnabled ≠ 0 := by
    simp [mirror]
  rw [← ite_or]
  simp only [← supervised, ← mirror_unsafeEntry available kept]
  rfl

theorem arm_simulated (available : control.status.outputAvailable ≠ 0) (kept : Nat) :
    (mirror control.status kept).action 1 =
      if control.status.latchedFaults ≠ 0 ∨ ¬ SafeEntry control.status then
        (.error .runtimeError, mirror control.status kept)
      else
        let armed := (mirror { control.status with runPermit := 0, supervisionEnabled := 1 } kept).transition .armed 1
        (.ok (armed.acknowledge 1), armed) := by
  have latched : (mirror control.status kept).latchedFaults ≠ 0 ↔ control.status.latchedFaults ≠ 0 := toNat_ne_zero _
  rw [← ite_or]
  simp only [← latched, ← mirror_unsafeEntry available kept]
  rfl

theorem action_mirrors (installed : control.output = some adapter) (available : control.status.outputAvailable ≠ 0)
    (action : ControlAction) (kept : Nat) :
    Mirrors adapter control.status kept (controlAction working control action).2
        ((mirror control.status kept).action action.toNat).2 ∧
      ((controlAction working control action).1 = .ok ↔ ((mirror control.status kept).action action.toNat).1.isOk) := by
  have unchanged := Mirrors.unchanged installed kept
  unfold controlAction
  by_cases disarm : action = actionDisarm
  · rw [if_pos disarm, disarm]
    refine ⟨disarm_mirrors installed kept, ?_⟩
    obtain ⟨status, output, commands⟩ := control
    cases installed
    exact ⟨fun _ => rfl, fun _ => rfl⟩
  rw [if_neg disarm]
  by_cases clear : action = actionClearFault
  · rw [if_pos clear, clear, controlClearFault_working installed]
    change Mirrors adapter control.status kept _ ((mirror control.status kept).action 3).2 ∧
      (_ ↔ ((mirror control.status kept).action 3).1.isOk = true)
    rw [clearFault_simulated available kept]
    by_cases refused : control.status.supervisionEnabled ≠ 0 ∨ ¬ SafeEntry control.status
    · rw [if_pos refused, if_pos refused]
      exact ⟨unchanged, ControlResult.noConfusion, Bool.noConfusion⟩
    · rw [if_neg refused, if_neg refused]
      exact ⟨transition_mirrors control.status { control.status with latchedFaults := 0, runPermit := 0 } _ rfl rfl
        .disabled 3 kept, fun _ => rfl, fun _ => rfl⟩
  rw [if_neg clear]
  by_cases arm : action = actionArm
  · rw [if_pos arm, arm, controlArm_working installed]
    change Mirrors adapter control.status kept _ ((mirror control.status kept).action 1).2 ∧
      (_ ↔ ((mirror control.status kept).action 1).1.isOk = true)
    rw [arm_simulated available kept]
    by_cases refused : control.status.latchedFaults ≠ 0 ∨ ¬ SafeEntry control.status
    · rw [if_pos refused, if_pos refused]
      exact ⟨unchanged, ControlResult.noConfusion, Bool.noConfusion⟩
    · rw [if_neg refused, if_neg refused]
      exact ⟨transition_mirrors control.status { control.status with runPermit := 0, supervisionEnabled := 1 } _ rfl rfl
        .armed 1 kept, fun _ => rfl, fun _ => rfl⟩
  rw [if_neg arm, SimulatorControlModel.action, if_pos]
  · exact ⟨unchanged, ControlResult.noConfusion, Bool.noConfusion⟩
  · refine ⟨fun same => arm ?_, fun same => disarm ?_, fun same => clear ?_⟩ <;>
      exact BitVec.eq_of_toNat_eq same

end working

end Guardian.Simulator
