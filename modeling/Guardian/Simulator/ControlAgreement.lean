import Guardian.Simulator.ControlMirror

namespace Guardian.Simulator

open Word Health Supervision

inductive ControlInput
  | localRunRequest (requested : U8)
  | interlock (closed : U8)
  | health (status : Health.HealthStatus)
  | action (code : ControlAction)
  deriving DecidableEq

def ControlInput.operation {α : Type} : ControlInput → Operation α
  | .localRunRequest requested => .setLocalRunRequest requested
  | .interlock closed => .setInterlock closed
  | .health status => .updateHealth status
  | .action code => .action code

def SimulatorControlModel.step (model : SimulatorControlModel) : ControlInput → SimulatorControlModel
  | .localRunRequest requested => model.setLocalRunRequest (requested ≠ 0)
  | .interlock closed => model.setInterlock (closed ≠ 0)
  | .health status => model.updateHealth (Host.readHealthStatus status)
  | .action code => (model.action code.toNat).2

/-- Both modules, and whether the last change of state led from `degraded` to `active`. -/
structure Mirrored (α : Type) where
  device : Control α
  simulator : SimulatorControlModel
  recovered : Bool

section runs

variable {α : Type}

def Mirrored.step (pair : Mirrored α) (input : ControlInput) : Mirrored α :=
  let device := pair.device.step working input.operation
  { device
    simulator := pair.simulator.step input
    recovered :=
      if device.status.state = pair.device.status.state then pair.recovered
      else pair.device.status.state = .degraded ∧ device.status.state = .active }

/-- The device has its output callback, and the simulator is new. -/
def mirroredStart (adapter : α) : Mirrored α :=
  ⟨(controlConfigureOutput working controlInit adapter).2, .init, false⟩

def mirroredRun (adapter : α) (inputs : List ControlInput) : Mirrored α :=
  Run.after Mirrored.step inputs (mirroredStart adapter)

/-- The two statuses agree, in the reason too unless the last change of state was a recovery. -/
structure Mirrored.Agrees (pair : Mirrored α) : Prop where
  fields : { pair.simulator.status with lastTransitionReason := 0 } =
    { Host.readControlStatus pair.device.status with lastTransitionReason := 0 }
  reason : pair.recovered = false → pair.simulator.status = Host.readControlStatus pair.device.status

/-- What holds of both modules from the first interlock input on. -/
structure Mirrored.Matched (adapter : α) (pair : Mirrored α) : Prop where
  safe : pair.device.Safe
  coherent : pair.device.Coherent
  installed : pair.device.output = some adapter
  available : pair.simulator.outputAvailable = true
  mirrored : pair.simulator = mirror pair.device.status pair.simulator.lastTransitionReason
  reason : pair.recovered = false → pair.simulator.lastTransitionReason = pair.device.status.lastTransitionReason.toNat

theorem Mirrored.Matched.agrees {adapter : α} {pair : Mirrored α} (matched : pair.Matched adapter) : pair.Agrees := by
  have active : pair.simulator.activeFaults = pair.device.status.activeFaults.toNat := by
    rw [matched.mirrored, mirror_activeFaults, matched.safe.refreshed]
  have shown : pair.simulator.status =
      { Host.readControlStatus pair.device.status with lastTransitionReason := pair.simulator.lastTransitionReason } := by
    rw [SimulatorControlModel.status, active, matched.mirrored]
    rfl
  constructor
  · rw [shown]
  · intro still
    rw [shown, matched.reason still]
    rfl

section available

variable (model : SimulatorControlModel)

@[simp] theorem SimulatorControlModel.transition_outputAvailable (state : ControlState) (reason : Nat) :
    (model.transition state reason).outputAvailable = model.outputAvailable := by
  unfold transition
  split_ifs <;> rfl

@[simp] theorem SimulatorControlModel.evaluate_outputAvailable : model.evaluate.outputAvailable = model.outputAvailable := by
  unfold evaluate latchFault
  split_ifs <;> simp

@[simp] theorem SimulatorControlModel.step_outputAvailable (input : ControlInput) :
    (model.step input).outputAvailable = model.outputAvailable := by
  cases input with
  | localRunRequest requested => exact evaluate_outputAvailable _
  | interlock closed => exact evaluate_outputAvailable _
  | health status => exact evaluate_outputAvailable _
  | action code =>
    simp only [step, action, disarm]
    split_ifs <;> simp

end available

theorem step_mirrors {adapter : α} {control : Control α} (installed : control.output = some adapter)
    (coherent : control.Coherent) (available : control.status.outputAvailable ≠ 0) (input : ControlInput) (kept : Nat) :
    Mirrors adapter control.status kept (control.step working input.operation)
      ((mirror control.status kept).step input) := by
  cases input with
  | localRunRequest requested =>
    let status : Supervision.ControlStatus :=
      { control.status with localRunRequest := if requested ≠ 0 then 1 else 0 }
    have given : mirror status kept = { mirror control.status kept with localRunRequest := requested ≠ 0 } := by
      by_cases off : requested = 0 <;> simp [status, mirror, off]
    have mirrors := evaluate_mirrors status installed coherent rfl rfl rfl rfl kept
    rw [given] at mirrors
    exact mirrors
  | interlock closed =>
    let status : Supervision.ControlStatus :=
      { control.status with interlockClosed := if closed ≠ 0 then 1 else 0 }
    have given : mirror status kept = { mirror control.status kept with interlockClosed := closed ≠ 0 } := by
      by_cases opened : closed = 0 <;> simp [status, mirror, opened]
    have mirrors := evaluate_mirrors status installed coherent rfl rfl rfl rfl kept
    rw [given] at mirrors
    exact mirrors
  | health health =>
    exact evaluate_mirrors { control.status with
      healthState := health.state
      healthScore := health.healthScore
      anomalyScore := health.anomalyScore } installed coherent rfl rfl rfl rfl kept
  | action code => exact (action_mirrors installed available code kept).1

theorem step_coherent {control : Control α} (coherent : control.Coherent) (input : ControlInput) :
    (control.step working input.operation).Coherent := by
  cases input with
  | localRunRequest requested => exact (controlSetLocalRunRequest_continues working coherent requested).coherent
  | interlock closed => exact (controlSetInterlock_continues working coherent closed).coherent
  | health status => exact (controlUpdateHealth_continues working coherent status).2.1
  | action code =>
    rcases controlAction_cases working coherent code with continues | ⟨-, releases⟩
    · exact continues.coherent
    · exact releases.coherent

theorem step_matched {adapter : α} (pair : Mirrored α) (input : ControlInput) (matched : pair.Matched adapter) :
    (pair.step input).Matched adapter := by
  have available : pair.device.status.outputAvailable ≠ 0 := by
    have shown := matched.available
    rw [matched.mirrored] at shown
    exact of_decide_eq_true shown
  obtain ⟨output, next, agrees, still, moved⟩ :=
    step_mirrors matched.installed matched.coherent available input pair.simulator.lastTransitionReason
  rw [← matched.mirrored] at agrees
  have reason : (pair.simulator.step input).lastTransitionReason = next := by rw [agrees]; rfl
  constructor
  · exact step_safe working pair.device input.operation matched.safe
  · exact step_coherent matched.coherent input
  · exact output
  · exact (SimulatorControlModel.step_outputAvailable pair.simulator input).trans matched.available
  · change pair.simulator.step input = mirror _ (pair.simulator.step input).lastTransitionReason
    rw [reason]
    exact agrees
  · intro ordinary
    change (pair.simulator.step input).lastTransitionReason = _
    rw [reason]
    rw [Mirrored.step] at ordinary
    dsimp only at ordinary
    by_cases kept : (pair.device.step working input.operation).status.state = pair.device.status.state
    · rw [if_pos kept] at ordinary
      obtain ⟨same, own⟩ := still kept
      rw [own, matched.reason ordinary]
      exact (congrArg BitVec.toNat same).symm
    · rw [if_neg kept] at ordinary
      exact moved kept (of_decide_eq_false ordinary)

/-- What holds of both modules before the first interlock input: the simulator takes its interlock for closed. -/
structure Mirrored.Waiting (adapter : α) (pair : Mirrored α) : Prop where
  safe : pair.device.Safe
  installed : pair.device.output = some adapter
  resting : pair.device.status.state = .disabled ∧ pair.device.status.supervisionEnabled = 0 ∧
    pair.device.status.latchedFaults = 0 ∧ pair.device.status.runPermit = 0
  opened : pair.device.status.interlockClosed = 0
  available : pair.simulator.outputAvailable = true
  mirrored : pair.simulator =
    mirror { pair.device.status with interlockClosed := 1 } pair.device.status.lastTransitionReason.toNat
  still : pair.recovered = false

theorem mirroredStart_waiting (adapter : α) : (mirroredStart adapter).Waiting adapter where
  safe := step_safe working controlInit (.configureOutput adapter) controlInit_safe
  installed := rfl
  resting := ⟨rfl, rfl, rfl, rfl⟩
  opened := rfl
  available := rfl
  mirrored := rfl
  still := rfl

theorem Mirrored.Waiting.coherent {adapter : α} {pair : Mirrored α} (waiting : pair.Waiting adapter) :
    pair.device.Coherent := by
  obtain ⟨disabled, idle, unlatched, -⟩ := waiting.resting
  constructor
  · rw [idle, disabled]
    simp [ControlState.supervised]
  · rw [unlatched, disabled]
    simp

theorem Mirrored.Waiting.evaluates {adapter : α} {pair : Mirrored α} (waiting : pair.Waiting adapter)
    (status : Supervision.ControlStatus) (disabled : status.state = .disabled) (idle : status.supervisionEnabled = 0)
    (unlatched : status.latchedFaults = 0) (opened : status.interlockClosed = 0)
    (safe : (controlEvaluate working { pair.device with status }).Safe) (present : status.outputAvailable ≠ 0) :
    Mirrored.Waiting adapter
      { device := controlEvaluate working { pair.device with status }
        simulator := (mirror { status with interlockClosed := 1 } status.lastTransitionReason.toNat).evaluate
        recovered := false } := by
  have evaluated : controlEvaluate working { pair.device with status } = _ :=
    @controlEvaluateRefreshed_idle α { pair.device with status := status.refresh } adapter waiting.installed idle unlatched
      disabled
  rw [SimulatorControlModel.evaluate_idle (by simp [mirror, idle]) (by simp [mirror, unlatched]) disabled]
  rw [evaluated] at safe ⊢
  exact ⟨safe, rfl, ⟨disabled, idle, unlatched, rfl⟩, opened, decide_eq_true present, rfl, rfl⟩

theorem Mirrored.Waiting.disarms {adapter : α} {pair : Mirrored α} (waiting : pair.Waiting adapter)
    (safe : (controlDisarm working pair.device actionDisarm).2.Safe) :
    Mirrored.Waiting adapter ⟨(controlDisarm working pair.device actionDisarm).2, pair.simulator.disarm, false⟩ := by
  obtain ⟨disabled, unsupervised, unlatched, withdrawn⟩ := waiting.resting
  have present := waiting.available
  rw [waiting.mirrored] at present
  obtain ⟨⟨status, output, commands⟩, simulator, recovered⟩ := pair
  cases waiting.installed
  have quiet : status.latchedFaults = 0 := unlatched
  let off : Supervision.ControlStatus := { status with supervisionEnabled := 0, runPermit := 0 }
  have disarmed : (controlDisarm working ⟨status, some adapter, commands⟩ actionDisarm).2 =
      ⟨off.refresh, some adapter, ⟨adapter, 0, true⟩ :: commands⟩ := by
    change (⟨(off.transition (if status.latchedFaults ≠ 0 then .faultLatched else .disabled) 2).refresh, _, _⟩ :
      Control α) = _
    rw [if_neg (not_not.mpr quiet), transition_self off disabled]
    rfl
  have followed : simulator.disarm = mirror { off with interlockClosed := 1 } status.lastTransitionReason.toNat := by
    rw [show simulator = _ from waiting.mirrored, SimulatorControlModel.disarm]
    dsimp only
    rw [if_neg (by simp [mirror, quiet])]
    exact SimulatorControlModel.transition_self _ disabled _
  rw [disarmed] at safe ⊢
  rw [followed]
  exact ⟨safe, rfl, ⟨disabled, rfl, quiet, rfl⟩, waiting.opened, present, rfl, rfl⟩

/-- Clearing faults changes nothing before the first interlock input: the device refuses, and the simulator has none. -/
theorem Mirrored.Waiting.clears {adapter : α} {pair : Mirrored α} (waiting : pair.Waiting adapter) :
    (controlClearFault working pair.device actionClearFault).2 = pair.device ∧
      (pair.simulator.action 3).2 = pair.simulator := by
  obtain ⟨disabled, unsupervised, unlatched, withdrawn⟩ := waiting.resting
  have present := waiting.available
  rw [waiting.mirrored] at present
  constructor
  · rw [controlClearFault_working waiting.installed, if_pos (Or.inr fun entry => entry.2.2 waiting.opened)]
  · rw [waiting.mirrored]
    let closed : Control α := { pair.device with status := { pair.device.status with interlockClosed := 1 } }
    have simulated := @clearFault_simulated α closed (of_decide_eq_true present)
      pair.device.status.lastTransitionReason.toNat
    rw [show mirror { pair.device.status with interlockClosed := 1 } pair.device.status.lastTransitionReason.toNat =
      mirror closed.status pair.device.status.lastTransitionReason.toNat from rfl, simulated]
    by_cases refused : closed.status.supervisionEnabled ≠ 0 ∨ ¬ SafeEntry closed.status
    · rw [if_pos refused]
    · rw [if_neg refused]
      have clear : ({ closed.status with latchedFaults := 0, runPermit := 0 } : Supervision.ControlStatus) =
          closed.status := by
        simp only [closed, ← unlatched, ← withdrawn]
      rw [clear]
      exact SimulatorControlModel.transition_self _ disabled _

theorem Mirrored.Waiting.step {adapter : α} {pair : Mirrored α} (waiting : pair.Waiting adapter) {input : ControlInput}
    (other : ∀ closed, input ≠ .interlock closed) (idle : input ≠ .action actionArm) : (pair.step input).Waiting adapter := by
  obtain ⟨disabled, unsupervised, unlatched, withdrawn⟩ := waiting.resting
  have present : pair.device.status.outputAvailable ≠ 0 := by
    have shown := waiting.available
    rw [waiting.mirrored] at shown
    exact of_decide_eq_true shown
  have safe : (pair.device.step working input.operation).Safe := step_safe working pair.device input.operation waiting.safe
  have quiet {simulator : SimulatorControlModel}
      (after : Mirrored.Waiting adapter ⟨pair.device.step working input.operation, simulator, false⟩)
      (steps : pair.simulator.step input = simulator) : (pair.step input).Waiting adapter := by
    have same : (pair.device.step working input.operation).status.state = pair.device.status.state :=
      after.resting.1.trans disabled.symm
    have recovered : (pair.step input).recovered = false := (if_pos same).trans waiting.still
    have stepped : pair.step input =
        ⟨pair.device.step working input.operation, pair.simulator.step input, (pair.step input).recovered⟩ := rfl
    rw [stepped, recovered, steps]
    exact after
  cases input with
  | interlock closed => exact absurd rfl (other closed)
  | localRunRequest requested =>
    let status : Supervision.ControlStatus :=
      { pair.device.status with localRunRequest := if requested ≠ 0 then 1 else 0 }
    apply quiet (waiting.evaluates status disabled unsupervised unlatched waiting.opened safe present)
    rw [waiting.mirrored]
    change SimulatorControlModel.evaluate _ = _
    congr 1
    by_cases off : requested = 0 <;> simp [status, mirror, off]
  | health health =>
    let status : Supervision.ControlStatus :=
      { pair.device.status with
        healthState := health.state
        healthScore := health.healthScore
        anomalyScore := health.anomalyScore }
    apply quiet (waiting.evaluates status disabled unsupervised unlatched waiting.opened safe present)
    rw [waiting.mirrored]
    rfl
  | action code =>
    by_cases disarm : code = actionDisarm
    · subst disarm
      exact quiet (waiting.disarms safe) rfl
    by_cases clear : code = actionClearFault
    · subst clear
      obtain ⟨refused, unchanged⟩ := waiting.clears
      have kept : pair.device.step working (ControlInput.action actionClearFault).operation = pair.device := refused
      have same : pair.simulator.step (.action actionClearFault) = pair.simulator := unchanged
      apply quiet _ same
      rw [kept]
      exact ⟨waiting.safe, waiting.installed, waiting.resting, waiting.opened, waiting.available, waiting.mirrored, rfl⟩
    have arm : code ≠ actionArm := fun same => idle (by rw [same])
    have kept : pair.device.step working (ControlInput.action code).operation = pair.device := by
      change (controlAction working pair.device code).2 = pair.device
      rw [controlAction, if_neg disarm, if_neg clear, if_neg arm]
    have same : pair.simulator.step (.action code) = pair.simulator := by
      have unknown : code.toNat ≠ 1 ∧ code.toNat ≠ 2 ∧ code.toNat ≠ 3 :=
        ⟨fun same => arm (BitVec.eq_of_toNat_eq same), fun same => disarm (BitVec.eq_of_toNat_eq same),
          fun same => clear (BitVec.eq_of_toNat_eq same)⟩
      change (pair.simulator.action code.toNat).2 = pair.simulator
      rw [SimulatorControlModel.action, if_pos unknown]
    apply quiet _ same
    rw [kept]
    exact ⟨waiting.safe, waiting.installed, waiting.resting, waiting.opened, waiting.available, waiting.mirrored, rfl⟩

theorem Mirrored.Waiting.interlock {adapter : α} {pair : Mirrored α} (waiting : pair.Waiting adapter) (closed : U8) :
    (pair.step (.interlock closed)).Matched adapter := by
  have present := waiting.available
  rw [waiting.mirrored] at present
  let aligned : Mirrored α :=
    ⟨pair.device, mirror pair.device.status pair.device.status.lastTransitionReason.toNat, pair.recovered⟩
  have same : pair.step (.interlock closed) = aligned.step (.interlock closed) := by
    unfold Mirrored.step
    rw [waiting.mirrored]
    rfl
  rw [same]
  apply step_matched
  exact ⟨waiting.safe, waiting.coherent, waiting.installed, present, rfl, fun _ => rfl⟩

def InterlockFirst : List ControlInput → Prop
  | [] => True
  | .interlock _ :: _ => True
  | input :: inputs => input ≠ .action actionArm ∧ InterlockFirst inputs

theorem Mirrored.Waiting.run {adapter : α} {pair : Mirrored α} (waiting : pair.Waiting adapter)
    {inputs : List ControlInput} (first : InterlockFirst inputs) :
    ((∃ closed, ControlInput.interlock closed ∈ inputs) → (Run.after Mirrored.step inputs pair).Matched adapter) ∧
      ((∀ closed, ControlInput.interlock closed ∉ inputs) → (Run.after Mirrored.step inputs pair).Waiting adapter) := by
  induction inputs generalizing pair with
  | nil => exact ⟨fun ⟨_, given⟩ => absurd given (List.not_mem_nil), fun _ => waiting⟩
  | cons input inputs ih =>
    by_cases reported : ∃ closed, input = .interlock closed
    · obtain ⟨closed, rfl⟩ := reported
      refine ⟨fun _ => ?_, fun none => absurd (List.mem_cons_self ..) (none closed)⟩
      exact Run.after_invariant step_matched (waiting.interlock closed) inputs
    · have other : ∀ closed, input ≠ .interlock closed := fun closed same => reported ⟨closed, same⟩
      have split : input ≠ .action actionArm ∧ InterlockFirst inputs := by
        cases input with
        | interlock closed => exact absurd rfl (other closed)
        | localRunRequest requested => exact first
        | health status => exact first
        | action code => exact first
      obtain ⟨matched, still⟩ := ih (waiting.step other split.1) split.2
      constructor
      · rintro ⟨closed, given⟩
        exact matched ⟨closed, (List.mem_cons.mp given).resolve_left (fun same => other closed same.symm)⟩
      · exact fun none => still (fun closed given => none closed (List.mem_cons_of_mem _ given))

theorem Mirrored.Waiting.status {adapter : α} {pair : Mirrored α} (waiting : pair.Waiting adapter) :
    pair.simulator.status = Host.readControlStatus { pair.device.status with interlockClosed := 1 }.refresh := by
  rw [SimulatorControlModel.status, waiting.mirrored, mirror_activeFaults]
  rfl

/-- The simulator reports the status of the device, on the same inputs, once both were told their interlock. -/
theorem simulator_control_mirrors (adapter : α) (inputs : List ControlInput) (first : InterlockFirst inputs) :
    ((∃ closed, ControlInput.interlock closed ∈ inputs) → (mirroredRun adapter inputs).Agrees) ∧
      ((∀ closed, ControlInput.interlock closed ∉ inputs) →
        (mirroredRun adapter inputs).simulator.status = Host.readControlStatus
          { (mirroredRun adapter inputs).device.status with interlockClosed := 1 }.refresh) := by
  obtain ⟨matched, waiting⟩ := (mirroredStart_waiting adapter).run first
  exact ⟨fun given => (matched given).agrees, fun none => (waiting none).status⟩

/-- A machine that starts, runs, degrades on a warning and recovers. -/
def recoveringInputs : List ControlInput :=
  [.interlock 1, .health trainedHealth, .action actionArm, .localRunRequest 1,
    .health { trainedHealth with state := .warning }, .health trainedHealth]

theorem simulator_control_mirrors_recovering :
    InterlockFirst recoveringInputs ∧ (∃ closed, ControlInput.interlock closed ∈ recoveringInputs) ∧
      (mirroredRun () recoveringInputs).Agrees :=
  ⟨trivial, ⟨1, by decide⟩, (simulator_control_mirrors () recoveringInputs trivial).1 ⟨1, by decide⟩⟩

/-- A new simulator takes its interlock for closed, and a recovery has no reason of its own there. -/
theorem simulator_control_differs :
    (mirroredRun () [.localRunRequest 0]).simulator.status ≠
        Host.readControlStatus (mirroredRun () [.localRunRequest 0]).device.status ∧
      (mirroredRun () recoveringInputs).simulator.status ≠
        Host.readControlStatus (mirroredRun () recoveringInputs).device.status := by
  decide

end runs

end Guardian.Simulator
