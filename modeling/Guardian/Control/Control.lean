import Guardian.Health.HealthService

namespace Guardian.Supervision

open Word Health

def reasonHealthNotReady : U8 := 0x80
def reasonHealthAlarm : U8 := 0x81
def reasonInterlock : U8 := 0x82
def reasonOutputFailure : U8 := 0x83
def reasonLocalRun : U8 := 0x84
def reasonLocalStop : U8 := 0x85
def reasonHealthWarning : U8 := 0x86
def reasonHealthRecovered : U8 := 0x87

def faultHealthNotReady : U16 := 0x0001
def faultHealthAlarm : U16 := 0x0002
def faultInterlockOpen : U16 := 0x0004
def faultOutputFailure : U16 := 0x0008
def faultOutputUnavailable : U16 := 0x0010

inductive ControlState
  | disabled
  | armed
  | active
  | degraded
  | faultLatched
  deriving DecidableEq, Repr

/-- The value of a `guardian_control_action_t` argument, whether it is an action or not. -/
abbrev ControlAction := U32

def actionArm : ControlAction := 1
def actionDisarm : ControlAction := 2
def actionClearFault : ControlAction := 3

inductive ControlResult
  | ok
  | errorNullArgument
  | errorDenied
  | errorOutput
  deriving DecidableEq, Repr

structure ControlStatus where
  state : ControlState
  supervisionEnabled : U8
  localRunRequest : U8
  runPermit : U8
  interlockClosed : U8
  healthState : HealthState
  outputAvailable : U8
  latchedFaults : U16
  activeFaults : U16
  healthScore : U16
  anomalyScore : U16
  transitionCount : U32
  faultLatchCount : U32
  lastTransitionReason : U8
  deriving DecidableEq, Repr

/-- One call of the output callback of `adapter`, and whether it reported success. -/
structure Command (α : Type) where
  adapter : α
  runPermit : U8
  applied : Bool
  deriving DecidableEq, Repr

/-- The control state, with the commands given to output adapters so far, newest first. -/
structure Control (α : Type) where
  status : ControlStatus
  output : Option α
  commands : List (Command α)
  deriving DecidableEq, Repr

def incrementU32 (value : U32) : U32 := if value ≠ BitVec.allOnes 32 then value + 1 else value

def ControlStatus.transition (status : ControlStatus) (state : ControlState) (reason : U8) : ControlStatus :=
  if status.state ≠ state then
    { status with state, transitionCount := incrementU32 status.transitionCount, lastTransitionReason := reason }
  else status

def faultIf (condition : Bool) (fault : U16) : U16 := if condition then fault else 0

def controlActiveFaults (status : ControlStatus) : U16 :=
  faultIf (status.healthState = .untrained ∨ status.healthState = .learning) faultHealthNotReady |||
    faultIf (status.healthState = .alarm) faultHealthAlarm |||
    faultIf (status.interlockClosed = 0) faultInterlockOpen |||
    faultIf (status.outputAvailable = 0) faultOutputUnavailable |||
    faultIf (status.latchedFaults &&& faultOutputFailure ≠ 0) faultOutputFailure

def ControlStatus.refresh (status : ControlStatus) : ControlStatus :=
  { status with activeFaults := controlActiveFaults status }

section Policy

variable {α : Type} (outcome : Nat → Bool)

/-- Call the output callback of `adapter`. `outcome` tells what each call of a callback reports. -/
def drive (control : Control α) (adapter : α) (runPermit : U8) : Bool × Control α :=
  let applied := outcome control.commands.length
  (applied, { control with commands := ⟨adapter, runPermit, applied⟩ :: control.commands })

def controlLatchFault (control : Control α) (faults : U16) (reason : U8) : Control α :=
  let newFaults := faults &&& ~~~control.status.latchedFaults
  let safe : Control α := { control with status := { control.status with
    latchedFaults := control.status.latchedFaults ||| faults
    faultLatchCount :=
      if newFaults ≠ 0 then incrementU32 control.status.faultLatchCount else control.status.faultLatchCount
    supervisionEnabled := 0
    runPermit := 0 } }
  let driven :=
    match control.output with
    | none => safe
    | some adapter =>
      let applied := drive outcome safe adapter 0
      if applied.1 then applied.2
      else { applied.2 with status := { applied.2.status with
        latchedFaults := applied.2.status.latchedFaults ||| faultOutputFailure } }
  { driven with status := (driven.status.transition .faultLatched reason).refresh }

def controlApplyOutput (control : Control α) (runPermit : U8) : ControlResult × Control α :=
  match control.output with
  | none => (.errorDenied, { control with status := { control.status with outputAvailable := 0 }.refresh })
  | some adapter =>
    let runPermit : U8 := if runPermit ≠ 0 then 1 else 0
    let applied := drive outcome control adapter runPermit
    if !applied.1 then (.errorOutput, controlLatchFault outcome applied.2 faultOutputFailure reasonOutputFailure)
    else (.ok, { applied.2 with status := { applied.2.status with runPermit } })

/-- The end of an evaluation in which the output was found safe and supervision is disabled. -/
def controlStayDisabled (control : Control α) : Control α :=
  { control with status :=
      { control.status with runPermit := 0 }.transition .disabled control.status.lastTransitionReason }

def controlEvaluateRefreshed (control : Control α) : Control α :=
  if control.status.latchedFaults ≠ 0 then
    let applied := (controlApplyOutput outcome control 0).2
    { applied with status :=
        { applied.status with supervisionEnabled := 0 }.transition .faultLatched applied.status.lastTransitionReason }
  else if control.status.supervisionEnabled = 0 then
    match control.output with
    | none => controlStayDisabled control
    | some adapter =>
      let applied := drive outcome control adapter 0
      if !applied.1 then controlLatchFault outcome applied.2 faultOutputFailure reasonOutputFailure
      else controlStayDisabled applied.2
  else if control.status.activeFaults &&& faultInterlockOpen ≠ 0 then
    controlLatchFault outcome control faultInterlockOpen reasonInterlock
  else if control.status.activeFaults &&& faultHealthNotReady ≠ 0 then
    controlLatchFault outcome control faultHealthNotReady reasonHealthNotReady
  else if control.status.activeFaults &&& faultHealthAlarm ≠ 0 then
    controlLatchFault outcome control faultHealthAlarm reasonHealthAlarm
  else if control.status.localRunRequest = 0 then
    let applied := controlApplyOutput outcome control 0
    if applied.1 ≠ .ok then applied.2
    else { applied.2 with status := applied.2.status.transition .armed reasonLocalStop }
  else
    let applied := controlApplyOutput outcome control 1
    if applied.1 ≠ .ok then applied.2
    else if applied.2.status.healthState = .warning then
      { applied.2 with status := applied.2.status.transition .degraded reasonHealthWarning }
    else
      let reason := if applied.2.status.state = .degraded then reasonHealthRecovered else reasonLocalRun
      { applied.2 with status := applied.2.status.transition .active reason }

def controlEvaluate (control : Control α) : Control α :=
  controlEvaluateRefreshed outcome { control with status := control.status.refresh }

def controlInit : Control α where
  status :=
    { state := .disabled
      supervisionEnabled := 0
      localRunRequest := 0
      runPermit := 0
      interlockClosed := 0
      healthState := .untrained
      outputAvailable := 0
      latchedFaults := 0
      activeFaults := faultHealthNotReady ||| faultInterlockOpen ||| faultOutputUnavailable
      healthScore := 1000
      anomalyScore := 0
      transitionCount := 0
      faultLatchCount := 0
      lastTransitionReason := 0 }
  output := none
  commands := []

def controlConfigureOutput (control : Control α) (output : α) : ControlResult × Control α :=
  let installed : Control α :=
    { control with output := some output, status := { control.status with outputAvailable := 1 } }
  let applied := drive outcome installed output 0
  if !applied.1 then (.errorOutput, controlLatchFault outcome applied.2 faultOutputFailure reasonOutputFailure)
  else (.ok, { applied.2 with status := { applied.2.status with runPermit := 0 }.refresh })

def controlSetLocalRunRequest (control : Control α) (requested : U8) : Control α :=
  controlEvaluate outcome { control with status :=
    { control.status with localRunRequest := if requested ≠ 0 then 1 else 0 } }

def controlSetInterlock (control : Control α) (closed : U8) : Control α :=
  controlEvaluate outcome { control with status :=
    { control.status with interlockClosed := if closed ≠ 0 then 1 else 0 } }

def controlUpdateHealth (control : Control α) (health : HealthStatus) : Control α :=
  controlEvaluate outcome { control with status := { control.status with
    healthState := health.state
    healthScore := health.healthScore
    anomalyScore := health.anomalyScore } }

/-- The end of a disarm whose safe-off succeeded, or needed no adapter. -/
def controlFinishDisarm (control : Control α) (action : ControlAction) : ControlResult × Control α :=
  let safe : ControlStatus := { control.status with runPermit := 0 }
  let state : ControlState := if safe.latchedFaults ≠ 0 then .faultLatched else .disabled
  (.ok, { control with status := (safe.transition state (action.setWidth 8)).refresh })

def controlDisarm (control : Control α) (action : ControlAction) : ControlResult × Control α :=
  let control : Control α := { control with status := { control.status with supervisionEnabled := 0 } }
  match control.output with
  | none => controlFinishDisarm control action
  | some adapter =>
    let applied := drive outcome control adapter 0
    if !applied.1 then (.errorOutput, controlLatchFault outcome applied.2 faultOutputFailure reasonOutputFailure)
    else controlFinishDisarm applied.2 action

def controlClearFault (control : Control α) (action : ControlAction) : ControlResult × Control α :=
  if control.status.supervisionEnabled ≠ 0 then (.errorDenied, control)
  else if control.status.localRunRequest ≠ 0 then (.errorDenied, control)
  else if control.status.healthState ≠ .ready then (.errorDenied, control)
  else if control.status.interlockClosed = 0 then (.errorDenied, control)
  else match control.output with
    | none => (.errorDenied, control)
    | some adapter =>
      let applied := drive outcome control adapter 0
      if !applied.1 then (.errorOutput, controlLatchFault outcome applied.2 faultOutputFailure reasonOutputFailure)
      else
        let cleared : ControlStatus := { applied.2.status with latchedFaults := 0, runPermit := 0 }
        (.ok, { applied.2 with status := (cleared.transition .disabled (action.setWidth 8)).refresh })

def controlArm (control : Control α) (action : ControlAction) : ControlResult × Control α :=
  if control.status.latchedFaults ≠ 0 then (.errorDenied, control)
  else if control.status.localRunRequest ≠ 0 then (.errorDenied, control)
  else if control.status.healthState ≠ .ready then (.errorDenied, control)
  else if control.status.interlockClosed = 0 then (.errorDenied, control)
  else if control.output.isNone then (.errorDenied, control)
  else
    let applied := controlApplyOutput outcome control 0
    if applied.1 ≠ .ok then (.errorOutput, applied.2)
    else
      let armed : ControlStatus := { applied.2.status with supervisionEnabled := 1 }
      (.ok, { applied.2 with status := (armed.transition .armed (action.setWidth 8)).refresh })

/-- The three actions are the branches of `guardian_control_action`. -/
def controlAction (control : Control α) (action : ControlAction) : ControlResult × Control α :=
  if action = actionDisarm then controlDisarm outcome control action
  else if action = actionClearFault then controlClearFault outcome control action
  else if action = actionArm then controlArm outcome control action
  else (.errorDenied, control)

end Policy

end Guardian.Supervision
