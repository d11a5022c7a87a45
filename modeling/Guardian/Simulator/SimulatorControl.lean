import Guardian.Host.StatusDecoders
import Mathlib.Data.Nat.Bitwise

namespace Guardian.Simulator

open Word Health Supervision

def simFaultHealthNotReady : Nat := 0x0001
def simFaultHealthAlarm : Nat := 0x0002
def simFaultInterlockOpen : Nat := 0x0004
def simFaultOutputFailure : Nat := 0x0008
def simFaultOutputUnavailable : Nat := 0x0010

structure SimulatorControlModel where
  state : ControlState
  supervisionEnabled : Bool
  localRunRequest : Bool
  runPermit : Bool
  interlockClosed : Bool
  healthState : HealthState
  outputAvailable : Bool
  latchedFaults : Nat
  healthScore : Nat
  anomalyScore : Nat
  transitionCount : Nat
  faultLatchCount : Nat
  lastTransitionReason : Nat
  deriving DecidableEq, Repr

/-- The exceptions that `action` raises. -/
inductive SimulatorControlError
  | runtimeError
  | valueError
  deriving DecidableEq, Repr

structure ControlCommandResult where
  action : Nat
  state : ControlState
  runPermit : Bool
  deriving DecidableEq, Repr

namespace SimulatorControlModel

def init : SimulatorControlModel where
  state := .disabled
  supervisionEnabled := false
  localRunRequest := false
  runPermit := false
  interlockClosed := true
  healthState := .untrained
  outputAvailable := true
  latchedFaults := 0
  healthScore := 1000
  anomalyScore := 0
  transitionCount := 0
  faultLatchCount := 0
  lastTransitionReason := 0

def activeFaults (model : SimulatorControlModel) : Nat :=
  (if model.healthState = .untrained ∨ model.healthState = .learning then simFaultHealthNotReady else 0) |||
    (if model.healthState = .alarm then simFaultHealthAlarm else 0) |||
    (if !model.interlockClosed then simFaultInterlockOpen else 0) |||
    (if !model.outputAvailable then simFaultOutputUnavailable else 0) |||
    (if model.latchedFaults &&& simFaultOutputFailure ≠ 0 then simFaultOutputFailure else 0)

def transition (model : SimulatorControlModel) (state : ControlState) (reason : Nat) : SimulatorControlModel :=
  if model.state ≠ state then
    { model with
      state
      transitionCount := min 0xFFFFFFFF (model.transitionCount + 1)
      lastTransitionReason := reason &&& 0xFF }
  else model

/-- The new faults are those of `faults & ~latched_faults`. -/
def latchFault (model : SimulatorControlModel) (faults reason : Nat) : SimulatorControlModel :=
  let newFaults := Nat.ldiff faults model.latchedFaults
  { model with
    latchedFaults := model.latchedFaults ||| faults
    faultLatchCount :=
      if newFaults ≠ 0 then min 0xFFFFFFFF (model.faultLatchCount + 1) else model.faultLatchCount
    supervisionEnabled := false
    runPermit := false }.transition .faultLatched reason

def evaluate (model : SimulatorControlModel) : SimulatorControlModel :=
  if model.latchedFaults ≠ 0 then
    { model with runPermit := false, supervisionEnabled := false }.transition .faultLatched model.lastTransitionReason
  else if !model.supervisionEnabled then
    { model with runPermit := false }.transition .disabled model.lastTransitionReason
  else if !model.interlockClosed then model.latchFault simFaultInterlockOpen 0x82
  else if model.healthState = .untrained ∨ model.healthState = .learning then
    model.latchFault simFaultHealthNotReady 0x80
  else if model.healthState = .alarm then model.latchFault simFaultHealthAlarm 0x81
  else if !model.localRunRequest then { model with runPermit := false }.transition .armed 0x85
  else if model.healthState = .warning then { model with runPermit := true }.transition .degraded 0x86
  else { model with runPermit := true }.transition .active 0x84

def updateHealth (model : SimulatorControlModel) (health : Host.HealthStatus) : SimulatorControlModel :=
  { model with
    healthState := health.state
    healthScore := health.healthScore
    anomalyScore := health.anomalyScore }.evaluate

def setLocalRunRequest (model : SimulatorControlModel) (requested : Bool) : SimulatorControlModel :=
  { model with localRunRequest := requested }.evaluate

def setInterlock (model : SimulatorControlModel) (closed : Bool) : SimulatorControlModel :=
  { model with interlockClosed := closed }.evaluate

/-- The acknowledgement of an action that left `model`. -/
def acknowledge (model : SimulatorControlModel) (action : Nat) : ControlCommandResult :=
  ⟨action, model.state, model.runPermit⟩

def disarm (model : SimulatorControlModel) : SimulatorControlModel :=
  let safe : SimulatorControlModel := { model with supervisionEnabled := false, runPermit := false }
  if safe.latchedFaults ≠ 0 then safe.transition .faultLatched 2 else safe.transition .disabled 2

/-- The conditions under which `CLEAR_FAULT` and `ARM` are denied alike. -/
def unsafeEntry (model : SimulatorControlModel) : Bool :=
  model.localRunRequest || model.healthState ≠ .ready || !model.interlockClosed || !model.outputAvailable

def action (model : SimulatorControlModel) (action : Nat) :
    Except SimulatorControlError ControlCommandResult × SimulatorControlModel :=
  if action ≠ 1 ∧ action ≠ 2 ∧ action ≠ 3 then (.error .valueError, model)
  else if action = 2 then (.ok (model.disarm.acknowledge 2), model.disarm)
  else if action = 3 then
    if model.supervisionEnabled then (.error .runtimeError, model)
    else if model.unsafeEntry then (.error .runtimeError, model)
    else
      let cleared := { model with latchedFaults := 0, runPermit := false }.transition .disabled 3
      (.ok (cleared.acknowledge 3), cleared)
  else if model.latchedFaults ≠ 0 then (.error .runtimeError, model)
  else if model.unsafeEntry then (.error .runtimeError, model)
  else
    let armed := { model with supervisionEnabled := true, runPermit := false }.transition .armed 1
    (.ok (armed.acknowledge 1), armed)

def status (model : SimulatorControlModel) : Host.ControlStatus where
  state := model.state
  supervisionEnabled := model.supervisionEnabled
  localRunRequest := model.localRunRequest
  runPermit := model.runPermit
  interlockClosed := model.interlockClosed
  healthState := model.healthState
  outputAvailable := model.outputAvailable
  latchedFaults := model.latchedFaults
  activeFaults := model.activeFaults
  healthScore := model.healthScore
  anomalyScore := model.anomalyScore
  transitionCount := model.transitionCount
  faultLatchCount := model.faultLatchCount
  lastTransitionReason := model.lastTransitionReason

end SimulatorControlModel

end Guardian.Simulator
