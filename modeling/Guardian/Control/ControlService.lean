import Guardian.Control.Control
import Guardian.Health.HealthService

namespace Guardian.Supervision

open Word Guardian.Health Guardian.Protocol

def controlSchemaVersion : U8 := 0x01
def controlStatusPayloadSize : Nat := 28
def controlCommandRequestSize : Nat := 2

def ControlState.code : ControlState → U8
  | .disabled => 0
  | .armed => 1
  | .active => 2
  | .degraded => 3
  | .faultLatched => 4

def controlMakeError (request : Frame) (error : ErrorCode) : Frame := makeError request error

def controlEncodeStatusPayload (status : ControlStatus) (capacity : Nat) : Except ProtocolResult (List U8) :=
  if capacity < controlStatusPayloadSize then .error .errorOutputTooSmall
  else
    .ok ([controlSchemaVersion, status.state.code, status.supervisionEnabled, status.localRunRequest,
        status.runPermit, status.interlockClosed, status.healthState.code, status.outputAvailable] ++
      putU16Be status.latchedFaults ++ putU16Be status.activeFaults ++ putU16Be status.healthScore ++
      putU16Be status.anomalyScore ++ putU32Be status.transitionCount ++ putU32Be status.faultLatchCount ++
      [status.lastTransitionReason, 0] ++ putU16Be 0)

section service

variable {α : Type} (outcome : Nat → Bool)

def controlHandleRequest (control : Control α) (request : Frame) : Except ProtocolResult Frame × Control α :=
  if request.messageType ≠ .request then (.ok (controlMakeError request .malformedFrame), control)
  else if request.command = commandGetControlStatus then
    if request.payload.length ≠ 0 then (.ok (controlMakeError request .invalidPayload), control)
    else ((controlEncodeStatusPayload control.status maxPayloadSize).map (request.answer .response), control)
  else if request.command = commandControlCommand then
    if request.payload.length ≠ controlCommandRequestSize then
      (.ok (controlMakeError request .invalidPayload), control)
    else if request.payload.getD 0 0 ≠ controlSchemaVersion then
      (.ok (controlMakeError request .invalidPayload), control)
    else
      let action : ControlAction := (request.payload.getD 1 0).setWidth 32
      if action ≠ actionArm ∧ action ≠ actionDisarm ∧ action ≠ actionClearFault then
        (.ok (controlMakeError request .invalidPayload), control)
      else
        let acted := controlAction outcome control action
        if acted.1 = .errorDenied then (.ok (controlMakeError request .busy), acted.2)
        else if acted.1 = .errorOutput then (.ok (controlMakeError request .internal), acted.2)
        else if acted.1 ≠ .ok then (.ok (controlMakeError request .invalidPayload), acted.2)
        else
          (.ok (request.answer .response [controlSchemaVersion, action.setWidth 8, acted.2.status.state.code,
            acted.2.status.runPermit]), acted.2)
  else (.ok (controlMakeError request .unknownCommand), control)

theorem controlHandleRequest_answers (control : Control α) (request : Frame) :
    ∃ answer, (controlHandleRequest outcome control request).1 = .ok answer ∧ answer.Answers request ∧
      answer.payload.length ≤ controlStatusPayloadSize := by
  change request.Replied controlStatusPayloadSize (controlHandleRequest outcome control request)
  have error (code : ErrorCode) (after : Control α) :
      request.Replied controlStatusPayloadSize (.ok (controlMakeError request code), after) :=
    request.replied_error code (by decide) after
  have response {payload : List U8} (fits : payload.length ≤ controlStatusPayloadSize) (after : Control α) :
      request.Replied controlStatusPayloadSize (.ok (request.answer .response payload), after) :=
    request.replied_response fits (by decide) after
  unfold controlHandleRequest
  apply Check.either (error _ _)
  apply Check.either
  · apply Check.either (error _ _)
    exact response (by simp [controlStatusPayloadSize]) _
  apply Check.either
  · apply Check.either (error _ _)
    apply Check.either (error _ _)
    dsimp only
    apply Check.either (error _ _)
    apply Check.either (error _ _)
    apply Check.either (error _ _)
    apply Check.either (error _ _)
    exact response (by simp [controlStatusPayloadSize]) _
  · exact error _ _

theorem controlHandleRequest_malformed (control : Control α) {request : Frame} (other : request.messageType ≠ .request) :
    controlHandleRequest outcome control request = (.ok (makeError request .malformedFrame), control) := if_pos other

theorem controlHandleRequest_keeps (control : Control α) {request : Frame}
    (other : request.command ≠ commandControlCommand) : (controlHandleRequest outcome control request).2 = control := by
  unfold controlHandleRequest
  rw [if_neg other]
  split_ifs <;> rfl

end service

def controlRequestedAction (request : Frame) : Option ControlAction :=
  if request.messageType = .request ∧ request.command = commandControlCommand ∧
      request.payload.length = controlCommandRequestSize ∧ request.payload.getD 0 0 = controlSchemaVersion then
    some ((request.payload.getD 1 0).setWidth 32)
  else none

theorem controlHandleRequest_acts {α : Type} (outcome : Nat → Bool) (control : Control α) (request : Frame) :
    (controlHandleRequest outcome control request).2 =
      (controlRequestedAction request).elim control fun action => (controlAction outcome control action).2 := by
  by_cases asked : request.messageType = .request ∧ request.command = commandControlCommand ∧
      request.payload.length = controlCommandRequestSize ∧ request.payload.getD 0 0 = controlSchemaVersion
  · have requested : controlRequestedAction request = some ((request.payload.getD 1 0).setWidth 32) := if_pos asked
    obtain ⟨type, command, length, schema⟩ := asked
    have other : request.command ≠ commandGetControlStatus := by
      rw [command]
      decide
    unfold controlHandleRequest
    rw [requested, if_neg (not_not.mpr type), if_neg other, if_pos command, if_neg (not_not.mpr length),
      if_neg (not_not.mpr schema)]
    dsimp only [Option.elim]
    generalize (BitVec.setWidth 32 (request.payload.getD 1 0)) = action
    by_cases unknown : action ≠ actionArm ∧ action ≠ actionDisarm ∧ action ≠ actionClearFault
    · rw [if_pos unknown]
      unfold controlAction
      rw [if_neg unknown.2.1, if_neg unknown.2.2, if_neg unknown.1]
    · rw [if_neg unknown]
      generalize controlAction outcome control action = acted
      split_ifs <;> rfl
  · have requested : controlRequestedAction request = none := if_neg asked
    rw [requested]
    change _ = control
    by_cases type : request.messageType = .request
    · by_cases command : request.command = commandControlCommand
      · have other : request.command ≠ commandGetControlStatus := by
          rw [command]
          decide
        unfold controlHandleRequest
        rw [if_neg (not_not.mpr type), if_neg other, if_pos command]
        by_cases length : request.payload.length = controlCommandRequestSize
        · have schema : request.payload.getD 0 0 ≠ controlSchemaVersion :=
            fun schema => asked ⟨type, command, length, schema⟩
          rw [if_neg (not_not.mpr length), if_pos schema]
        · rw [if_pos length]
      · exact controlHandleRequest_keeps outcome control command
    · rw [controlHandleRequest_malformed outcome control type]

end Guardian.Supervision
