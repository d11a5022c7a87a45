import Guardian.Protocol.Frame

namespace Guardian.App

open Word Guardian.Protocol

def deviceModelMaxLength : Nat := 32
def devicePayloadSchemaVersion : U8 := 0x01

inductive DeviceState
  | boot
  | idle
  | running
  | degraded
  | fault
  deriving DecidableEq, Repr

def DeviceState.code : DeviceState → U8
  | .boot => 0x00
  | .idle => 0x01
  | .running => 0x02
  | .degraded => 0x03
  | .fault => 0x04

/-- `model` holds the characters before the terminating NUL. -/
structure DeviceIdentity where
  model : List U8
  firmwareMajor : U8
  firmwareMinor : U8
  firmwarePatch : U8
  deviceId : U32
  deriving DecidableEq, Repr

def zeroDeviceIdentity : DeviceIdentity := ⟨[], 0, 0, 0, 0⟩

structure DeviceRuntime where
  state : DeviceState
  uptimeSeconds : U32
  rxFrames : U32
  txFrames : U32
  protocolErrors : U32
  lastError : U8
  deriving DecidableEq, Repr

structure DeviceService where
  identity : DeviceIdentity
  deriving DecidableEq, Repr

/-- The scan for the NUL stops one character after the longest admissible model. -/
def deviceModelLength (model : List U8) : Nat := min model.length (deviceModelMaxLength + 1)

def deviceMakeError (request : Frame) (error : ErrorCode) : Frame := makeError request error

def deviceHandlePing (request : Frame) : Frame := request.answer .response [0x50, 0x4F, 0x4E, 0x47]

def deviceHandleInfo (service : DeviceService) (request : Frame) : Frame :=
  let identity := service.identity
  let modelLength := deviceModelLength identity.model
  request.answer .response ([devicePayloadSchemaVersion, identity.firmwareMajor, identity.firmwareMinor,
    identity.firmwarePatch] ++ putU32Be identity.deviceId ++ [BitVec.ofNat 8 modelLength] ++
    identity.model.take modelLength)

def deviceHandleStatus (runtime : DeviceRuntime) (request : Frame) : Frame :=
  request.answer .response ([devicePayloadSchemaVersion, runtime.state.code] ++ putU32Be runtime.uptimeSeconds ++
    putU32Be runtime.rxFrames ++ putU32Be runtime.txFrames ++ putU32Be runtime.protocolErrors ++ [runtime.lastError])

def deviceServiceInit (identity : DeviceIdentity) : Except ProtocolResult DeviceService :=
  if deviceModelLength identity.model = 0 then .error .errorLengthMismatch
  else if deviceModelLength identity.model > deviceModelMaxLength then .error .errorPayloadTooLarge
  else .ok ⟨identity⟩

def deviceServiceHandle (service : DeviceService) (runtime : DeviceRuntime) (request : Frame) :
    Except ProtocolResult Frame :=
  if request.messageType ≠ .request then .ok (deviceMakeError request .malformedFrame)
  else if request.payload.length ≠ 0 then .ok (deviceMakeError request .invalidPayload)
  else if request.command = commandPing then .ok (deviceHandlePing request)
  else if request.command = commandDeviceInfo then .ok (deviceHandleInfo service request)
  else if request.command = commandGetStatus then .ok (deviceHandleStatus runtime request)
  else .ok (deviceMakeError request .unknownCommand)

theorem deviceHandleInfo_answers (service : DeviceService) (request : Frame) :
    (deviceHandleInfo service request).Answers request := by
  apply Frame.answer_answers
  simp only [List.length_append, List.length_cons, List.length_nil, putU32Be_length, List.length_take,
    deviceModelLength, deviceModelMaxLength, maxPayloadSize]
  omega

theorem deviceServiceHandle_answers (service : DeviceService) (runtime : DeviceRuntime) (request : Frame) :
    ∃ answer, deviceServiceHandle service runtime request = .ok answer ∧ answer.Answers request := by
  unfold deviceServiceHandle
  split_ifs
  · exact ⟨_, rfl, makeError_answers _ _⟩
  · exact ⟨_, rfl, makeError_answers _ _⟩
  · exact ⟨_, rfl, Frame.answer_answers _ (by decide)⟩
  · exact ⟨_, rfl, deviceHandleInfo_answers _ _⟩
  · exact ⟨_, rfl, Frame.answer_answers _ (by simp [maxPayloadSize])⟩
  · exact ⟨_, rfl, makeError_answers _ _⟩

def telemetrySchemaVersion : U8 := 0x01
def telemetryMinPeriodMs : U16 := 100
def telemetryMaxPeriodMs : U16 := 60000
def telemetryDefaultPeriodMs : U16 := 1000

structure MachineMeasurements where
  temperatureCentiC : U16
  vibrationMgRms : U16
  currentMa : U16
  rpm : U16
  supplyMv : U16
  statusFlags : U16
  deriving DecidableEq, Repr

structure Telemetry where
  enabled : U8
  periodMs : U16
  elapsedMs : U32
  timestampMs : U32
  nextSequence : U32
  measurements : MachineMeasurements
  deriving DecidableEq, Repr

def telemetryMakeError (request : Frame) (error : ErrorCode) : Frame := makeError request error

def telemetryMakeConfigResponse (telemetry : Telemetry) (request : Frame) : Frame :=
  request.answer .response ([telemetrySchemaVersion, telemetry.enabled] ++ putU16Be telemetry.periodMs)

def telemetryInit : Telemetry := ⟨0, telemetryDefaultPeriodMs, 0, 0, 1, ⟨0, 0, 0, 0, 0, 0⟩⟩

def telemetryTick1ms (telemetry : Telemetry) : Telemetry :=
  let ticked : Telemetry := { telemetry with timestampMs := telemetry.timestampMs + 1 }
  if telemetry.enabled ≠ 0 ∧ telemetry.elapsedMs ≠ 0xFFFFFFFF then
    { ticked with elapsedMs := telemetry.elapsedMs + 1 }
  else ticked

def telemetrySetMeasurements (telemetry : Telemetry) (measurements : MachineMeasurements) : Telemetry :=
  { telemetry with measurements }

def telemetryHandleRequest (telemetry : Telemetry) (request : Frame) : Except ProtocolResult Frame × Telemetry :=
  if request.messageType ≠ .request then (.ok (telemetryMakeError request .malformedFrame), telemetry)
  else if request.command ≠ commandSetTelemetry then (.ok (telemetryMakeError request .unknownCommand), telemetry)
  else if request.payload.length ≠ 4 then (.ok (telemetryMakeError request .invalidPayload), telemetry)
  else if request.payload.getD 0 0 ≠ telemetrySchemaVersion then
    (.ok (telemetryMakeError request .invalidPayload), telemetry)
  else if request.payload.getD 1 0 > 1 then (.ok (telemetryMakeError request .invalidPayload), telemetry)
  else
    let requestedPeriodMs := getU16Be (request.payload.drop 2)
    if requestedPeriodMs < telemetryMinPeriodMs ∨ requestedPeriodMs > telemetryMaxPeriodMs then
      (.ok (telemetryMakeError request .invalidPayload), telemetry)
    else
      let telemetry : Telemetry :=
        { telemetry with enabled := request.payload.getD 1 0, periodMs := requestedPeriodMs, elapsedMs := 0 }
      (.ok (telemetryMakeConfigResponse telemetry request), telemetry)

def telemetryMakeDueFrame (telemetry : Telemetry) (state : DeviceState) : Option Frame × Telemetry :=
  if telemetry.enabled = 0 then (none, telemetry)
  else if telemetry.elapsedMs < telemetry.periodMs.setWidth 32 then (none, telemetry)
  else
    let measured := telemetry.measurements
    let frame : Frame :=
      { messageType := .telemetry
        command := commandMachineTelemetry
        flags := supportedFlags
        sequence := telemetry.nextSequence
        payload := [telemetrySchemaVersion, state.code] ++ putU32Be telemetry.timestampMs ++
          putU16Be measured.temperatureCentiC ++ putU16Be measured.vibrationMgRms ++ putU16Be measured.currentMa ++
          putU16Be measured.rpm ++ putU16Be measured.supplyMv ++ putU16Be measured.statusFlags }
    (some frame,
      { telemetry with
        elapsedMs := 0
        nextSequence := if telemetry.nextSequence = 0xFFFFFFFF then 1 else telemetry.nextSequence + 1 })

theorem telemetryHandleRequest_answers (telemetry : Telemetry) (request : Frame) :
    ∃ answer, (telemetryHandleRequest telemetry request).1 = .ok answer ∧ answer.Answers request := by
  unfold telemetryHandleRequest
  dsimp only
  split_ifs
  · exact ⟨_, rfl, makeError_answers _ _⟩
  · exact ⟨_, rfl, makeError_answers _ _⟩
  · exact ⟨_, rfl, makeError_answers _ _⟩
  · exact ⟨_, rfl, makeError_answers _ _⟩
  · exact ⟨_, rfl, makeError_answers _ _⟩
  · exact ⟨_, rfl, makeError_answers _ _⟩
  · exact ⟨_, rfl, Frame.answer_answers _ (by simp [maxPayloadSize])⟩

theorem telemetryMakeDueFrame_due {telemetry : Telemetry} {state : DeviceState} {frame : Frame}
    (due : (telemetryMakeDueFrame telemetry state).1 = some frame) :
    telemetry.enabled ≠ 0 ∧ ¬ telemetry.elapsedMs < telemetry.periodMs.setWidth 32 ∧
      frame.messageType = .telemetry ∧ frame.Encodable := by
  unfold telemetryMakeDueFrame at due
  dsimp only at due
  by_cases disabled : telemetry.enabled = 0
  · rw [if_pos disabled] at due
    cases due
  · rw [if_neg disabled] at due
    by_cases early : telemetry.elapsedMs < telemetry.periodMs.setWidth 32
    · rw [if_pos early] at due
      cases due
    · rw [if_neg early] at due
      cases due
      exact ⟨disabled, early, rfl, rfl, by simp [maxPayloadSize]⟩

theorem telemetryMakeDueFrame_command {telemetry : Telemetry} {state : DeviceState} {frame : Frame}
    (due : (telemetryMakeDueFrame telemetry state).1 = some frame) : frame.command = commandMachineTelemetry := by
  obtain ⟨enabled, late, -, -⟩ := telemetryMakeDueFrame_due due
  unfold telemetryMakeDueFrame at due
  rw [if_neg enabled, if_neg late] at due
  cases due
  rfl

def Telemetry.Idle (telemetry : Telemetry) : Prop :=
  telemetry.enabled = 0 ∨ telemetry.elapsedMs < telemetry.periodMs.setWidth 32

theorem telemetryMakeDueFrame_idle {telemetry : Telemetry} (idle : telemetry.Idle) (state : DeviceState) :
    telemetryMakeDueFrame telemetry state = (none, telemetry) := by
  unfold telemetryMakeDueFrame
  rcases idle with disabled | early
  · rw [if_pos disabled]
  · rw [if_pos early, ite_self]

theorem telemetryHandleRequest_idle {telemetry : Telemetry} (idle : telemetry.Idle) (request : Frame) :
    (telemetryHandleRequest telemetry request).2.Idle := by
  unfold telemetryHandleRequest
  dsimp only
  split_ifs with type command length schema enabled range
  · exact idle
  · exact idle
  · exact idle
  · exact idle
  · exact idle
  · exact idle
  · have long := BitVec.not_lt.mp (not_or.mp range).1
    generalize getU16Be (request.payload.drop 2) = requestedPeriodMs at long ⊢
    apply Or.inr
    unfold telemetryMinPeriodMs at long
    show (0 : U32) < requestedPeriodMs.setWidth 32
    bv_omega

end Guardian.App
