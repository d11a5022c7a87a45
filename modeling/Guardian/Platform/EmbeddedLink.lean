import Guardian.App.Telemetry
import Guardian.Control.ControlService
import Guardian.Dsp.DspService
import Guardian.Firmware.FirmwareLifecycle
import Guardian.Protocol.Parser
import Guardian.Security.Security

namespace Guardian.Platform

open Word Guardian.Protocol Guardian.App Guardian.Dsp Guardian.Health Guardian.Supervision Guardian.Session
  Guardian.Firmware

def embeddedDefaultRxBudget : Nat := 64

structure LinkStats where
  rxFrames : U32
  txFrames : U32
  protocolErrors : U32
  txQueueFailures : U32
  lastError : U8
  deriving DecidableEq, Repr

/-- The link, with the number of generator and firmware callbacks used so far. `α` are the output adapters, `ρ` the
numbers of the health model. -/
structure EmbeddedLink (α ρ : Type) where
  parser : Parser
  service : DeviceService
  telemetry : Telemetry
  dspFeatures : DspFeatures
  dspFeaturesValid : U8
  health : HealthModel ρ
  control : Control α
  security : Security
  firmware : FirmwareSystem
  securityRequired : U8
  state : DeviceState
  stats : LinkStats
  randomCalls : Nat
  callbackCalls : Nat

/-- What the platform answers to each call: the generator, the firmware callbacks, the output callbacks, and the trusted
firmware keys. -/
structure LinkPlatform where
  random : Nat → Option (Bytes 20)
  callback : Nat → CallbackOutcome
  output : Nat → Bool
  trusted : U8 → U32 → List U8 → List U8 → Bool

/-- What happens during one poll: the clock at each reading, and whether each write is taken whole. -/
structure PollEnvironment where
  uptimeSeconds : Nat → U32
  accepts : Nat → Bool

structure LinkWrite where
  bytes : List U8
  accepted : Bool
  deriving DecidableEq, Repr

def embeddedIncrementU32 (value : U32) : U32 := if value ≠ 0xFFFFFFFF then value + 1 else value

def embeddedControlDeviceState (status : ControlStatus) : DeviceState :=
  if status.state = .active then .running
  else if status.state = .degraded then .degraded
  else if status.state = .faultLatched then .fault
  else .idle

def embeddedSecurityError (result : SecurityResult) : ErrorCode :=
  if result = .errorReplay then .replayDetected
  else if result = .errorUnauthorized then .unauthorized
  else if result = .errorInvalidPayload then .invalidPayload
  else .internal

def embeddedFirmwareError (result : FirmwareResult) : ErrorCode :=
  if result = .rollbackBlocked then .rollbackBlocked
  else if result = .signatureInvalid then .signatureInvalid
  else if result = .invalidPayload ∨ result = .outOfOrder then .invalidPayload
  else if result = .invalidState then .busy
  else if result = .unconfigured ∨ result = .storage ∨ result = .hashMismatch ∨ result = .activation ∨
      result = .confirmation then .updateFailed
  else .internal

def embeddedMakeResponse (request : Frame) (payload : List U8) : Frame := request.answer .response payload
def embeddedMakeError (request : Frame) (error : ErrorCode) : Frame := makeError request error

/-- The commands that need a protected request when security is required. -/
def embeddedPrivileged (command : U8) : Bool :=
  command = commandBaselineControl ∨ command = commandControlCommand ∨ command = commandFirmwareBegin ∨
    command = commandFirmwareChunk ∨ command = commandFirmwareFinalize ∨ command = commandFirmwareActivate

section link

variable {α ρ : Type}

def EmbeddedLink.fail (link : EmbeddedLink α ρ) (error : ErrorCode) : EmbeddedLink α ρ :=
  { link with stats :=
      { link.stats with protocolErrors := embeddedIncrementU32 link.stats.protocolErrors, lastError := error.code } }

def embeddedSyncControlState (link : EmbeddedLink α ρ) : EmbeddedLink α ρ :=
  let status := link.control.status
  if status.supervisionEnabled = 0 ∧ status.state ≠ .faultLatched then link
  else { link with state := embeddedControlDeviceState status }

def embeddedUpdateControlHealth (platform : LinkPlatform) (link : EmbeddedLink α ρ) : EmbeddedLink α ρ :=
  embeddedSyncControlState
    { link with control := controlUpdateHealth platform.output link.control link.health.status }

def embeddedRuntime (link : EmbeddedLink α ρ) (uptimeSeconds : U32) : DeviceRuntime :=
  { state := link.state
    uptimeSeconds
    rxFrames := link.stats.rxFrames
    txFrames := link.stats.txFrames
    protocolErrors := link.stats.protocolErrors
    lastError := link.stats.lastError }

def embeddedRecordResponseError (link : EmbeddedLink α ρ) (response : Frame) : EmbeddedLink α ρ :=
  if response.messageType ≠ .error then link
  else
    { link with stats :=
        { link.stats with
          protocolErrors := embeddedIncrementU32 link.stats.protocolErrors
          lastError := if response.payload.length = 1 then response.payload.getD 0 0 else link.stats.lastError } }

/-- The answer to a firmware command, once it was decoded and run. -/
def embeddedFirmwareAnswer (link : EmbeddedLink α ρ) (request : Frame) (ran : FirmwareResult × FirmwareSystem) :
    Except ProtocolResult Frame × EmbeddedLink α ρ :=
  (.ok (if ran.1 ≠ .ok then embeddedMakeError request (embeddedFirmwareError ran.1)
      else embeddedMakeResponse request []),
    { link with firmware := ran.2, callbackCalls := link.callbackCalls + 2 })

variable [Zero ρ]

/-- `flash` is what the firmware callbacks keep. -/
def embeddedLinkInit (flash : FirmwarePlatform) (identity : DeviceIdentity) : ProtocolResult × EmbeddedLink α ρ :=
  let link (service : DeviceService) : EmbeddedLink α ρ :=
    { parser := parserInit
      service
      telemetry := telemetryInit
      dspFeatures := zeroDspFeatures
      dspFeaturesValid := 0
      health := healthInit
      control := controlInit
      security := securityInit
      firmware := ⟨firmwareLifecycleInit, flash⟩
      securityRequired := 0
      state := .idle
      stats := ⟨0, 0, 0, 0, 0⟩
      randomCalls := 0
      callbackCalls := 0 }
  match deviceServiceInit identity with
  | .ok service => (.ok, link service)
  | .error result => (result, link ⟨zeroDeviceIdentity⟩)

variable (platform : LinkPlatform)

def embeddedDispatchPrivileged (link : EmbeddedLink α ρ) (request : Frame) :
    Except ProtocolResult Frame × EmbeddedLink α ρ :=
  let first := platform.callback link.callbackCalls
  let second := platform.callback (link.callbackCalls + 1)
  if request.command = commandBaselineControl then
    let handled := healthHandleRequest link.health request
    let link := { link with health := handled.2 }
    match handled.1 with
    | .ok response =>
      (.ok response, if response.messageType = .response then embeddedUpdateControlHealth platform link else link)
    | .error result => (.error result, link)
  else if request.command = commandControlCommand then
    let handled := controlHandleRequest platform.output link.control request
    (handled.1, embeddedSyncControlState { link with control := handled.2 })
  else if request.command = commandFirmwareBegin then
    embeddedFirmwareAnswer link request (match firmwareDecodeManifest request.payload with
      | .ok manifest => firmwareBegin link.firmware manifest first
      | .error result => (result, link.firmware))
  else if request.command = commandFirmwareChunk then
    embeddedFirmwareAnswer link request (match firmwareDecodeChunk request.payload with
      | .ok chunk => firmwareWriteChunk link.firmware chunk first
      | .error result => (result, link.firmware))
  else if request.command = commandFirmwareFinalize then
    embeddedFirmwareAnswer link request
      (if firmwareDecodeAction request.payload = .ok then firmwareFinalize platform.trusted link.firmware first second
      else (firmwareDecodeAction request.payload, link.firmware))
  else if request.command = commandFirmwareActivate then
    embeddedFirmwareAnswer link request
      (if firmwareDecodeAction request.payload = .ok then firmwareActivate link.firmware first
      else (firmwareDecodeAction request.payload, link.firmware))
  else (.ok (embeddedMakeError request .unknownCommand), link)

/-- What a branch of the poll loop leaves in `protocol_result` and in `output`, which it may not touch. -/
structure PollBranch (α ρ : Type) where
  protocolResult : ProtocolResult
  output : Option Frame
  link : EmbeddedLink α ρ

def PollBranch.handled (result : Except ProtocolResult Frame) (link : EmbeddedLink α ρ) : PollBranch α ρ :=
  match result with
  | .ok frame => ⟨.ok, some frame, link⟩
  | .error failure => ⟨failure, none, link⟩

def embeddedSecurityAnswer (request : Frame) : Except SecurityResult (List U8) → Frame
  | .ok payload => embeddedMakeResponse request payload
  | .error result => embeddedMakeError request (embeddedSecurityError result)

def embeddedAuthBegin (protocolResult : ProtocolResult) (link : EmbeddedLink α ρ) (request : Frame)
    (nowSeconds : U32) : PollBranch α ρ :=
  let begun := securityAuthBegin link.security request.payload nowSeconds maxPayloadSize
    (platform.random link.randomCalls)
  ⟨protocolResult, some (embeddedSecurityAnswer request begun.1),
    { link with security := begun.2, randomCalls := link.randomCalls + 1 }⟩

def embeddedAuthFinish (protocolResult : ProtocolResult) (link : EmbeddedLink α ρ) (request : Frame)
    (nowSeconds : U32) : PollBranch α ρ :=
  let finished := securityAuthFinish link.security request.payload nowSeconds maxPayloadSize
  ⟨protocolResult, some (embeddedSecurityAnswer request finished.1), { link with security := finished.2 }⟩

def embeddedGetSecurityStatus (protocolResult : ProtocolResult) (link : EmbeddedLink α ρ) (request : Frame)
    (nowSeconds : U32) : PollBranch α ρ :=
  if request.payload.length ≠ 0 then ⟨protocolResult, some (embeddedMakeError request .invalidPayload), link⟩
  else
    let status := securityStatus link.security nowSeconds
    let answer :=
      match securityEncodeStatusPayload status.1 maxPayloadSize with
      | .ok payload => embeddedMakeResponse request payload
      | .error _ => embeddedMakeError request .internal
    ⟨protocolResult, some answer, { link with security := status.2 }⟩

def embeddedGetFirmwareStatus (protocolResult : ProtocolResult) (link : EmbeddedLink α ρ) (request : Frame) :
    PollBranch α ρ :=
  if request.payload.length ≠ 0 then ⟨protocolResult, some (embeddedMakeError request .invalidPayload), link⟩
  else
    let answer :=
      match firmwareEncodeStatusPayload (firmwareStatus link.firmware.lifecycle) maxPayloadSize with
      | some payload => embeddedMakeResponse request payload
      | none => embeddedMakeError request .internal
    ⟨protocolResult, some answer, link⟩

/-- The request inside a protected one is run if its role allows it. A result left by an earlier frame of the poll is
still in force when it is denied. -/
def embeddedAuthorize (protocolResult : ProtocolResult) (link : EmbeddedLink α ρ) (innerRequest : Frame) :
    Except ProtocolResult Frame × EmbeddedLink α ρ :=
  let authorized := securityAuthorize link.security innerRequest.command
  let link := { link with security := authorized.2 }
  if authorized.1 then embeddedDispatchPrivileged platform link innerRequest
  else if protocolResult = .ok then (.ok (embeddedMakeError innerRequest .unauthorized), link)
  else (.error protocolResult, link)

def embeddedWrap (request : Frame) (secureCounter : U64)
    (dispatched : Except ProtocolResult Frame × EmbeddedLink α ρ) : PollBranch α ρ :=
  match dispatched.1 with
  | .error failure => ⟨failure, none, dispatched.2⟩
  | .ok innerResponse =>
    match securityWrapResponse dispatched.2.security request secureCounter innerResponse with
    | .ok output => ⟨.ok, some output, dispatched.2⟩
    | .error result => ⟨.ok, some (embeddedMakeError request (embeddedSecurityError result)), dispatched.2⟩

def embeddedSecureCommand (protocolResult : ProtocolResult) (link : EmbeddedLink α ρ) (request : Frame)
    (nowSeconds : U32) : PollBranch α ρ :=
  let unwrapped := securityUnwrapRequest link.security request nowSeconds
  let link := { link with security := unwrapped.2 }
  match unwrapped.1 with
  | .error result => ⟨protocolResult, some (embeddedMakeError request (embeddedSecurityError result)), link⟩
  | .ok (innerRequest, secureCounter) =>
    embeddedWrap request secureCounter (embeddedAuthorize platform protocolResult link innerRequest)

/-- The branches that hand the frame to a service. The device status reads the clock again. -/
def embeddedService (link : EmbeddedLink α ρ) (request : Frame) (runtimeSeconds : U32) :
    Except ProtocolResult Frame × EmbeddedLink α ρ :=
  if request.command = commandSetTelemetry then
    let handled := telemetryHandleRequest link.telemetry request
    (handled.1, { link with telemetry := handled.2 })
  else if request.command = commandGetDspFeatures then
    (dspHandleRequest link.dspFeatures link.dspFeaturesValid request, link)
  else if request.command = commandGetHealthStatus then
    let handled := healthHandleRequest link.health request
    (handled.1, { link with health := handled.2 })
  else if request.command = commandBaselineControl then embeddedDispatchPrivileged platform link request
  else if request.command = commandGetControlStatus then
    let handled := controlHandleRequest platform.output link.control request
    (handled.1, embeddedSyncControlState { link with control := handled.2 })
  else if request.command = commandControlCommand then embeddedDispatchPrivileged platform link request
  else (deviceServiceHandle link.service (embeddedRuntime link runtimeSeconds) request, link)

def embeddedDispatch (protocolResult : ProtocolResult) (link : EmbeddedLink α ρ) (request : Frame)
    (nowSeconds runtimeSeconds : U32) : PollBranch α ρ :=
  if request.command = commandAuthBegin then embeddedAuthBegin platform protocolResult link request nowSeconds
  else if request.command = commandAuthFinish then embeddedAuthFinish protocolResult link request nowSeconds
  else if request.command = commandGetSecurityStatus then
    embeddedGetSecurityStatus protocolResult link request nowSeconds
  else if request.command = commandGetFirmwareStatus then embeddedGetFirmwareStatus protocolResult link request
  else if request.command = commandSecureCommand then
    embeddedSecureCommand platform protocolResult link request nowSeconds
  else if link.securityRequired ≠ 0 ∧ embeddedPrivileged request.command then
    ⟨protocolResult, some (embeddedMakeError request .unauthorized), link⟩
  else
    let handled := embeddedService platform link request runtimeSeconds
    .handled handled.1 handled.2

/-- The locals of a poll, with the frames it received so far and its writes, oldest first. -/
structure PollLoop (α ρ : Type) where
  link : EmbeddedLink α ρ
  protocolResult : ProtocolResult
  output : Option Frame
  frames : Nat
  writes : List LinkWrite

variable (environment : PollEnvironment)

/-- `none` is a frame that was never filled in, which cannot be encoded. -/
def embeddedTransmit (loop : PollLoop α ρ) (frame : Option Frame) : PollLoop α ρ :=
  match frame.map (protocolEncode · maxFrameSize) with
  | some (.ok encoded) =>
    let accepted := environment.accepts loop.writes.length
    let stats := loop.link.stats
    let stats : LinkStats :=
      if accepted then { stats with txFrames := embeddedIncrementU32 stats.txFrames }
      else
        { stats with
          txQueueFailures := embeddedIncrementU32 stats.txQueueFailures
          protocolErrors := embeddedIncrementU32 stats.protocolErrors
          lastError := ErrorCode.busy.code }
    { loop with link := { loop.link with stats }, writes := loop.writes ++ [⟨encoded, accepted⟩] }
  | _ => { loop with link := loop.link.fail .internal }

def embeddedHandleFrame (loop : PollLoop α ρ) (request : Frame) : PollLoop α ρ :=
  let received : EmbeddedLink α ρ :=
    { loop.link with stats :=
        { loop.link.stats with rxFrames := embeddedIncrementU32 loop.link.stats.rxFrames } }
  let branch := embeddedDispatch platform loop.protocolResult received request
    (environment.uptimeSeconds (2 * loop.frames)) (environment.uptimeSeconds (2 * loop.frames + 1))
  let loop : PollLoop α ρ :=
    { loop with
      link := branch.link
      protocolResult := branch.protocolResult
      output := branch.output <|> loop.output
      frames := loop.frames + 1 }
  if loop.protocolResult ≠ .ok then { loop with link := loop.link.fail .internal }
  else
    match loop.output with
    | none => embeddedTransmit environment loop none
    | some output =>
      embeddedTransmit environment { loop with link := embeddedRecordResponseError loop.link output } (some output)

def embeddedReceive (loop : PollLoop α ρ) (byte : U8) : PollLoop α ρ :=
  let pushed := parserPushByte loop.link.parser byte
  let loop : PollLoop α ρ := { loop with link := { loop.link with parser := pushed.2 } }
  match pushed.1 with
  | .noFrame => loop
  | .frameReady request => embeddedHandleFrame platform environment loop request
  | _ => { loop with link := loop.link.fail .malformedFrame }

def embeddedPollStart (link : EmbeddedLink α ρ) : PollLoop α ρ := ⟨link, .ok, none, 0, []⟩

def embeddedFlushTelemetry (loop : PollLoop α ρ) : PollLoop α ρ :=
  let due := telemetryMakeDueFrame loop.link.telemetry loop.link.state
  let loop : PollLoop α ρ := { loop with link := { loop.link with telemetry := due.2 } }
  match due.1 with
  | none => loop
  | some frame => embeddedTransmit environment loop (some frame)

def embeddedConsumed (incoming : List U8) (rxBudget : Nat) : List U8 :=
  incoming.take (if rxBudget = 0 then embeddedDefaultRxBudget else rxBudget)

def embeddedLinkPoll (link : EmbeddedLink α ρ) (incoming : List U8) (rxBudget : Nat) : PollLoop α ρ :=
  embeddedFlushTelemetry environment
    (Run.after (embeddedReceive platform environment) (embeddedConsumed incoming rxBudget) (embeddedPollStart link))

end link

end Guardian.Platform
