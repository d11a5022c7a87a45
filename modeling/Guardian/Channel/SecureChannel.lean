import Guardian.Host.SecuritySession
import Guardian.Platform.LinkOperation

namespace Guardian.Channel

open Word Guardian.Crypto Guardian.Protocol Guardian.App Guardian.Health Guardian.Session Guardian.Platform Guardian.Host

/-- A session key that one of the two sides made, with what it was made from. -/
structure KeyDerivation where
  psk : Bytes 32
  role : SecurityRole
  sessionId : U32
  clientNonce : Bytes 16
  deviceNonce : Bytes 16
  deriving DecidableEq

abbrev MacInput := List U8 × List U8

def KeyDerivation.macInput (derivation : KeyDerivation) : MacInput :=
  (derivation.psk.1, handshakeTranscript securitySessionLabel derivation.role derivation.sessionId
    derivation.clientNonce derivation.deviceNonce)

def KeyDerivation.key (derivation : KeyDerivation) : List U8 :=
  hmacSha256 derivation.macInput.1 derivation.macInput.2

/-- A protected request that the host sent for a call of `exchange`. -/
structure SecureRequest where
  call : SecureCall
  sessionKey : List U8
  sessionId : U32
  counter : Nat
  sequence : U32
  deriving DecidableEq

def SecureRequest.macInput (request : SecureRequest) : MacInput :=
  (request.sessionKey, requestTranscript request.sessionId (BitVec.ofNat 64 request.counter) request.sequence
    request.call.command request.call.payload)

def SecureRequest.frame (request : SecureRequest) : Frame :=
  hostRequest commandSecureCommand request.sequence
    (requestEnvelope request.sessionId (BitVec.ofNat 64 request.counter) request.call.command request.call.payload
      (macTag request.macInput.1 request.macInput.2))

/-- A protected request that the device accepted: the session it counted for, the request inside, whether that was
dispatched, and what the device produced for it. -/
structure SecureAcceptance where
  sessionKey : List U8
  sessionId : U32
  counter : U64
  request : Frame
  dispatched : Bool
  result : Except ProtocolResult Frame
  deriving DecidableEq

def SecureAcceptance.requestInput (acceptance : SecureAcceptance) : MacInput :=
  (acceptance.sessionKey, requestTranscript acceptance.sessionId acceptance.counter acceptance.request.sequence
    acceptance.request.command acceptance.request.payload)

def SecureAcceptance.responseInput (acceptance : SecureAcceptance) (response : Frame) : MacInput :=
  (acceptance.sessionKey, responseTranscript acceptance.sessionId acceptance.counter acceptance.request.sequence
    response.messageType response.command response.payload)

def SecureAcceptance.macInputs (acceptance : SecureAcceptance) : List MacInput :=
  acceptance.requestInput :: match acceptance.result with
    | .ok response => [acceptance.responseInput response]
    | .error _ => []

def SecureAcceptance.answer (acceptance : SecureAcceptance) (response : Frame) : Frame :=
  { messageType := .response
    command := commandSecureCommand
    flags := supportedFlags
    sequence := acceptance.request.sequence
    payload := responseEnvelope acceptance.sessionId acceptance.counter response.messageType response.command
      response.payload (macTag (acceptance.responseInput response).1 (acceptance.responseInput response).2) }

def SecureAcceptance.Executes (acceptance : SecureAcceptance) (request : SecureRequest) : Prop :=
  acceptance.sessionKey = request.sessionKey ∧ acceptance.counter = BitVec.ofNat 64 request.counter ∧
    acceptance.request = hostRequest request.call.command request.sequence request.call.payload

structure HostLog where
  calls : List SecureCall
  clientNonces : List (Bytes 16)
  keys : List KeyDerivation
  requests : List SecureRequest
  verified : List MacInput
  returned : List (SecureCall × Frame)

def HostLog.answer (log : HostLog) : HostResult → HostLog
  | .exchanged call (.ok response) => { log with returned := (call, response) :: log.returned }
  | _ => log

def HostLog.wait (log : HostLog) (host : SecurityHost) : HostLog :=
  match host.phase with
  | .idle => log
  | .beginning _ clientNonce _ => { log with clientNonces := clientNonce :: log.clientNonces }
  | .finishing _ clientNonce challenge _ _ =>
    { log with keys :=
        ⟨host.config.psk, challenge.role, challenge.sessionId, clientNonce, challenge.deviceNonce⟩ :: log.keys }
  | .exchanging call sessionKey counter request =>
    { log with requests := ⟨call, sessionKey, host.session.sessionId, counter, request.sequence⟩ :: log.requests }

def HostLog.follow (log : HostLog) (turn : HostTurn) : HostLog := (log.answer turn.result).wait turn.host

def verification (phase : HostPhase) (exchanged : Except GuardianCtlError Frame) : Option MacInput :=
  match phase, exchanged with
  | .exchanging _ sessionKey _ request, .ok outerResponse =>
    match decodeSecureResponse outerResponse.payload sessionKey request.sequence with
    | .ok response =>
      some (sessionKey, responseTranscript response.sessionId (BitVec.ofNat 64 response.counter) request.sequence
        response.innerMessageType response.innerCommand response.innerPayload)
    | .error _ => none
  | _, _ => none

structure DeviceLog where
  deviceNonces : List (Bytes 16)
  keys : List KeyDerivation
  accepted : List SecureAcceptance

section device

variable {α ρ : Type} [Zero ρ] (platform : LinkPlatform)

/-- What the device notes of a request that it accepted in the state `link`. `unwrapped` is its security after that. -/
def secureAcceptance (link : EmbeddedLink α ρ) (unwrapped : Security) (innerRequest : Frame) (counter : U64) :
    SecureAcceptance :=
  { sessionKey := link.security.session.sessionKey.1
    sessionId := link.security.session.sessionId
    counter
    request := innerRequest
    dispatched := (securityAuthorize unwrapped innerRequest.command).1
    result := (embeddedAuthorize platform .ok { link with security := unwrapped } innerRequest).1 }

/-- What a frame adds, that the device receives in the state `link`. -/
def DeviceLog.receive (log : DeviceLog) (link : EmbeddedLink α ρ) (request : Frame) (nowSeconds : U32) : DeviceLog :=
  if request.command = commandAuthBegin then
    let begun := securityAuthBegin link.security request.payload nowSeconds maxPayloadSize
      (platform.random link.randomCalls)
    match begun.1 with
    | .ok _ => { log with deviceNonces := begun.2.pending.deviceNonce :: log.deviceNonces }
    | .error _ => log
  else if request.command = commandAuthFinish then
    match (securityAuthFinish link.security request.payload nowSeconds maxPayloadSize).1 with
    | .ok _ =>
      let pending := link.security.pending
      { log with keys :=
          ⟨link.security.config.psk, pending.role, pending.sessionId, pending.clientNonce, pending.deviceNonce⟩ ::
            log.keys }
    | .error _ => log
  else if request.command = commandSecureCommand then
    let unwrapped := securityUnwrapRequest link.security request nowSeconds
    match unwrapped.1 with
    | .ok (innerRequest, counter) =>
      { log with accepted := secureAcceptance platform link unwrapped.2 innerRequest counter :: log.accepted }
    | .error _ => log
  else log

end device

/-- Both ends, every frame that was sent so far, and what both did. -/
structure SecureChannel (α ρ : Type) where
  host : SecurityHost
  device : EmbeddedLink α ρ
  sent : List Frame
  hostLog : HostLog
  deviceLog : DeviceLog

/-- The host starts a call, or the transport delivers a frame that was sent at any time before, or lets the host's
exchange fail. `hostRequests` is a plain request of another user of the line and its sequence numbers. -/
inductive ChannelEvent (α : Type)
  | authenticate (clientNonce : Bytes 16)
  | exchange (command : U8) (payload : List U8) (clientNonce : Bytes 16)
  | invalidate
  | hostRequests (command : U8) (payload : List U8)
  | hostReceives (frame : Frame)
  | hostFails (error : GuardianCtlError)
  | deviceReceives (frame : Frame) (environment : PollEnvironment)
  | deviceFlushes (environment : PollEnvironment)
  | deviceOperates (operation : LinkOperation α)

def isPoll {α : Type} : LinkOperation α → Bool
  | .poll _ _ _ => true
  | _ => false

section channel

variable {α ρ : Type}

def SecureChannel.follow (channel : SecureChannel α ρ) (turn : HostTurn) : SecureChannel α ρ :=
  { channel with
    host := turn.host
    sent := turn.sent.toList ++ channel.sent
    hostLog := channel.hostLog.follow turn }

def SecureChannel.verify (channel : SecureChannel α ρ) (exchanged : Except GuardianCtlError Frame) : SecureChannel α ρ :=
  let verified := (verification channel.host.phase exchanged).toList ++ channel.hostLog.verified
  { channel with hostLog := { channel.hostLog with verified } }

def SecureChannel.resume (channel : SecureChannel α ρ) (exchanged : Except GuardianCtlError Frame) : SecureChannel α ρ :=
  (channel.verify exchanged).follow (channel.host.resume exchanged)

def SecureChannel.hostReceives (channel : SecureChannel α ρ) (frame : Frame) : SecureChannel α ρ :=
  match channel.host.phase.request with
  | none => channel
  | some request => match correlate request [frame] with
    | none => channel
    | some exchanged => channel.resume exchanged

def SecureChannel.call (channel : SecureChannel α ρ) (call : SecureCall) : SecureChannel α ρ :=
  { channel with hostLog := { channel.hostLog with calls := call :: channel.hostLog.calls } }

def SecureChannel.exchange (channel : SecureChannel α ρ) (command : U8) (payload : List U8) (clientNonce : Bytes 16) :
    SecureChannel α ρ :=
  let call : SecureCall := ⟨channel.hostLog.calls.length, command, payload⟩
  (channel.call call).follow (Host.exchange channel.host call clientNonce)

def SecureChannel.hostRequests (channel : SecureChannel α ρ) (command : U8) (payload : List U8) : SecureChannel α ρ :=
  let (sequence, sequenceManager) := channel.host.sequenceManager.next
  { channel with
    host := { channel.host with sequenceManager }
    sent := hostRequest command sequence payload :: channel.sent }

variable [HealthNumber ρ] (platform : LinkPlatform)

def SecureChannel.deviceReceives (channel : SecureChannel α ρ) (frame : Frame) (environment : PollEnvironment) :
    SecureChannel α ρ :=
  let loop := embeddedHandleFrame platform environment (embeddedPollStart channel.device) frame
  { channel with
    device := loop.link
    sent := loop.output.toList ++ channel.sent
    deviceLog := channel.deviceLog.receive platform channel.device.received frame (environment.uptimeSeconds 0) }

def SecureChannel.deviceFlushes (channel : SecureChannel α ρ) (environment : PollEnvironment) : SecureChannel α ρ :=
  { channel with
    device := (embeddedFlushTelemetry environment (embeddedPollStart channel.device)).link
    sent := (telemetryMakeDueFrame channel.device.telemetry channel.device.state).1.toList ++ channel.sent }

def SecureChannel.step (channel : SecureChannel α ρ) : ChannelEvent α → SecureChannel α ρ
  | .authenticate clientNonce =>
    if channel.host.phase = .idle then channel.follow (Host.authenticate channel.host none clientNonce) else channel
  | .exchange command payload clientNonce =>
    if channel.host.phase = .idle then channel.exchange command payload clientNonce else channel
  | .invalidate =>
    if channel.host.phase = .idle then { channel with host := channel.host.invalidate } else channel
  | .hostRequests command payload =>
    if channel.host.phase = .idle ∧ command ≠ commandSecureCommand then channel.hostRequests command payload
    else channel
  | .hostReceives frame => if frame ∈ channel.sent then channel.hostReceives frame else channel
  | .hostFails error => if channel.host.phase = .idle then channel else channel.resume (.error error)
  | .deviceReceives frame environment =>
    if frame ∈ channel.sent then channel.deviceReceives platform frame environment else channel
  | .deviceFlushes environment => channel.deviceFlushes environment
  | .deviceOperates operation =>
    if isPoll operation then channel
    else { channel with device := embeddedOperate platform channel.device operation }

end channel

def SecureChannel.macInputs {α ρ : Type} (channel : SecureChannel α ρ) : List MacInput :=
  channel.hostLog.keys.map KeyDerivation.macInput ++ channel.deviceLog.keys.map KeyDerivation.macInput ++
    channel.hostLog.requests.map SecureRequest.macInput ++
    channel.deviceLog.accepted.flatMap SecureAcceptance.macInputs ++ channel.hostLog.verified

/-- No two of these have the same tag, and no nonce was drawn twice. -/
structure SecureChannel.Fresh {α ρ : Type} (channel : SecureChannel α ρ) : Prop where
  unforged : ∀ input ∈ channel.macInputs, ∀ other ∈ channel.macInputs,
    macTag input.1 input.2 = macTag other.1 other.2 → input = other
  clientNonces : channel.hostLog.clientNonces.Nodup
  deviceNonces : channel.deviceLog.deviceNonces.Nodup

structure SecureChannel.Initial {α ρ : Type} (channel : SecureChannel α ρ) : Prop where
  idle : channel.host.phase = .idle
  inactive : channel.host.session = .invalidated
  challenge : channel.device.security.pending.valid = 0
  session : channel.device.security.session.valid = 0
  sent : channel.sent = []
  hostLog : channel.hostLog = ⟨[], [], [], [], [], []⟩
  deviceLog : channel.deviceLog = ⟨[], [], []⟩

end Guardian.Channel
