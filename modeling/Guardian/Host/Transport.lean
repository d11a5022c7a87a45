import Guardian.Host.IncrementalParser

namespace Guardian.Host

open Word Guardian.Protocol

inductive TransportFailure
  | disconnected
  | timedOut
  | communication
  | pyserialMissing
  | serialWrote (written expected : Nat)
  | streamOpen
  | streamWrite
  | streamRead
  | streamWrote (written expected : Nat)
  | streamTimedOut
  deriving DecidableEq, Repr

inductive ProtocolClientFailure
  | requestRequired
  | commandMismatch (response request : U8)
  | errorPayload
  | unexpectedMessageType (messageType : MessageType)
  | telemetryConfiguration
  | telemetryDisable
  deriving DecidableEq, Repr

/-- The exceptions of the console. Each failure stands for one message and carries the values in it. -/
inductive GuardianCtlError
  | transport (failure : TransportFailure)
  | protocolClient (failure : ProtocolClientFailure)
  | remoteDevice (command errorCode : U8)
  deriving DecidableEq, Repr

def validateCorrelatedResponse (request response : Frame) : Except GuardianCtlError Frame :=
  if response.command ≠ request.command then
    .error (.protocolClient (.commandMismatch response.command request.command))
  else if response.messageType = .error then
    if response.payload.length ≠ 1 then .error (.protocolClient .errorPayload)
    else .error (.remoteDevice response.command (response.payload.getD 0 0))
  else if response.messageType ≠ .response then
    .error (.protocolClient (.unexpectedMessageType response.messageType))
  else .ok response

/-- The inner loop of the exchanges, over the frames of one read. -/
def correlate (request : Frame) : List Frame → Option (Except GuardianCtlError Frame)
  | [] => none
  | response :: frames =>
    if response.sequence ≠ request.sequence then correlate request frames
    else some (validateCorrelatedResponse request response)

inductive SocketFault
  | timeout
  | failure
  deriving DecidableEq, Repr

def SocketFault.error : SocketFault → GuardianCtlError
  | .timeout => .transport .timedOut
  | .failure => .transport .communication

/-- What the operating system answers to the calls of one exchange. An empty receipt is the end of the stream. -/
structure TcpConnection where
  connected : Except SocketFault Unit
  sent : Except SocketFault Unit
  receipts : List (Except SocketFault (List U8))

/-- `none`: the call still waits in `recv`. -/
def tcpReceive (request : Frame) : List (Except SocketFault (List U8)) → IncrementalParser →
    Option (Except GuardianCtlError Frame)
  | [], _ => none
  | .error fault :: _, _ => some (.error fault.error)
  | .ok chunk :: receipts, parser =>
    if chunk = [] then some (.error (.transport .disconnected))
    else
      let fed := parser.feed chunk
      match correlate request fed.1 with
      | some outcome => some outcome
      | none => tcpReceive request receipts fed.2

def tcpExchange (connection : TcpConnection) (request : Frame) : Option (Except GuardianCtlError Frame) :=
  if request.messageType ≠ .request then some (.error (.protocolClient .requestRequired))
  else match connection.connected with
    | .error fault => some (.error fault.error)
    | .ok () => match connection.sent with
      | .error fault => some (.error fault.error)
      | .ok () => tcpReceive request connection.receipts incrementalParser

structure SequenceManager where
  nextValue : U32
  deriving DecidableEq, Repr

def SequenceManager.next (manager : SequenceManager) : U32 × SequenceManager :=
  (manager.nextValue, ⟨if manager.nextValue = 0xFFFFFFFF then 1 else manager.nextValue + 1⟩)

/-- `time.monotonic()` in seconds. `sampleSpan` is `(period_ms / 1000.0) * 3.0 + 0.1`. -/
class MonotonicTime (τ : Type) extends Add τ where
  before : τ → τ → Bool
  sampleSpan : Nat → τ

/-- Time in milliseconds. -/
instance : MonotonicTime Nat where
  before left right := left < right
  sampleSpan periodMs := periodMs * 3 + 100

inductive SerialFault
  | pyserialMissing
  | failure
  deriving DecidableEq, Repr

def SerialFault.error : SerialFault → GuardianCtlError
  | .pyserialMissing => .transport .pyserialMissing
  | .failure => .transport .communication

variable {τ : Type} [MonotonicTime τ]

/-- What the clock and the port answer to the calls of one exchange. -/
structure SerialPort (τ : Type) where
  started : τ
  opened : Except SerialFault Unit
  inputReset : Except SerialFault Unit
  written : Except SerialFault Nat
  flushed : Except SerialFault Unit
  clock : List τ
  reads : List (Except SerialFault (List U8))

def serialReceive (request : Frame) (deadline : τ) : List τ → List (Except SerialFault (List U8)) →
    IncrementalParser → Option (Except GuardianCtlError Frame)
  | [], _, _ => none
  | now :: clock, reads, parser =>
    if MonotonicTime.before now deadline then
      match reads with
      | [] => none
      | .error fault :: _ => some (.error fault.error)
      | .ok chunk :: reads =>
        if chunk = [] then serialReceive request deadline clock reads parser
        else
          let fed := parser.feed chunk
          match correlate request fed.1 with
          | some outcome => some outcome
          | none => serialReceive request deadline clock reads fed.2
    else some (.error (.transport .timedOut))

def serialExchange (timeout : τ) (port : SerialPort τ) (request : Frame) : Option (Except GuardianCtlError Frame) :=
  if request.messageType ≠ .request then some (.error (.protocolClient .requestRequired))
  else
    let encodedRequest := encodeFrame request
    let deadline := port.started + timeout
    match port.opened with
    | .error fault => some (.error fault.error)
    | .ok () => match port.inputReset with
      | .error fault => some (.error fault.error)
      | .ok () => match port.written with
        | .error fault => some (.error fault.error)
        | .ok written =>
          if written ≠ encodedRequest.length then
            some (.error (.transport (.serialWrote written encodedRequest.length)))
          else match port.flushed with
            | .error fault => some (.error fault.error)
            | .ok () => serialReceive request deadline port.clock port.reads incrementalParser

end Guardian.Host
