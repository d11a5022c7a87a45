import Guardian.App.Telemetry
import Guardian.Host.Transport

namespace Guardian.Host

open Word Guardian.Protocol Guardian.App

inductive ValueFailure
  | count
  | periodMs
  | configSize (received : Nat)
  | configSchemaVersion (version : U8)
  | configEnabled
  | sampleSize (received : Nat)
  | sampleSchemaVersion (version : U8)
  | deviceState (raw : U8)
  deriving DecidableEq, Repr

structure TelemetryConfig where
  enabled : Bool
  periodMs : Nat
  deriving DecidableEq, Repr

structure MachineTelemetry where
  state : DeviceState
  timestampMs : U32
  measurements : MachineMeasurements
  deriving DecidableEq, Repr

def requirePeriod (periodMs : Nat) : Except ValueFailure Nat :=
  if ¬ (telemetryMinPeriodMs.toNat ≤ periodMs ∧ periodMs ≤ telemetryMaxPeriodMs.toNat) then .error .periodMs
  else .ok periodMs

def encodeTelemetryConfig (config : TelemetryConfig) : Except ValueFailure (List U8) :=
  match requirePeriod config.periodMs with
  | .error failure => .error failure
  | .ok periodMs =>
    .ok ([telemetrySchemaVersion, if config.enabled then 1 else 0] ++ putU16Be (BitVec.ofNat 16 periodMs))

def decodeTelemetryConfig (encoded : List U8) : Except ValueFailure TelemetryConfig :=
  if encoded.length ≠ 4 then .error (.configSize encoded.length)
  else if encoded.getD 0 0 ≠ telemetrySchemaVersion then .error (.configSchemaVersion (encoded.getD 0 0))
  else if ¬ (encoded.getD 1 0 = 0 ∨ encoded.getD 1 0 = 1) then .error .configEnabled
  else match requirePeriod (getU16Be (encoded.drop 2)).toNat with
    | .error failure => .error failure
    | .ok periodMs => .ok ⟨encoded.getD 1 0 = 1, periodMs⟩

def deviceStateOf (raw : U8) : Except ValueFailure DeviceState :=
  if raw = 0 then .ok .boot
  else if raw = 1 then .ok .idle
  else if raw = 2 then .ok .running
  else if raw = 3 then .ok .degraded
  else if raw = 4 then .ok .fault
  else .error (.deviceState raw)

def decodeMachineTelemetry (encoded : List U8) : Except ValueFailure MachineTelemetry :=
  if encoded.length ≠ 18 then .error (.sampleSize encoded.length)
  else if encoded.getD 0 0 ≠ telemetrySchemaVersion then .error (.sampleSchemaVersion (encoded.getD 0 0))
  else match deviceStateOf (encoded.getD 1 0) with
    | .error failure => .error failure
    | .ok state =>
      .ok
        { state
          timestampMs := getU32Be (encoded.drop 2)
          measurements :=
            { temperatureCentiC := getU16Be (encoded.drop 6)
              vibrationMgRms := getU16Be (encoded.drop 8)
              currentMa := getU16Be (encoded.drop 10)
              rpm := getU16Be (encoded.drop 12)
              supplyMv := getU16Be (encoded.drop 14)
              statusFlags := getU16Be (encoded.drop 16) } }

structure TelemetryRecord where
  sequence : U32
  sample : MachineTelemetry
  deriving DecidableEq, Repr

/-- What the clock and the endpoint will answer to the calls to come, with the parser and the frames it has found. -/
structure ByteStream (τ : Type) where
  clock : List τ
  writes : List (Except TransportFailure Nat)
  reads : List (Except TransportFailure (List U8))
  parser : IncrementalParser
  pending : List Frame
  deriving DecidableEq

section monitor

variable {τ : Type} [MonotonicTime τ]

/-- Each of these is `none` while the call still waits. -/
def sendRequest (stream : ByteStream τ) (request : Frame) :
    Option (Except GuardianCtlError Unit × ByteStream τ) :=
  let encoded := encodeFrame request
  match stream.writes with
  | [] => none
  | .error failure :: writes => some (.error (.transport failure), { stream with writes })
  | .ok written :: writes =>
    if written ≠ encoded.length then
      some (.error (.transport (.streamWrote written encoded.length)), { stream with writes })
    else some (.ok (), { stream with writes })

def pollFrame (deadline : τ) (writes : List (Except TransportFailure Nat)) :
    List τ → List (Except TransportFailure (List U8)) → IncrementalParser → List Frame →
    Option (Except GuardianCtlError Frame × ByteStream τ)
  | [], _, _, _ => none
  | now :: clock, reads, parser, pending =>
    if MonotonicTime.before now deadline then
      match pending, reads with
      | frame :: pending, reads => some (.ok frame, ⟨clock, writes, reads, parser, pending⟩)
      | [], [] => none
      | [], .error failure :: reads => some (.error (.transport failure), ⟨clock, writes, reads, parser, []⟩)
      | [], .ok chunk :: reads =>
        if chunk = [] then pollFrame deadline writes clock reads parser []
        else
          let fed := parser.feed chunk
          pollFrame deadline writes clock reads fed.2 fed.1
    else some (.error (.transport .streamTimedOut), ⟨clock, writes, reads, parser, pending⟩)

def nextFrame (deadline : τ) (stream : ByteStream τ) : Option (Except GuardianCtlError Frame × ByteStream τ) :=
  pollFrame deadline stream.writes stream.clock stream.reads stream.parser stream.pending

/-- Every frame taken costs a reading of the clock, so the readings bound the turns. -/
def awaitResponse (request : Frame) (deadline : τ) : Nat → ByteStream τ →
    Option (Except GuardianCtlError Frame × ByteStream τ)
  | 0, _ => none
  | fuel + 1, stream =>
    match nextFrame deadline stream with
    | none => none
    | some (.error failure, stream) => some (.error failure, stream)
    | some (.ok response, stream) =>
      if response.sequence ≠ request.sequence then awaitResponse request deadline fuel stream
      else some (validateCorrelatedResponse request response, stream)

def waitForResponse (stream : ByteStream τ) (request : Frame) (timeout : τ) :
    Option (Except GuardianCtlError Frame × ByteStream τ) :=
  match stream.clock with
  | [] => none
  | now :: clock => awaitResponse request (now + timeout) (clock.length + 1) { stream with clock }

inductive StreamError
  | guardianCtl (error : GuardianCtlError)
  | value (failure : ValueFailure)
  | consumer
  deriving DecidableEq, Repr

/-- One wait for an answer: the request, the stream when it began, and how it ended. -/
structure Wait (τ : Type) where
  request : Frame
  stream : ByteStream τ
  outcome : Option (Except GuardianCtlError Frame)
  deriving DecidableEq

def configure (stream : ByteStream τ) (request : Frame) (timeout : τ) :
    List (Wait τ) × Option (Except StreamError TelemetryConfig × ByteStream τ) :=
  match sendRequest stream request with
  | none => ([], none)
  | some (.error failure, stream) => ([], some (.error (.guardianCtl failure), stream))
  | some (.ok (), stream) =>
    match waitForResponse stream request timeout with
    | none => ([⟨request, stream, none⟩], none)
    | some (.error failure, later) =>
      ([⟨request, stream, some (.error failure)⟩], some (.error (.guardianCtl failure), later))
    | some (.ok response, later) =>
      ([⟨request, stream, some (.ok response)⟩],
        match decodeTelemetryConfig response.payload with
        | .error failure => some (.error (.value failure), later)
        | .ok config => some (.ok config, later))

/-- The sample loop. `consumer` tells whether the callback raises on a record, after those it has been given. -/
def sampleLoop (consumer : List TelemetryRecord → TelemetryRecord → Bool) (sampleTimeout : τ) (count : Nat) :
    Nat → ByteStream τ → List TelemetryRecord →
    List TelemetryRecord × Option (Except StreamError Unit × ByteStream τ)
  | 0, _, delivered => (delivered, none)
  | fuel + 1, stream, delivered =>
    if ¬ delivered.length < count then (delivered, some (.ok (), stream))
    else match stream.clock with
      | [] => (delivered, none)
      | now :: clock =>
        match nextFrame (now + sampleTimeout) { stream with clock } with
        | none => (delivered, none)
        | some (.error failure, stream) => (delivered, some (.error (.guardianCtl failure), stream))
        | some (.ok frame, stream) =>
          if frame.messageType ≠ .telemetry then sampleLoop consumer sampleTimeout count fuel stream delivered
          else if frame.command ≠ commandMachineTelemetry then
            sampleLoop consumer sampleTimeout count fuel stream delivered
          else match decodeMachineTelemetry frame.payload with
            | .error failure => (delivered, some (.error (.value failure), stream))
            | .ok sample =>
              let record : TelemetryRecord := ⟨frame.sequence, sample⟩
              if consumer delivered record then (delivered, some (.error .consumer, stream))
              else sampleLoop consumer sampleTimeout count fuel stream (delivered ++ [record])

/-- What one call does. `outcome` is `none` while it still waits. -/
structure StreamRun (τ : Type) where
  waits : List (Wait τ)
  records : List TelemetryRecord
  outcome : Option (Except StreamError Nat)
  sequenceManager : SequenceManager

def setTelemetryRequest (sequence : U32) (payload : List U8) : Frame :=
  { messageType := .request, command := commandSetTelemetry, flags := supportedFlags, sequence, payload }

/-- How the `finally` block ends the call after the sample loop ended with `streamed`. -/
def cleanedUp (disableConfig : TelemetryConfig) (count : Nat) (delivered : List TelemetryRecord)
    (streamed : Except StreamError Unit) (disabled : Except StreamError TelemetryConfig) : Except StreamError Nat :=
  let ended : Except StreamError Nat := match streamed with
    | .error failure => .error failure
    | .ok () => .ok delivered.length
  let failed (failure : StreamError) : Except StreamError Nat :=
    if delivered.length < count then ended else .error failure
  match disabled with
  | .error (.guardianCtl failure) => failed (.guardianCtl failure)
  | .error failure => .error failure
  | .ok normalizedDisabled =>
    if normalizedDisabled ≠ disableConfig then failed (.guardianCtl (.protocolClient .telemetryDisable)) else ended

def streamSamples (consumer : List TelemetryRecord → TelemetryRecord → Bool) (timeout : τ) (manager : SequenceManager)
    (opened : Except TransportFailure Unit) (stream : ByteStream τ) (periodMs count : Nat) : StreamRun τ :=
  let refused (failure : StreamError) : StreamRun τ := ⟨[], [], some (.error failure), manager⟩
  let enableConfig : TelemetryConfig := ⟨true, periodMs⟩
  let disableConfig : TelemetryConfig := ⟨false, periodMs⟩
  if ¬ (1 ≤ count ∧ count ≤ 100000) then refused (.value .count)
  else match encodeTelemetryConfig enableConfig, encodeTelemetryConfig disableConfig with
    | .error failure, _ => refused (.value failure)
    | _, .error failure => refused (.value failure)
    | .ok enablePayload, .ok disablePayload => match opened with
      | .error failure => refused (.guardianCtl (.transport failure))
      | .ok () =>
        let (enableSequence, enabling) := manager.next
        let (enableWaits, enabled) := configure stream (setTelemetryRequest enableSequence enablePayload) timeout
        match enabled with
        | none => ⟨enableWaits, [], none, enabling⟩
        | some (.error failure, _) => ⟨enableWaits, [], some (.error failure), enabling⟩
        | some (.ok activeConfig, stream) =>
          if activeConfig ≠ enableConfig then
            ⟨enableWaits, [], some (.error (.guardianCtl (.protocolClient .telemetryConfiguration))), enabling⟩
          else
            let span : τ := MonotonicTime.sampleSpan periodMs
            let sampleTimeout := if MonotonicTime.before timeout span then span else timeout
            let (delivered, streamed) :=
              sampleLoop consumer sampleTimeout count (stream.clock.length + 1) stream []
            match streamed with
            | none => ⟨enableWaits, delivered, none, enabling⟩
            | some (streamed, stream) =>
              let (disableSequence, disabling) := enabling.next
              let (disableWaits, disabled) :=
                configure stream (setTelemetryRequest disableSequence disablePayload) timeout
              ⟨enableWaits ++ disableWaits, delivered,
                disabled.map fun disabled => cleanedUp disableConfig count delivered streamed disabled.1, disabling⟩

end monitor

end Guardian.Host
