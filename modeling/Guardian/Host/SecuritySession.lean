import Guardian.Host.SecureCodec

namespace Guardian.Host

open Word Guardian.Protocol Guardian.Session

structure SecurityClientConfig where
  psk : Bytes 32
  role : SecurityRole
  deriving DecidableEq

inductive SecurityClientFailure
  | authBegin (failure : SecurityValueFailure)
  | authBeginRole
  | serverProof
  | authFinish (failure : SecurityValueFailure)
  | sessionMetadata
  | sessionKey
  | secureResponse (failure : SecurityValueFailure)
  | sessionIdentifier
  | counter
  | innerCommand
  | innerError
  | innerResult
  deriving DecidableEq, Repr

inductive SessionError
  | guardianCtl (error : GuardianCtlError)
  | protocolClient (failure : SecurityClientFailure)
  | encoding (error : SecureEncodeError)
  deriving DecidableEq, Repr

structure GuardianSecuritySession where
  sessionId : U32
  sessionKey : Option (List U8)
  nextCounter : Nat
  authenticated : Option AuthenticatedSession
  deriving DecidableEq

def GuardianSecuritySession.active (session : GuardianSecuritySession) : Bool :=
  session.authenticated.isSome && session.sessionKey.isSome

def GuardianSecuritySession.invalidated : GuardianSecuritySession := ⟨0, none, 1, none⟩

/-- One call of `exchange`, by its number. -/
structure SecureCall where
  number : Nat
  command : U8
  payload : List U8
  deriving DecidableEq, Repr

/-- The call of the transport that the host waits in, with the locals still needed. `call` is the exchange that a
handshake is made for. -/
inductive HostPhase
  | idle
  | beginning (call : Option SecureCall) (clientNonce : Bytes 16) (request : Frame)
  | finishing (call : Option SecureCall) (clientNonce : Bytes 16) (challenge : AuthChallenge) (sessionKey : List U8)
      (request : Frame)
  | exchanging (call : SecureCall) (sessionKey : List U8) (counter : Nat) (request : Frame)
  deriving DecidableEq

structure SecurityHost where
  config : SecurityClientConfig
  session : GuardianSecuritySession
  sequenceManager : SequenceManager
  phase : HostPhase
  deriving DecidableEq

inductive HostResult
  | waits
  | authenticated (result : Except SessionError AuthenticatedSession)
  | exchanged (call : SecureCall) (result : Except SessionError Frame)

/-- What the host does up to its next call of the transport: the request it hands over, or a result. -/
structure HostTurn where
  host : SecurityHost
  sent : Option Frame
  result : HostResult

def SecurityHost.invalidate (host : SecurityHost) : SecurityHost := { host with session := .invalidated }

/-- An exception ends the call, in a handshake also the exchange it was made for. -/
def SecurityHost.raise (host : SecurityHost) (call : Option SecureCall) (error : SessionError) : HostTurn :=
  { host := { host with phase := .idle }
    sent := none
    result := match call with
      | none => .authenticated (.error error)
      | some call => .exchanged call (.error error) }

def SecurityHost.send (host : SecurityHost) (request : Frame) (phase : HostPhase) : HostTurn :=
  ⟨{ host with phase }, some request, .waits⟩

def hostRequest (command : U8) (sequence : U32) (payload : List U8) : Frame :=
  { messageType := .request, command, flags := supportedFlags, sequence, payload }

/-- `authenticate`, up to the exchange of AUTH_BEGIN. -/
def authenticate (host : SecurityHost) (call : Option SecureCall) (clientNonce : Bytes 16) : HostTurn :=
  let (beginSequence, sequenceManager) := host.sequenceManager.next
  let host := { host with sequenceManager }
  match encodeAuthBegin host.config.role clientNonce with
  | .error failure => host.raise call (.encoding (.value failure))
  | .ok payload =>
    let beginRequest := hostRequest commandAuthBegin beginSequence payload
    host.send beginRequest (.beginning call clientNonce beginRequest)

/-- `authenticate`, from the end of that exchange up to the exchange of AUTH_FINISH. -/
def authenticateChallenged (host : SecurityHost) (call : Option SecureCall) (clientNonce : Bytes 16)
    (exchanged : Except GuardianCtlError Frame) : HostTurn :=
  match exchanged with
  | .error error => host.raise call (.guardianCtl error)
  | .ok beginResponse => match decodeAuthChallenge beginResponse.payload with
    | .error failure => host.invalidate.raise call (.protocolClient (.authBegin failure))
    | .ok challenge =>
      if challenge.role ≠ host.config.role then host.invalidate.raise call (.protocolClient .authBeginRole)
      else
        let psk := host.config.psk
        match computeServerProof psk challenge.role challenge.sessionId clientNonce challenge.deviceNonce with
        | .error failure => host.raise call (.encoding (.value failure))
        | .ok expectedServerProof =>
          if expectedServerProof ≠ challenge.serverProof then
            host.invalidate.raise call (.protocolClient .serverProof)
          else match deriveSessionKey psk challenge.role challenge.sessionId clientNonce challenge.deviceNonce with
            | .error failure => host.raise call (.encoding (.value failure))
            | .ok sessionKey =>
              match computeClientProof psk challenge.role challenge.sessionId clientNonce challenge.deviceNonce with
              | .error failure => host.raise call (.encoding (.value failure))
              | .ok clientProof =>
                let (finishSequence, sequenceManager) := host.sequenceManager.next
                let host := { host with sequenceManager }
                match encodeAuthFinish challenge.role challenge.sessionId clientProof with
                | .error failure => host.raise call (.encoding (.value failure))
                | .ok payload =>
                  let finishRequest := hostRequest commandAuthFinish finishSequence payload
                  host.send finishRequest (.finishing call clientNonce challenge sessionKey finishRequest)

/-- `exchange`, from the check for a session up to the exchange of the protected request. -/
def exchangeProtected (host : SecurityHost) (call : SecureCall) : HostTurn :=
  match host.session.sessionKey with
  | none => host.raise (some call) (.protocolClient .sessionKey)
  | some sessionKey =>
    let (outerSequence, sequenceManager) := host.sequenceManager.next
    let host := { host with sequenceManager }
    let counter := host.session.nextCounter
    match encodeSecureRequest sessionKey host.session.sessionId counter outerSequence call.command call.payload with
    | .error error => host.raise (some call) (.encoding error)
    | .ok securePayload =>
      let request := hostRequest commandSecureCommand outerSequence securePayload
      host.send request (.exchanging call sessionKey counter request)

/-- `authenticate`, from the end of its second exchange, and the exchange it was made for. -/
def authenticateFinished (host : SecurityHost) (call : Option SecureCall) (challenge : AuthChallenge)
    (sessionKey : List U8) (exchanged : Except GuardianCtlError Frame) : HostTurn :=
  match exchanged with
  | .error error => host.raise call (.guardianCtl error)
  | .ok finishResponse => match decodeAuthenticatedSession finishResponse.payload with
    | .error failure => host.invalidate.raise call (.protocolClient (.authFinish failure))
    | .ok authenticated =>
      if authenticated.sessionId ≠ challenge.sessionId ∨ authenticated.role ≠ challenge.role then
        host.invalidate.raise call (.protocolClient .sessionMetadata)
      else
        let host : SecurityHost :=
          { host with
            session := ⟨authenticated.sessionId, some sessionKey, 1, some authenticated⟩
            phase := .idle }
        match call with
        | none => ⟨host, none, .authenticated (.ok authenticated)⟩
        | some call => exchangeProtected host call

/-- `exchange`, which authenticates first if there is no session. -/
def exchange (host : SecurityHost) (call : SecureCall) (clientNonce : Bytes 16) : HostTurn :=
  if host.session.active then exchangeProtected host call else authenticate host (some call) clientNonce

/-- `exchange`, from the end of the exchange of the protected request. -/
def exchangeAnswered (host : SecurityHost) (call : SecureCall) (sessionKey : List U8) (counter : Nat) (request : Frame)
    (exchanged : Except GuardianCtlError Frame) : HostTurn :=
  match exchanged with
  | .error error => host.invalidate.raise (some call) (.guardianCtl error)
  | .ok outerResponse => match decodeSecureResponse outerResponse.payload sessionKey request.sequence with
    | .error failure => host.invalidate.raise (some call) (.protocolClient (.secureResponse failure))
    | .ok secureResponse =>
      if secureResponse.sessionId ≠ host.session.sessionId then
        host.invalidate.raise (some call) (.protocolClient .sessionIdentifier)
      else if secureResponse.counter ≠ counter then host.invalidate.raise (some call) (.protocolClient .counter)
      else if secureResponse.innerCommand ≠ call.command then
        host.invalidate.raise (some call) (.protocolClient .innerCommand)
      else
        let host : SecurityHost :=
          { host with session := { host.session with nextCounter := host.session.nextCounter + 1 }, phase := .idle }
        if secureResponse.innerMessageType = .error then
          if secureResponse.innerPayload.length ≠ 1 then host.raise (some call) (.protocolClient .innerError)
          else
            host.raise (some call)
              (.guardianCtl (.remoteDevice secureResponse.innerCommand (secureResponse.innerPayload.getD 0 0)))
        else if secureResponse.innerMessageType ≠ .response then
          host.raise (some call) (.protocolClient .innerResult)
        else
          ⟨host, none, .exchanged call (.ok
            { messageType := .response
              command := secureResponse.innerCommand
              flags := supportedFlags
              sequence := request.sequence
              payload := secureResponse.innerPayload })⟩

def SecurityHost.resume (host : SecurityHost) (exchanged : Except GuardianCtlError Frame) : HostTurn :=
  match host.phase with
  | .idle => ⟨host, none, .waits⟩
  | .beginning call clientNonce _ => authenticateChallenged host call clientNonce exchanged
  | .finishing call _ challenge sessionKey _ => authenticateFinished host call challenge sessionKey exchanged
  | .exchanging call sessionKey counter request => exchangeAnswered host call sessionKey counter request exchanged

def HostPhase.request : HostPhase → Option Frame
  | .idle => none
  | .beginning _ _ request => some request
  | .finishing _ _ _ _ request => some request
  | .exchanging _ _ _ request => some request

end Guardian.Host
