import Guardian.Crypto.Sha256
import Guardian.Protocol.Frame

namespace Guardian.Session

open Word ByteString Guardian.Crypto Guardian.Protocol

def securitySchemaVersion : U8 := 0x01
def securityTagSize : Nat := 16
def securityAuthBeginRequestSize : Nat := 18
def securityAuthBeginResponseSize : Nat := 38
def securityAuthFinishRequestSize : Nat := 22
def securityAuthFinishResponseSize : Nat := 8
def securityStatusPayloadSize : Nat := 36
def securityRequestOverhead : Nat := 32
def securityResponseOverhead : Nat := 33
def securityMaxRequestInnerPayload : Nat := maxPayloadSize - securityRequestOverhead
def securityMaxResponseInnerPayload : Nat := maxPayloadSize - securityResponseOverhead
def securityDefaultSessionTimeoutSeconds : U16 := 300
def securityPendingTimeoutSeconds : U32 := 30
def securityTranscriptCapacity : Nat := 288

/-- The value of a `guardian_security_role_t`, as it travels on the wire. -/
abbrev SecurityRole := U8

def roleNone : SecurityRole := 0
def roleObserver : SecurityRole := 1
def roleOperator : SecurityRole := 2
def roleAdmin : SecurityRole := 3

def securityServerLabel : List U8 := [0x47, 0x46, 0x2D, 0x4D, 0x31, 0x30, 0x2D, 0x53, 0x45, 0x52, 0x56, 0x45, 0x52]
def securityClientLabel : List U8 := [0x47, 0x46, 0x2D, 0x4D, 0x31, 0x30, 0x2D, 0x43, 0x4C, 0x49, 0x45, 0x4E, 0x54]
def securitySessionLabel : List U8 :=
  [0x47, 0x46, 0x2D, 0x4D, 0x31, 0x30, 0x2D, 0x53, 0x45, 0x53, 0x53, 0x49, 0x4F, 0x4E]
def securityRequestLabel : List U8 :=
  [0x47, 0x46, 0x2D, 0x4D, 0x31, 0x30, 0x2D, 0x52, 0x45, 0x51, 0x55, 0x45, 0x53, 0x54]
def securityResponseLabel : List U8 :=
  [0x47, 0x46, 0x2D, 0x4D, 0x31, 0x30, 0x2D, 0x52, 0x45, 0x53, 0x50, 0x4F, 0x4E, 0x53, 0x45]

inductive SecurityResult
  | ok
  | errorNullArgument
  | errorInvalidPayload
  | errorUnauthorized
  | errorReplay
  | errorRandom
  | errorOutputTooSmall
  deriving DecidableEq, Repr

structure SecurityConfig where
  psk : Bytes 32
  maxRole : SecurityRole
  sessionTimeoutSeconds : U16
  deriving DecidableEq

structure SecurityPending where
  valid : U8
  role : SecurityRole
  sessionId : U32
  clientNonce : Bytes 16
  deviceNonce : Bytes 16
  startedSeconds : U32
  deriving DecidableEq

structure SecuritySession where
  valid : U8
  role : SecurityRole
  sessionId : U32
  sessionKey : Bytes 32
  nextCounter : U64
  lastActivitySeconds : U32
  deriving DecidableEq

structure Security where
  config : SecurityConfig
  configured : U8
  pending : SecurityPending
  session : SecuritySession
  authSuccesses : U32
  authFailures : U32
  replayRejections : U32
  unauthorizedRejections : U32
  deriving DecidableEq

structure SecurityStatus where
  configured : U8
  active : U8
  activeRole : SecurityRole
  sessionId : U32
  nextCounter : U64
  timeoutSeconds : U16
  remainingSeconds : U16
  authSuccesses : U32
  authFailures : U32
  replayRejections : U32
  unauthorizedRejections : U32
  deriving DecidableEq

def securityIncrementU32 (value : U32) : U32 := if value ≠ 0xFFFFFFFF then value + 1 else value

def zeroPending : SecurityPending := ⟨0, roleNone, 0, padded 16 [], padded 16 [], 0⟩
def zeroSession : SecuritySession := ⟨0, roleNone, 0, padded 32 [], 0, 0⟩

def securityClearPending (security : Security) : Security := { security with pending := zeroPending }
def securityClearSession (security : Security) : Security := { security with session := zeroSession }

def Security.failAuth (security : Security) : Security :=
  { security with authFailures := securityIncrementU32 security.authFailures }

def Security.rejectUnauthorized (security : Security) : Security :=
  { security with unauthorizedRejections := securityIncrementU32 security.unauthorizedRejections }

def Security.rejectReplay (security : Security) : Security :=
  { security with replayRejections := securityIncrementU32 security.replayRejections }

def securityExpirePending (security : Security) (nowSeconds : U32) : Security :=
  if security.pending.valid = 0 then security
  else if nowSeconds - security.pending.startedSeconds ≥ securityPendingTimeoutSeconds then
    securityClearPending security
  else security

def securityExpireSession (security : Security) (nowSeconds : U32) : Security :=
  if security.session.valid = 0 then security
  else if nowSeconds - security.session.lastActivitySeconds ≥ security.config.sessionTimeoutSeconds.setWidth 32 then
    securityClearSession security
  else security

/-- The parts appended to a transcript, unless its buffer is too small for them. -/
def securityTranscript (parts : List (List U8)) : Option (List U8) :=
  if parts.flatten.length > securityTranscriptCapacity then none else some parts.flatten

def securityHandshakeMac (security : Security) (label : List U8) (role : SecurityRole) (sessionId : U32)
    (clientNonce deviceNonce : Bytes 16) : Option (List U8) :=
  let scalar := [securitySchemaVersion, role] ++ putU32Be sessionId
  (securityTranscript [label, scalar, clientNonce.1, deviceNonce.1]).map (hmacSha256 security.config.psk.1)

def securityRequestTag (security : Security) (outerRequest : Frame) (sessionId : U32) (counter : U64)
    (innerCommand : U8) (innerPayload : List U8) : Option (List U8) :=
  let scalar := [securitySchemaVersion] ++ putU32Be sessionId ++ putU64Be counter ++ putU32Be outerRequest.sequence ++
    [innerCommand] ++ putU16Be (BitVec.ofNat 16 innerPayload.length)
  (securityTranscript [securityRequestLabel, scalar, innerPayload]).map (hmacSha256 security.session.sessionKey.1)

def securityResponseTag (security : Security) (outerRequest : Frame) (sessionId : U32) (counter : U64)
    (innerResponse : Frame) : Option (List U8) :=
  let scalar := [securitySchemaVersion] ++ putU32Be sessionId ++ putU64Be counter ++ putU32Be outerRequest.sequence ++
    [innerResponse.messageType.code, innerResponse.command] ++ putU16Be innerResponse.payloadLength
  (securityTranscript [securityResponseLabel, scalar, innerResponse.payload]).map
    (hmacSha256 security.session.sessionKey.1)

def securityInit : Security := ⟨⟨padded 32 [], roleNone, 0⟩, 0, zeroPending, zeroSession, 0, 0, 0, 0⟩

def securityConfigure (security : Security) (config : SecurityConfig) : SecurityResult × Security :=
  if config.maxRole < roleObserver ∨ config.maxRole > roleAdmin then (.errorInvalidPayload, security)
  else
    let sessionTimeoutSeconds :=
      if config.sessionTimeoutSeconds = 0 then securityDefaultSessionTimeoutSeconds else config.sessionTimeoutSeconds
    (.ok, { securityInit with config := { config with sessionTimeoutSeconds }, configured := 1 })

def securityClear (_security : Security) : Security := securityInit

/-- `random` is what the platform's generator gives for the 20 bytes asked of it. -/
def securityAuthBegin (security : Security) (request : List U8) (nowSeconds : U32) (capacity : Nat)
    (random : Option (Bytes 20)) : Except SecurityResult (List U8) × Security :=
  if security.configured = 0 then (.error .errorUnauthorized, security)
  else if request.length ≠ securityAuthBeginRequestSize then (.error .errorInvalidPayload, security.failAuth)
  else if capacity < securityAuthBeginResponseSize then (.error .errorOutputTooSmall, security)
  else if request.getD 0 0 ≠ securitySchemaVersion then (.error .errorInvalidPayload, security.failAuth)
  else
    let requestedRole := request.getD 1 0
    if requestedRole < roleObserver ∨ requestedRole > security.config.maxRole then
      (.error .errorUnauthorized, security.rejectUnauthorized)
    else
      let security := securityExpirePending security nowSeconds
      match random with
      | none => (.error .errorRandom, security)
      | some randomBytes =>
        let drawn := getU32Be randomBytes.1
        let pending : SecurityPending :=
          { valid := 1
            role := requestedRole
            sessionId := if drawn = 0 then 1 else drawn
            clientNonce := padded 16 (request.drop 2)
            deviceNonce := padded 16 (randomBytes.1.drop 4)
            startedSeconds := nowSeconds }
        let security := { security with pending }
        match securityHandshakeMac security securityServerLabel requestedRole pending.sessionId pending.clientNonce
            pending.deviceNonce with
        | none => (.error .errorInvalidPayload, securityClearPending security)
        | some serverProof =>
          (.ok ([securitySchemaVersion, requestedRole] ++ putU32Be pending.sessionId ++ pending.deviceNonce.1 ++
            serverProof.take securityTagSize), security)

def securityAuthFinish (security : Security) (request : List U8) (nowSeconds : U32) (capacity : Nat) :
    Except SecurityResult (List U8) × Security :=
  if security.configured = 0 then (.error .errorUnauthorized, security)
  else
    let security := securityExpirePending security nowSeconds
    if request.length ≠ securityAuthFinishRequestSize then (.error .errorInvalidPayload, security.failAuth)
    else if capacity < securityAuthFinishResponseSize then (.error .errorOutputTooSmall, security)
    else if security.pending.valid = 0 then (.error .errorUnauthorized, security.failAuth)
    else if request.getD 0 0 ≠ securitySchemaVersion then (.error .errorInvalidPayload, security.failAuth)
    else
      let pending := security.pending
      let role := request.getD 1 0
      let sessionId := getU32Be (request.drop 2)
      if role ≠ pending.role ∨ sessionId ≠ pending.sessionId then
        (.error .errorUnauthorized, securityClearPending security.failAuth)
      else match securityHandshakeMac security securityClientLabel role sessionId pending.clientNonce
          pending.deviceNonce with
        | none => (.error .errorInvalidPayload, securityClearPending security)
        | some expectedProof =>
          if !cryptoConstantTimeEqual expectedProof (request.drop 6) securityTagSize then
            (.error .errorUnauthorized, securityClearPending security.failAuth)
          else match securityHandshakeMac security securitySessionLabel role sessionId pending.clientNonce
              pending.deviceNonce with
            | none => (.error .errorInvalidPayload, securityClearPending security)
            | some sessionKey =>
              let session : SecuritySession :=
                { valid := 1
                  role
                  sessionId
                  sessionKey := padded 32 sessionKey
                  nextCounter := 1
                  lastActivitySeconds := nowSeconds }
              (.ok ([securitySchemaVersion, role] ++ putU32Be sessionId ++
                  putU16Be security.config.sessionTimeoutSeconds),
                securityClearPending
                  { security with session, authSuccesses := securityIncrementU32 security.authSuccesses })

def secureSessionId (outerRequest : Frame) : U32 := getU32Be (outerRequest.payload.drop 1)
def secureCounter (outerRequest : Frame) : U64 := getU64Be (outerRequest.payload.drop 5)
def secureInnerCommand (outerRequest : Frame) : U8 := outerRequest.payload.getD 13 0
def secureInnerLength (outerRequest : Frame) : Nat := (getU16Be (outerRequest.payload.drop 14)).toNat
def secureInnerPayload (outerRequest : Frame) : List U8 := slice 16 (secureInnerLength outerRequest) outerRequest.payload
def secureTag (outerRequest : Frame) : List U8 := outerRequest.payload.drop (16 + secureInnerLength outerRequest)

def securityUnwrapRequest (security : Security) (outerRequest : Frame) (nowSeconds : U32) :
    Except SecurityResult (Frame × U64) × Security :=
  let security := securityExpireSession security nowSeconds
  if security.session.valid = 0 then (.error .errorUnauthorized, security.rejectUnauthorized)
  else if outerRequest.payload.length < securityRequestOverhead then (.error .errorInvalidPayload, security.failAuth)
  else if outerRequest.payload.getD 0 0 ≠ securitySchemaVersion then (.error .errorInvalidPayload, security.failAuth)
  else if secureSessionId outerRequest ≠ security.session.sessionId then
    (.error .errorUnauthorized, security.rejectUnauthorized)
  else if secureInnerLength outerRequest > securityMaxRequestInnerPayload then
    (.error .errorInvalidPayload, security.failAuth)
  else if outerRequest.payload.length ≠ securityRequestOverhead + secureInnerLength outerRequest then
    (.error .errorInvalidPayload, security.failAuth)
  else match securityRequestTag security outerRequest (secureSessionId outerRequest) (secureCounter outerRequest)
      (secureInnerCommand outerRequest) (secureInnerPayload outerRequest) with
    | none => (.error .errorInvalidPayload, security)
    | some expectedTag =>
      if !cryptoConstantTimeEqual expectedTag (secureTag outerRequest) securityTagSize then
        (.error .errorUnauthorized, security.failAuth)
      else if secureCounter outerRequest ≠ security.session.nextCounter then
        (.error .errorReplay, security.rejectReplay)
      else
        let innerRequest : Frame :=
          { messageType := .request
            command := secureInnerCommand outerRequest
            flags := supportedFlags
            sequence := outerRequest.sequence
            payload := secureInnerPayload outerRequest }
        let nextCounter := security.session.nextCounter + 1
        if nextCounter = 0 then (.error .errorReplay, securityClearSession security)
        else
          (.ok (innerRequest, secureCounter outerRequest),
            { security with session := { security.session with nextCounter, lastActivitySeconds := nowSeconds } })

def securityRequiredRole (command : U8) : SecurityRole :=
  if command = commandBaselineControl then roleOperator
  else if command = commandControlCommand then roleOperator
  else roleAdmin

def securityAuthorize (security : Security) (command : U8) : Bool × Security :=
  if security.session.valid = 0 then (false, security)
  else if security.session.role < securityRequiredRole command then (false, security.rejectUnauthorized)
  else (true, security)

def securityWrapResponse (security : Security) (outerRequest : Frame) (counter : U64) (innerResponse : Frame) :
    Except SecurityResult Frame :=
  if security.session.valid = 0 then .error .errorUnauthorized
  else if innerResponse.payload.length > securityMaxResponseInnerPayload then .error .errorOutputTooSmall
  else match securityResponseTag security outerRequest security.session.sessionId counter innerResponse with
    | none => .error .errorInvalidPayload
    | some tag =>
      .ok
        { messageType := .response
          command := outerRequest.command
          flags := supportedFlags
          sequence := outerRequest.sequence
          payload := [securitySchemaVersion] ++ putU32Be security.session.sessionId ++ putU64Be counter ++
            [innerResponse.messageType.code, innerResponse.command] ++ putU16Be innerResponse.payloadLength ++
            innerResponse.payload ++ tag.take securityTagSize }

def securityStatus (security : Security) (nowSeconds : U32) : SecurityStatus × Security :=
  let security := securityExpireSession (securityExpirePending security nowSeconds) nowSeconds
  let idle : SecurityStatus :=
    { configured := security.configured
      active := 0
      activeRole := roleNone
      sessionId := 0
      nextCounter := 0
      timeoutSeconds := if security.configured ≠ 0 then security.config.sessionTimeoutSeconds else 0
      remainingSeconds := 0
      authSuccesses := security.authSuccesses
      authFailures := security.authFailures
      replayRejections := security.replayRejections
      unauthorizedRejections := security.unauthorizedRejections }
  if security.session.valid ≠ 0 then
    let elapsed := nowSeconds - security.session.lastActivitySeconds
    let timeout : U32 := security.config.sessionTimeoutSeconds.setWidth 32
    ({ idle with
        active := 1
        activeRole := security.session.role
        sessionId := security.session.sessionId
        nextCounter := security.session.nextCounter
        remainingSeconds := if elapsed < timeout then (timeout - elapsed).setWidth 16 else 0 }, security)
  else (idle, security)

def securityEncodeStatusPayload (status : SecurityStatus) (capacity : Nat) : Except SecurityResult (List U8) :=
  if capacity < securityStatusPayloadSize then .error .errorOutputTooSmall
  else
    .ok ([securitySchemaVersion, status.configured, status.active, status.activeRole] ++ putU32Be status.sessionId ++
      putU64Be status.nextCounter ++ putU16Be status.timeoutSeconds ++ putU16Be status.remainingSeconds ++
      putU32Be status.authSuccesses ++ putU32Be status.authFailures ++ putU32Be status.replayRejections ++
      putU32Be status.unauthorizedRejections)

end Guardian.Session
