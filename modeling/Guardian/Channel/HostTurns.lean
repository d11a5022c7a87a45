import Guardian.Channel.SecureChannel

namespace Guardian.Channel

open Word Guardian.Crypto Guardian.Protocol Guardian.Session Guardian.Host

/-- The call is over without an inner response, and leaves this session. -/
structure Ends (turn : HostTurn) (session : GuardianSecuritySession) : Prop where
  idle : turn.host.phase = .idle
  sent : turn.sent = none
  session : turn.host.session = session
  unanswered : ∀ call response, turn.result ≠ .exchanged call (.ok response)

theorem raise_ends (host : SecurityHost) (call : Option SecureCall) (error : SessionError) :
    Ends (host.raise call error) host.session := by
  refine ⟨rfl, rfl, rfl, ?_⟩
  intro answered response
  cases call with
  | none => exact HostResult.noConfusion
  | some call =>
    intro same
    injection same with _ failed
    cases failed

def Begins (host : SecurityHost) (call : Option SecureCall) (clientNonce : Bytes 16) (turn : HostTurn) : Prop :=
  ∃ request sequenceManager, request.command = commandAuthBegin ∧
    turn = ({ host with sequenceManager } : SecurityHost).send request (.beginning call clientNonce request)

theorem authenticate_turns (host : SecurityHost) (call : Option SecureCall) (clientNonce : Bytes 16) :
    Ends (authenticate host call clientNonce) host.session ∨
      Begins host call clientNonce (authenticate host call clientNonce) := by
  unfold authenticate
  dsimp only
  cases encodeAuthBegin host.config.role clientNonce with
  | error failure => exact Or.inl (raise_ends _ call _)
  | ok payload => exact Or.inr ⟨_, _, rfl, rfl⟩

/-- The host has checked the challenge and made its AUTH_FINISH request. -/
def Finishes (host : SecurityHost) (call : Option SecureCall) (clientNonce : Bytes 16) (turn : HostTurn) : Prop :=
  ∃ (challenge : AuthChallenge) (request : Frame) (sequenceManager : SequenceManager) (derivation : KeyDerivation),
    request.command = commandAuthFinish ∧ derivation = ⟨host.config.psk, challenge.role, challenge.sessionId,
      clientNonce, challenge.deviceNonce⟩ ∧
    turn = ({ host with sequenceManager } : SecurityHost).send request
      (.finishing call clientNonce challenge derivation.key request)

theorem authenticateChallenged_turns (host : SecurityHost) (call : Option SecureCall) (clientNonce : Bytes 16)
    (exchanged : Except GuardianCtlError Frame) :
    Ends (authenticateChallenged host call clientNonce exchanged) host.session ∨
      Ends (authenticateChallenged host call clientNonce exchanged) .invalidated ∨
      Finishes host call clientNonce (authenticateChallenged host call clientNonce exchanged) := by
  unfold authenticateChallenged
  cases exchanged with
  | error error => exact Or.inl (raise_ends host call _)
  | ok beginResponse =>
    dsimp only
    cases decodeAuthChallenge beginResponse.payload with
    | error failure => exact Or.inr (Or.inl (raise_ends host.invalidate call _))
    | ok challenge =>
      dsimp only
      by_cases downgraded : challenge.role ≠ host.config.role
      · rw [if_pos downgraded]
        exact Or.inr (Or.inl (raise_ends host.invalidate call _))
      rw [if_neg downgraded]
      cases computeServerProof host.config.psk challenge.role challenge.sessionId clientNonce
          challenge.deviceNonce with
      | error failure => exact Or.inl (raise_ends host call _)
      | ok expectedServerProof =>
        dsimp only
        by_cases wrong : expectedServerProof ≠ challenge.serverProof
        · rw [if_pos wrong]
          exact Or.inr (Or.inl (raise_ends host.invalidate call _))
        rw [if_neg wrong]
        cases derived : deriveSessionKey host.config.psk challenge.role challenge.sessionId clientNonce
            challenge.deviceNonce with
        | error failure => exact Or.inl (raise_ends host call _)
        | ok sessionKey =>
          dsimp only
          cases computeClientProof host.config.psk challenge.role challenge.sessionId clientNonce
              challenge.deviceNonce with
          | error failure => exact Or.inl (raise_ends host call _)
          | ok clientProof =>
            dsimp only
            cases encodeAuthFinish challenge.role challenge.sessionId clientProof with
            | error failure => exact Or.inl (raise_ends _ call _)
            | ok payload =>
              rw [deriveSessionKey_ok derived]
              exact Or.inr (Or.inr ⟨challenge, _, _, _, rfl, rfl, rfl⟩)

def Protects (host : SecurityHost) (call : SecureCall) (turn : HostTurn) : Prop :=
  ∃ (request : SecureRequest) (sequenceManager : SequenceManager), request.call = call ∧
    host.session.sessionKey = some request.sessionKey ∧ request.sessionId = host.session.sessionId ∧
    request.counter = host.session.nextCounter ∧ request.counter < 2 ^ 64 ∧
    call.payload.length ≤ securityMaxRequestInnerPayload ∧
    turn = ({ host with sequenceManager } : SecurityHost).send request.frame
      (.exchanging call request.sessionKey request.counter request.frame)

theorem exchangeProtected_turns (host : SecurityHost) (call : SecureCall) :
    Ends (exchangeProtected host call) host.session ∨ Protects host call (exchangeProtected host call) := by
  unfold exchangeProtected
  cases active : host.session.sessionKey with
  | none => exact Or.inl (raise_ends host (some call) _)
  | some sessionKey =>
    dsimp only
    cases encoded : encodeSecureRequest sessionKey host.session.sessionId host.session.nextCounter
        host.sequenceManager.next.1 call.command call.payload with
    | error error => exact Or.inl (raise_ends _ (some call) _)
    | ok securePayload =>
      obtain ⟨rfl, counted, fits⟩ := encodeSecureRequest_ok encoded
      right
      exact ⟨⟨call, sessionKey, host.session.sessionId, host.session.nextCounter, host.sequenceManager.next.1⟩,
        host.sequenceManager.next.2, rfl, active, rfl, rfl, counted, fits, rfl⟩

theorem Begins.waits {host : SecurityHost} {call : Option SecureCall} {clientNonce : Bytes 16} {turn : HostTurn}
    (begins : Begins host call clientNonce turn) : turn.result = .waits := by
  obtain ⟨request, sequenceManager, -, rfl⟩ := begins
  rfl

theorem Finishes.waits {host : SecurityHost} {call : Option SecureCall} {clientNonce : Bytes 16} {turn : HostTurn}
    (finishes : Finishes host call clientNonce turn) : turn.result = .waits := by
  obtain ⟨challenge, request, sequenceManager, derivation, -, -, rfl⟩ := finishes
  rfl

theorem Protects.waits {host : SecurityHost} {call : SecureCall} {turn : HostTurn}
    (protects : Protects host call turn) : turn.result = .waits := by
  obtain ⟨request, sequenceManager, -, -, -, -, -, -, rfl⟩ := protects
  rfl

theorem exchange_turns (host : SecurityHost) (call : SecureCall) (clientNonce : Bytes 16) :
    Ends (exchange host call clientNonce) host.session ∨ Protects host call (exchange host call clientNonce) ∨
      Begins host (some call) clientNonce (exchange host call clientNonce) := by
  unfold exchange
  split_ifs
  · rcases exchangeProtected_turns host call with ends | protects
    · exact Or.inl ends
    · exact Or.inr (Or.inl protects)
  · rcases authenticate_turns host (some call) clientNonce with ends | begins
    · exact Or.inl ends
    · exact Or.inr (Or.inr begins)

def Opens (sessionKey : List U8) (session : GuardianSecuritySession) : Prop :=
  session.sessionKey = some sessionKey ∧ session.nextCounter = 1

theorem authenticateFinished_turns (host : SecurityHost) (call : Option SecureCall) (challenge : AuthChallenge)
    (sessionKey : List U8) (exchanged : Except GuardianCtlError Frame) :
    Ends (authenticateFinished host call challenge sessionKey exchanged) host.session ∨
      Ends (authenticateFinished host call challenge sessionKey exchanged) .invalidated ∨
      ∃ opened : SecurityHost, Opens sessionKey opened.session ∧
        (Ends (authenticateFinished host call challenge sessionKey exchanged) opened.session ∨
          ∃ asked, call = some asked ∧
            Protects opened asked (authenticateFinished host call challenge sessionKey exchanged)) := by
  unfold authenticateFinished
  cases exchanged with
  | error error => exact Or.inl (raise_ends host call _)
  | ok finishResponse =>
    dsimp only
    cases decodeAuthenticatedSession finishResponse.payload with
    | error failure => exact Or.inr (Or.inl (raise_ends host.invalidate call _))
    | ok authenticated =>
      dsimp only
      by_cases other : authenticated.sessionId ≠ challenge.sessionId ∨ authenticated.role ≠ challenge.role
      · rw [if_pos other]
        exact Or.inr (Or.inl (raise_ends host.invalidate call _))
      rw [if_neg other]
      refine Or.inr (Or.inr ⟨{ host with
        session := ⟨authenticated.sessionId, some sessionKey, 1, some authenticated⟩, phase := .idle },
        ⟨rfl, rfl⟩, ?_⟩)
      cases call with
      | none => exact Or.inl ⟨rfl, rfl, rfl, fun call response => HostResult.noConfusion⟩
      | some asked =>
        rcases exchangeProtected_turns { host with
          session := ⟨authenticated.sessionId, some sessionKey, 1, some authenticated⟩, phase := .idle } asked with
          ends | protects
        · exact Or.inl ends
        · exact Or.inr ⟨asked, rfl, protects⟩

def advanced (session : GuardianSecuritySession) : GuardianSecuritySession :=
  { session with nextCounter := session.nextCounter + 1 }

/-- The host returns what an answer under its key, for its counter, says. -/
def Returns (host : SecurityHost) (call : SecureCall) (sessionKey : List U8) (counter : Nat) (request : Frame)
    (exchanged : Except GuardianCtlError Frame) (turn : HostTurn) : Prop :=
  ∃ outerResponse secureResponse response, exchanged = .ok outerResponse ∧
    decodeSecureResponse outerResponse.payload sessionKey request.sequence = .ok secureResponse ∧
    secureResponse.sessionId = host.session.sessionId ∧ secureResponse.counter = counter ∧
    secureResponse.innerCommand = call.command ∧ secureResponse.innerMessageType = .response ∧
    response.payload = secureResponse.innerPayload ∧
    turn = ⟨{ host with session := advanced host.session, phase := .idle }, none,
      .exchanged call (.ok response)⟩

theorem exchangeAnswered_turns (host : SecurityHost) (call : SecureCall) (sessionKey : List U8) (counter : Nat)
    (request : Frame) (exchanged : Except GuardianCtlError Frame) :
    Ends (exchangeAnswered host call sessionKey counter request exchanged) .invalidated ∨
      Ends (exchangeAnswered host call sessionKey counter request exchanged)
        (advanced host.session) ∨
      Returns host call sessionKey counter request exchanged
        (exchangeAnswered host call sessionKey counter request exchanged) := by
  unfold exchangeAnswered
  cases exchanged with
  | error error => exact Or.inl (raise_ends host.invalidate (some call) _)
  | ok outerResponse =>
    dsimp only
    cases decoded : decodeSecureResponse outerResponse.payload sessionKey request.sequence with
    | error failure => exact Or.inl (raise_ends host.invalidate (some call) _)
    | ok secureResponse =>
      dsimp only
      by_cases session : secureResponse.sessionId ≠ host.session.sessionId
      · rw [if_pos session]
        exact Or.inl (raise_ends host.invalidate (some call) _)
      by_cases count : secureResponse.counter ≠ counter
      · rw [if_neg session, if_pos count]
        exact Or.inl (raise_ends host.invalidate (some call) _)
      by_cases command : secureResponse.innerCommand ≠ call.command
      · rw [if_neg session, if_neg count, if_pos command]
        exact Or.inl (raise_ends host.invalidate (some call) _)
      rw [if_neg session, if_neg count, if_neg command]
      by_cases failed : secureResponse.innerMessageType = .error
      · rw [if_pos failed]
        right
        left
        by_cases size : secureResponse.innerPayload.length ≠ 1
        · rw [if_pos size]
          exact raise_ends _ (some call) _
        · rw [if_neg size]
          exact raise_ends _ (some call) _
      rw [if_neg failed]
      by_cases unexpected : secureResponse.innerMessageType ≠ .response
      · rw [if_pos unexpected]
        exact Or.inr (Or.inl (raise_ends _ (some call) _))
      rw [if_neg unexpected]
      exact Or.inr (Or.inr ⟨outerResponse, secureResponse, _, rfl, decoded, not_not.mp session, not_not.mp count,
        not_not.mp command, not_not.mp unexpected, rfl, rfl⟩)

theorem resume_returns {host : SecurityHost} {exchanged : Except GuardianCtlError Frame} {call : SecureCall}
    {response : Frame} (answered : (host.resume exchanged).result = .exchanged call (.ok response)) :
    ∃ sessionKey counter request, host.phase = .exchanging call sessionKey counter request ∧
      Returns host call sessionKey counter request exchanged (host.resume exchanged) := by
  unfold SecurityHost.resume at answered ⊢
  cases waiting : host.phase with
  | idle =>
    rw [waiting] at answered
    cases answered
  | beginning begun clientNonce request =>
    rw [waiting] at answered
    rcases authenticateChallenged_turns host begun clientNonce exchanged with ends | ends | finishes
    · exact absurd answered (ends.unanswered call response)
    · exact absurd answered (ends.unanswered call response)
    · cases finishes.waits.symm.trans answered
  | finishing begun clientNonce challenge sessionKey request =>
    rw [waiting] at answered
    rcases authenticateFinished_turns host begun challenge sessionKey exchanged with
      ends | ends | ⟨opened, -, ends | ⟨asked, -, protects⟩⟩
    · exact absurd answered (ends.unanswered call response)
    · exact absurd answered (ends.unanswered call response)
    · exact absurd answered (ends.unanswered call response)
    · cases protects.waits.symm.trans answered
  | exchanging asked sessionKey counter request =>
    rw [waiting] at answered
    rcases exchangeAnswered_turns host asked sessionKey counter request exchanged with ends | ends | returns
    · exact absurd answered (ends.unanswered call response)
    · exact absurd answered (ends.unanswered call response)
    · have same : asked = call := by
        obtain ⟨outerResponse, secureResponse, returned, -, -, -, -, -, -, -, turn⟩ := returns
        cases (congrArg HostTurn.result turn).symm.trans answered
        rfl
      subst same
      exact ⟨sessionKey, counter, request, rfl, returns⟩

end Guardian.Channel
