import Guardian.Channel.HostTurns

namespace Guardian.Channel

open Word Guardian.Crypto Guardian.Protocol Guardian.Session Guardian.Host

def HostLog.Owns (log : HostLog) (sessionKey : List U8) : Prop := ∃ derivation ∈ log.keys, derivation.key = sessionKey

def HostLog.Reserves (log : HostLog) (session : GuardianSecuritySession) : Prop :=
  ∀ sessionKey, session.sessionKey = some sessionKey → log.Owns sessionKey ∧
    ∀ request ∈ log.requests, request.sessionKey = sessionKey → request.counter < session.nextCounter

def HostLog.Awaits (log : HostLog) (call : Option SecureCall) : Prop :=
  ∀ asked, call = some asked → asked ∈ log.calls ∧ ∀ request ∈ log.requests, request.call.number ≠ asked.number

def HostLog.Allows (log : HostLog) (session : GuardianSecuritySession) : HostPhase → Prop
  | .idle => log.Reserves session
  | .beginning call clientNonce _ => log.Reserves session ∧ log.Awaits call ∧ clientNonce ∈ log.clientNonces ∧
      ∀ derivation ∈ log.keys, derivation.clientNonce ≠ clientNonce
  | .finishing call _ _ sessionKey _ => log.Reserves session ∧ log.Awaits call ∧ log.Owns sessionKey ∧
      ∀ request ∈ log.requests, request.sessionKey ≠ sessionKey
  | .exchanging call sessionKey counter outer => log.Reserves (advanced session) ∧
      ∃ request ∈ log.requests, request.call = call ∧ request.sessionKey = sessionKey ∧
        request.counter = counter ∧ request.frame = outer

structure HostLog.Orderly (log : HostLog) : Prop where
  numbered : ∀ call ∈ log.calls, call.number < log.calls.length
  distinct : (log.calls.map SecureCall.number).Nodup
  nonces : ∀ derivation ∈ log.keys, derivation.clientNonce ∈ log.clientNonces
  owned : ∀ request ∈ log.requests, log.Owns request.sessionKey
  asked : ∀ request ∈ log.requests, request.call ∈ log.calls
  counted : ∀ request ∈ log.requests, request.counter < 2 ^ 64
  fits : ∀ request ∈ log.requests, request.call.payload.length ≤ securityMaxRequestInnerPayload
  counters : (log.requests.map fun request => (request.sessionKey, request.counter)).Nodup
  once : (log.requests.map fun request => request.call.number).Nodup

structure HostLog.Sound (log : HostLog) (host : SecurityHost) : Prop where
  orderly : log.Orderly
  allowed : log.Allows host.session host.phase

/-- A turn keeps the log sound, and sends no protected request that is not logged. -/
structure HostLog.Follows (log : HostLog) (turn : HostTurn) : Prop where
  sound : (log.follow turn).Sound turn.host
  sent : ∀ frame, turn.sent = some frame → frame.command = commandSecureCommand →
    ∃ request ∈ (log.follow turn).requests, request.frame = frame

/-- The nonces of the host are fresh, and its keys tell their nonces apart. -/
structure HostLog.Fresh (log : HostLog) : Prop where
  clientNonces : log.clientNonces.Nodup
  keys : ∀ derivation ∈ log.keys, ∀ other ∈ log.keys, derivation.key = other.key →
    derivation.clientNonce = other.clientNonce

section log

variable {log : HostLog}

theorem HostLog.reserves_invalidated : log.Reserves .invalidated := by
  intro sessionKey active
  cases active

theorem HostLog.Awaits.none : log.Awaits none := by
  intro asked call
  cases call

theorem Ends.follow {turn : HostTurn} {session : GuardianSecuritySession} (ends : Ends turn session) :
    log.follow turn = log := by
  obtain ⟨⟨config, left, sequenceManager, phase⟩, sent, result⟩ := turn
  obtain ⟨idle, -, -, unanswered⟩ := ends
  dsimp only at idle unanswered
  subst idle
  cases result with
  | waits => rfl
  | authenticated result => rfl
  | exchanged call result =>
    cases result with
    | error error => rfl
    | ok response => exact absurd rfl (unanswered call response)

theorem HostLog.Orderly.ends {turn : HostTurn} {session : GuardianSecuritySession} (orderly : log.Orderly)
    (ends : Ends turn session) (reserves : log.Reserves session) : log.Follows turn := by
  have sound : log.Sound turn.host := by
    refine ⟨orderly, ?_⟩
    rw [ends.idle, ends.session]
    exact reserves
  constructor
  · rw [ends.follow]
    exact sound
  · intro frame sent
    cases ends.sent.symm.trans sent

theorem HostLog.Orderly.begins {host : SecurityHost} {call : Option SecureCall} {clientNonce : Bytes 16}
    {turn : HostTurn} (orderly : log.Orderly) (begins : Begins host call clientNonce turn)
    (reserves : log.Reserves host.session) (awaits : log.Awaits call) (fresh : (log.follow turn).Fresh) :
    log.Follows turn := by
  obtain ⟨request, sequenceManager, command, rfl⟩ := begins
  have unused : clientNonce ∉ log.clientNonces := (List.nodup_cons.mp fresh.clientNonces).1
  refine ⟨⟨?_, reserves, awaits, List.mem_cons_self, ?_⟩, ?_⟩
  · exact
      { orderly with nonces := fun derivation member => List.mem_cons_of_mem _ (orderly.nonces derivation member) }
  · intro derivation member same
    apply unused
    rw [← same]
    exact orderly.nonces derivation member
  · intro frame sent secure
    cases sent
    exact absurd (command.symm.trans secure) (by decide)

theorem HostLog.Orderly.finishes {host : SecurityHost} {call : Option SecureCall} {clientNonce : Bytes 16}
    {turn : HostTurn} (orderly : log.Orderly) (finishes : Finishes host call clientNonce turn)
    (reserves : log.Reserves host.session) (awaits : log.Awaits call) (drawn : clientNonce ∈ log.clientNonces)
    (unused : ∀ derivation ∈ log.keys, derivation.clientNonce ≠ clientNonce) (fresh : (log.follow turn).Fresh) :
    log.Follows turn := by
  obtain ⟨challenge, request, sequenceManager, derivation, command, derived, rfl⟩ := finishes
  have followed : log.follow (({ host with sequenceManager } : SecurityHost).send request
      (.finishing call clientNonce challenge derivation.key request)) =
      { log with keys := derivation :: log.keys } := by
    rw [derived]
    rfl
  have nonce : derivation.clientNonce = clientNonce := by rw [derived]
  rw [followed] at fresh
  have keeps {sessionKey : List U8} (owns : log.Owns sessionKey) :
      ({ log with keys := derivation :: log.keys } : HostLog).Owns sessionKey := by
    obtain ⟨old, member, same⟩ := owns
    exact ⟨old, List.mem_cons_of_mem _ member, same⟩
  refine ⟨?_, ?_⟩
  swap
  · intro frame sent secure
    cases sent
    exact absurd (command.symm.trans secure) (by decide)
  rw [followed]
  constructor
  · refine { orderly with nonces := ?_, owned := fun request member => keeps (orderly.owned request member) }
    intro made member
    rcases List.mem_cons.mp member with rfl | old
    · rw [nonce]
      exact drawn
    · exact orderly.nonces made old
  · refine ⟨?_, awaits, ⟨derivation, List.mem_cons_self, rfl⟩, ?_⟩
    · intro sessionKey active
      obtain ⟨owns, spent⟩ := reserves sessionKey active
      exact ⟨keeps owns, spent⟩
    · intro request member same
      obtain ⟨old, earlier, key⟩ := orderly.owned request member
      apply unused old earlier
      rw [← nonce]
      apply fresh.keys old (List.mem_cons_of_mem _ earlier) derivation List.mem_cons_self
      rw [key, same]

theorem HostLog.Orderly.protects {host : SecurityHost} {call : SecureCall} {turn : HostTurn} (orderly : log.Orderly)
    (protects : Protects host call turn) (reserves : log.Reserves host.session) (awaits : log.Awaits (some call)) :
    log.Follows turn := by
  obtain ⟨request, sequenceManager, rfl, active, identifier, counter, counted, fits, rfl⟩ := protects
  have followed : log.follow (({ host with sequenceManager } : SecurityHost).send request.frame
      (.exchanging request.call request.sessionKey request.counter request.frame)) =
      { log with requests := request :: log.requests } := by
    show { log with requests := ⟨request.call, request.sessionKey, host.session.sessionId, request.counter,
      request.frame.sequence⟩ :: log.requests } = _
    rw [← identifier]
    rfl
  refine ⟨?_, ?_⟩
  swap
  · intro frame sent _
    cases sent
    rw [followed]
    exact ⟨request, List.mem_cons_self, rfl⟩
  rw [followed]
  obtain ⟨owns, spent⟩ := reserves _ active
  obtain ⟨asked, unasked⟩ := awaits _ rfl
  have either {property : SecureRequest → Prop} (new : property request)
      (old : ∀ earlier ∈ log.requests, property earlier) : ∀ each ∈ request :: log.requests, property each := by
    intro each member
    rcases List.mem_cons.mp member with rfl | earlier
    · exact new
    · exact old each earlier
  constructor
  · refine
      { orderly with
        owned := either owns orderly.owned
        asked := either asked orderly.asked
        counted := either counted orderly.counted
        fits := either fits orderly.fits
        counters := List.nodup_cons.mpr ⟨?_, orderly.counters⟩
        once := List.nodup_cons.mpr ⟨?_, orderly.once⟩ }
    · intro member
      obtain ⟨earlier, used, same⟩ := List.mem_map.mp member
      obtain ⟨key, count⟩ := Prod.mk.inj same
      have less := spent earlier used key
      omega
    · intro member
      obtain ⟨earlier, used, same⟩ := List.mem_map.mp member
      exact unasked earlier used same
  · refine ⟨?_, request, List.mem_cons_self, rfl, rfl, rfl, rfl⟩
    intro sessionKey same
    have key : request.sessionKey = sessionKey := Option.some.inj (active.symm.trans same)
    subst key
    refine ⟨owns, ?_⟩
    have latest : request.counter < host.session.nextCounter + 1 := by omega
    exact either (fun _ => latest) fun earlier used key => Nat.lt_succ_of_lt (spent earlier used key)

theorem HostLog.Orderly.opens {session : GuardianSecuritySession} {sessionKey : List U8}
    (opens : Opens sessionKey session) (owns : log.Owns sessionKey)
    (unused : ∀ request ∈ log.requests, request.sessionKey ≠ sessionKey) : log.Reserves session := by
  intro key active
  have same : sessionKey = key := Option.some.inj (opens.1.symm.trans active)
  subst same
  exact ⟨owns, fun request member spent => absurd spent (unused request member)⟩

theorem HostLog.Sound.verify {host : SecurityHost} (sound : log.Sound host) (verified : List MacInput) :
    ({ log with verified } : HostLog).Sound host := ⟨{ sound.orderly with }, sound.allowed⟩

theorem HostLog.Orderly.returns {host : SecurityHost} {call : SecureCall} {sessionKey : List U8} {counter : Nat}
    {request : Frame} {exchanged : Except GuardianCtlError Frame} {turn : HostTurn} (orderly : log.Orderly)
    (returns : Returns host call sessionKey counter request exchanged turn)
    (reserves : log.Reserves (advanced host.session)) : log.Follows turn := by
  obtain ⟨outerResponse, secureResponse, response, -, -, -, -, -, -, -, rfl⟩ := returns
  refine ⟨⟨{ orderly with }, reserves⟩, ?_⟩
  intro frame sent
  cases sent

theorem HostLog.Sound.resume {host : SecurityHost} (sound : log.Sound host)
    (exchanged : Except GuardianCtlError Frame) (fresh : (log.follow (host.resume exchanged)).Fresh) :
    log.Follows (host.resume exchanged) := by
  obtain ⟨orderly, allowed⟩ := sound
  unfold SecurityHost.resume at fresh ⊢
  cases waiting : host.phase with
  | idle =>
    rw [waiting] at allowed
    exact orderly.ends ⟨waiting, rfl, rfl, fun call response => HostResult.noConfusion⟩ allowed
  | beginning call clientNonce request =>
    rw [waiting] at allowed fresh
    obtain ⟨reserves, awaits, drawn, unused⟩ := allowed
    rcases authenticateChallenged_turns host call clientNonce exchanged with ends | ends | finishes
    · exact orderly.ends ends reserves
    · exact orderly.ends ends HostLog.reserves_invalidated
    · exact orderly.finishes finishes reserves awaits drawn unused fresh
  | finishing call clientNonce challenge sessionKey request =>
    rw [waiting] at allowed
    obtain ⟨reserves, awaits, owns, unused⟩ := allowed
    rcases authenticateFinished_turns host call challenge sessionKey exchanged with ends | ends | ⟨opened, opens, turns⟩
    · exact orderly.ends ends reserves
    · exact orderly.ends ends HostLog.reserves_invalidated
    · have first := HostLog.Orderly.opens opens owns unused
      rcases turns with ends | ⟨asked, rfl, protects⟩
      · exact orderly.ends ends first
      · exact orderly.protects protects first awaits
  | exchanging call sessionKey counter request =>
    rw [waiting] at allowed
    obtain ⟨reserves, -⟩ := allowed
    rcases exchangeAnswered_turns host call sessionKey counter request exchanged with ends | ends | returns
    · exact orderly.ends ends HostLog.reserves_invalidated
    · exact orderly.ends ends reserves
    · exact orderly.returns returns reserves

theorem HostLog.Sound.authenticate {host : SecurityHost} (sound : log.Sound host) (idle : host.phase = .idle)
    (clientNonce : Bytes 16) (fresh : (log.follow (Host.authenticate host none clientNonce)).Fresh) :
    log.Follows (Host.authenticate host none clientNonce) := by
  obtain ⟨orderly, allowed⟩ := sound
  rw [idle] at allowed
  rcases authenticate_turns host none clientNonce with ends | begins
  · exact orderly.ends ends allowed
  · exact orderly.begins begins allowed HostLog.Awaits.none fresh

theorem HostLog.Orderly.call (orderly : log.Orderly) {call : SecureCall} (number : call.number = log.calls.length) :
    ({ log with calls := call :: log.calls } : HostLog).Orderly ∧
      ({ log with calls := call :: log.calls } : HostLog).Awaits (some call) := by
  constructor
  · refine
      { orderly with
        numbered := ?_
        distinct := List.nodup_cons.mpr ⟨?_, orderly.distinct⟩
        asked := fun request member => List.mem_cons_of_mem _ (orderly.asked request member) }
    · intro asked member
      rw [List.length_cons]
      rcases List.mem_cons.mp member with rfl | earlier
      · omega
      · exact Nat.lt_succ_of_lt (orderly.numbered asked earlier)
    · intro member
      obtain ⟨earlier, asked, same⟩ := List.mem_map.mp member
      have less := orderly.numbered earlier asked
      omega
  · intro asked same
    cases same
    refine ⟨List.mem_cons_self, ?_⟩
    intro request member
    have less := orderly.numbered _ (orderly.asked request member)
    omega

theorem HostLog.Sound.exchange {host : SecurityHost} (sound : log.Sound host) (idle : host.phase = .idle)
    {call : SecureCall} (number : call.number = log.calls.length) (clientNonce : Bytes 16)
    (fresh : (({ log with calls := call :: log.calls } : HostLog).follow (Host.exchange host call clientNonce)).Fresh) :
    ({ log with calls := call :: log.calls } : HostLog).Follows (Host.exchange host call clientNonce) := by
  obtain ⟨orderly, allowed⟩ := sound
  rw [idle] at allowed
  obtain ⟨orderly, awaits⟩ := orderly.call number
  have reserves : ({ log with calls := call :: log.calls } : HostLog).Reserves host.session := allowed
  rcases exchange_turns host call clientNonce with ends | protects | begins
  · exact orderly.ends ends reserves
  · exact orderly.protects protects reserves awaits
  · exact orderly.begins begins reserves awaits fresh

end log

end Guardian.Channel
