import Guardian.Channel.ChannelSafety
import Guardian.Host.SecureAgreement

namespace Guardian.Channel

open Word ByteString Guardian.Crypto Guardian.Protocol Guardian.App Guardian.Health Guardian.Session Guardian.Platform
  Guardian.Host

section turns

variable {host : SecurityHost} {handshake : Handshake} {call : SecureCall}

structure Joins (config : SecurityClientConfig) (handshake : Handshake) : Prop where
  psk : config.psk = handshake.psk
  role : config.role = handshake.role

def beginFrame (handshake : Handshake) (sequence : U32) : Frame :=
  hostRequest commandAuthBegin sequence handshake.beginRequest

def finishFrame (handshake : Handshake) (sequence : U32) : Frame :=
  hostRequest commandAuthFinish sequence handshake.finishRequest

theorem exchange_inactive (joins : Joins host.config handshake) (inactive : host.session.active = false) :
    exchange host call handshake.clientNonce =
      ({ host with sequenceManager := host.sequenceManager.next.2 } : SecurityHost).send
        (beginFrame handshake host.sequenceManager.next.1)
        (.beginning (some call) handshake.clientNonce (beginFrame handshake host.sequenceManager.next.1)) := by
  unfold exchange authenticate
  rw [inactive, if_neg Bool.false_ne_true]
  dsimp only
  rw [joins.role, encodeAuthBegin_handshake]
  rfl

def Handshake.hostChallenge (handshake : Handshake) : AuthChallenge :=
  ⟨handshake.role, handshake.sessionId, handshake.deviceNonce, handshake.proof securityServerLabel⟩

theorem authenticateChallenged_handshake (joins : Joins host.config handshake) {response : Frame}
    (challenged : response.payload = handshake.challenge) :
    authenticateChallenged host (some call) handshake.clientNonce (.ok response) =
      ({ host with sequenceManager := host.sequenceManager.next.2 } : SecurityHost).send
        (finishFrame handshake host.sequenceManager.next.1)
        (.finishing (some call) handshake.clientNonce (Handshake.hostChallenge handshake) handshake.sessionKey.1
          (finishFrame handshake host.sequenceManager.next.1)) := by
  unfold authenticateChallenged
  dsimp only
  rw [challenged, decodeAuthChallenge_handshake]
  dsimp only
  rw [if_neg (not_not.mpr joins.role.symm), joins.psk, computeServerProof_handshake]
  dsimp only
  rw [if_neg (not_not.mpr rfl), deriveSessionKey_handshake, computeClientProof_handshake]
  dsimp only
  rw [encodeAuthFinish_handshake]
  rfl

def firstRequest (handshake : Handshake) (call : SecureCall) (sequence : U32) : SecureRequest :=
  ⟨call, handshake.sessionKey.1, handshake.sessionId, 1, sequence⟩

theorem authenticateFinished_handshake {response : Frame} {sessionTimeoutSeconds : U16}
    (opened : response.payload = handshake.opened sessionTimeoutSeconds)
    (fits : call.payload.length ≤ securityMaxRequestInnerPayload) :
    authenticateFinished host (some call) (Handshake.hostChallenge handshake) handshake.sessionKey.1 (.ok response) =
      ({ host with
          session := ⟨handshake.sessionId, some handshake.sessionKey.1, 1,
            some ⟨handshake.role, handshake.sessionId, sessionTimeoutSeconds⟩⟩
          sequenceManager := host.sequenceManager.next.2 } : SecurityHost).send
        (firstRequest handshake call host.sequenceManager.next.1).frame
        (.exchanging call handshake.sessionKey.1 1 (firstRequest handshake call host.sequenceManager.next.1).frame) := by
  unfold authenticateFinished
  dsimp only
  rw [opened, decodeAuthenticatedSession_handshake]
  dsimp only
  have same : ¬ (handshake.sessionId ≠ (Handshake.hostChallenge handshake).sessionId ∨
      handshake.role ≠ (Handshake.hostChallenge handshake).role) := not_or.mpr ⟨not_not.mpr rfl, not_not.mpr rfl⟩
  rw [if_neg same]
  unfold exchangeProtected
  dsimp only
  rw [encodeSecureRequest_envelope handshake.sessionKey (by decide) fits]
  rfl

def undisturbedAcceptance (handshake : Handshake) (call : SecureCall) (sequence : U32) (produced : List U8) :
    SecureAcceptance :=
  ⟨handshake.sessionKey.1, handshake.sessionId, 1, hostRequest call.command sequence call.payload, true,
    .ok ((hostRequest call.command sequence call.payload).answer .response produced)⟩

theorem undisturbedAcceptance_decoded {sequence : U32} {produced : List U8}
    (small : produced.length ≤ securityMaxResponseInnerPayload) : decodeSecureResponse
      ((undisturbedAcceptance handshake call sequence produced).answer
        ((hostRequest call.command sequence call.payload).answer .response produced)).payload handshake.sessionKey.1
          sequence = .ok ⟨handshake.sessionId, 1, .response, call.command, produced⟩ :=
  @decodeSecureResponse_answer handshake.sessionId sequence call.command produced handshake.sessionKey 1 .response small
    (Or.inl rfl)

theorem exchangeAnswered_handshake {sequence : U32} {produced : List U8} {response : Frame}
    (session : host.session.sessionId = handshake.sessionId)
    (decoded : decodeSecureResponse response.payload handshake.sessionKey.1 sequence =
      .ok ⟨handshake.sessionId, 1, .response, call.command, produced⟩) :
    exchangeAnswered host call handshake.sessionKey.1 1 (firstRequest handshake call sequence).frame (.ok response) =
      ⟨{ host with session := advanced host.session, phase := .idle }, none,
        .exchanged call (.ok ((hostRequest call.command sequence call.payload).answer .response produced))⟩ := by
  have sequenced : (firstRequest handshake call sequence).frame.sequence = sequence := rfl
  unfold exchangeAnswered
  dsimp only
  rw [sequenced, decoded]
  dsimp only
  rw [if_neg (not_not.mpr session.symm), if_neg (not_not.mpr rfl), if_neg (not_not.mpr rfl), if_neg (by decide),
    if_neg (not_not.mpr rfl)]
  rfl

end turns

section device

variable {α ρ : Type} [HealthNumber ρ] (platform : LinkPlatform) {channel : SecureChannel α ρ} {handshake : Handshake}
  {sequence : U32}

structure Admits (security : Security) (handshake : Handshake) : Prop where
  configured : security.configured ≠ 0
  psk : security.config.psk = handshake.psk
  role : handshake.role ≤ security.config.maxRole

theorem deviceReceives_begin (sent : beginFrame handshake sequence ∈ channel.sent)
    (admits : Admits channel.device.security handshake) (idle : channel.device.security.pending.valid = 0)
    {randomBytes : Bytes 20} (random : platform.random channel.device.randomCalls = some randomBytes)
    (drawn : handshake.Drawn randomBytes) (nowSeconds : U32) : ∃ device : EmbeddedLink α ρ,
      device.security = { channel.device.security with pending := handshake.pending nowSeconds } ∧
      channel.step platform (.deviceReceives (beginFrame handshake sequence) (.still nowSeconds)) =
        { channel with
          device
          sent := (beginFrame handshake sequence).answer .response handshake.challenge :: channel.sent
          deviceLog := { channel.deviceLog with
            deviceNonces := handshake.deviceNonce :: channel.deviceLog.deviceNonces } } := by
  have unexpired : securityExpirePending channel.device.security nowSeconds = channel.device.security := if_pos idle
  have begun : securityAuthBegin channel.device.received.security (beginFrame handshake sequence).payload
      ((PollEnvironment.still nowSeconds).uptimeSeconds 0) maxPayloadSize
        (platform.random channel.device.received.randomCalls) =
      (.ok handshake.challenge, { channel.device.security with pending := handshake.pending nowSeconds }) := by
    have challenged := @securityAuthBegin_handshake handshake channel.device.security nowSeconds admits.configured
      admits.psk admits.role randomBytes drawn
    rw [unexpired, ← random] at challenged
    exact challenged
  obtain ⟨answer, after, stats, dispatched, -, received⟩ :=
    channel.deviceReceives_eq platform (beginFrame handshake sequence) (.still nowSeconds)
  rw [embeddedDispatch_authBegin platform channel.device.received rfl, embeddedAuthBegin, begun] at dispatched
  obtain ⟨-, answered, moved⟩ := PollBranch.mk.inj dispatched
  have security : after.security = { channel.device.security with pending := handshake.pending nowSeconds } := by
    rw [← moved]
  have output : answer = (beginFrame handshake sequence).answer .response handshake.challenge :=
    (Option.some.inj answered).symm
  have log : channel.deviceLog.receive platform channel.device.received (beginFrame handshake sequence)
      ((PollEnvironment.still nowSeconds).uptimeSeconds 0) =
      { channel.deviceLog with deviceNonces := handshake.deviceNonce :: channel.deviceLog.deviceNonces } := by
    unfold DeviceLog.receive
    rw [if_pos (by rfl)]
    dsimp only
    rw [begun]
    rfl
  refine ⟨{ after with stats }, security, ?_⟩
  unfold SecureChannel.step
  dsimp only
  rw [if_pos sent, received, output, log]

theorem deviceReceives_finish (sent : finishFrame handshake sequence ∈ channel.sent)
    (admits : Admits channel.device.security handshake) {nowSeconds : U32}
    (pending : channel.device.security.pending = handshake.pending nowSeconds) : ∃ device : EmbeddedLink α ρ,
      device.security =
        { channel.device.security with
          pending := zeroPending
          session := handshake.session nowSeconds
          authSuccesses := securityIncrementU32 channel.device.security.authSuccesses } ∧
      channel.step platform (.deviceReceives (finishFrame handshake sequence) (.still nowSeconds)) =
        { channel with
          device
          sent := (finishFrame handshake sequence).answer .response
            (handshake.opened channel.device.security.config.sessionTimeoutSeconds) :: channel.sent
          deviceLog := { channel.deviceLog with keys := ⟨handshake.psk, handshake.role, handshake.sessionId,
            handshake.clientNonce, handshake.deviceNonce⟩ :: channel.deviceLog.keys } } := by
  have fresh : nowSeconds - nowSeconds < securityPendingTimeoutSeconds := by
    rw [BitVec.sub_self]
    decide
  have finished : securityAuthFinish channel.device.received.security (finishFrame handshake sequence).payload
      ((PollEnvironment.still nowSeconds).uptimeSeconds 0) maxPayloadSize =
      (.ok (handshake.opened channel.device.security.config.sessionTimeoutSeconds),
        { channel.device.security with
          pending := zeroPending
          session := handshake.session nowSeconds
          authSuccesses := securityIncrementU32 channel.device.security.authSuccesses }) :=
    securityAuthFinish_handshake admits.configured admits.psk pending fresh
  obtain ⟨answer, after, stats, dispatched, -, received⟩ :=
    channel.deviceReceives_eq platform (finishFrame handshake sequence) (.still nowSeconds)
  rw [embeddedDispatch_authFinish platform channel.device.received rfl, embeddedAuthFinish, finished] at dispatched
  obtain ⟨-, answered, moved⟩ := PollBranch.mk.inj dispatched
  have output : answer = (finishFrame handshake sequence).answer .response
      (handshake.opened channel.device.security.config.sessionTimeoutSeconds) := (Option.some.inj answered).symm
  have log : channel.deviceLog.receive platform channel.device.received (finishFrame handshake sequence)
      ((PollEnvironment.still nowSeconds).uptimeSeconds 0) =
      { channel.deviceLog with keys := ⟨handshake.psk, handshake.role, handshake.sessionId,
        handshake.clientNonce, handshake.deviceNonce⟩ :: channel.deviceLog.keys } := by
    have challenge : channel.device.received.security.pending = handshake.pending nowSeconds := pending
    have psk : channel.device.received.security.config.psk = handshake.psk := admits.psk
    have other : (finishFrame handshake sequence).command ≠ commandAuthBegin := (by decide : commandAuthFinish ≠ _)
    unfold DeviceLog.receive
    rw [if_neg other, if_pos (by rfl), finished, challenge, psk]
    rfl
  refine ⟨{ after with stats }, by rw [← moved], ?_⟩
  unfold SecureChannel.step
  dsimp only
  rw [if_pos sent, received, output, log]

def firstAcceptance (link : EmbeddedLink α ρ) (handshake : Handshake) (call : SecureCall) (sequence nowSeconds : U32) :
    SecureAcceptance :=
  secureAcceptance platform link.received
    { link.security with session := { handshake.session nowSeconds with nextCounter := 2 } }
    (hostRequest call.command sequence call.payload) 1

theorem deviceReceives_first {call : SecureCall}
    (sent : (firstRequest handshake call sequence).frame ∈ channel.sent) {nowSeconds : U32}
    (session : channel.device.security.session = handshake.session nowSeconds)
    (lasting : 0 < channel.device.security.config.sessionTimeoutSeconds)
    (fits : call.payload.length ≤ securityMaxRequestInnerPayload) :
    ∃ (device : EmbeddedLink α ρ) (response : Frame),
      (firstAcceptance platform channel.device handshake call sequence nowSeconds).result = .ok response ∧
      response.payload.length ≤ securityMaxResponseInnerPayload ∧
      channel.step platform (.deviceReceives (firstRequest handshake call sequence).frame (.still nowSeconds)) =
        { channel with
          device
          sent := (firstAcceptance platform channel.device handshake call sequence nowSeconds).answer response ::
            channel.sent
          deviceLog := { channel.deviceLog with
            accepted := firstAcceptance platform channel.device handshake call sequence nowSeconds ::
              channel.deviceLog.accepted } } := by
  have live : channel.device.received.security.Live nowSeconds := by
    constructor
    · show channel.device.security.session.valid ≠ 0
      rw [session]
      exact (by decide : (1 : U8) ≠ 0)
    · show nowSeconds - channel.device.security.session.lastActivitySeconds < _
      rw [session]
      show nowSeconds - nowSeconds < channel.device.security.config.sessionTimeoutSeconds.setWidth 32
      rw [BitVec.sub_self, BitVec.lt_def, BitVec.toNat_setWidth]
      rw [BitVec.lt_def] at lasting
      have bounded := channel.device.security.config.sessionTimeoutSeconds.isLt
      have wide : (0#32).toNat = 0 := rfl
      omega
  have more : channel.device.received.security.session.nextCounter + 1 ≠ 0 := by
    show channel.device.security.session.nextCounter + 1 ≠ 0
    rw [session]
    exact (by decide : (1 : U64) + 1 ≠ 0)
  have carried : (firstRequest handshake call sequence).frame.payload =
      requestEnvelope channel.device.received.security.session.sessionId
        channel.device.received.security.session.nextCounter call.command call.payload
        (macTag channel.device.received.security.session.sessionKey.1 (requestTranscript
          channel.device.received.security.session.sessionId channel.device.received.security.session.nextCounter
          sequence call.command call.payload)) := by
    have same : channel.device.received.security.session = handshake.session nowSeconds := session
    rw [same]
    rfl
  have accepted : securityUnwrapRequest channel.device.received.security (firstRequest handshake call sequence).frame
      ((PollEnvironment.still nowSeconds).uptimeSeconds 0) =
      (.ok (hostRequest call.command sequence call.payload, 1), { channel.device.security with
        session := { handshake.session nowSeconds with nextCounter := 2 } }) := by
    have unwrapped := securityUnwrapRequest_envelope live fits more carried
    have same : channel.device.received.security.session = handshake.session nowSeconds := session
    rw [same] at unwrapped
    exact unwrapped
  have key : handshake.sessionKey = channel.device.received.security.session.sessionKey :=
    congrArg SecuritySession.sessionKey session.symm
  have identifier : handshake.sessionId = channel.device.received.security.session.sessionId :=
    congrArg SecuritySession.sessionId session.symm
  obtain ⟨response, after, result, small, branch, -⟩ := embeddedSecureCommand_accepts platform channel.device.received
    (by rfl) accepted rfl (by decide : (1 : U8) ≠ 0) key identifier
  obtain ⟨answer, reached, stats, dispatched, -, received⟩ :=
    channel.deviceReceives_eq platform (firstRequest handshake call sequence).frame (.still nowSeconds)
  rw [embeddedDispatch_secure platform channel.device.received rfl, branch] at dispatched
  obtain ⟨-, answered, -⟩ := PollBranch.mk.inj dispatched
  have log : channel.deviceLog.receive platform channel.device.received (firstRequest handshake call sequence).frame
      ((PollEnvironment.still nowSeconds).uptimeSeconds 0) =
      { channel.deviceLog with accepted := firstAcceptance platform channel.device handshake call sequence nowSeconds ::
        channel.deviceLog.accepted } := by
    have begins : (firstRequest handshake call sequence).frame.command ≠ commandAuthBegin :=
      (by decide : commandSecureCommand ≠ _)
    have finishes : (firstRequest handshake call sequence).frame.command ≠ commandAuthFinish :=
      (by decide : commandSecureCommand ≠ _)
    unfold DeviceLog.receive
    rw [if_neg begins, if_neg finishes, if_pos (by rfl), accepted]
    rfl
  refine ⟨{ reached with stats }, response, result, small, ?_⟩
  unfold SecureChannel.step
  dsimp only
  rw [if_pos sent, received, log, ← Option.some.inj answered]
  rfl

theorem hostReceives_answer {request answered : Frame} (sent : answered ∈ channel.sent)
    (waits : channel.host.phase.request = some request) {payload : List U8}
    (answer : answered = request.answer .response payload) :
    channel.step platform (.hostReceives answered) = channel.resume (.ok answered) := by
  have correlated : correlate request [answered] = some (.ok answered) := by
    unfold correlate validateCorrelatedResponse
    rw [answer, if_neg (not_not.mpr (by rfl)), if_neg (not_not.mpr (by rfl)), if_neg (by exact MessageType.noConfusion),
      if_neg (not_not.mpr (by rfl))]
  unfold SecureChannel.step SecureChannel.hostReceives
  dsimp only
  rw [if_pos sent, waits]
  dsimp only
  rw [correlated]

/-- The device runs the command for this role, and it gives this. -/
def Produces (handshake : Handshake) (request : Frame) (produced : List U8) : Prop :=
  ∀ link : EmbeddedLink α ρ, link.security.session.valid ≠ 0 → link.security.session.role = handshake.role →
    (embeddedAuthorize platform .ok link request).1 = .ok (request.answer .response produced)

theorem firstAcceptance_produces {link : EmbeddedLink α ρ} {call : SecureCall} {nowSeconds : U32} {produced : List U8}
    (session : link.security.session = handshake.session nowSeconds)
    (produces : @Produces α ρ _ platform handshake (hostRequest call.command sequence call.payload) produced) :
    firstAcceptance platform link handshake call sequence nowSeconds =
      undisturbedAcceptance handshake call sequence produced := by
  have result := produces { link.received with security := { link.security with
    session := { handshake.session nowSeconds with nextCounter := 2 } } } (by decide : (1 : U8) ≠ 0) rfl
  have dispatched := embeddedAuthorize_dispatched platform result rfl
  have same : link.received.security.session = handshake.session nowSeconds := session
  unfold firstAcceptance secureAcceptance undisturbedAcceptance
  rw [same]
  congr 1

/-- The requests and answers of an exchange that needs a handshake, each delivered once and in order. -/
def undisturbedEvents (manager : SequenceManager) (handshake : Handshake) (call : SecureCall)
    (sessionTimeoutSeconds : U16) (produced : List U8) (nowSeconds : U32) : List (ChannelEvent α) :=
  let first := manager.next
  let second := first.2.next
  let third := second.2.next
  [.exchange call.command call.payload handshake.clientNonce,
    .deviceReceives (beginFrame handshake first.1) (.still nowSeconds),
    .hostReceives ((beginFrame handshake first.1).answer .response handshake.challenge),
    .deviceReceives (finishFrame handshake second.1) (.still nowSeconds),
    .hostReceives ((finishFrame handshake second.1).answer .response (handshake.opened sessionTimeoutSeconds)),
    .deviceReceives (firstRequest handshake call third.1).frame (.still nowSeconds),
    .hostReceives ((undisturbedAcceptance handshake call third.1 produced).answer
      ((hostRequest call.command third.1 call.payload).answer .response produced))]

theorem undisturbed_handshake (initial : channel.Initial) (joins : Joins channel.host.config handshake)
    (admits : Admits channel.device.security handshake) {randomBytes : Bytes 20}
    (random : platform.random channel.device.randomCalls = some randomBytes) (drawn : handshake.Drawn randomBytes)
    (command : U8) (payload : List U8) (nowSeconds : U32) :
    let call : SecureCall := ⟨0, command, payload⟩
    let first := channel.host.sequenceManager.next
    let second := first.2.next
    let begins := beginFrame handshake first.1
    let finishes := finishFrame handshake second.1
    ∃ device : EmbeddedLink α ρ,
      device.security = { channel.device.security with pending := handshake.pending nowSeconds } ∧
      Run.after (SecureChannel.step platform) [.exchange command payload handshake.clientNonce,
        .deviceReceives begins (.still nowSeconds),
        .hostReceives (begins.answer .response handshake.challenge)] channel =
        { host := ⟨channel.host.config, .invalidated, second.2, .finishing (some call) handshake.clientNonce
            (Handshake.hostChallenge handshake) handshake.sessionKey.1 finishes⟩
          device
          sent := [finishes, begins.answer .response handshake.challenge, begins]
          hostLog := ⟨[call], [handshake.clientNonce], [⟨handshake.psk, handshake.role, handshake.sessionId,
            handshake.clientNonce, handshake.deviceNonce⟩], [], [], []⟩
          deviceLog := ⟨[handshake.deviceNonce], [], []⟩ } := by
  intro call first second begins finishes
  obtain ⟨⟨config, session, manager, phase⟩, device, sent, hostLog, deviceLog⟩ := channel
  obtain ⟨idle, inactive, challenge, -, unsent, unused, undone⟩ := initial
  dsimp only at idle inactive challenge unsent unused undone joins admits random
  subst idle inactive unsent unused undone
  have begun : SecureChannel.step platform ⟨⟨config, .invalidated, manager, .idle⟩, device, [], ⟨[], [], [], [], [], []⟩,
      ⟨[], [], []⟩⟩ (.exchange command payload handshake.clientNonce) =
      ⟨⟨config, .invalidated, first.2, .beginning (some call) handshake.clientNonce begins⟩, device, [begins],
        ⟨[call], [handshake.clientNonce], [], [], [], []⟩, ⟨[], [], []⟩⟩ := by
    have turn := @exchange_inactive ⟨config, .invalidated, manager, .idle⟩ handshake call joins rfl
    unfold SecureChannel.step SecureChannel.exchange
    dsimp only
    rw [if_pos rfl]
    show SecureChannel.follow _ (Host.exchange _ call handshake.clientNonce) = _
    rw [turn]
    rfl
  rw [Run.after_cons, begun, Run.after_cons]
  obtain ⟨device, security, received⟩ := @deviceReceives_begin α ρ _ platform
    ⟨⟨config, .invalidated, first.2, .beginning (some call) handshake.clientNonce begins⟩, device, [begins],
      ⟨[call], [handshake.clientNonce], [], [], [], []⟩, ⟨[], [], []⟩⟩ handshake first.1 List.mem_cons_self admits
    challenge randomBytes random drawn nowSeconds
  refine ⟨device, security, ?_⟩
  rw [received, Run.after_cons, Run.after_nil]
  rw [hostReceives_answer platform List.mem_cons_self rfl rfl]
  unfold SecureChannel.resume SecurityHost.resume
  dsimp only [SecureChannel.verify]
  rw [@authenticateChallenged_handshake ⟨config, .invalidated, first.2, .beginning (some call) handshake.clientNonce
    begins⟩ handshake call joins _ rfl, ← joins.psk]
  rfl

theorem hostReceives_opened {config : SecurityClientConfig} {session : GuardianSecuritySession}
    {manager : SequenceManager} {device : EmbeddedLink α ρ} {sent : List Frame} {hostLog : HostLog}
    {deviceLog : DeviceLog} {call : SecureCall} {sessionTimeoutSeconds : U16}
    (delivered : (finishFrame handshake sequence).answer .response (handshake.opened sessionTimeoutSeconds) ∈ sent)
    (fits : call.payload.length ≤ securityMaxRequestInnerPayload) :
    SecureChannel.step platform ⟨⟨config, session, manager, .finishing (some call) handshake.clientNonce
        (Handshake.hostChallenge handshake) handshake.sessionKey.1 (finishFrame handshake sequence)⟩, device, sent,
        hostLog, deviceLog⟩
        (.hostReceives ((finishFrame handshake sequence).answer .response (handshake.opened sessionTimeoutSeconds))) =
      ⟨⟨config, ⟨handshake.sessionId, some handshake.sessionKey.1, 1, some ⟨handshake.role, handshake.sessionId,
          sessionTimeoutSeconds⟩⟩, manager.next.2, .exchanging call handshake.sessionKey.1 1
            (firstRequest handshake call manager.next.1).frame⟩, device,
        (firstRequest handshake call manager.next.1).frame :: sent,
        { hostLog with requests := firstRequest handshake call manager.next.1 :: hostLog.requests }, deviceLog⟩ := by
  rw [hostReceives_answer platform delivered rfl rfl]
  unfold SecureChannel.resume SecurityHost.resume
  dsimp only [SecureChannel.verify]
  rw [authenticateFinished_handshake rfl fits]
  rfl

theorem hostReceives_produced {config : SecurityClientConfig} {session : GuardianSecuritySession}
    {manager : SequenceManager} {device : EmbeddedLink α ρ} {sent : List Frame} {hostLog : HostLog}
    {deviceLog : DeviceLog} {call : SecureCall} {produced : List U8} {answered : Frame}
    (answer : answered = (undisturbedAcceptance handshake call sequence produced).answer
      ((hostRequest call.command sequence call.payload).answer .response produced)) (delivered : answered ∈ sent)
    (active : session.sessionId = handshake.sessionId) (small : produced.length ≤ securityMaxResponseInnerPayload) :
    SecureChannel.step platform ⟨⟨config, session, manager, .exchanging call handshake.sessionKey.1 1
        (firstRequest handshake call sequence).frame⟩, device, sent, hostLog, deviceLog⟩ (.hostReceives answered) =
      ⟨⟨config, advanced session, manager, .idle⟩, device, sent,
        { hostLog with
          verified := (undisturbedAcceptance handshake call sequence produced).responseInput
            ((hostRequest call.command sequence call.payload).answer .response produced) :: hostLog.verified
          returned := (call, (hostRequest call.command sequence call.payload).answer .response produced) ::
            hostLog.returned }, deviceLog⟩ := by
  have decoded := @undisturbedAcceptance_decoded handshake call sequence produced small
  rw [← answer] at decoded
  have sequenced : (firstRequest handshake call sequence).frame.sequence = sequence := rfl
  rw [hostReceives_answer platform delivered rfl answer]
  unfold SecureChannel.resume SecurityHost.resume SecureChannel.verify verification
  dsimp only
  rw [exchangeAnswered_handshake active decoded, sequenced, decoded]
  rfl

theorem undisturbed_request {config : SecurityClientConfig} {session : GuardianSecuritySession}
    {manager : SequenceManager} {device : EmbeddedLink α ρ} {sent : List Frame} {hostLog : HostLog}
    {deviceLog : DeviceLog} {call : SecureCall} (admits : Admits device.security handshake) {nowSeconds : U32}
    (pending : device.security.pending = handshake.pending nowSeconds) {sessionTimeoutSeconds : U16}
    (timeout : device.security.config.sessionTimeoutSeconds = sessionTimeoutSeconds)
    (lasting : 0 < sessionTimeoutSeconds) (fits : call.payload.length ≤ securityMaxRequestInnerPayload)
    {produced : List U8} (small : produced.length ≤ securityMaxResponseInnerPayload)
    (produces : @Produces α ρ _ platform handshake (hostRequest call.command manager.next.1 call.payload) produced) :
    ∃ (host : SecurityHost) (after : EmbeddedLink α ρ) (frames : List Frame), Run.after (SecureChannel.step platform)
        [.deviceReceives (finishFrame handshake sequence) (.still nowSeconds),
          .hostReceives ((finishFrame handshake sequence).answer .response (handshake.opened sessionTimeoutSeconds)),
          .deviceReceives (firstRequest handshake call manager.next.1).frame (.still nowSeconds),
          .hostReceives ((undisturbedAcceptance handshake call manager.next.1 produced).answer
            ((hostRequest call.command manager.next.1 call.payload).answer .response produced))]
        ⟨⟨config, session, manager, .finishing (some call) handshake.clientNonce (Handshake.hostChallenge handshake)
          handshake.sessionKey.1 (finishFrame handshake sequence)⟩, device, finishFrame handshake sequence :: sent,
          hostLog, deviceLog⟩ =
      ⟨host, after, frames,
        { hostLog with
          requests := firstRequest handshake call manager.next.1 :: hostLog.requests
          verified := (undisturbedAcceptance handshake call manager.next.1 produced).responseInput
            ((hostRequest call.command manager.next.1 call.payload).answer .response produced) :: hostLog.verified
          returned := (call, (hostRequest call.command manager.next.1 call.payload).answer .response produced) ::
            hostLog.returned },
        { deviceLog with
          keys := ⟨handshake.psk, handshake.role, handshake.sessionId, handshake.clientNonce, handshake.deviceNonce⟩ ::
            deviceLog.keys
          accepted := undisturbedAcceptance handshake call manager.next.1 produced :: deviceLog.accepted }⟩ := by
  subst timeout
  obtain ⟨opened, security, received⟩ := @deviceReceives_finish α ρ _ platform ⟨⟨config, session, manager, .finishing
    (some call) handshake.clientNonce (Handshake.hostChallenge handshake) handshake.sessionKey.1
      (finishFrame handshake sequence)⟩, device, finishFrame handshake sequence :: sent, hostLog, deviceLog⟩ handshake
    sequence List.mem_cons_self admits nowSeconds pending
  have active : opened.security.session = handshake.session nowSeconds := by rw [security]
  have lasts : 0 < opened.security.config.sessionTimeoutSeconds := by
    rw [security]
    exact lasting
  rw [Run.after_cons, received, Run.after_cons]
  dsimp only
  rw [hostReceives_opened platform List.mem_cons_self fits, Run.after_cons]
  obtain ⟨after, response, result, -, answered⟩ := @deviceReceives_first α ρ _ platform
    ⟨⟨config, ⟨handshake.sessionId, some handshake.sessionKey.1, 1, some ⟨handshake.role, handshake.sessionId,
      device.security.config.sessionTimeoutSeconds⟩⟩, manager.next.2, .exchanging call handshake.sessionKey.1 1
        (firstRequest handshake call manager.next.1).frame⟩, opened, (firstRequest handshake call manager.next.1).frame ::
          (finishFrame handshake sequence).answer .response
            (handshake.opened device.security.config.sessionTimeoutSeconds) :: finishFrame handshake sequence :: sent,
      { hostLog with requests := firstRequest handshake call manager.next.1 :: hostLog.requests },
      { deviceLog with keys := ⟨handshake.psk, handshake.role, handshake.sessionId, handshake.clientNonce,
        handshake.deviceNonce⟩ :: deviceLog.keys }⟩ handshake manager.next.1 call List.mem_cons_self nowSeconds active
    lasts fits
  have noted := firstAcceptance_produces platform active produces
  rw [noted] at answered result
  have same : (hostRequest call.command manager.next.1 call.payload).answer .response produced = response :=
    Except.ok.inj result
  rw [answered, same, Run.after_cons, Run.after_nil]
  dsimp only
  rw [hostReceives_produced platform (congrArg _ same.symm) List.mem_cons_self rfl small, same]
  exact ⟨_, _, _, rfl⟩

/-- The host returns what the device produced, and each side has used one nonce, one key and one counter. -/
theorem undisturbed_exchange (initial : channel.Initial) (joins : Joins channel.host.config handshake)
    (admits : Admits channel.device.security handshake) {randomBytes : Bytes 20}
    (random : platform.random channel.device.randomCalls = some randomBytes) (drawn : handshake.Drawn randomBytes)
    {sessionTimeoutSeconds : U16} (timeout : channel.device.security.config.sessionTimeoutSeconds = sessionTimeoutSeconds)
    (lasting : 0 < sessionTimeoutSeconds) {call : SecureCall} (number : call.number = 0)
    (fits : call.payload.length ≤ securityMaxRequestInnerPayload) {manager : SequenceManager}
    (sequences : channel.host.sequenceManager = manager) {produced : List U8}
    (small : produced.length ≤ securityMaxResponseInnerPayload) (produces : @Produces α ρ _ platform handshake
      (hostRequest call.command manager.next.2.next.2.next.1 call.payload) produced) (nowSeconds : U32) :
    ∃ (host : SecurityHost) (device : EmbeddedLink α ρ) (sent : List Frame), Run.after (SecureChannel.step platform)
        (undisturbedEvents manager handshake call sessionTimeoutSeconds produced nowSeconds) channel =
      ⟨host, device, sent,
        ⟨[call], [handshake.clientNonce], [⟨handshake.psk, handshake.role, handshake.sessionId, handshake.clientNonce,
            handshake.deviceNonce⟩], [firstRequest handshake call manager.next.2.next.2.next.1],
          [(undisturbedAcceptance handshake call manager.next.2.next.2.next.1 produced).responseInput
            ((hostRequest call.command manager.next.2.next.2.next.1 call.payload).answer .response produced)],
          [(call, (hostRequest call.command manager.next.2.next.2.next.1 call.payload).answer .response produced)]⟩,
        ⟨[handshake.deviceNonce], [⟨handshake.psk, handshake.role, handshake.sessionId, handshake.clientNonce,
            handshake.deviceNonce⟩], [undisturbedAcceptance handshake call manager.next.2.next.2.next.1 produced]⟩⟩ := by
  obtain ⟨number', command, payload⟩ := call
  subst sequences number timeout
  obtain ⟨device, security, begun⟩ :=
    undisturbed_handshake platform initial joins admits random drawn command payload nowSeconds
  have admitted : Admits device.security handshake := by
    rw [security]
    exact ⟨admits.configured, admits.psk, admits.role⟩
  have challenged : device.security.pending = handshake.pending nowSeconds := by rw [security]
  have unchanged : device.security.config.sessionTimeoutSeconds = channel.device.security.config.sessionTimeoutSeconds := by
    rw [security]
  have events : undisturbedEvents (α := α) channel.host.sequenceManager handshake ⟨0, command, payload⟩
      channel.device.security.config.sessionTimeoutSeconds produced nowSeconds = _ ++ _ :=
    (List.take_append_drop 3 _).symm
  rw [events, Run.after_append]
  unfold undisturbedEvents
  dsimp only [List.take, List.drop]
  rw [begun]
  exact undisturbed_request platform admitted challenged unchanged lasting fits small produces

end device

def repeatingPlatform : LinkPlatform :=
  ⟨fun _ => some (padded 20 [0, 0, 0, 7, 4]), fun _ => ⟨true, true, fun _ => 0⟩, fun _ => true, fun _ _ _ _ => false⟩

def firstHandshake : Handshake :=
  { psk := padded 32 [1]
    role := roleOperator
    sessionId := 7
    clientNonce := padded 16 [3]
    deviceNonce := padded 16 [4]
    observer := by decide
    admin := by decide
    identified := by decide }

def provisionedLink : EmbeddedLink Unit ℚ :=
  let link := (embeddedLinkInit ⟨fun _ => 0xFF, none, 0, 0⟩ ⟨[0x46], 1, 0, 0, 7⟩).2
  { link with security := (securityConfigure link.security ⟨padded 32 [1], roleAdmin, 60⟩).2 }

def resetCall : SecureCall := ⟨0, commandBaselineControl, [1, baselineActionReset, 0, 0]⟩

def startedChannel : SecureChannel Unit ℚ :=
  ⟨⟨⟨padded 32 [1], roleOperator⟩, .invalidated, ⟨1⟩, .idle⟩, provisionedLink, [], ⟨[], [], [], [], [], []⟩,
    ⟨[], [], []⟩⟩

theorem reset_produces (sequence : U32) : @Produces Unit ℚ _ repeatingPlatform firstHandshake
    (hostRequest resetCall.command sequence resetCall.payload) [1, baselineActionReset, 0, 0] := by
  intro link valid role
  have allowed : (securityAuthorize link.security
      (hostRequest resetCall.command sequence resetCall.payload).command).1 = true := by
    unfold securityAuthorize
    rw [if_neg valid, role]
    rfl
  unfold embeddedAuthorize
  dsimp only
  rw [if_pos allowed]
  rfl

theorem startedChannel_initial : startedChannel.Initial := by
  constructor <;> rfl

def firstDerivation : KeyDerivation :=
  ⟨firstHandshake.psk, firstHandshake.role, firstHandshake.sessionId, firstHandshake.clientNonce,
    firstHandshake.deviceNonce⟩

def resetInputs : List MacInput :=
  [firstDerivation.macInput, (firstRequest firstHandshake resetCall 3).macInput,
    (undisturbedAcceptance firstHandshake resetCall 3 [1, baselineActionReset, 0, 0]).responseInput
      ((hostRequest resetCall.command 3 resetCall.payload).answer .response [1, baselineActionReset, 0, 0])]

theorem resetInputs_tags : (resetInputs.map fun input => macTag input.1 input.2).Nodup := by
  have sessionKey : firstHandshake.sessionKey.1 =
      [0x16, 0x4F, 0xE9, 0xAE, 0xC0, 0x3C, 0x85, 0x80, 0xAD, 0x3E, 0xBA, 0x9A, 0xB6, 0x39, 0x44, 0x80,
       0xA3, 0x7D, 0x02, 0x0F, 0x19, 0x63, 0xBC, 0x5C, 0x2C, 0x0A, 0x2E, 0x66, 0x0E, 0x65, 0xF4, 0x0D] := by
    decide +kernel
  have derived : (macTag resetInputs[0].1 resetInputs[0].2).head? = firstHandshake.sessionKey.1.head? := by
    rw [macTag, List.head?_take, if_neg (by decide)]
    rfl
  have request : (macTag resetInputs[1].1 resetInputs[1].2).head? = some 0x8B := by
    rw [show resetInputs[1].1 = firstHandshake.sessionKey.1 from rfl, sessionKey]
    decide +kernel
  have response : (macTag resetInputs[2].1 resetInputs[2].2).head? = some 0xC1 := by
    rw [show resetInputs[2].1 = firstHandshake.sessionKey.1 from rfl, sessionKey]
    decide +kernel
  -- The first octets differ.
  apply List.Nodup.of_map List.head?
  rw [show resetInputs = [resetInputs[0], resetInputs[1], resetInputs[2]] from rfl, List.map_map]
  simp only [List.map_cons, List.map_nil, Function.comp]
  rw [derived, sessionKey, request, response]
  decide

def resetEvents : List (ChannelEvent Unit) :=
  undisturbedEvents ⟨1⟩ firstHandshake resetCall 60 [1, baselineActionReset, 0, 0] 5

theorem resetEvents_logs : ∃ (host : SecurityHost) (device : EmbeddedLink Unit ℚ) (sent : List Frame),
    Run.after (SecureChannel.step repeatingPlatform) resetEvents startedChannel = ⟨host, device, sent,
      ⟨[resetCall], [firstHandshake.clientNonce], [⟨firstHandshake.psk, firstHandshake.role, firstHandshake.sessionId,
          firstHandshake.clientNonce, firstHandshake.deviceNonce⟩], [firstRequest firstHandshake resetCall 3],
        [(undisturbedAcceptance firstHandshake resetCall 3 [1, baselineActionReset, 0, 0]).responseInput
          ((hostRequest resetCall.command 3 resetCall.payload).answer .response [1, baselineActionReset, 0, 0])],
        [(resetCall, (hostRequest resetCall.command 3 resetCall.payload).answer .response
          [1, baselineActionReset, 0, 0])]⟩,
      ⟨[firstHandshake.deviceNonce], [⟨firstHandshake.psk, firstHandshake.role, firstHandshake.sessionId,
          firstHandshake.clientNonce, firstHandshake.deviceNonce⟩],
        [undisturbedAcceptance firstHandshake resetCall 3 [1, baselineActionReset, 0, 0]]⟩⟩ := by
  have admits : Admits provisionedLink.security firstHandshake := ⟨by decide, rfl, by decide⟩
  have drawn : firstHandshake.Drawn (padded 20 [0, 0, 0, 7, 4]) := ⟨by decide, by decide⟩
  exact undisturbed_exchange repeatingPlatform startedChannel_initial ⟨rfl, rfl⟩ admits rfl drawn rfl (by decide) rfl
    (by decide) rfl (by decide) (reset_produces _) 5

theorem resetEvents_fresh : (Run.after (SecureChannel.step repeatingPlatform) resetEvents startedChannel).Fresh := by
  obtain ⟨host, device, sent, final⟩ := resetEvents_logs
  have listed : (Run.after (SecureChannel.step repeatingPlatform) resetEvents startedChannel).macInputs =
      [resetInputs[0], resetInputs[0], resetInputs[1], resetInputs[1], resetInputs[2], resetInputs[2]] := by
    rw [final]
    rfl
  have among : (Run.after (SecureChannel.step repeatingPlatform) resetEvents startedChannel).macInputs ⊆ resetInputs := by
    rw [listed]
    intro input member
    simp only [List.mem_cons, List.not_mem_nil, or_false] at member
    rcases member with rfl | rfl | rfl | rfl | rfl | rfl <;> exact List.getElem_mem _
  refine ⟨?_, ?_, ?_⟩
  · intro input member other memberToo same
    exact List.inj_on_of_nodup_map resetInputs_tags (among member) (among memberToo) same
  · rw [final]
    exact List.nodup_singleton _
  · rw [final]
    exact List.nodup_singleton _

def resetAnswer : Frame :=
  (hostRequest resetCall.command 3 resetCall.payload).answer .response [1, baselineActionReset, 0, 0]

theorem resetEvents_returned : (resetCall, resetAnswer) ∈
    (Run.after (SecureChannel.step repeatingPlatform) resetEvents startedChannel).hostLog.returned := by
  obtain ⟨host, device, sent, final⟩ := resetEvents_logs
  rw [final]
  exact List.mem_cons_self

/-- In this run one call returns, and it was dispatched once. -/
theorem exchange_dispatched_once_reset : ∃ final, final =
      Run.after (SecureChannel.step repeatingPlatform) resetEvents startedChannel ∧
    ∃ newer acceptance older, final.deviceLog.accepted = newer ++ acceptance :: older ∧
      final.Runs acceptance resetCall ∧ (∀ other ∈ newer ++ older, ¬ final.Runs other resetCall) ∧
      acceptance.dispatched = true := by
  have run := exchange_dispatched_once repeatingPlatform startedChannel_initial resetEvents resetEvents_fresh
  have returned := resetEvents_returned
  generalize Run.after (SecureChannel.step repeatingPlatform) resetEvents startedChannel = final at run returned
  obtain ⟨-, -, -, answered⟩ := run
  obtain ⟨-, newer, acceptance, older, split, runs, once, dispatched, -⟩ := answered resetCall resetAnswer returned
  exact ⟨final, rfl, newer, acceptance, older, split, runs, once, dispatched⟩

end Guardian.Channel
