import Guardian.Channel.ChannelDevice
import Guardian.Channel.ChannelHost

namespace Guardian.Channel

open Word ByteString Guardian.Crypto Guardian.Protocol Guardian.Session Guardian.Platform Guardian.Host

/-- `after` has everything that `before` has. -/
structure HostLog.Extends (before after : HostLog) : Prop where
  clientNonces : before.clientNonces.Sublist after.clientNonces
  keys : before.keys ⊆ after.keys
  requests : before.requests ⊆ after.requests
  verified : before.verified ⊆ after.verified

structure DeviceLog.Extends (before after : DeviceLog) : Prop where
  deviceNonces : before.deviceNonces.Sublist after.deviceNonces
  keys : before.keys ⊆ after.keys
  accepted : before.accepted ⊆ after.accepted

theorem HostLog.Extends.refl (log : HostLog) : log.Extends log :=
  ⟨List.Sublist.refl _, List.Subset.refl _, List.Subset.refl _, List.Subset.refl _⟩

theorem HostLog.Extends.trans {before log after : HostLog} (first : before.Extends log) (second : log.Extends after) :
    before.Extends after :=
  ⟨first.clientNonces.trans second.clientNonces, List.Subset.trans first.keys second.keys,
    List.Subset.trans first.requests second.requests, List.Subset.trans first.verified second.verified⟩

theorem DeviceLog.Extends.refl (log : DeviceLog) : log.Extends log :=
  ⟨List.Sublist.refl _, List.Subset.refl _, List.Subset.refl _⟩

theorem HostLog.answer_extends (log : HostLog) (result : HostResult) : log.Extends (log.answer result) := by
  unfold HostLog.answer
  split
  · exact { HostLog.Extends.refl log with }
  · exact HostLog.Extends.refl log

theorem HostLog.wait_extends (log : HostLog) (host : SecurityHost) : log.Extends (log.wait host) := by
  unfold HostLog.wait
  split
  · exact HostLog.Extends.refl log
  · exact { HostLog.Extends.refl log with clientNonces := List.sublist_cons_self _ _ }
  · exact { HostLog.Extends.refl log with keys := List.subset_cons_self _ _ }
  · exact { HostLog.Extends.refl log with requests := List.subset_cons_self _ _ }

theorem HostLog.follow_extends (log : HostLog) (turn : HostTurn) : log.Extends (log.follow turn) :=
  (log.answer_extends turn.result).trans (HostLog.wait_extends _ turn.host)

@[simp] theorem HostLog.wait_returned (log : HostLog) (host : SecurityHost) : (log.wait host).returned = log.returned := by
  unfold HostLog.wait
  split <;> rfl

theorem HostLog.follow_returned {log : HostLog} {turn : HostTurn} {entry : SecureCall × Frame}
    (member : entry ∈ (log.follow turn).returned) :
    entry ∈ log.returned ∨ turn.result = .exchanged entry.1 (.ok entry.2) := by
  rw [HostLog.follow, HostLog.wait_returned] at member
  unfold HostLog.answer at member
  split at member
  · next call response result =>
    rcases List.mem_cons.mp member with rfl | old
    · exact Or.inr result
    · exact Or.inl old
  · exact Or.inl member

theorem DeviceLog.receive_extends {α ρ : Type} [Zero ρ] (platform : LinkPlatform) (log : DeviceLog)
    (link : EmbeddedLink α ρ) (request : Frame) (nowSeconds : U32) :
    log.Extends (log.receive platform link request nowSeconds) := by
  unfold DeviceLog.receive
  dsimp only
  split_ifs
  · split
    · exact { DeviceLog.Extends.refl log with deviceNonces := List.sublist_cons_self _ _ }
    · exact DeviceLog.Extends.refl log
  · split
    · exact { DeviceLog.Extends.refl log with keys := List.subset_cons_self _ _ }
    · exact DeviceLog.Extends.refl log
  · split
    · exact { DeviceLog.Extends.refl log with accepted := List.subset_cons_self _ _ }
    · exact DeviceLog.Extends.refl log
  · exact DeviceLog.Extends.refl log

section channel

variable {α ρ : Type} {channel after : SecureChannel α ρ}

/-- A protected frame of the run: a request, an answer to an accepted one, or an error. -/
def SecureChannel.Sourced (channel : SecureChannel α ρ) (frame : Frame) : Prop :=
  (∃ request ∈ channel.hostLog.requests, request.frame = frame) ∨
    (∃ acceptance ∈ channel.deviceLog.accepted, ∃ response, acceptance.result = .ok response ∧
      response.payload.length ≤ securityMaxResponseInnerPayload ∧
      (response.messageType = .response → acceptance.dispatched = true) ∧ acceptance.answer response = frame) ∨
    (frame.messageType ≠ .response ∧ frame.payload.length < securityRequestOverhead)

/-- The response is what the device produced when it dispatched the call. -/
def SecureChannel.Justified (channel : SecureChannel α ρ) (call : SecureCall) (response : Frame) : Prop :=
  ∃ request ∈ channel.hostLog.requests, request.call = call ∧ ∃ acceptance ∈ channel.deviceLog.accepted,
    acceptance.Executes request ∧ acceptance.dispatched = true ∧ ∃ produced, acceptance.result = .ok produced ∧
      produced.messageType = .response ∧ produced.payload = response.payload

structure SecureChannel.Sound (channel : SecureChannel α ρ) : Prop where
  host : channel.hostLog.Sound channel.host
  device : channel.deviceLog.Sound channel.device.security
  sent : ∀ frame ∈ channel.sent, frame.command = commandSecureCommand → channel.Sourced frame
  executed : ∀ acceptance ∈ channel.deviceLog.accepted, ∃ request ∈ channel.hostLog.requests,
    acceptance.Executes request
  returned : ∀ entry ∈ channel.hostLog.returned, channel.Justified entry.1 entry.2

/-- `after` has everything that `channel` has. -/
structure SecureChannel.Extends (channel after : SecureChannel α ρ) : Prop where
  host : channel.hostLog.Extends after.hostLog
  device : channel.deviceLog.Extends after.deviceLog

theorem SecureChannel.Sourced.extends {frame : Frame} (sourced : channel.Sourced frame)
    (extends' : channel.Extends after) : after.Sourced frame := by
  rcases sourced with ⟨request, member, same⟩ | ⟨acceptance, member, rest⟩ | short
  · exact Or.inl ⟨request, extends'.host.requests member, same⟩
  · exact Or.inr (Or.inl ⟨acceptance, extends'.device.accepted member, rest⟩)
  · exact Or.inr (Or.inr short)

theorem SecureChannel.Justified.extends {call : SecureCall} {response : Frame}
    (justified : channel.Justified call response) (extends' : channel.Extends after) :
    after.Justified call response := by
  obtain ⟨request, asked, same, acceptance, accepted, rest⟩ := justified
  exact ⟨request, extends'.host.requests asked, same, acceptance, extends'.device.accepted accepted, rest⟩

theorem SecureChannel.macInputs_extends (extends' : channel.Extends after) : channel.macInputs ⊆ after.macInputs := by
  intro input member
  simp only [SecureChannel.macInputs, List.mem_append, List.mem_map, List.mem_flatMap] at member ⊢
  rcases member with (((⟨key, made, same⟩ | ⟨key, made, same⟩) | ⟨request, sent, same⟩) | ⟨each, accepted, used⟩) |
    verified
  · exact Or.inl (Or.inl (Or.inl (Or.inl ⟨key, extends'.host.keys made, same⟩)))
  · exact Or.inl (Or.inl (Or.inl (Or.inr ⟨key, extends'.device.keys made, same⟩)))
  · exact Or.inl (Or.inl (Or.inr ⟨request, extends'.host.requests sent, same⟩))
  · exact Or.inl (Or.inr ⟨each, extends'.device.accepted accepted, used⟩)
  · exact Or.inr (extends'.host.verified verified)

theorem SecureChannel.Fresh.earlier (fresh : after.Fresh) (extends' : channel.Extends after) : channel.Fresh := by
  have earlier := SecureChannel.macInputs_extends extends'
  refine ⟨?_, fresh.clientNonces.sublist extends'.host.clientNonces,
    fresh.deviceNonces.sublist extends'.device.deviceNonces⟩
  intro input used other usedToo
  exact fresh.unforged input (earlier used) other (earlier usedToo)

theorem SecureChannel.hostKey_input {derivation : KeyDerivation} (made : derivation ∈ channel.hostLog.keys) :
    derivation.macInput ∈ channel.macInputs := by
  simp only [SecureChannel.macInputs, List.mem_append, List.mem_map]
  exact Or.inl (Or.inl (Or.inl (Or.inl ⟨derivation, made, rfl⟩)))

theorem SecureChannel.deviceKey_input {derivation : KeyDerivation} (made : derivation ∈ channel.deviceLog.keys) :
    derivation.macInput ∈ channel.macInputs := by
  simp only [SecureChannel.macInputs, List.mem_append, List.mem_map]
  exact Or.inl (Or.inl (Or.inl (Or.inr ⟨derivation, made, rfl⟩)))

theorem SecureChannel.request_input {request : SecureRequest} (asked : request ∈ channel.hostLog.requests) :
    request.macInput ∈ channel.macInputs := by
  simp only [SecureChannel.macInputs, List.mem_append, List.mem_map]
  exact Or.inl (Or.inl (Or.inr ⟨request, asked, rfl⟩))

theorem SecureChannel.acceptance_input {acceptance : SecureAcceptance} {input : MacInput}
    (accepted : acceptance ∈ channel.deviceLog.accepted) (used : input ∈ acceptance.macInputs) :
    input ∈ channel.macInputs := by
  simp only [SecureChannel.macInputs, List.mem_append, List.mem_flatMap]
  exact Or.inl (Or.inr ⟨acceptance, accepted, used⟩)

theorem SecureChannel.verified_input {input : MacInput} (verified : input ∈ channel.hostLog.verified) :
    input ∈ channel.macInputs := by
  simp only [SecureChannel.macInputs, List.mem_append]
  exact Or.inr verified

theorem SecureAcceptance.response_input {acceptance : SecureAcceptance} {response : Frame}
    (result : acceptance.result = .ok response) : acceptance.responseInput response ∈ acceptance.macInputs := by
  unfold SecureAcceptance.macInputs
  rw [result]
  exact List.mem_cons_of_mem _ List.mem_cons_self

theorem SecureChannel.Fresh.nonces {derivation other : KeyDerivation} (fresh : channel.Fresh)
    (made : derivation.macInput ∈ channel.macInputs) (madeToo : other.macInput ∈ channel.macInputs)
    (same : derivation.key = other.key) :
    derivation.clientNonce = other.clientNonce ∧ derivation.deviceNonce = other.deviceNonce := by
  have inputs := fresh.unforged _ made _ madeToo (congrArg (List.take securityTagSize) same)
  exact handshakeTranscript_nonces (congrArg Prod.snd inputs)

theorem SecureChannel.Fresh.host (fresh : channel.Fresh) : channel.hostLog.Fresh := by
  refine ⟨fresh.clientNonces, ?_⟩
  intro derivation made other madeToo same
  exact (fresh.nonces (channel.hostKey_input made) (channel.hostKey_input madeToo) same).1

theorem SecureChannel.Fresh.device (fresh : channel.Fresh) : channel.deviceLog.Fresh := by
  refine ⟨fresh.deviceNonces, ?_⟩
  intro derivation made other madeToo same
  exact (fresh.nonces (channel.deviceKey_input made) (channel.deviceKey_input madeToo) same).2

end channel

theorem SecureAcceptance.Carries.last_tag {acceptance : SecureAcceptance} {frame : Frame}
    (carries : acceptance.Carries frame) : macTag acceptance.requestInput.1 acceptance.requestInput.2 =
      frame.payload.drop (frame.payload.length - securityTagSize) := by
  have place : frame.payload.length - securityTagSize = 16 + secureInnerLength frame := by
    rw [carries.length, securityRequestOverhead, securityTagSize]
    omega
  rw [carries.tag, place]
  rfl

section traffic

variable {α ρ : Type} {channel after : SecureChannel α ρ}

theorem SecureChannel.Sourced.executes {acceptance : SecureAcceptance} {frame : Frame}
    (sourced : channel.Sourced frame) (carries : acceptance.Carries frame) (orderly : channel.hostLog.Orderly)
    (extends' : channel.Extends after) (fresh : after.Fresh)
    (accepted : acceptance ∈ after.deviceLog.accepted) :
    ∃ request ∈ channel.hostLog.requests, acceptance.Executes request := by
  have used : acceptance.requestInput ∈ after.macInputs :=
    SecureChannel.acceptance_input accepted (List.mem_cons_self)
  rcases sourced with ⟨request, asked, rfl⟩ | ⟨other, answered, response, result, fits, -, rfl⟩ | ⟨-, short⟩
  · obtain ⟨-, counter, command, payload, tag, -⟩ :=
      @requestEnvelope_fields request.frame _ _ _ _ _ rfl (orderly.fits request asked)
    refine ⟨request, asked, ?_, carries.counter.trans counter, ?_⟩
    · have asks := SecureChannel.request_input (extends'.host.requests asked)
      have same := fresh.unforged _ used _ asks (carries.tag.trans tag)
      exact congrArg Prod.fst same
    · rw [carries.request, secureInnerRequest, command, payload]
      rfl
  · -- an answer is not a request, whatever it is read as
    obtain ⟨-, -, -, -, tag⟩ := @responseEnvelope_fields other.sessionId other.counter response.messageType
      response.command response.payload
      (macTag (other.responseInput response).1 (other.responseInput response).2) fits rfl
    have answers := SecureChannel.acceptance_input (extends'.device.accepted answered)
      (SecureAcceptance.response_input result)
    have same := fresh.unforged _ used _ answers (carries.last_tag.trans tag)
    exact absurd (congrArg Prod.snd same) (requestTranscript_ne_response _ _ _ _ _ _ _ _ _ _ _)
  · have length := carries.length
    omega

theorem SecureChannel.Sound.justified (sound : channel.Sound) (extends' : channel.Extends after) (fresh : after.Fresh)
    {call : SecureCall} {sessionKey : List U8} {counter : Nat} {request outerResponse response : Frame}
    {secureResponse : SecureResponse}
    (waiting : channel.host.phase = .exchanging call sessionKey counter request)
    (delivered : outerResponse ∈ channel.sent) (command : outerResponse.command = request.command)
    (type : outerResponse.messageType = .response)
    (decoded : decodeSecureResponse outerResponse.payload sessionKey request.sequence = .ok secureResponse)
    (verified : (sessionKey, responseTranscript secureResponse.sessionId (BitVec.ofNat 64 secureResponse.counter)
      request.sequence secureResponse.innerMessageType secureResponse.innerCommand secureResponse.innerPayload) ∈
        after.hostLog.verified)
    (count : secureResponse.counter = counter) (produced : secureResponse.innerMessageType = .response)
    (payload : response.payload = secureResponse.innerPayload) : channel.Justified call response := by
  have allowed := sound.host.allowed
  rw [waiting] at allowed
  obtain ⟨-, asked, member, rfl, rfl, rfl, rfl⟩ := allowed
  rcases sound.sent outerResponse delivered command with ⟨other, -, rfl⟩ |
    ⟨acceptance, accepted, answer, result, fits, dispatched, rfl⟩ | ⟨other, -⟩
  · cases type
  · obtain ⟨rfl, tag⟩ := decodeSecureResponse_envelope rfl fits decoded
    rw [BitVec.ofNat_toNat, BitVec.setWidth_eq] at verified
    have answers := SecureChannel.acceptance_input (extends'.device.accepted accepted)
      (SecureAcceptance.response_input result)
    have same := fresh.unforged _ (SecureChannel.verified_input verified) _ answers tag
    have key : asked.sessionKey = acceptance.sessionKey := congrArg Prod.fst same
    obtain ⟨executed, askedToo, executes⟩ := sound.executed acceptance accepted
    -- the counter of the answer picks the request under this key
    have counted : executed.counter = asked.counter := by
      have small := sound.host.orderly.counted executed askedToo
      dsimp only at count
      rw [← count, executes.2.1, BitVec.toNat_ofNat, Nat.mod_eq_of_lt small]
    have one : executed = asked := by
      apply List.inj_on_of_nodup_map sound.host.orderly.counters askedToo member
      rw [counted, key, executes.1]
    subst one
    exact ⟨executed, member, rfl, acceptance, accepted, executes, dispatched produced, answer, result, produced,
      payload.symm⟩
  · exact absurd type other

end traffic

end Guardian.Channel
