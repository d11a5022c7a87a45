import Guardian.App.FirmwareApp
import Guardian.Channel.SecureChannel

namespace Guardian.Channel

open Word ByteString Guardian.Crypto Guardian.Protocol Guardian.App Guardian.Session Guardian.Platform

def DeviceLog.Owns (log : DeviceLog) (sessionKey : List U8) : Prop := ∃ derivation ∈ log.keys, derivation.key = sessionKey

structure DeviceLog.Orderly (log : DeviceLog) : Prop where
  nonces : ∀ derivation ∈ log.keys, derivation.deviceNonce ∈ log.deviceNonces
  owned : ∀ acceptance ∈ log.accepted, log.Owns acceptance.sessionKey
  counters : (log.accepted.map fun acceptance => (acceptance.sessionKey, acceptance.counter)).Nodup

structure DeviceLog.Sound (log : DeviceLog) (security : Security) : Prop where
  orderly : log.Orderly
  pending : security.pending.valid ≠ 0 → security.pending.deviceNonce ∈ log.deviceNonces ∧
    ∀ derivation ∈ log.keys, derivation.deviceNonce ≠ security.pending.deviceNonce
  session : security.session.valid ≠ 0 → log.Owns security.session.sessionKey.1 ∧
    ∀ acceptance ∈ log.accepted, acceptance.sessionKey = security.session.sessionKey.1 →
      acceptance.counter.toNat < security.session.nextCounter.toNat

/-- The nonces of the device are fresh, and its keys tell their nonces apart. -/
structure DeviceLog.Fresh (log : DeviceLog) : Prop where
  deviceNonces : log.deviceNonces.Nodup
  keys : ∀ derivation ∈ log.keys, ∀ other ∈ log.keys, derivation.key = other.key →
    derivation.deviceNonce = other.deviceNonce

section log

variable {log : DeviceLog} {security : Security}

theorem DeviceLog.Sound.ages {after : Security} {nowSeconds : U32} (sound : log.Sound security)
    (ages : security.Ages after nowSeconds false false) : log.Sound after := by
  refine ⟨sound.orderly, ?_, ?_⟩
  · intro valid
    rcases ages.pending valid with ⟨renewed, -⟩ | ⟨-, same⟩
    · cases renewed
    · rw [same] at valid ⊢
      exact sound.pending valid
  · intro valid
    rcases ages.session valid with ⟨renewed, -⟩ | ⟨-, same⟩
    · cases renewed
    · rw [same] at valid ⊢
      exact sound.session valid

theorem DeviceLog.Sound.challenged {after : Security} (sound : log.Sound security)
    (session : after.session = security.session)
    (fresh : ({ log with deviceNonces := after.pending.deviceNonce :: log.deviceNonces } : DeviceLog).Fresh) :
    ({ log with deviceNonces := after.pending.deviceNonce :: log.deviceNonces } : DeviceLog).Sound after := by
  have unused : after.pending.deviceNonce ∉ log.deviceNonces := (List.nodup_cons.mp fresh.deviceNonces).1
  obtain ⟨orderly, pending, active⟩ := sound
  refine ⟨?_, ?_, ?_⟩
  · exact
      { orderly with nonces := fun derivation member => List.mem_cons_of_mem _ (orderly.nonces derivation member) }
  · intro valid
    refine ⟨List.mem_cons_self, ?_⟩
    intro derivation member same
    apply unused
    rw [← same]
    exact orderly.nonces derivation member
  · rw [session]
    exact active

theorem DeviceLog.Sound.opened {after : Security} {derivation : KeyDerivation} (sound : log.Sound security)
    (nonce : derivation.deviceNonce = security.pending.deviceNonce) (challenged : security.pending.valid ≠ 0)
    (consumed : after.pending.valid = 0) (key : after.session.sessionKey.1 = derivation.key)
    (fresh : ({ log with keys := derivation :: log.keys } : DeviceLog).Fresh) :
    ({ log with keys := derivation :: log.keys } : DeviceLog).Sound after := by
  obtain ⟨orderly, pending, -⟩ := sound
  obtain ⟨drawn, unused⟩ := pending challenged
  refine ⟨?_, fun valid => absurd consumed valid, ?_⟩
  · refine { orderly with nonces := ?_, owned := ?_ }
    · intro made member
      rcases List.mem_cons.mp member with rfl | old
      · rw [nonce]
        exact drawn
      · exact orderly.nonces made old
    · intro acceptance member
      obtain ⟨old, earlier, same⟩ := orderly.owned acceptance member
      exact ⟨old, List.mem_cons_of_mem _ earlier, same⟩
  · intro _
    rw [key]
    refine ⟨⟨derivation, List.mem_cons_self, rfl⟩, ?_⟩
    intro acceptance member same
    obtain ⟨old, earlier, owns⟩ := orderly.owned acceptance member
    have nonces := fresh.keys old (List.mem_cons_of_mem _ earlier) derivation List.mem_cons_self (owns.trans same)
    exact absurd (nonces.trans nonce) (unused old earlier)

theorem DeviceLog.Sound.accepts {after : Security} {acceptance : SecureAcceptance} (sound : log.Sound security)
    (live : security.session.valid ≠ 0) (key : acceptance.sessionKey = security.session.sessionKey.1)
    (next : acceptance.counter = security.session.nextCounter) (more : security.session.nextCounter + 1 ≠ 0)
    (pending : after.pending = security.pending) (sessionKey : after.session.sessionKey = security.session.sessionKey)
    (nextCounter : after.session.nextCounter = security.session.nextCounter + 1) :
    ({ log with accepted := acceptance :: log.accepted } : DeviceLog).Sound after := by
  obtain ⟨orderly, challenged, active⟩ := sound
  obtain ⟨owns, earlier⟩ := active live
  have raised : (security.session.nextCounter + 1).toNat = security.session.nextCounter.toNat + 1 := by
    have bounded := security.session.nextCounter.isLt
    have full : security.session.nextCounter.toNat + 1 ≠ 2 ^ 64 := by
      intro full
      apply more
      apply BitVec.eq_of_toNat_eq
      rw [BitVec.toNat_add, show (1 : U64).toNat = 1 from rfl, full]
      rfl
    rw [BitVec.toNat_add, show (1 : U64).toNat = 1 from rfl]
    omega
  refine ⟨{ orderly with owned := ?_, counters := List.nodup_cons.mpr ⟨?_, orderly.counters⟩ }, ?_, ?_⟩
  · intro each member
    rcases List.mem_cons.mp member with rfl | old
    · rw [key]
      exact owns
    · exact orderly.owned each old
  · intro member
    obtain ⟨old, used, same⟩ := List.mem_map.mp member
    obtain ⟨sameKey, sameCounter⟩ := Prod.mk.inj same
    have less := earlier old used (sameKey.trans key)
    rw [sameCounter, next] at less
    exact Nat.lt_irrefl _ less
  · rw [pending]
    exact challenged
  · intro _
    rw [sessionKey, nextCounter, raised]
    refine ⟨owns, ?_⟩
    intro each member same
    rcases List.mem_cons.mp member with rfl | old
    · rw [next]
      exact Nat.lt_succ_self _
    · exact Nat.lt_succ_of_lt (earlier each old same)

end log

section dispatch

variable {α ρ : Type} [Zero ρ] (platform : LinkPlatform) {log : DeviceLog} {link : EmbeddedLink α ρ}

theorem DeviceLog.Sound.authBegin (sound : log.Sound link.security) {request : Frame} {nowSeconds : U32}
    (begin' : request.command = commandAuthBegin) (fresh : (log.receive platform link request nowSeconds).Fresh) :
    (log.receive platform link request nowSeconds).Sound (securityAuthBegin link.security request.payload nowSeconds
      maxPayloadSize (platform.random link.randomCalls)).2 := by
  have begins := securityAuthBegin_begins link.security request.payload nowSeconds maxPayloadSize
    (platform.random link.randomCalls)
  have ages := securityAuthBegin_ages link.security request.payload nowSeconds maxPayloadSize
    (platform.random link.randomCalls)
  unfold DeviceLog.receive at fresh ⊢
  rw [if_pos begin'] at fresh ⊢
  dsimp only at fresh ⊢
  generalize securityAuthBegin link.security request.payload nowSeconds maxPayloadSize
    (platform.random link.randomCalls) = begun at begins ages fresh ⊢
  obtain ⟨result, after⟩ := begun
  cases begins with
  | refuses config session pending => exact sound.ages ages
  | issues config session valid observer bounded started => exact sound.challenged session fresh

theorem DeviceLog.Sound.authFinish (sound : log.Sound link.security) {request : Frame} {nowSeconds : U32}
    (finish : request.command = commandAuthFinish) (fresh : (log.receive platform link request nowSeconds).Fresh) :
    (log.receive platform link request nowSeconds).Sound
      (securityAuthFinish link.security request.payload nowSeconds maxPayloadSize).2 := by
  have finishes := securityAuthFinish_finishes link.security request.payload nowSeconds maxPayloadSize
  have ages := securityAuthFinish_ages link.security request.payload nowSeconds maxPayloadSize
  have other : request.command ≠ commandAuthBegin := by
    rw [finish]
    decide
  unfold DeviceLog.receive at fresh ⊢
  rw [if_neg other, if_pos finish] at fresh ⊢
  rcases finished : securityAuthFinish link.security request.payload nowSeconds maxPayloadSize with ⟨result, after⟩
  rw [finished] at finishes ages fresh
  cases finishes with
  | refuses idle config session pending => exact sound.ages ages
  | rejects evaluates config session consumed => exact sound.ages ages
  | activates evaluates proved config role sessionId valid first consumed =>
    have key := @securityAuthFinish_key link.security request.payload _ nowSeconds maxPayloadSize
      (congrArg Prod.fst finished)
    rw [finished] at key
    have cleared : after.pending.valid = 0 := congrArg SecurityPending.valid consumed
    exact sound.opened rfl evaluates.2.1.1 cleared key fresh

/-- The acceptance says what the frame carried, with the tag that the device found right. -/
structure SecureAcceptance.Carries (acceptance : SecureAcceptance) (frame : Frame) : Prop where
  request : acceptance.request = secureInnerRequest frame
  counter : acceptance.counter = secureCounter frame
  length : frame.payload.length = securityRequestOverhead + secureInnerLength frame
  tag : macTag acceptance.requestInput.1 acceptance.requestInput.2 = secureTag frame

/-- What a protected request does to the device: it refuses it, or it answers what it produced for it. -/
inductive DeviceLog.Secures (log : DeviceLog) (link : EmbeddedLink α ρ) (frame : Frame) :
    DeviceLog → PollBranch α ρ → Prop
  | refuses {branch : PollBranch α ρ} {nowSeconds : U32} (error : ErrorCode)
      (output : branch.output = some (makeError frame error))
      (ages : link.security.Ages branch.link.security nowSeconds false false) : Secures log link frame log branch
  | accepts {branch : PollBranch α ρ} (acceptance : SecureAcceptance) (response : Frame)
      (carries : acceptance.Carries frame) (result : acceptance.result = .ok response)
      (fits : response.payload.length ≤ securityMaxResponseInnerPayload)
      (dispatched : response.messageType = .response → acceptance.dispatched = true)
      (output : branch.output = some (acceptance.answer response))
      (sound : log.Sound link.security →
        ({ log with accepted := acceptance :: log.accepted } : DeviceLog).Sound branch.link.security) :
      Secures log link frame { log with accepted := acceptance :: log.accepted } branch

theorem verifies_tag {security : Security} {frame : Frame} (verifies : security.Verifies frame)
    (length : frame.payload.length = securityRequestOverhead + secureInnerLength frame) :
    macTag security.session.sessionKey.1 (requestTranscript (secureSessionId frame) (secureCounter frame)
      frame.sequence (secureInnerCommand frame) (secureInnerPayload frame)) = secureTag frame := by
  obtain ⟨tag, tagged, equal⟩ := verifies
  have whole : (secureTag frame).take securityTagSize = secureTag frame := by
    apply List.take_of_length_le
    rw [secureTag, List.length_drop, length, securityRequestOverhead, securityTagSize]
    omega
  rw [macTag, ← securityRequestTag_eq tagged, equal, whole]

theorem embeddedAuthorize_dispatched {innerRequest response : Frame}
    (answered : (embeddedAuthorize platform .ok link innerRequest).1 = .ok response)
    (type : response.messageType = .response) : (securityAuthorize link.security innerRequest.command).1 = true := by
  unfold embeddedAuthorize at answered
  dsimp only at answered
  by_contra denied
  rw [if_neg denied, if_pos rfl] at answered
  cases answered
  cases type

theorem embeddedSecureCommand_accepts (link : EmbeddedLink α ρ) {frame innerRequest : Frame} {nowSeconds : U32}
    {counter : U64} {unwrapped : Security} (secure : frame.command = commandSecureCommand)
    (accepted : securityUnwrapRequest link.security frame nowSeconds = (.ok (innerRequest, counter), unwrapped))
    (sequence : innerRequest.sequence = frame.sequence) (active : unwrapped.session.valid ≠ 0)
    (key : unwrapped.session.sessionKey = link.security.session.sessionKey)
    (identifier : unwrapped.session.sessionId = link.security.session.sessionId) :
    ∃ response after, (secureAcceptance platform link unwrapped innerRequest counter).result = .ok response ∧
      response.payload.length ≤ securityMaxResponseInnerPayload ∧
      embeddedSecureCommand platform .ok link frame nowSeconds = ⟨.ok,
        some ((secureAcceptance platform link unwrapped innerRequest counter).answer response), after⟩ ∧
      after.security.session = unwrapped.session ∧ after.security.pending = unwrapped.pending := by
  obtain ⟨⟨response, answered, small⟩, -⟩ :=
    embeddedAuthorize_answers platform { link with security := unwrapped } innerRequest
  obtain ⟨session, pending⟩ := embeddedAuthorize_kept platform { link with security := unwrapped } innerRequest .ok
  have live : (embeddedAuthorize platform .ok { link with security := unwrapped } innerRequest).2.security.session.valid ≠
      0 := by
    rw [session]
    exact active
  obtain ⟨output, wrapped, -⟩ := securityWrapResponse_answers live frame counter response small
  obtain ⟨answer, fits⟩ := securityWrapResponse_ok wrapped
  refine ⟨response, _, answered, fits, ?_, session, pending⟩
  unfold embeddedSecureCommand
  rw [accepted]
  dsimp only
  unfold embeddedWrap
  rw [answered]
  dsimp only
  rw [wrapped, answer, session, key, identifier]
  unfold SecureAcceptance.answer SecureAcceptance.responseInput secureAcceptance Frame.answer
  rw [secure]
  dsimp only
  rw [sequence]

theorem embeddedSecureCommand_secures (log : DeviceLog) (link : EmbeddedLink α ρ) {frame : Frame}
    (secure : frame.command = commandSecureCommand) (nowSeconds : U32) :
    log.Secures link frame (log.receive platform link frame nowSeconds)
      (embeddedSecureCommand platform .ok link frame nowSeconds) := by
  have unwraps := securityUnwrapRequest_unwraps link.security frame nowSeconds
  have ages := securityUnwrapRequest_ages link.security frame nowSeconds
  have carried := @securityUnwrapRequest_accepted link.security frame
  have begins : frame.command ≠ commandAuthBegin := by
    rw [secure]
    decide
  have finishes : frame.command ≠ commandAuthFinish := by
    rw [secure]
    decide
  rcases unwrapped : securityUnwrapRequest link.security frame nowSeconds with ⟨result, after⟩
  rw [unwrapped] at unwraps ages
  unfold DeviceLog.receive
  rw [if_neg begins, if_neg finishes, if_pos secure, unwrapped]
  have refused {failure : SecurityResult}
      (fails : securityUnwrapRequest link.security frame nowSeconds = (.error failure, after)) :
      embeddedSecureCommand platform .ok link frame nowSeconds = ⟨.ok,
        some (embeddedMakeError frame (embeddedSecurityError failure)), { link with security := after }⟩ := by
    unfold embeddedSecureCommand
    rw [fails]
  cases unwraps with
  | refuses config pending session =>
    rw [refused unwrapped]
    exact .refuses _ rfl ages
  | exhausts authentic config pending session =>
    rw [refused unwrapped]
    exact .refuses _ rfl ages
  | accepts innerRequest authentic command type more =>
    obtain ⟨inner, -, length⟩ := carried (congrArg Prod.fst unwrapped)
    have sequence : innerRequest.sequence = frame.sequence := by
      rw [inner]
      rfl
    obtain ⟨response, after, result, fits, branch, session, pending⟩ :=
      embeddedSecureCommand_accepts platform link secure unwrapped sequence authentic.live.1 rfl rfl
    rw [branch]
    refine .accepts _ response ⟨inner, rfl, length, ?_⟩ result fits ?_ rfl ?_
    · rw [← verifies_tag authentic.verified length, SecureAcceptance.requestInput, secureAcceptance, inner,
        authentic.session]
      rfl
    · exact embeddedAuthorize_dispatched platform result
    · intro sound
      exact sound.accepts authentic.live.1 rfl authentic.next more pending (by rw [session]) (by rw [session])

theorem embeddedDispatch_authBegin (link : EmbeddedLink α ρ) {frame : Frame} (begins : frame.command = commandAuthBegin)
    (nowSeconds runtimeSeconds : U32) : embeddedDispatch platform .ok link frame nowSeconds runtimeSeconds =
      embeddedAuthBegin platform .ok link frame nowSeconds := if_pos begins

theorem embeddedDispatch_authFinish (link : EmbeddedLink α ρ) {frame : Frame}
    (finishes : frame.command = commandAuthFinish) (nowSeconds runtimeSeconds : U32) :
    embeddedDispatch platform .ok link frame nowSeconds runtimeSeconds =
      embeddedAuthFinish .ok link frame nowSeconds := by
  have other : frame.command ≠ commandAuthBegin := by
    rw [finishes]
    decide
  unfold embeddedDispatch
  rw [if_neg other, if_pos finishes]

theorem embeddedDispatch_secure (link : EmbeddedLink α ρ) {frame : Frame}
    (secure : frame.command = commandSecureCommand) (nowSeconds runtimeSeconds : U32) :
    embeddedDispatch platform .ok link frame nowSeconds runtimeSeconds =
      embeddedSecureCommand platform .ok link frame nowSeconds := by
  have other {command : U8} (different : commandSecureCommand ≠ command) : frame.command ≠ command := by
    rw [secure]
    exact different
  unfold embeddedDispatch
  rw [if_neg (other (by decide)), if_neg (other (by decide)), if_neg (other (by decide)), if_neg (other (by decide)),
    if_pos secure]

theorem DeviceLog.receive_accepted (log : DeviceLog) (link : EmbeddedLink α ρ) {frame : Frame}
    (plain : frame.command ≠ commandSecureCommand) (nowSeconds : U32) :
    (log.receive platform link frame nowSeconds).accepted = log.accepted := by
  unfold DeviceLog.receive
  rw [if_neg plain]
  dsimp only
  split_ifs
  · split <;> rfl
  · split <;> rfl
  · rfl

theorem DeviceLog.Sound.receive (sound : log.Sound link.security) (frame : Frame) (nowSeconds runtimeSeconds : U32)
    (fresh : (log.receive platform link frame nowSeconds).Fresh) : (log.receive platform link frame nowSeconds).Sound
      (embeddedDispatch platform .ok link frame nowSeconds runtimeSeconds).link.security := by
  by_cases begins : frame.command = commandAuthBegin
  · rw [embeddedDispatch_authBegin platform link begins]
    exact sound.authBegin platform begins fresh
  by_cases finishes : frame.command = commandAuthFinish
  · rw [embeddedDispatch_authFinish platform link finishes]
    exact sound.authFinish platform finishes fresh
  by_cases secure : frame.command = commandSecureCommand
  · have secures := embeddedSecureCommand_secures platform log link secure nowSeconds
    rw [embeddedDispatch_secure platform link secure]
    generalize log.receive platform link frame nowSeconds = after at secures ⊢
    cases secures with
    | refuses error output ages => exact sound.ages ages
    | accepts acceptance response carries result fits dispatched output kept => exact kept sound
  · have ages := embeddedDispatch_ages platform link frame nowSeconds .ok runtimeSeconds
    have quiet : log.receive platform link frame nowSeconds = log := by
      unfold DeviceLog.receive
      rw [if_neg begins, if_neg finishes, if_neg secure]
    rw [quiet]
    unfold linkOpens linkAccepts linkChallenges at ages
    simp only [begins, finishes, secure, decide_false, Bool.false_and, Bool.or_false] at ages
    exact sound.ages ages

end dispatch

end Guardian.Channel
