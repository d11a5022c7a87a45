import Guardian.Host.SecureAgreement
import Guardian.Security.SecurityDomains
import Guardian.Simulator.SecurityMirror

namespace Guardian.Simulator

open Word ByteString Crypto Protocol Session Host

inductive SecurityOutcome
  | answered (payload : List U8)
  | dispatched (command : U8) (payload : List U8) (counter : Nat) (authorized : Bool)
  | invalidPayload
  | unauthorized
  | replay
  | failed
  deriving DecidableEq, Repr

def resultOutcome : SecurityResult → SecurityOutcome
  | .errorInvalidPayload => .invalidPayload
  | .errorUnauthorized => .unauthorized
  | .errorReplay => .replay
  | _ => .failed

def errorOutcome : SimulatorSecurityError → SecurityOutcome
  | .value => .invalidPayload
  | .authentication => .unauthorized
  | .replay => .replay
  | .authorization => .unauthorized

def answerOutcome {ε : Type} (refused : ε → SecurityOutcome) : Except ε (List U8) → SecurityOutcome
  | .error failure => refused failure
  | .ok payload => .answered payload

/-- Both modules decide alike, and what the device still honours afterwards is what the simulator has. -/
structure SecurityStepAgrees (nowSeconds : U32) (device : SecurityOutcome × Security)
    (simulator : SecurityOutcome × SimulatorSecurity) : Prop where
  outcome : simulator.1 = device.1
  state : simulator.2 = mirrorSecurity device.2 nowSeconds
  stamped : Stamped device.2 nowSeconds

/-- A well-formed request for a challenge asks for a role that exists. -/
def BeginsAlike (payload : List U8) : Prop :=
  payload.length = securityAuthBeginRequestSize → payload.getD 0 0 = securitySchemaVersion →
    roleObserver ≤ payload.getD 1 0 ∧ payload.getD 1 0 ≤ roleAdmin

def deviceBegin (security : Security) (payload : List U8) (nowSeconds : U32) (random : Bytes 20) :
    SecurityOutcome × Security :=
  let begun := securityAuthBegin security payload nowSeconds maxPayloadSize (some random)
  (answerOutcome resultOutcome begun.1, begun.2)

def simulatorBegin (security : SimulatorSecurity) (payload : List U8) (nowSeconds : U32) (random : Bytes 20) :
    SecurityOutcome × SimulatorSecurity :=
  let begun := security.begin payload nowSeconds.toNat random
  (answerOutcome errorOutcome begun.1, begun.2)

theorem securityHandshakeMac_length {security : Security} {label mac : List U8} {role : SecurityRole} {sessionId : U32}
    {clientNonce deviceNonce : Bytes 16}
    (computed : securityHandshakeMac security label role sessionId clientNonce deviceNonce = some mac) :
    mac.length = 32 := by
  obtain ⟨transcript, -, rfl⟩ := Option.map_eq_some_iff.mp computed
  exact hmacSha256_length _ _

theorem tag_compared {mac tag : List U8} (size : mac.length = 32) (whole : tag.length = securityTagSize) :
    cryptoConstantTimeEqual mac tag securityTagSize = decide (mac.take securityTagSize = tag) := by
  have long : securityTagSize ≤ mac.length := by
    rw [size]
    decide
  rw [Bool.eq_iff_iff, cryptoConstantTimeEqual_iff (by decide) long (Nat.le_of_eq whole.symm), decide_eq_true_iff,
    List.take_of_length_le (Nat.le_of_eq whole)]

section steps

variable {security : Security} {simulator : SimulatorSecurity} {nowSeconds : U32} {payload : List U8}

theorem begin_agrees (stamped : Stamped security nowSeconds)
    (expired : simulator.expire nowSeconds.toNat = mirrorSecurity security nowSeconds) (alike : BeginsAlike payload)
    (random : Bytes 20) :
    SecurityStepAgrees nowSeconds (deviceBegin security payload nowSeconds random)
      (simulatorBegin simulator payload nowSeconds random) := by
  unfold deviceBegin simulatorBegin securityAuthBegin SimulatorSecurity.begin decodeAuthBegin
  rw [expired, if_neg stamped.configured]
  dsimp only
  by_cases size : payload.length ≠ securityAuthBeginRequestSize
  · rw [if_pos size, if_pos size]
    exact ⟨rfl, (mirror_failAuth security nowSeconds).symm, stamped.keeps rfl rfl (Or.inl rfl) (Or.inl rfl)⟩
  rw [if_neg size, if_neg size, if_neg (by decide : ¬ maxPayloadSize < securityAuthBeginResponseSize)]
  by_cases schema : payload.getD 0 0 ≠ securitySchemaVersion
  · rw [if_pos schema, if_pos schema]
    exact ⟨rfl, (mirror_failAuth security nowSeconds).symm, stamped.keeps rfl rfl (Or.inl rfl) (Or.inl rfl)⟩
  rw [if_neg schema, if_neg schema]
  obtain ⟨observer, admin⟩ := alike (not_not.mp size) (not_not.mp schema)
  have named : payload.getD 1 0 ≠ roleNone := by
    intro none
    rw [none] at observer
    exact absurd observer (by decide)
  rw [securityRoleOf_ok admin]
  dsimp only
  rw [if_neg named]
  dsimp only
  by_cases beyond : payload.getD 1 0 > security.config.maxRole
  · rw [if_pos (show _ > (mirrorSecurity security nowSeconds).maxRole from beyond), if_pos (Or.inr beyond)]
    exact ⟨rfl, (mirror_rejectUnauthorized security nowSeconds).symm, stamped.keeps rfl rfl (Or.inl rfl) (Or.inl rfl)⟩
  rw [if_neg (show ¬ _ > (mirrorSecurity security nowSeconds).maxRole from beyond),
    if_neg (not_or.mpr ⟨BitVec.not_lt.mpr observer, beyond⟩)]
  generalize drawn : (if getU32Be random.1 = 0 then 1 else getU32Be random.1) = sessionId
  have identified : sessionId ≠ 0 := by
    rw [← drawn]
    split_ifs with zero
    · decide
    · exact zero
  let challenged : Security :=
    { securityExpirePending security nowSeconds with
      pending := ⟨1, payload.getD 1 0, sessionId, padded 16 (payload.drop 2), padded 16 (random.1.drop 4), nowSeconds⟩ }
  obtain ⟨serverProof, computed, proof⟩ :=
    (macsAgree challenged admin identified (padded 16 (payload.drop 2)) (padded 16 (random.1.drop 4))).server
  have psk : challenged.config.psk = (mirrorSecurity security nowSeconds).psk :=
    congrArg SecurityConfig.psk securityExpirePending_config
  rw [psk] at proof
  rw [proof, computed]
  dsimp only [encodeAuthChallenge]
  rw [securityRoleOf_ok admin]
  constructor
  · rfl
  · have fresh : challenged.Challenges nowSeconds := ⟨(by decide : (1 : U8) ≠ 0), stamp_fresh (by decide)⟩
    have state := mirror_challenged fresh
    rw [mirror_expirePending] at state
    exact state.symm
  · have kept := stamped.expirePending
    exact ⟨kept.configured, kept.bounded, kept.timeout, fun _ => BitVec.le_refl _, kept.activity, fun _ => admin,
      fun _ => identified⟩

/-- A client proof of the right size, in the form of a proof when there is a challenge for it. -/
def FinishesAlike (security : Security) (payload : List U8) (nowSeconds : U32) : Prop :=
  payload.length = securityAuthFinishRequestSize ∧
    (security.Challenges nowSeconds → payload.getD 0 0 = securitySchemaVersion ∧ payload.getD 1 0 ≤ roleAdmin)

def deviceFinish (security : Security) (payload : List U8) (nowSeconds : U32) : SecurityOutcome × Security :=
  let finished := securityAuthFinish security payload nowSeconds maxPayloadSize
  (answerOutcome resultOutcome finished.1, finished.2)

def simulatorFinish (security : SimulatorSecurity) (payload : List U8) (nowSeconds : U32) :
    SecurityOutcome × SimulatorSecurity :=
  let finished := security.finish payload nowSeconds.toNat
  (answerOutcome errorOutcome finished.1, finished.2)

theorem finish_agrees (stamped : Stamped security nowSeconds)
    (expired : simulator.expire nowSeconds.toNat = mirrorSecurity security nowSeconds)
    (alike : FinishesAlike security payload nowSeconds) :
    SecurityStepAgrees nowSeconds (deviceFinish security payload nowSeconds)
      (simulatorFinish simulator payload nowSeconds) := by
  unfold deviceFinish simulatorFinish securityAuthFinish SimulatorSecurity.finish
  rw [expired, if_neg stamped.configured]
  dsimp only
  rw [if_neg (not_not.mpr alike.1), if_neg (by decide : ¬ maxPayloadSize < securityAuthFinishResponseSize)]
  rcases @securityExpirePending_cases security nowSeconds with ⟨live, same⟩ | ⟨idle, invalid, -⟩
  · have pending : (mirrorSecurity security nowSeconds).pending = some (mirrorPending security.pending) := if_pos live
    obtain ⟨schema, admin⟩ := alike.2 live
    rw [same, if_neg live.1, if_neg (not_not.mpr schema), pending, decodeAuthFinish, if_neg (not_not.mpr alike.1),
      if_neg (not_not.mpr schema), securityRoleOf_ok admin]
    dsimp only [Except.map, mirrorPending]
    have refused := mirror_clearPending security.failAuth nowSeconds
    rw [mirror_failAuth] at refused
    by_cases other : payload.getD 1 0 ≠ security.pending.role ∨ getU32Be (payload.drop 2) ≠ security.pending.sessionId
    · rw [if_pos other, if_pos other]
      exact ⟨rfl, refused.symm, stamped.keeps rfl rfl (Or.inr rfl) (Or.inl rfl)⟩
    rw [if_neg other, if_neg other]
    have role := not_not.mp (not_or.mp other).1
    have sessionId := not_not.mp (not_or.mp other).2
    rw [role, sessionId]
    rw [role] at admin
    obtain ⟨⟨proof, proved, client⟩, ⟨key, derived, session⟩⟩ : _ ∧ _ :=
      ⟨(macsAgree security admin (stamped.identified live.1) security.pending.clientNonce security.pending.deviceNonce).client,
        (macsAgree security admin (stamped.identified live.1) security.pending.clientNonce security.pending.deviceNonce).session⟩
    have psk : (mirrorSecurity security nowSeconds).psk = security.config.psk := rfl
    have whole : (payload.drop 6).length = securityTagSize := by
      rw [List.length_drop, alike.1]
      rfl
    rw [psk, client, session, proved, derived]
    dsimp only
    rw [tag_compared (securityHandshakeMac_length proved) whole]
    by_cases wrong : proof.take securityTagSize ≠ payload.drop 6
    · rw [if_pos wrong, decide_eq_false wrong]
      exact ⟨rfl, refused.symm, stamped.keeps rfl rfl (Or.inr rfl) (Or.inl rfl)⟩
    rw [if_neg wrong, decide_eq_true (not_not.mp wrong)]
    dsimp only [encodeAuthenticatedSession]
    rw [securityRoleOf_ok admin, stamped.timeout]
    let opened : SecuritySession := ⟨1, security.pending.role, security.pending.sessionId, padded 32 key, 1, nowSeconds⟩
    let counted : Security := { security with authSuccesses := securityIncrementU32 security.authSuccesses }
    have fresh : Security.Live { counted with session := opened } nowSeconds := by
      refine ⟨(by decide : (1 : U8) ≠ 0), stamp_fresh ?_⟩
      change 0 < security.config.sessionTimeoutSeconds.setWidth 32
      rw [stamped.timeout]
      decide
    have successes : mirrorSecurity counted nowSeconds = { mirrorSecurity security nowSeconds with
        authSuccesses := min 0xFFFFFFFF (security.authSuccesses.toNat + 1) } := by
      rw [mirrorSecurity, securityIncrementU32_toNat]
      rfl
    have sized : (padded 32 key).1 = key := by
      rw [padded_short (Nat.le_of_eq (securityHandshakeMac_length derived)), securityHandshakeMac_length derived]
      exact List.append_nil key
    have session : mirrorSession opened = ⟨security.pending.role, security.pending.sessionId, key, 1, nowSeconds.toNat⟩ := by
      rw [mirrorSession, sized]
      rfl
    have state := mirror_clearPending { counted with session := opened } nowSeconds
    rw [mirror_opened fresh, session, successes] at state
    constructor
    · rfl
    · exact state.symm
    · exact ⟨stamped.configured, stamped.bounded, stamped.timeout, fun live => absurd rfl live,
        fun _ => BitVec.le_refl _, fun live => absurd rfl live, fun live => absurd rfl live⟩
  · have pending : (mirrorSecurity security nowSeconds).pending = none := if_neg idle
    rw [if_pos invalid, pending]
    have state := mirror_failAuth (securityExpirePending security nowSeconds) nowSeconds
    rw [mirror_expirePending] at state
    exact ⟨rfl, state.symm, stamped.expirePending.keeps rfl rfl (Or.inl rfl) (Or.inl rfl)⟩

def secureFrame (payload : List U8) (outerSequence : U32) : Frame :=
  ⟨.request, commandSecureCommand, supportedFlags, outerSequence, payload⟩

/-- A request under a live session is an envelope, with the key of the session if it names another one, and its counter
is not the last. -/
structure UnwrapsAlike (security : Security) (outerRequest : Frame) : Prop where
  long : securityRequestOverhead ≤ outerRequest.payload.length
  schema : outerRequest.payload.getD 0 0 = securitySchemaVersion
  fits : secureInnerLength outerRequest ≤ securityMaxRequestInnerPayload
  whole : outerRequest.payload.length = securityRequestOverhead + secureInnerLength outerRequest
  foreign : secureSessionId outerRequest ≠ security.session.sessionId → security.Verifies outerRequest
  further : security.Verifies outerRequest → secureSessionId outerRequest = security.session.sessionId →
    secureCounter outerRequest = security.session.nextCounter → security.session.nextCounter + 1 ≠ 0

def deviceSecure (security : Security) (payload : List U8) (outerSequence : U32) (nowSeconds : U32) :
    SecurityOutcome × Security :=
  match securityUnwrapRequest security (secureFrame payload outerSequence) nowSeconds with
  | (.error result, security) => (resultOutcome result, security)
  | (.ok (innerRequest, counter), security) =>
    let authorized := securityAuthorize security innerRequest.command
    (.dispatched innerRequest.command innerRequest.payload counter.toNat authorized.1, authorized.2)

def simulatorSecure (security : SimulatorSecurity) (payload : List U8) (outerSequence : U32) (nowSeconds : U32) :
    SecurityOutcome × SimulatorSecurity :=
  match security.unwrap payload outerSequence nowSeconds.toNat with
  | (.error failure, security) => (errorOutcome failure, security)
  | (.ok request, security) =>
    let authorized := security.authorize request.innerCommand
    (.dispatched request.innerCommand request.innerPayload request.counter authorized.1.isOk, authorized.2)

def expectedTag (security : Security) (outerRequest : Frame) : List U8 :=
  macTag security.session.sessionKey.1 (requestTranscript (secureSessionId outerRequest) (secureCounter outerRequest)
    outerRequest.sequence (secureInnerCommand outerRequest) (secureInnerPayload outerRequest))

section envelope

variable {outerRequest : Frame}

theorem secureTag_length (alike : UnwrapsAlike security outerRequest) :
    (secureTag outerRequest).length = securityTagSize := by
  rw [secureTag, List.length_drop, alike.whole, securityRequestOverhead, securityTagSize]
  omega

theorem securityRequestTag_envelope (alike : UnwrapsAlike security outerRequest) :
    ∃ mac, securityRequestTag security outerRequest (secureSessionId outerRequest) (secureCounter outerRequest)
      (secureInnerCommand outerRequest) (secureInnerPayload outerRequest) = some mac ∧ mac.length = 32 ∧
      mac.take securityTagSize = expectedTag security outerRequest := by
  have inside : (secureInnerPayload outerRequest).length ≤ securityMaxRequestInnerPayload := by
    rw [secureInnerPayload_length alike.whole]
    exact alike.fits
  exact ⟨_, securityRequestTag_some security outerRequest _ _ _ inside, hmacSha256_length _ _, rfl⟩

theorem verifies_iff (alike : UnwrapsAlike security outerRequest) :
    security.Verifies outerRequest ↔ expectedTag security outerRequest = secureTag outerRequest := by
  obtain ⟨mac, computed, -, tag⟩ := securityRequestTag_envelope alike
  unfold Security.Verifies
  rw [computed, ← tag, List.take_of_length_le (Nat.le_of_eq (secureTag_length alike))]
  constructor
  · rintro ⟨given, same, verified⟩
    cases same
    exact verified
  · exact fun verified => ⟨mac, rfl, verified⟩

end envelope

/-- The request in an envelope, as the host library returns it. -/
def carriedRequest (outerRequest : Frame) : SecureRequest :=
  ⟨secureSessionId outerRequest, (secureCounter outerRequest).toNat, secureInnerCommand outerRequest,
    secureInnerPayload outerRequest⟩

theorem decodeSecureRequest_read {security : Security} {outerSequence : U32}
    (alike : UnwrapsAlike security (secureFrame payload outerSequence)) :
    decodeSecureRequest payload security.session.sessionKey.1 outerSequence =
      if expectedTag security (secureFrame payload outerSequence) ≠ secureTag (secureFrame payload outerSequence) then
        .error .requestTag
      else .ok (carriedRequest (secureFrame payload outerSequence)) := by
  let outerRequest := secureFrame payload outerSequence
  have sized : security.session.sessionKey.1.length = securitySessionKeySize := security.session.sessionKey.2
  have long : ¬ payload.length < 16 + securityTagSize := Nat.not_lt.mpr alike.long
  have schema : payload.getD 0 0 = securitySchemaVersion := alike.schema
  have whole : payload.length = 16 + (getU16Be (payload.drop 14)).toNat + securityTagSize := by
    have size := alike.whole
    change payload.length = 32 + (getU16Be (payload.drop 14)).toNat at size
    rw [size, securityTagSize]
    omega
  have last : payload.drop (payload.length - securityTagSize) = secureTag outerRequest := by
    change _ = payload.drop (16 + (getU16Be (payload.drop 14)).toNat)
    rw [whole, Nat.add_sub_cancel]
  have inside : (secureInnerPayload outerRequest).length ≤ maxSecureRequestInnerPayload := by
    rw [secureInnerPayload_length alike.whole]
    exact alike.fits
  unfold decodeSecureRequest secureRequestMacInput
  dsimp only
  rw [if_neg (not_not.mpr sized), if_neg long, if_neg (not_not.mpr schema), if_neg (not_not.mpr whole), last,
    if_neg (show ¬ (slice 16 (getU16Be (payload.drop 14)).toNat payload).length > maxSecureRequestInnerPayload from
      Nat.not_lt.mpr inside), if_neg (Nat.not_le.mpr (getU64Be (payload.drop 5)).isLt), BitVec.ofNat_toNat,
    BitVec.setWidth_eq]
  simp only [expectedTag, macTag, requestTranscript, List.append_assoc]
  rfl

theorem authorize_agrees (live : security.Live nowSeconds) (command : U8) :
    ((mirrorSecurity security nowSeconds).authorize command).1.isOk = (securityAuthorize security command).1 ∧
      ((mirrorSecurity security nowSeconds).authorize command).2 =
        mirrorSecurity (securityAuthorize security command).2 nowSeconds := by
  have active : (mirrorSecurity security nowSeconds).active = some (mirrorSession security.session) := if_pos live
  unfold SimulatorSecurity.authorize securityAuthorize securityRequiredRole
  rw [active, if_neg live.1]
  dsimp only
  generalize (if command = commandBaselineControl then roleOperator
    else if command = commandControlCommand then roleOperator else roleAdmin) = required
  by_cases denied : security.session.role < required
  · rw [if_pos denied, if_pos (show (mirrorSession security.session).role < _ from denied)]
    exact ⟨rfl, (mirror_rejectUnauthorized security nowSeconds).symm⟩
  · rw [if_neg denied, if_neg (show ¬ (mirrorSession security.session).role < _ from denied)]
    exact ⟨rfl, rfl⟩

theorem secure_agrees (stamped : Stamped security nowSeconds)
    (expired : simulator.expire nowSeconds.toNat = mirrorSecurity security nowSeconds)
    {outerSequence : U32} (alike : security.Live nowSeconds → UnwrapsAlike security (secureFrame payload outerSequence)) :
    SecurityStepAgrees nowSeconds (deviceSecure security payload outerSequence nowSeconds)
      (simulatorSecure simulator payload outerSequence nowSeconds) := by
  unfold deviceSecure simulatorSecure securityUnwrapRequest SimulatorSecurity.unwrap
  rw [expired]
  dsimp only
  rcases @securityExpireSession_cases security nowSeconds with ⟨live, same⟩ | ⟨idle, invalid, -⟩
  · have active : (mirrorSecurity security nowSeconds).active = some (mirrorSession security.session) := if_pos live
    have envelope := alike live
    have verifies := verifies_iff envelope
    obtain ⟨mac, computed, size, tag⟩ := securityRequestTag_envelope envelope
    rw [same, if_neg live.1, if_neg (Nat.not_lt.mpr envelope.long), if_neg (not_not.mpr envelope.schema), active]
    dsimp only [mirrorSession]
    rw [decodeSecureRequest_read envelope]
    by_cases other : secureSessionId (secureFrame payload outerSequence) ≠ security.session.sessionId
    · rw [if_pos other, if_neg (not_not.mpr (verifies.mp (envelope.foreign other)))]
      dsimp only [carriedRequest]
      rw [if_pos other]
      exact ⟨rfl, (mirror_rejectUnauthorized security nowSeconds).symm, stamped.keeps rfl rfl (Or.inl rfl) (Or.inl rfl)⟩
    rw [if_neg other, if_neg (Nat.not_lt.mpr envelope.fits), if_neg (not_not.mpr envelope.whole), computed]
    dsimp only
    rw [tag_compared size (secureTag_length envelope), tag]
    by_cases wrong : expectedTag security (secureFrame payload outerSequence) ≠ secureTag (secureFrame payload outerSequence)
    · rw [if_pos wrong, decide_eq_false wrong]
      exact ⟨rfl, (mirror_failAuth security nowSeconds).symm, stamped.keeps rfl rfl (Or.inl rfl) (Or.inl rfl)⟩
    rw [if_neg wrong, decide_eq_true (not_not.mp wrong)]
    dsimp only [carriedRequest]
    rw [if_neg other]
    by_cases replayed : secureCounter (secureFrame payload outerSequence) ≠ security.session.nextCounter
    · have apart : (secureCounter (secureFrame payload outerSequence)).toNat ≠ security.session.nextCounter.toNat :=
        fun even => replayed (BitVec.eq_of_toNat_eq even)
      rw [if_pos replayed, if_pos apart]
      exact ⟨rfl, (mirror_rejectReplay security nowSeconds).symm, stamped.keeps rfl rfl (Or.inl rfl) (Or.inl rfl)⟩
    have next := not_not.mp replayed
    have further := envelope.further (verifies.mpr (not_not.mp wrong)) (not_not.mp other) next
    rw [if_neg replayed, if_neg further, if_neg (not_not.mpr (congrArg BitVec.toNat next))]
    let renewed : SecuritySession :=
      { security.session with nextCounter := security.session.nextCounter + 1, lastActivitySeconds := nowSeconds }
    have fresh : Security.Live { security with session := renewed } nowSeconds := by
      refine ⟨live.1, stamp_fresh ?_⟩
      have younger := BitVec.lt_def.mp live.2
      exact BitVec.lt_def.mpr (Nat.zero_lt_of_lt younger)
    have counted : (security.session.nextCounter + 1).toNat = security.session.nextCounter.toNat + 1 := by
      have positive := (toNat_ne_zero _).mpr further
      have bound := security.session.nextCounter.isLt
      rw [BitVec.toNat_add, show (1 : U64).toNat = 1 from rfl] at positive ⊢
      omega
    have state := mirror_opened fresh
    obtain ⟨outcome, after⟩ := authorize_agrees fresh (secureInnerCommand (secureFrame payload outerSequence))
    rw [state, mirrorSession, counted] at outcome after
    have kept : Stamped { security with session := renewed } nowSeconds :=
      ⟨stamped.configured, stamped.bounded, stamped.timeout, stamped.started, fun _ => BitVec.le_refl _, stamped.role,
        stamped.identified⟩
    constructor
    · exact congrArg (SecurityOutcome.dispatched _ _ _) outcome
    · exact after
    · exact kept.authorize _
  · have active : (mirrorSecurity security nowSeconds).active = none := if_neg idle
    rw [if_pos invalid, active]
    have state := mirror_rejectUnauthorized (securityExpireSession security nowSeconds) nowSeconds
    rw [mirror_expireSession] at state
    exact ⟨rfl, state.symm, stamped.expireSession.keeps rfl rfl (Or.inl rfl) (Or.inl rfl)⟩

end steps

/-- The payloads that both modules take, with the bytes drawn for a challenge. -/
inductive SecurityInput
  | authBegin (payload : List U8) (random : Bytes 20)
  | authFinish (payload : List U8)
  | secureCommand (payload : List U8) (outerSequence : U32)
  deriving DecidableEq

structure SecurityEvent where
  nowSeconds : U32
  input : SecurityInput
  deriving DecidableEq

def SecurityInput.device (security : Security) (nowSeconds : U32) : SecurityInput → SecurityOutcome × Security
  | .authBegin payload random => deviceBegin security payload nowSeconds random
  | .authFinish payload => deviceFinish security payload nowSeconds
  | .secureCommand payload outerSequence => deviceSecure security payload outerSequence nowSeconds

def SecurityInput.simulator (security : SimulatorSecurity) (nowSeconds : U32) :
    SecurityInput → SecurityOutcome × SimulatorSecurity
  | .authBegin payload random => simulatorBegin security payload nowSeconds random
  | .authFinish payload => simulatorFinish security payload nowSeconds
  | .secureCommand payload outerSequence => simulatorSecure security payload outerSequence nowSeconds

def SecurityInput.Alike (security : Security) (nowSeconds : U32) : SecurityInput → Prop
  | .authBegin payload _ => BeginsAlike payload
  | .authFinish payload => FinishesAlike security payload nowSeconds
  | .secureCommand payload outerSequence =>
    security.Live nowSeconds → UnwrapsAlike security (secureFrame payload outerSequence)

theorem step_agrees {security : Security} {simulator : SimulatorSecurity} {nowSeconds : U32} {input : SecurityInput}
    (stamped : Stamped security nowSeconds)
    (expired : simulator.expire nowSeconds.toNat = mirrorSecurity security nowSeconds)
    (alike : input.Alike security nowSeconds) :
    SecurityStepAgrees nowSeconds (input.device security nowSeconds) (input.simulator simulator nowSeconds) := by
  cases input with
  | authBegin payload random => exact begin_agrees stamped expired alike random
  | authFinish payload => exact finish_agrees stamped expired alike
  | secureCommand payload outerSequence => exact secure_agrees stamped expired alike

/-- Both modules, the last reading of the clock, and what they made of the payloads so far. -/
structure SecurityPair where
  device : Security
  simulator : SimulatorSecurity
  reading : U32
  deviceOutcomes : List SecurityOutcome
  simulatorOutcomes : List SecurityOutcome
  deriving DecidableEq

def SecurityPair.step (pair : SecurityPair) (event : SecurityEvent) : SecurityPair :=
  let device := event.input.device pair.device event.nowSeconds
  let simulator := event.input.simulator pair.simulator event.nowSeconds
  { device := device.2
    simulator := simulator.2
    reading := event.nowSeconds
    deviceOutcomes := pair.deviceOutcomes ++ [device.1]
    simulatorOutcomes := pair.simulatorOutcomes ++ [simulator.1] }

/-- Both modules with one key and one ceiling, and the device with the default timeout. -/
def securityPairStart (psk : Bytes 32) (maxRole : SecurityRole) : SecurityPair :=
  ⟨(securityConfigure securityInit ⟨psk, maxRole, 0⟩).2, .init psk maxRole, 0, [], []⟩

def securityPairRun (psk : Bytes 32) (maxRole : SecurityRole) (events : List SecurityEvent) : SecurityPair :=
  Run.after SecurityPair.step events (securityPairStart psk maxRole)

/-- Every decision so far was the same, and so are the challenge and the session still honoured, and the counters. -/
structure SecurityPair.Agrees (pair : SecurityPair) : Prop where
  outcomes : pair.simulatorOutcomes = pair.deviceOutcomes
  state : pair.simulator = mirrorSecurity pair.device pair.reading

structure SecurityPair.Matched (pair : SecurityPair) : Prop where
  agrees : pair.Agrees
  stamped : Stamped pair.device pair.reading

/-- The clock does not go back, and the payload is one that both modules treat alike. -/
structure SecurityPair.Meets (pair : SecurityPair) (event : SecurityEvent) : Prop where
  clock : pair.reading ≤ event.nowSeconds
  alike : event.input.Alike pair.device event.nowSeconds

theorem step_matched_security (pair : SecurityPair) (event : SecurityEvent) (matched : pair.Matched)
    (meets : pair.Meets event) : (pair.step event).Matched := by
  have expired : pair.simulator.expire event.nowSeconds.toNat = mirrorSecurity pair.device event.nowSeconds := by
    rw [matched.agrees.state]
    exact mirror_expire matched.stamped meets.clock
  have agrees := step_agrees (matched.stamped.later meets.clock) expired meets.alike
  refine ⟨⟨?_, agrees.state⟩, agrees.stamped⟩
  change pair.simulatorOutcomes ++ [_] = pair.deviceOutcomes ++ [_]
  rw [matched.agrees.outcomes, agrees.outcome]

theorem securityPairStart_matched {psk : Bytes 32} {maxRole : SecurityRole} (observer : roleObserver ≤ maxRole)
    (admin : maxRole ≤ roleAdmin) : (securityPairStart psk maxRole).Matched := by
  have device : (securityConfigure securityInit ⟨psk, maxRole, 0⟩).2 =
      { securityInit with
        config := ⟨psk, maxRole, securityDefaultSessionTimeoutSeconds⟩
        configured := 1 } := by
    unfold securityConfigure
    rw [if_neg (not_or.mpr ⟨BitVec.not_lt.mpr observer, BitVec.not_lt.mpr admin⟩)]
    rfl
  unfold securityPairStart
  rw [device]
  constructor
  · exact ⟨rfl, rfl⟩
  · exact ⟨(by decide : (1 : U8) ≠ 0), admin, rfl, fun live => absurd rfl live, fun live => absurd rfl live,
      fun live => absurd rfl live, fun live => absurd rfl live⟩

/-- The simulator decides as the device and keeps the same challenge, session and counters, on payloads that both treat
alike. -/
theorem simulator_security_mirrors (psk : Bytes 32) {maxRole : SecurityRole} (observer : roleObserver ≤ maxRole)
    (admin : maxRole ≤ roleAdmin) (events : List SecurityEvent)
    (meets : ∀ earlier event later, events = earlier ++ event :: later →
      (securityPairRun psk maxRole earlier).Meets event) : (securityPairRun psk maxRole events).Agrees :=
  (Run.after_guarded step_matched_security (securityPairStart_matched observer admin) meets).agrees

def beginEvent (role : SecurityRole) : SecurityEvent :=
  ⟨0, .authBegin ([securitySchemaVersion, role] ++ List.replicate 16 0) (padded 20 [])⟩

theorem roleOperator_observer : roleObserver ≤ roleOperator := by decide

theorem roleOperator_admin : roleOperator ≤ roleAdmin := by decide

theorem operatorSession_identified : (7 : U32) ≠ 0 := by decide

def operatorHandshake : Handshake :=
  { psk := padded 32 []
    role := roleOperator
    sessionId := 7
    clientNonce := padded 16 [3]
    deviceNonce := padded 16 [4]
    observer := roleOperator_observer
    admin := roleOperator_admin
    identified := operatorSession_identified }

/-- A request to reset the baseline, in the envelope of the first counter. -/
def operatorRequest : List U8 :=
  requestEnvelope 7 1 commandBaselineControl [1, 3, 0, 0] (macTag operatorHandshake.sessionKey.1
    (requestTranscript 7 1 9 commandBaselineControl [1, 3, 0, 0]))

def challengeEvent : SecurityEvent := ⟨5, .authBegin operatorHandshake.beginRequest (padded 20 [0, 0, 0, 7, 4])⟩

def proofEvent : SecurityEvent := ⟨6, .authFinish operatorHandshake.finishRequest⟩

def requestEvent : SecurityEvent := ⟨8, .secureCommand operatorRequest 9⟩

def operatorDevice : Security := (securityConfigure securityInit ⟨padded 32 [], roleAdmin, 0⟩).2

def challengedDevice : Security := { operatorDevice with pending := operatorHandshake.pending 5 }

def openedDevice : Security := { operatorDevice with session := operatorHandshake.session 6, authSuccesses := 1 }

theorem deviceBegin_operator :
    challengeEvent.input.device operatorDevice 5 = (.answered operatorHandshake.challenge, challengedDevice) := by
  have drawn : operatorHandshake.Drawn (padded 20 [0, 0, 0, 7, 4]) := ⟨by decide, by decide⟩
  have begun := @securityAuthBegin_handshake operatorHandshake operatorDevice 5 (by decide) rfl (by decide) _ drawn
  rw [challengeEvent, SecurityInput.device, deviceBegin, begun]
  rfl

theorem deviceFinish_operator :
    proofEvent.input.device challengedDevice 6 = (.answered (operatorHandshake.opened 300), openedDevice) := by
  have finished := @securityAuthFinish_handshake operatorHandshake challengedDevice 6 (by decide) rfl 5 rfl (by decide)
  rw [proofEvent, SecurityInput.device, deviceFinish, finished]
  rfl

theorem openedDevice_live : openedDevice.Live 8 := ⟨(by decide : (1 : U8) ≠ 0), (by decide : (8 : U32) - 6 < 300)⟩

theorem deviceSecure_operator :
    (requestEvent.input.device openedDevice 8).1 = .dispatched commandBaselineControl [1, 3, 0, 0] 1 true := by
  have more : openedDevice.session.nextCounter + 1 ≠ 0 := (by decide : (1 : U64) + 1 ≠ 0)
  have carried : (secureFrame operatorRequest 9).payload = requestEnvelope openedDevice.session.sessionId
      openedDevice.session.nextCounter commandBaselineControl [1, 3, 0, 0] (macTag openedDevice.session.sessionKey.1
        (requestTranscript openedDevice.session.sessionId openedDevice.session.nextCounter
          (secureFrame operatorRequest 9).sequence commandBaselineControl [1, 3, 0, 0])) := rfl
  have unwrapped := securityUnwrapRequest_envelope openedDevice_live (by decide) more carried
  rw [requestEvent, SecurityInput.device, deviceSecure, unwrapped]
  rfl

theorem operatorRequest_alike : UnwrapsAlike openedDevice (secureFrame operatorRequest 9) := by
  have carried : (secureFrame operatorRequest 9).payload = requestEnvelope 7 1 commandBaselineControl [1, 3, 0, 0]
      (macTag operatorHandshake.sessionKey.1 (requestTranscript 7 1 9 commandBaselineControl [1, 3, 0, 0])) := rfl
  obtain ⟨identifier, -, -, -, -, size⟩ := requestEnvelope_fields carried (by decide)
  constructor
  · exact (by decide : securityRequestOverhead ≤ 36)
  · rfl
  · rw [size]
    decide
  · rw [size]
    rfl
  · exact fun other => absurd identifier other
  · exact fun _ _ _ => (by decide : (1 : U64) + 1 ≠ 0)

theorem step_device (pair : SecurityPair) (event : SecurityEvent) :
    (pair.step event).device = (event.input.device pair.device event.nowSeconds).2 := rfl

theorem step_deviceOutcomes (pair : SecurityPair) (event : SecurityEvent) : (pair.step event).deviceOutcomes =
    pair.deviceOutcomes ++ [(event.input.device pair.device event.nowSeconds).1] := rfl

/-- A handshake and a request under the session that it opened. -/
theorem simulator_security_mirrors_operator :
    (securityPairRun (padded 32 []) roleAdmin [challengeEvent, proofEvent, requestEvent]).Agrees ∧
      (securityPairRun (padded 32 []) roleAdmin [challengeEvent, proofEvent, requestEvent]).simulatorOutcomes =
        [.answered operatorHandshake.challenge, .answered (operatorHandshake.opened 300),
          .dispatched commandBaselineControl [1, 3, 0, 0] 1 true] := by
  let start := securityPairStart (padded 32 []) roleAdmin
  have begun : challengeEvent.input.device start.device challengeEvent.nowSeconds = _ := deviceBegin_operator
  have finished : proofEvent.input.device challengedDevice proofEvent.nowSeconds = _ := deviceFinish_operator
  have dispatched : (requestEvent.input.device openedDevice requestEvent.nowSeconds).1 = _ := deviceSecure_operator
  have challenged : (start.step challengeEvent).device = challengedDevice := by
    rw [step_device, begun]
  have opened : ((start.step challengeEvent).step proofEvent).device = openedDevice := by
    rw [step_device, challenged, finished]
  have kept : Run.Kept SecurityPair.step SecurityPair.Meets [challengeEvent, proofEvent, requestEvent] start := by
    refine ⟨⟨by decide, fun _ _ => by decide⟩, ⟨(by decide : (5 : U32) ≤ 6), ?_⟩,
      ⟨(by decide : (6 : U32) ≤ 8), ?_⟩, trivial⟩
    · exact ⟨rfl, fun _ => ⟨rfl, by decide⟩⟩
    · rw [opened]
      exact fun _ => operatorRequest_alike
  have agrees := simulator_security_mirrors (padded 32 []) (by decide) (by decide) _ fun _ _ _ => kept.meets
  refine ⟨agrees, agrees.outcomes.trans ?_⟩
  rw [securityPairRun, Run.after_cons, Run.after_cons, Run.after_cons, Run.after_nil, step_deviceOutcomes, opened,
    dispatched, step_deviceOutcomes, challenged, finished, step_deviceOutcomes, begun]
  rfl

/-- A request for the role NONE is unauthorised for the device and malformed for the simulator, and a malformed client
proof costs only the simulator its challenge. -/
theorem simulator_security_differs :
    ¬ (securityPairRun (padded 32 []) roleAdmin [beginEvent roleNone]).Agrees ∧
      ¬ (securityPairRun (padded 32 []) roleAdmin [beginEvent roleOperator, ⟨1, .authFinish []⟩]).Agrees := by
  constructor
  · intro agrees
    exact absurd agrees.outcomes (by decide)
  · intro agrees
    have kept := congrArg (fun simulator => simulator.pending.isSome) agrees.state
    revert kept
    decide +kernel

end Guardian.Simulator
