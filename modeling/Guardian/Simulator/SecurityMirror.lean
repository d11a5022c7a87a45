import Guardian.Host.EnvelopeAgreement
import Guardian.Lib.Word
import Guardian.Host.SecureCodec

namespace Guardian.Simulator

open Word ByteString Protocol Session Host

def simPendingTimeoutSeconds : Nat := 30
def simSessionTimeoutSeconds : Nat := 300

inductive SimulatorSecurityError
  | value
  | authentication
  | replay
  | authorization
  deriving DecidableEq, Repr

structure SimulatorPending where
  role : SecurityRole
  sessionId : U32
  clientNonce : Bytes 16
  deviceNonce : Bytes 16
  startedAt : Nat
  deriving DecidableEq

structure SimulatorActive where
  role : SecurityRole
  sessionId : U32
  sessionKey : List U8
  nextCounter : Nat
  lastActivity : Nat
  deriving DecidableEq

structure SimulatorSecurity where
  psk : Bytes 32
  maxRole : SecurityRole
  pending : Option SimulatorPending
  active : Option SimulatorActive
  authSuccesses : Nat
  authFailures : Nat
  replayRejections : Nat
  unauthorizedRejections : Nat
  deriving DecidableEq

namespace SimulatorSecurity

def init (psk : Bytes 32) (maxRole : SecurityRole) : SimulatorSecurity := ⟨psk, maxRole, none, none, 0, 0, 0, 0⟩

def failAuth (security : SimulatorSecurity) : SimulatorSecurity :=
  { security with authFailures := min 0xFFFFFFFF (security.authFailures + 1) }

def rejectUnauthorized (security : SimulatorSecurity) : SimulatorSecurity :=
  { security with unauthorizedRejections := min 0xFFFFFFFF (security.unauthorizedRejections + 1) }

def rejectReplay (security : SimulatorSecurity) : SimulatorSecurity :=
  { security with replayRejections := min 0xFFFFFFFF (security.replayRejections + 1) }

def expire (security : SimulatorSecurity) (now : Nat) : SimulatorSecurity :=
  { security with
    pending := security.pending.filter fun pending => now - pending.startedAt < simPendingTimeoutSeconds
    active := security.active.filter fun active => now - active.lastActivity < simSessionTimeoutSeconds }

/-- `random` is what `secrets` draws: four bytes for the session identifier and sixteen for the nonce. -/
def begin (security : SimulatorSecurity) (payload : List U8) (now : Nat) (random : Bytes 20) :
    Except SimulatorSecurityError (List U8) × SimulatorSecurity :=
  let security := security.expire now
  match decodeAuthBegin payload with
  | .error _ => (.error .value, security.failAuth)
  | .ok request =>
    if request.role > security.maxRole then (.error .authorization, security.rejectUnauthorized)
    else
      let drawn := getU32Be random.1
      let sessionId := if drawn = 0 then 1 else drawn
      let deviceNonce := padded 16 (random.1.drop 4)
      match computeServerProof security.psk request.role sessionId request.clientNonce deviceNonce with
      | .error _ => (.error .value, security)
      | .ok serverProof =>
        let security :=
          { security with
            pending := some ⟨request.role, sessionId, request.clientNonce, deviceNonce, now⟩ }
        match encodeAuthChallenge ⟨request.role, sessionId, deviceNonce, serverProof⟩ with
        | .error _ => (.error .value, security)
        | .ok encoded => (.ok encoded, security)

def finish (security : SimulatorSecurity) (payload : List U8) (now : Nat) :
    Except SimulatorSecurityError (List U8) × SimulatorSecurity :=
  let security := security.expire now
  match security.pending with
  | none => (.error .authentication, security.failAuth)
  | some pending =>
    let cleared := { security with pending := none }
    match decodeAuthFinish payload with
    | .error _ => (.error .value, cleared.failAuth)
    | .ok request =>
      if request.role ≠ pending.role ∨ request.sessionId ≠ pending.sessionId then
        (.error .authentication, cleared.failAuth)
      else match computeClientProof security.psk pending.role pending.sessionId pending.clientNonce
          pending.deviceNonce with
        | .error _ => (.error .value, security)
        | .ok expected =>
          if expected ≠ request.clientProof then (.error .authentication, cleared.failAuth)
          else match deriveSessionKey security.psk pending.role pending.sessionId pending.clientNonce
              pending.deviceNonce with
            | .error _ => (.error .value, security)
            | .ok sessionKey =>
              let security :=
                { cleared with
                  active := some ⟨pending.role, pending.sessionId, sessionKey, 1, now⟩
                  authSuccesses := min 0xFFFFFFFF (cleared.authSuccesses + 1) }
              match encodeAuthenticatedSession
                  ⟨pending.role, pending.sessionId, BitVec.ofNat 16 simSessionTimeoutSeconds⟩ with
              | .error _ => (.error .value, security)
              | .ok encoded => (.ok encoded, security)

def unwrap (security : SimulatorSecurity) (payload : List U8) (outerSequence : U32) (now : Nat) :
    Except SimulatorSecurityError SecureRequest × SimulatorSecurity :=
  let security := security.expire now
  match security.active with
  | none => (.error .authentication, security.rejectUnauthorized)
  | some active =>
    match decodeSecureRequest payload active.sessionKey outerSequence with
    | .error _ => (.error .authentication, security.failAuth)
    | .ok secureRequest =>
      if secureRequest.sessionId ≠ active.sessionId then (.error .authentication, security.rejectUnauthorized)
      else if secureRequest.counter ≠ active.nextCounter then (.error .replay, security.rejectReplay)
      else
        (.ok secureRequest,
          { security with
            active := some { active with nextCounter := active.nextCounter + 1, lastActivity := now } })

def authorize (security : SimulatorSecurity) (command : U8) : Except SimulatorSecurityError Unit × SimulatorSecurity :=
  match security.active with
  | none => (.error .authentication, security)
  | some active =>
    let requiredRole :=
      if command = commandBaselineControl then roleOperator
      else if command = commandControlCommand then roleOperator
      else roleAdmin
    if active.role < requiredRole then (.error .authorization, security.rejectUnauthorized) else (.ok (), security)

end SimulatorSecurity

open Crypto

instance (security : Security) (nowSeconds : U32) : Decidable (security.Challenges nowSeconds) :=
  inferInstanceAs (Decidable (_ ∧ _))

instance (security : Security) (nowSeconds : U32) : Decidable (security.Live nowSeconds) :=
  inferInstanceAs (Decidable (_ ∧ _))

def mirrorPending (pending : SecurityPending) : SimulatorPending where
  role := pending.role
  sessionId := pending.sessionId
  clientNonce := pending.clientNonce
  deviceNonce := pending.deviceNonce
  startedAt := pending.startedSeconds.toNat

def mirrorSession (session : SecuritySession) : SimulatorActive where
  role := session.role
  sessionId := session.sessionId
  sessionKey := session.sessionKey.1
  nextCounter := session.nextCounter.toNat
  lastActivity := session.lastActivitySeconds.toNat

/-- The simulator that has the challenge and the session which the device still honours at a reading of the clock. -/
def mirrorSecurity (security : Security) (nowSeconds : U32) : SimulatorSecurity where
  psk := security.config.psk
  maxRole := security.config.maxRole
  pending := if security.Challenges nowSeconds then some (mirrorPending security.pending) else none
  active := if security.Live nowSeconds then some (mirrorSession security.session) else none
  authSuccesses := security.authSuccesses.toNat
  authFailures := security.authFailures.toNat
  replayRejections := security.replayRejections.toNat
  unauthorizedRejections := security.unauthorizedRejections.toNat

theorem securityIncrementU32_toNat (value : U32) :
    (securityIncrementU32 value).toNat = min 0xFFFFFFFF (value.toNat + 1) := saturate_toNat (by decide) value

section mirror

variable (security : Security) (nowSeconds : U32)

theorem mirror_failAuth : mirrorSecurity security.failAuth nowSeconds = (mirrorSecurity security nowSeconds).failAuth := by
  have counted : security.failAuth.authFailures.toNat = min 0xFFFFFFFF (security.authFailures.toNat + 1) :=
    securityIncrementU32_toNat _
  rw [mirrorSecurity, counted]
  rfl

theorem mirror_rejectUnauthorized :
    mirrorSecurity security.rejectUnauthorized nowSeconds = (mirrorSecurity security nowSeconds).rejectUnauthorized := by
  have counted : security.rejectUnauthorized.unauthorizedRejections.toNat =
      min 0xFFFFFFFF (security.unauthorizedRejections.toNat + 1) := securityIncrementU32_toNat _
  rw [mirrorSecurity, counted]
  rfl

theorem mirror_rejectReplay :
    mirrorSecurity security.rejectReplay nowSeconds = (mirrorSecurity security nowSeconds).rejectReplay := by
  have counted : security.rejectReplay.replayRejections.toNat = min 0xFFFFFFFF (security.replayRejections.toNat + 1) :=
    securityIncrementU32_toNat _
  rw [mirrorSecurity, counted]
  rfl

theorem mirror_expirePending :
    mirrorSecurity (securityExpirePending security nowSeconds) nowSeconds = mirrorSecurity security nowSeconds := by
  unfold securityExpirePending
  split_ifs with idle late
  · rfl
  · have expired : ¬ security.Challenges nowSeconds := fun live => BitVec.not_lt.mpr late live.2
    have cleared : ¬ (securityClearPending security).Challenges nowSeconds := fun live => live.1 rfl
    rw [mirrorSecurity, mirrorSecurity, if_neg expired, if_neg cleared]
    rfl
  · rfl

theorem mirror_expireSession :
    mirrorSecurity (securityExpireSession security nowSeconds) nowSeconds = mirrorSecurity security nowSeconds := by
  unfold securityExpireSession
  split_ifs with idle late
  · rfl
  · have expired : ¬ security.Live nowSeconds := fun live => BitVec.not_lt.mpr late live.2
    have cleared : ¬ (securityClearSession security).Live nowSeconds := fun live => live.1 rfl
    rw [mirrorSecurity, mirrorSecurity, if_neg expired, if_neg cleared]
    rfl
  · rfl

theorem mirror_clearPending :
    mirrorSecurity (securityClearPending security) nowSeconds = { mirrorSecurity security nowSeconds with pending := none } := by
  have cleared : ¬ (securityClearPending security).Challenges nowSeconds := fun live => live.1 rfl
  rw [mirrorSecurity, if_neg cleared]
  rfl

variable {security nowSeconds}

theorem mirror_challenged {pending : SecurityPending}
    (fresh : Security.Challenges { security with pending } nowSeconds) :
    mirrorSecurity { security with pending } nowSeconds =
      { mirrorSecurity security nowSeconds with pending := some (mirrorPending pending) } := by
  rw [mirrorSecurity, if_pos fresh]
  rfl

theorem mirror_opened {session : SecuritySession} (fresh : Security.Live { security with session } nowSeconds) :
    mirrorSecurity { security with session } nowSeconds =
      { mirrorSecurity security nowSeconds with active := some (mirrorSession session) } := by
  rw [mirrorSecurity, if_pos fresh]
  rfl

theorem stamp_fresh {limit : U32} (positive : 0 < limit) : nowSeconds - nowSeconds < limit := by
  rw [BitVec.sub_self]
  exact positive

end mirror

/-- The challenge and the session are no younger than the clock, and have the device's own values. -/
structure Stamped (security : Security) (nowSeconds : U32) : Prop where
  configured : security.configured ≠ 0
  bounded : security.config.maxRole ≤ roleAdmin
  timeout : security.config.sessionTimeoutSeconds = securityDefaultSessionTimeoutSeconds
  started : security.pending.valid ≠ 0 → security.pending.startedSeconds ≤ nowSeconds
  activity : security.session.valid ≠ 0 → security.session.lastActivitySeconds ≤ nowSeconds
  role : security.pending.valid ≠ 0 → security.pending.role ≤ roleAdmin
  identified : security.pending.valid ≠ 0 → security.pending.sessionId ≠ 0

section stamped

variable {security after : Security} {earlier nowSeconds : U32}

theorem Stamped.later (stamped : Stamped security earlier) (later : earlier ≤ nowSeconds) :
    Stamped security nowSeconds where
  configured := stamped.configured
  bounded := stamped.bounded
  timeout := stamped.timeout
  started := fun live => BitVec.le_trans (stamped.started live) later
  activity := fun live => BitVec.le_trans (stamped.activity live) later
  role := stamped.role
  identified := stamped.identified

theorem Stamped.keeps (stamped : Stamped security nowSeconds) (config : after.config = security.config)
    (configured : after.configured = security.configured)
    (pending : after.pending = security.pending ∨ after.pending = zeroPending)
    (session : after.session = security.session ∨ after.session = zeroSession) : Stamped after nowSeconds where
  configured := configured ▸ stamped.configured
  bounded := config ▸ stamped.bounded
  timeout := config ▸ stamped.timeout
  started := by
    rcases pending with same | zero
    · exact same ▸ stamped.started
    · exact fun live => absurd (zero ▸ rfl) live
  activity := by
    rcases session with same | zero
    · exact same ▸ stamped.activity
    · exact fun live => absurd (zero ▸ rfl) live
  role := by
    rcases pending with same | zero
    · exact same ▸ stamped.role
    · exact fun live => absurd (zero ▸ rfl) live
  identified := by
    rcases pending with same | zero
    · exact same ▸ stamped.identified
    · exact fun live => absurd (zero ▸ rfl) live

@[simp] theorem securityExpirePending_configured :
    (securityExpirePending security nowSeconds).configured = security.configured := by
  unfold securityExpirePending
  split_ifs <;> rfl

@[simp] theorem securityExpireSession_configured :
    (securityExpireSession security nowSeconds).configured = security.configured := by
  unfold securityExpireSession
  split_ifs <;> rfl

theorem Stamped.expirePending (stamped : Stamped security nowSeconds) :
    Stamped (securityExpirePending security nowSeconds) nowSeconds :=
  stamped.keeps securityExpirePending_config securityExpirePending_configured securityExpirePending_pending
    (Or.inl securityExpirePending_session)

theorem Stamped.expireSession (stamped : Stamped security nowSeconds) :
    Stamped (securityExpireSession security nowSeconds) nowSeconds := by
  apply stamped.keeps securityExpireSession_config securityExpireSession_configured (Or.inl securityExpireSession_pending)
  rcases @securityExpireSession_cases security nowSeconds with ⟨-, same⟩ | ⟨-, -, either⟩
  · exact Or.inl (by rw [same])
  · exact either

theorem Stamped.authorize (stamped : Stamped security nowSeconds) (command : U8) :
    Stamped (securityAuthorize security command).2 nowSeconds := by
  unfold securityAuthorize
  split_ifs
  · exact stamped
  · exact stamped.keeps rfl rfl (Or.inl rfl) (Or.inl rfl)
  · exact stamped

end stamped

theorem age_lt {stamp nowSeconds limit : U32} (past : stamp ≤ nowSeconds) :
    nowSeconds - stamp < limit ↔ nowSeconds.toNat - stamp.toNat < limit.toNat := by
  rw [BitVec.lt_def, BitVec.toNat_sub_of_le past]

theorem filter_guarded {α : Type} {value : α} {before now : Prop} [Decidable before] [Decidable now] {kept : α → Bool}
    (earlier : now → before) (keeps : before → (kept value = true ↔ now)) :
    (if before then some value else none).filter kept = if now then some value else none := by
  by_cases was : before
  · by_cases still : now
    · rw [if_pos was, if_pos still, Option.filter_some_pos ((keeps was).mpr still)]
    · rw [if_pos was, if_neg still, Option.filter_some_neg (Bool.eq_false_iff.mpr (mt (keeps was).mp still))]
  · rw [if_neg was, if_neg (mt earlier was)]
    rfl

theorem mirror_expire {security : Security} {earlier nowSeconds : U32} (stamped : Stamped security earlier)
    (later : earlier ≤ nowSeconds) :
    (mirrorSecurity security earlier).expire nowSeconds.toNat = mirrorSecurity security nowSeconds := by
  have order := BitVec.le_def.mp later
  have pending : (mirrorSecurity security earlier).pending.filter
      (fun pending => decide (nowSeconds.toNat - pending.startedAt < simPendingTimeoutSeconds)) =
        (mirrorSecurity security nowSeconds).pending := by
    apply filter_guarded
    · intro live
      have past := stamped.started live.1
      have fresh := (age_lt (BitVec.le_trans past later)).mp live.2
      exact ⟨live.1, (age_lt past).mpr (by omega)⟩
    · intro live
      have now := @age_lt _ _ securityPendingTimeoutSeconds (BitVec.le_trans (stamped.started live.1) later)
      rw [decide_eq_true_iff]
      exact ⟨fun fresh => ⟨live.1, now.mpr fresh⟩, fun still => now.mp still.2⟩
  have active : (mirrorSecurity security earlier).active.filter
      (fun active => decide (nowSeconds.toNat - active.lastActivity < simSessionTimeoutSeconds)) =
        (mirrorSecurity security nowSeconds).active := by
    have limit : (security.config.sessionTimeoutSeconds.setWidth 32).toNat = simSessionTimeoutSeconds := by
      rw [stamped.timeout]
      rfl
    apply filter_guarded
    · intro live
      have past := stamped.activity live.1
      have fresh := (age_lt (BitVec.le_trans past later)).mp live.2
      exact ⟨live.1, (age_lt past).mpr (by omega)⟩
    · intro live
      have now := @age_lt _ _ (security.config.sessionTimeoutSeconds.setWidth 32)
        (BitVec.le_trans (stamped.activity live.1) later)
      rw [limit] at now
      rw [decide_eq_true_iff]
      exact ⟨fun fresh => ⟨live.1, now.mpr fresh⟩, fun still => now.mp still.2⟩
  rw [SimulatorSecurity.expire, pending, active]
  rfl

end Guardian.Simulator
