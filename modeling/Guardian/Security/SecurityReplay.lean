import Mathlib.Data.List.Nodup
import Guardian.Security.SecurityRun

namespace Guardian.Session

open Word Guardian.Crypto Guardian.Protocol

inductive SecurityOperation
  | configure (config : SecurityConfig)
  | clear
  | authBegin (request : List U8) (nowSeconds : U32) (capacity : Nat) (random : Option (Bytes 20))
  | authFinish (request : List U8) (nowSeconds : U32) (capacity : Nat)
  | unwrapRequest (outerRequest : Frame) (nowSeconds : U32)
  | authorize (command : U8)
  | status (nowSeconds : U32)

structure SecurityAcceptance where
  request : Frame
  counter : U64

/-- The module with the challenges it issued, the numbers of those that a proof was evaluated against, and the requests
accepted since the last activation; all newest first. -/
structure SecurityHistory where
  security : Security
  challenges : List SecurityPending
  evaluated : List Nat
  accepted : List SecurityAcceptance

def securityStart : SecurityHistory := ⟨securityInit, [], [], []⟩

def SecurityHistory.perform (history : SecurityHistory) : SecurityOperation → SecurityHistory
  | .configure config => { history with security := (securityConfigure history.security config).2 }
  | .clear => { history with security := securityClear history.security }
  | .authBegin request nowSeconds capacity random =>
    match securityAuthBegin history.security request nowSeconds capacity random with
    | (.ok _, security) => { history with security, challenges := security.pending :: history.challenges }
    | (.error _, security) => { history with security }
  | .authFinish request nowSeconds capacity =>
    let evaluated :=
      if history.security.Evaluates request nowSeconds capacity then history.challenges.length :: history.evaluated
      else history.evaluated
    match securityAuthFinish history.security request nowSeconds capacity with
    | (.ok _, security) => { history with security, evaluated, accepted := [] }
    | (.error _, security) => { history with security, evaluated }
  | .unwrapRequest outerRequest nowSeconds =>
    match securityUnwrapRequest history.security outerRequest nowSeconds with
    | (.ok (_, counter), security) => { history with security, accepted := ⟨outerRequest, counter⟩ :: history.accepted }
    | (.error _, security) => { history with security }
  | .authorize command => { history with security := (securityAuthorize history.security command).2 }
  | .status nowSeconds => { history with security := (securityStatus history.security nowSeconds).2 }

def SecuritySession.Continues (session before : SecuritySession) : Prop :=
  before.valid ≠ 0 ∧ session.role = before.role ∧ session.sessionId = before.sessionId ∧
    session.sessionKey = before.sessionKey

/-- The operation is a client proof for the challenge issued last, which is unexpired and was not used before. -/
def SecurityHistory.Activates (history : SecurityHistory) (operation : SecurityOperation) : Prop :=
  ∃ request nowSeconds capacity challenge, operation = .authFinish request nowSeconds capacity ∧
    history.challenges.head? = some challenge ∧ history.challenges.length ∉ history.evaluated ∧
    nowSeconds - challenge.startedSeconds < securityPendingTimeoutSeconds ∧ history.security.Proves challenge request

structure SecurityHistory.Pending (history : SecurityHistory) : Prop where
  last : history.challenges.head? = some history.security.pending
  unused : history.challenges.length ∉ history.evaluated
  bounded : history.security.pending.role ≤ history.security.config.maxRole

structure SecurityHistory.Active (history : SecurityHistory) : Prop where
  next : history.security.session.nextCounter.toNat = history.accepted.length + 1
  bounded : history.security.session.role ≤ history.security.config.maxRole

structure SecurityHistory.Sound (history : SecurityHistory) : Prop where
  counters : (history.accepted.reverse.map fun acceptance => acceptance.counter.toNat) =
    List.range' 1 history.accepted.length
  carried : ∀ acceptance ∈ history.accepted, acceptance.counter = secureCounter acceptance.request
  issued : ∀ number ∈ history.evaluated, number ≤ history.challenges.length
  once : history.evaluated.Nodup
  pending : history.security.pending.valid ≠ 0 → history.Pending
  active : history.security.session.valid ≠ 0 → history.Active

section steps

variable {history : SecurityHistory}

theorem zeroPending_idle {pending : SecurityPending} (zero : pending = zeroPending) : ¬ pending.valid ≠ 0 := by
  rw [zero]
  exact not_not.mpr rfl

theorem zeroSession_idle {session : SecuritySession} (zero : session = zeroSession) : ¬ session.valid ≠ 0 := by
  rw [zero]
  exact not_not.mpr rfl

theorem SecurityHistory.Sound.settles (sound : history.Sound) {after : Security}
    (config : after.config = history.security.config)
    (pending : after.pending = history.security.pending ∨ after.pending = zeroPending)
    (session : after.session = history.security.session ∨ after.session = zeroSession) :
    SecurityHistory.Sound { history with security := after } := by
  refine ⟨sound.counters, sound.carried, sound.issued, sound.once, ?_, ?_⟩
  · intro valid
    rcases pending with same | zero
    · obtain ⟨last, unused, bounded⟩ := sound.pending (by rwa [← same])
      exact ⟨by rw [same]; exact last, unused, by rw [same, config]; exact bounded⟩
    · exact absurd valid (zeroPending_idle zero)
  · intro valid
    rcases session with same | zero
    · obtain ⟨next, bounded⟩ := sound.active (by rwa [← same])
      exact ⟨by rw [same]; exact next, by rw [same, config]; exact bounded⟩
    · exact absurd valid (zeroSession_idle zero)

theorem SecurityHistory.Sound.expired (sound : history.Sound) {after : Security} {nowSeconds : U32}
    (config : after.config = history.security.config)
    (pending : after.pending = history.security.pending ∨ after.pending = zeroPending)
    (session : after.session = (securityExpireSession history.security nowSeconds).session) :
    SecurityHistory.Sound { history with security := after } := by
  apply sound.settles config pending
  rw [session]
  rcases securityExpireSession_cases with ⟨-, same⟩ | ⟨-, -, either⟩
  · exact Or.inl (by rw [same])
  · exact either

theorem SecurityHistory.Sound.reset (sound : history.Sound) (config : SecurityConfig) (configured : U8) :
    SecurityHistory.Sound { history with security := { securityInit with config, configured } } :=
  ⟨sound.counters, sound.carried, sound.issued, sound.once, fun valid => absurd valid (zeroPending_idle rfl),
    fun valid => absurd valid (zeroSession_idle rfl)⟩

theorem SecurityHistory.Sound.begins (sound : history.Sound) (request : List U8) (nowSeconds : U32) (capacity : Nat)
    (random : Option (Bytes 20)) : (history.perform (.authBegin request nowSeconds capacity random)).Sound := by
  have begins := securityAuthBegin_begins history.security request nowSeconds capacity random
  unfold SecurityHistory.perform
  dsimp only
  generalize securityAuthBegin history.security request nowSeconds capacity random = begun at begins ⊢
  obtain ⟨result, after⟩ := begun
  cases begins with
  | refuses config session pending => exact sound.settles config pending (Or.inl session)
  | issues config session valid observer bounded started =>
    refine ⟨sound.counters, sound.carried, ?_, sound.once, ?_, ?_⟩
    · intro number member
      have bound := sound.issued number member
      simp only [List.length_cons]
      omega
    · intro _
      refine ⟨rfl, ?_, by rw [config]; exact bounded⟩
      intro member
      have bound := sound.issued _ member
      simp only [List.length_cons] at bound
      omega
    · intro active
      obtain ⟨next, role⟩ := sound.active (by rwa [← session])
      exact ⟨by rw [session]; exact next, by rw [session, config]; exact role⟩

theorem SecurityHistory.Sound.finishes (sound : history.Sound) (request : List U8) (nowSeconds : U32)
    (capacity : Nat) : (history.perform (.authFinish request nowSeconds capacity)).Sound := by
  have finishes := securityAuthFinish_finishes history.security request nowSeconds capacity
  unfold SecurityHistory.perform
  dsimp only
  generalize securityAuthFinish history.security request nowSeconds capacity = finished at finishes ⊢
  obtain ⟨result, after⟩ := finished
  have issued (evaluates : history.security.Evaluates request nowSeconds capacity) :
      (∀ number ∈ history.challenges.length :: history.evaluated, number ≤ history.challenges.length) ∧
        (history.challenges.length :: history.evaluated).Nodup := by
    have unused := (sound.pending evaluates.2.1.1).unused
    refine ⟨?_, List.nodup_cons.mpr ⟨unused, sound.once⟩⟩
    intro number member
    rcases List.mem_cons.mp member with rfl | member
    · exact Nat.le_refl _
    · exact sound.issued number member
  cases finishes with
  | refuses idle config session pending =>
    rw [if_neg idle]
    exact sound.settles config pending (Or.inl session)
  | rejects evaluates config session consumed =>
    rw [if_pos evaluates]
    refine ⟨sound.counters, sound.carried, (issued evaluates).1, (issued evaluates).2,
      fun valid => absurd valid (zeroPending_idle consumed), ?_⟩
    intro active
    obtain ⟨next, role⟩ := sound.active (by rwa [← session])
    exact ⟨by rw [session]; exact next, by rw [session, config]; exact role⟩
  | activates evaluates proved config role sessionId valid first consumed =>
    rw [if_pos evaluates]
    refine ⟨rfl, by simp, (issued evaluates).1, (issued evaluates).2,
      fun valid => absurd valid (zeroPending_idle consumed), ?_⟩
    intro _
    have bounded := (sound.pending evaluates.2.1.1).bounded
    exact ⟨by rw [first]; rfl, by rw [role, config]; exact bounded⟩

theorem SecurityHistory.Sound.unwraps (sound : history.Sound) (outerRequest : Frame) (nowSeconds : U32) :
    (history.perform (.unwrapRequest outerRequest nowSeconds)).Sound := by
  have unwraps := securityUnwrapRequest_unwraps history.security outerRequest nowSeconds
  unfold SecurityHistory.perform
  dsimp only
  generalize securityUnwrapRequest history.security outerRequest nowSeconds = unwrapped at unwraps ⊢
  obtain ⟨result, after⟩ := unwrapped
  cases unwraps with
  | refuses config pending session => exact sound.expired config (Or.inl pending) session
  | exhausts authentic config pending session => exact sound.settles config (Or.inl pending) (Or.inr session)
  | accepts innerRequest authentic command type more =>
    obtain ⟨next, bounded⟩ := sound.active authentic.live.1
    have counter : (secureCounter outerRequest).toNat = history.accepted.length + 1 := by rw [authentic.next, next]
    refine ⟨?_, ?_, sound.issued, sound.once, ?_, ?_⟩
    · simp only [List.reverse_cons, List.map_append, List.map_cons, List.map_nil, List.length_cons]
      rw [sound.counters, counter, List.range'_concat, Nat.one_mul, Nat.add_comm 1]
    · intro acceptance member
      rcases List.mem_cons.mp member with rfl | member
      · rfl
      · exact sound.carried acceptance member
    · intro valid
      obtain ⟨last, unused, pendingBounded⟩ := sound.pending valid
      exact ⟨last, unused, pendingBounded⟩
    · intro _
      refine ⟨?_, bounded⟩
      have one : (1 : U64).toNat = 1 := rfl
      have room : history.security.session.nextCounter.toNat + 1 ≠ 2 ^ 64 := by
        intro full
        apply more
        apply BitVec.eq_of_toNat_eq
        rw [BitVec.toNat_add, one, full, Nat.mod_self]
        rfl
      have below := history.security.session.nextCounter.isLt
      have raised : (history.security.session.nextCounter + 1).toNat = history.accepted.length + 2 := by
        rw [BitVec.toNat_add, one]
        omega
      exact raised

theorem securityStatus_state (security : Security) (nowSeconds : U32) : (securityStatus security nowSeconds).2 =
    securityExpireSession (securityExpirePending security nowSeconds) nowSeconds := by
  unfold securityStatus
  dsimp only
  split_ifs <;> rfl

theorem SecurityHistory.Sound.perform (sound : history.Sound) (operation : SecurityOperation) :
    (history.perform operation).Sound := by
  cases operation with
  | configure config =>
    unfold SecurityHistory.perform securityConfigure
    dsimp only
    split_ifs
    · exact sound
    · exact sound.reset _ _
    · exact sound.reset _ _
  | clear => exact sound.reset _ _
  | authBegin request nowSeconds capacity random => exact sound.begins request nowSeconds capacity random
  | authFinish request nowSeconds capacity => exact sound.finishes request nowSeconds capacity
  | unwrapRequest outerRequest nowSeconds => exact sound.unwraps outerRequest nowSeconds
  | authorize command =>
    unfold SecurityHistory.perform securityAuthorize
    dsimp only
    split_ifs
    · exact sound
    · exact sound.settles rfl (Or.inl rfl) (Or.inl rfl)
    · exact sound
  | status nowSeconds =>
    have expired : SecurityHistory.Sound { history with security := securityExpirePending history.security nowSeconds } :=
      sound.settles securityExpirePending_config securityExpirePending_pending (Or.inl securityExpirePending_session)
    unfold SecurityHistory.perform
    dsimp only
    rw [securityStatus_state]
    exact expired.expired securityExpireSession_config (Or.inl securityExpireSession_pending) rfl

theorem SecurityHistory.Sound.activated (sound : history.Sound) (operation : SecurityOperation)
    (valid : (history.perform operation).security.session.valid ≠ 0) :
    (history.perform operation).security.session.Continues history.security.session ∨ history.Activates operation := by
  have keeps {session : SecuritySession} (valid : session.valid ≠ 0)
      (either : session = history.security.session ∨ session = zeroSession) :
      session.Continues history.security.session := by
    rcases either with rfl | zero
    · exact ⟨valid, rfl, rfl, rfl⟩
    · exact absurd valid (zeroSession_idle zero)
  have expires {session : SecuritySession} {security : Security} {nowSeconds : U32}
      (same : security.session = history.security.session) (valid : session.valid ≠ 0)
      (expired : session = (securityExpireSession security nowSeconds).session) :
      session.Continues history.security.session := by
    apply keeps valid
    rw [expired, ← same]
    rcases securityExpireSession_cases with ⟨-, unexpired⟩ | ⟨-, -, either⟩
    · exact Or.inl (by rw [unexpired])
    · exact either
  cases operation with
  | configure config =>
    unfold SecurityHistory.perform securityConfigure at valid ⊢
    dsimp only at valid ⊢
    split_ifs at valid ⊢
    · exact Or.inl (keeps valid (Or.inl rfl))
    · exact absurd valid (zeroSession_idle rfl)
    · exact absurd valid (zeroSession_idle rfl)
  | clear => exact absurd valid (zeroSession_idle rfl)
  | authBegin request nowSeconds capacity random =>
    left
    have begins := securityAuthBegin_begins history.security request nowSeconds capacity random
    unfold SecurityHistory.perform at valid ⊢
    dsimp only at valid ⊢
    generalize securityAuthBegin history.security request nowSeconds capacity random = begun at begins valid ⊢
    obtain ⟨result, after⟩ := begun
    cases begins with
    | refuses config session pending => exact keeps valid (Or.inl session)
    | issues config session pending observer bounded started => exact keeps valid (Or.inl session)
  | authFinish request nowSeconds capacity =>
    have finishes := securityAuthFinish_finishes history.security request nowSeconds capacity
    unfold SecurityHistory.perform at valid ⊢
    dsimp only at valid ⊢
    generalize securityAuthFinish history.security request nowSeconds capacity = finished at finishes valid ⊢
    obtain ⟨result, after⟩ := finished
    cases finishes with
    | refuses idle config session pending => exact Or.inl (keeps valid (Or.inl session))
    | rejects evaluates config session consumed => exact Or.inl (keeps valid (Or.inl session))
    | activates evaluates proved config role sessionId active first consumed =>
      obtain ⟨last, unused, -⟩ := sound.pending evaluates.2.1.1
      exact Or.inr ⟨request, nowSeconds, capacity, _, rfl, last, unused, evaluates.2.1.2, proved⟩
  | unwrapRequest outerRequest nowSeconds =>
    left
    have unwraps := securityUnwrapRequest_unwraps history.security outerRequest nowSeconds
    unfold SecurityHistory.perform at valid ⊢
    dsimp only at valid ⊢
    generalize securityUnwrapRequest history.security outerRequest nowSeconds = unwrapped at unwraps valid ⊢
    obtain ⟨result, after⟩ := unwrapped
    cases unwraps with
    | refuses config pending session => exact expires rfl valid session
    | exhausts authentic config pending session => exact keeps valid (Or.inr session)
    | accepts innerRequest authentic command type more => exact ⟨authentic.live.1, rfl, rfl, rfl⟩
  | authorize command =>
    left
    unfold SecurityHistory.perform securityAuthorize at valid ⊢
    dsimp only at valid ⊢
    split_ifs at valid ⊢ <;> exact keeps valid (Or.inl rfl)
  | status nowSeconds =>
    left
    unfold SecurityHistory.perform at valid ⊢
    dsimp only at valid ⊢
    rw [securityStatus_state] at valid ⊢
    exact expires securityExpirePending_session valid rfl

theorem unverified_keeps_session {outerRequest : Frame} {nowSeconds : U32}
    (unverified : ¬ history.security.Verifies outerRequest) :
    (history.perform (.unwrapRequest outerRequest nowSeconds)).security.session =
      (securityExpireSession history.security nowSeconds).session := by
  have unwraps := securityUnwrapRequest_unwraps history.security outerRequest nowSeconds
  unfold SecurityHistory.perform
  dsimp only
  generalize securityUnwrapRequest history.security outerRequest nowSeconds = unwrapped at unwraps ⊢
  obtain ⟨result, after⟩ := unwrapped
  cases unwraps with
  | refuses config pending session => exact session
  | exhausts authentic config pending session => exact absurd authentic.verified unverified
  | accepts innerRequest authentic command type more => exact absurd authentic.verified unverified

end steps

theorem securityStart_sound : securityStart.Sound :=
  ⟨rfl, by simp [securityStart], by simp [securityStart], List.nodup_nil,
    fun valid => absurd valid (zeroPending_idle rfl), fun valid => absurd valid (zeroSession_idle rfl)⟩

/-- Counters without gaps, no request twice, one proof for each challenge, bounded roles, and the two step rules. -/
theorem session_replay_safety (operations : List SecurityOperation) :
    let history := Run.after SecurityHistory.perform operations securityStart
    (history.accepted.reverse.map fun acceptance => acceptance.counter.toNat) =
        List.range' 1 history.accepted.length ∧
      (history.accepted.map fun acceptance => acceptance.request.payload).Nodup ∧
      history.evaluated.Nodup ∧
      (history.security.session.valid ≠ 0 → history.security.session.role ≤ history.security.config.maxRole) ∧
      (∀ operation, (history.perform operation).security.session.valid ≠ 0 →
        (history.perform operation).security.session.Continues history.security.session ∨
          history.Activates operation) ∧
      ∀ outerRequest nowSeconds, ¬ history.security.Verifies outerRequest →
        (history.perform (.unwrapRequest outerRequest nowSeconds)).security.session =
          (securityExpireSession history.security nowSeconds).session := by
  intro history
  have sound : history.Sound :=
    Run.after_invariant (fun _ operation sound => sound.perform operation) securityStart_sound operations
  refine ⟨sound.counters, ?_, sound.once, fun valid => (sound.active valid).bounded,
    fun operation valid => sound.activated operation valid, fun _ _ unverified => unverified_keeps_session unverified⟩
  have counters : (history.accepted.reverse.map fun acceptance => acceptance.counter.toNat).Nodup := by
    rw [sound.counters]
    exact List.nodup_range'
  rw [List.map_reverse, List.nodup_reverse] at counters
  -- a payload carries its counter
  apply List.Nodup.of_map fun payload : List U8 => (getU64Be (payload.drop 5)).toNat
  rw [List.map_map]
  have same : history.accepted.map (fun acceptance => acceptance.counter.toNat) = history.accepted.map
      ((fun payload : List U8 => (getU64Be (payload.drop 5)).toNat) ∘ fun acceptance => acceptance.request.payload) := by
    apply List.map_congr_left
    intro acceptance member
    rw [sound.carried acceptance member]
    rfl
  rw [← same]
  exact counters

end Guardian.Session
