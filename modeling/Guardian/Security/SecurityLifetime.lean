import Guardian.Security.SecurityReplay

namespace Guardian.Session

open Word Guardian.Protocol

variable {security : Security}

/-- What a step leaves valid was there before, or was renewed at `nowSeconds`. -/
structure Security.Ages (before after : Security) (nowSeconds : U32) (renewed challenged : Bool) : Prop where
  session : after.session.valid ≠ 0 →
    renewed = true ∧ after.session.lastActivitySeconds = nowSeconds ∨ renewed = false ∧ after.session = before.session
  pending : after.pending.valid ≠ 0 →
    challenged = true ∧ after.pending.startedSeconds = nowSeconds ∨
      challenged = false ∧ after.pending = before.pending

theorem Security.Ages.unchanged {after : Security} (nowSeconds : U32)
    (session : after.session = security.session ∨ after.session.valid = 0)
    (pending : after.pending = security.pending ∨ after.pending.valid = 0) :
    security.Ages after nowSeconds false false := by
  constructor
  · intro valid
    exact Or.inr ⟨rfl, session.resolve_right valid⟩
  · intro valid
    exact Or.inr ⟨rfl, pending.resolve_right valid⟩

theorem Security.Ages.congr {after other : Security} {nowSeconds : U32} {renewed challenged : Bool}
    (ages : security.Ages after nowSeconds renewed challenged) (session : other.session = after.session)
    (pending : other.pending = after.pending) : security.Ages other nowSeconds renewed challenged := by
  constructor
  · rw [session]
    exact ages.session
  · rw [pending]
    exact ages.pending

theorem Security.Ages.unrenewed {after : Security} {nowSeconds : U32} (ages : security.Ages after nowSeconds false false)
    (other : U32) : security.Ages after other false false := by
  constructor
  · intro valid
    rcases ages.session valid with ⟨renewed, -⟩ | same
    · cases renewed
    · exact Or.inr same
  · intro valid
    rcases ages.pending valid with ⟨renewed, -⟩ | same
    · cases renewed
    · exact Or.inr same

theorem zeroed_pending {after : Security} (pending : after.pending = security.pending ∨ after.pending = zeroPending) :
    after.pending = security.pending ∨ after.pending.valid = 0 := by
  rcases pending with same | zero
  · exact Or.inl same
  · right
    rw [zero]
    rfl

theorem securityAuthBegin_ages (security : Security) (request : List U8) (nowSeconds : U32) (capacity : Nat)
    (random : Option (Bytes 20)) :
    security.Ages (securityAuthBegin security request nowSeconds capacity random).2 nowSeconds false
      (securityAuthBegin security request nowSeconds capacity random).1.isOk := by
  have begins := securityAuthBegin_begins security request nowSeconds capacity random
  generalize securityAuthBegin security request nowSeconds capacity random = begun at begins ⊢
  obtain ⟨result, after⟩ := begun
  cases begins with
  | refuses config session pending => exact .unchanged nowSeconds (Or.inl session) (zeroed_pending pending)
  | issues config session valid observer bounded started =>
    exact ⟨fun _ => Or.inr ⟨rfl, session⟩, fun _ => Or.inl ⟨rfl, started⟩⟩

theorem securityAuthFinish_activity {request response : List U8} {nowSeconds : U32} {capacity : Nat} {after : Security}
    (finished : securityAuthFinish security request nowSeconds capacity = (.ok response, after)) :
    after.session.lastActivitySeconds = nowSeconds := by
  unfold securityAuthFinish at finished
  dsimp only at finished
  split_ifs at finished
  all_goals try simp at finished
  split at finished
  · simp at finished
  · split_ifs at finished
    · simp at finished
    · split at finished
      · simp at finished
      · rw [← (Prod.mk.inj finished).2]
        rfl

theorem securityAuthFinish_ages (security : Security) (request : List U8) (nowSeconds : U32) (capacity : Nat) :
    security.Ages (securityAuthFinish security request nowSeconds capacity).2 nowSeconds
      (securityAuthFinish security request nowSeconds capacity).1.isOk false := by
  have finishes := securityAuthFinish_finishes security request nowSeconds capacity
  rcases finished : securityAuthFinish security request nowSeconds capacity with ⟨result, after⟩
  rw [finished] at finishes
  cases finishes with
  | refuses idle config session pending => exact .unchanged nowSeconds (Or.inl session) (zeroed_pending pending)
  | rejects evaluates config session consumed =>
    exact .unchanged nowSeconds (Or.inl session) (zeroed_pending (Or.inr consumed))
  | activates evaluates proved config role sessionId valid first consumed =>
    refine ⟨fun _ => Or.inl ⟨rfl, securityAuthFinish_activity finished⟩, fun active => absurd ?_ active⟩
    exact (congrArg SecurityPending.valid consumed).trans rfl

theorem expired_session (security : Security) (nowSeconds : U32) :
    (securityExpireSession security nowSeconds).session = security.session ∨
      (securityExpireSession security nowSeconds).session.valid = 0 := by
  rcases @securityExpireSession_cases security nowSeconds with ⟨-, same⟩ | ⟨-, idle, -⟩
  · left
    rw [same]
  · exact Or.inr idle

theorem securityUnwrapRequest_ages (security : Security) (outerRequest : Frame) (nowSeconds : U32) :
    security.Ages (securityUnwrapRequest security outerRequest nowSeconds).2 nowSeconds
      (securityUnwrapRequest security outerRequest nowSeconds).1.isOk false := by
  have unwraps := securityUnwrapRequest_unwraps security outerRequest nowSeconds
  generalize securityUnwrapRequest security outerRequest nowSeconds = unwrapped at unwraps ⊢
  obtain ⟨result, after⟩ := unwrapped
  cases unwraps with
  | refuses config pending session =>
    apply Security.Ages.unchanged nowSeconds _ (Or.inl pending)
    rw [session]
    exact expired_session security nowSeconds
  | exhausts authentic config pending session =>
    apply Security.Ages.unchanged nowSeconds _ (Or.inl pending)
    right
    rw [session]
    rfl
  | accepts innerRequest authentic command type more =>
    exact ⟨fun _ => Or.inl ⟨rfl, rfl⟩, fun _ => Or.inr ⟨rfl, rfl⟩⟩

theorem securityStatus_ages (security : Security) (nowSeconds : U32) :
    security.Ages (securityStatus security nowSeconds).2 nowSeconds false false := by
  rw [securityStatus_state]
  apply Security.Ages.unchanged
  · have expired := expired_session (securityExpirePending security nowSeconds) nowSeconds
    rwa [securityExpirePending_session] at expired
  · rw [securityExpireSession_pending]
    exact zeroed_pending securityExpirePending_pending

theorem securityAuthFinish_challenges {request : List U8} {nowSeconds : U32} {capacity : Nat}
    (accepted : (securityAuthFinish security request nowSeconds capacity).1.isOk = true) :
    security.Challenges nowSeconds := by
  have finishes := securityAuthFinish_finishes security request nowSeconds capacity
  generalize securityAuthFinish security request nowSeconds capacity = finished at finishes accepted
  obtain ⟨result, after⟩ := finished
  cases finishes with
  | refuses idle config session pending => exact absurd accepted (by simp [Except.isOk, Except.toBool])
  | rejects evaluates config session consumed => exact absurd accepted (by simp [Except.isOk, Except.toBool])
  | activates evaluates proved config role sessionId valid first consumed => exact evaluates.2.1

theorem securityUnwrapRequest_live {outerRequest : Frame} {nowSeconds : U32}
    (accepted : (securityUnwrapRequest security outerRequest nowSeconds).1.isOk = true) : security.Live nowSeconds := by
  have unwraps := securityUnwrapRequest_unwraps security outerRequest nowSeconds
  generalize securityUnwrapRequest security outerRequest nowSeconds = unwrapped at unwraps accepted
  obtain ⟨result, after⟩ := unwrapped
  cases unwraps with
  | refuses config pending session => exact absurd accepted (by simp [Except.isOk, Except.toBool])
  | exhausts authentic config pending session => exact absurd accepted (by simp [Except.isOk, Except.toBool])
  | accepts innerRequest authentic command type more => exact authentic.live

end Guardian.Session
