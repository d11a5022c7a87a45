import Guardian.Lib.Check
import Guardian.Lib.Run
import Guardian.Security.Security

namespace Guardian.Session

open Word ByteString Guardian.Crypto Guardian.Protocol

def Security.Challenges (security : Security) (nowSeconds : U32) : Prop :=
  security.pending.valid ≠ 0 ∧ nowSeconds - security.pending.startedSeconds < securityPendingTimeoutSeconds

def Security.Live (security : Security) (nowSeconds : U32) : Prop :=
  security.session.valid ≠ 0 ∧
    nowSeconds - security.session.lastActivitySeconds < security.config.sessionTimeoutSeconds.setWidth 32

def Security.Evaluates (security : Security) (request : List U8) (nowSeconds : U32) (capacity : Nat) : Prop :=
  security.configured ≠ 0 ∧ security.Challenges nowSeconds ∧ request.length = securityAuthFinishRequestSize ∧
    securityAuthFinishResponseSize ≤ capacity ∧ request.getD 0 0 = securitySchemaVersion

instance (security : Security) (request : List U8) (nowSeconds : U32) (capacity : Nat) :
    Decidable (security.Evaluates request nowSeconds capacity) :=
  inferInstanceAs (Decidable (_ ∧ (_ ∧ _) ∧ _ ∧ _ ∧ _))

/-- The request names the challenge and carries the client proof for it. -/
def Security.Proves (security : Security) (challenge : SecurityPending) (request : List U8) : Prop :=
  request.getD 1 0 = challenge.role ∧ getU32Be (request.drop 2) = challenge.sessionId ∧
    ∃ proof, securityHandshakeMac security securityClientLabel challenge.role challenge.sessionId
      challenge.clientNonce challenge.deviceNonce = some proof ∧
      proof.take securityTagSize = (request.drop 6).take securityTagSize

/-- The request carries the tag of its contents under the session key. -/
def Security.Verifies (security : Security) (outerRequest : Frame) : Prop :=
  ∃ tag, securityRequestTag security outerRequest (secureSessionId outerRequest) (secureCounter outerRequest)
    (secureInnerCommand outerRequest) (secureInnerPayload outerRequest) = some tag ∧
    tag.take securityTagSize = (secureTag outerRequest).take securityTagSize

/-- A request that the device can only have from the holder of the session key, with the next counter. -/
structure Security.Authentic (security : Security) (outerRequest : Frame) (nowSeconds : U32) : Prop where
  live : security.Live nowSeconds
  session : secureSessionId outerRequest = security.session.sessionId
  verified : security.Verifies outerRequest
  next : secureCounter outerRequest = security.session.nextCounter

section expiry

variable {security : Security} {nowSeconds : U32}

@[simp] theorem securityExpirePending_session : (securityExpirePending security nowSeconds).session = security.session := by
  unfold securityExpirePending
  split_ifs <;> rfl

@[simp] theorem securityExpirePending_config : (securityExpirePending security nowSeconds).config = security.config := by
  unfold securityExpirePending
  split_ifs <;> rfl

@[simp] theorem securityExpireSession_pending : (securityExpireSession security nowSeconds).pending = security.pending := by
  unfold securityExpireSession
  split_ifs <;> rfl

@[simp] theorem securityExpireSession_config : (securityExpireSession security nowSeconds).config = security.config := by
  unfold securityExpireSession
  split_ifs <;> rfl

theorem securityExpirePending_cases :
    (security.Challenges nowSeconds ∧ securityExpirePending security nowSeconds = security) ∨
      (¬ security.Challenges nowSeconds ∧ (securityExpirePending security nowSeconds).pending.valid = 0 ∧
        ((securityExpirePending security nowSeconds).pending = security.pending ∨
          (securityExpirePending security nowSeconds).pending = zeroPending)) := by
  unfold securityExpirePending
  split_ifs with idle late
  · exact Or.inr ⟨fun live => live.1 idle, idle, Or.inl rfl⟩
  · exact Or.inr ⟨fun live => BitVec.not_lt.mpr late live.2, rfl, Or.inr rfl⟩
  · exact Or.inl ⟨⟨idle, BitVec.not_le.mp late⟩, rfl⟩

theorem securityExpireSession_cases :
    (security.Live nowSeconds ∧ securityExpireSession security nowSeconds = security) ∨
      (¬ security.Live nowSeconds ∧ (securityExpireSession security nowSeconds).session.valid = 0 ∧
        ((securityExpireSession security nowSeconds).session = security.session ∨
          (securityExpireSession security nowSeconds).session = zeroSession)) := by
  unfold securityExpireSession
  split_ifs with idle late
  · exact Or.inr ⟨fun live => live.1 idle, idle, Or.inl rfl⟩
  · exact Or.inr ⟨fun live => BitVec.not_lt.mpr late live.2, rfl, Or.inr rfl⟩
  · exact Or.inl ⟨⟨idle, BitVec.not_le.mp late⟩, rfl⟩

theorem securityExpirePending_live (live : (securityExpirePending security nowSeconds).pending.valid ≠ 0) :
    security.Challenges nowSeconds ∧ securityExpirePending security nowSeconds = security := by
  rcases securityExpirePending_cases with unexpired | ⟨-, idle, -⟩
  · exact unexpired
  · exact absurd idle live

theorem securityExpireSession_live (live : (securityExpireSession security nowSeconds).session.valid ≠ 0) :
    security.Live nowSeconds ∧ securityExpireSession security nowSeconds = security := by
  rcases securityExpireSession_cases with unexpired | ⟨-, idle, -⟩
  · exact unexpired
  · exact absurd idle live

theorem securityExpirePending_pending : (securityExpirePending security nowSeconds).pending = security.pending ∨
    (securityExpirePending security nowSeconds).pending = zeroPending := by
  rcases securityExpirePending_cases with ⟨-, same⟩ | ⟨-, -, either⟩
  · exact Or.inl (by rw [same])
  · exact either

end expiry

section moves

variable {security : Security}

inductive Security.Begins (security : Security) (nowSeconds : U32) : Except SecurityResult (List U8) → Security → Prop
  | refuses {result : SecurityResult} {after : Security} (config : after.config = security.config)
      (session : after.session = security.session)
      (pending : after.pending = security.pending ∨ after.pending = zeroPending) :
      Begins security nowSeconds (.error result) after
  | issues {response : List U8} {after : Security} (config : after.config = security.config)
      (session : after.session = security.session) (valid : after.pending.valid ≠ 0)
      (observer : roleObserver ≤ after.pending.role) (bounded : after.pending.role ≤ security.config.maxRole)
      (started : after.pending.startedSeconds = nowSeconds) : Begins security nowSeconds (.ok response) after

theorem securityAuthBegin_begins (security : Security) (request : List U8) (nowSeconds : U32) (capacity : Nat)
    (random : Option (Bytes 20)) :
    security.Begins nowSeconds (securityAuthBegin security request nowSeconds capacity random).1
      (securityAuthBegin security request nowSeconds capacity random).2 := by
  unfold securityAuthBegin
  dsimp only
  have expired : (securityExpirePending security nowSeconds).pending = security.pending ∨
      (securityExpirePending security nowSeconds).pending = zeroPending := securityExpirePending_pending
  cases random with
  | none =>
    split_ifs
    · exact .refuses rfl rfl (Or.inl rfl)
    · exact .refuses rfl rfl (Or.inl rfl)
    · exact .refuses rfl rfl (Or.inl rfl)
    · exact .refuses rfl rfl (Or.inl rfl)
    · exact .refuses rfl rfl (Or.inl rfl)
    · exact .refuses securityExpirePending_config securityExpirePending_session expired
  | some randomBytes =>
    dsimp only
    generalize (if getU32Be randomBytes.1 = 0 then 1 else getU32Be randomBytes.1) = sessionId
    split_ifs with unconfigured length small schema role
    · exact .refuses rfl rfl (Or.inl rfl)
    · exact .refuses rfl rfl (Or.inl rfl)
    · exact .refuses rfl rfl (Or.inl rfl)
    · exact .refuses rfl rfl (Or.inl rfl)
    · exact .refuses rfl rfl (Or.inl rfl)
    · obtain ⟨observer, bounded⟩ := not_or.mp role
      split
      · exact .refuses securityExpirePending_config securityExpirePending_session (Or.inr rfl)
      · exact .issues securityExpirePending_config securityExpirePending_session (by decide : (1 : U8) ≠ 0)
          (BitVec.not_lt.mp observer) (BitVec.not_lt.mp bounded) rfl

inductive Security.Finishes (security : Security) (request : List U8) (nowSeconds : U32) (capacity : Nat) :
    Except SecurityResult (List U8) → Security → Prop
  | refuses {result : SecurityResult} {after : Security} (idle : ¬ security.Evaluates request nowSeconds capacity)
      (config : after.config = security.config) (session : after.session = security.session)
      (pending : after.pending = security.pending ∨ after.pending = zeroPending) :
      Finishes security request nowSeconds capacity (.error result) after
  | rejects {result : SecurityResult} {after : Security} (evaluates : security.Evaluates request nowSeconds capacity)
      (config : after.config = security.config) (session : after.session = security.session)
      (consumed : after.pending = zeroPending) : Finishes security request nowSeconds capacity (.error result) after
  | activates {response : List U8} {after : Security} (evaluates : security.Evaluates request nowSeconds capacity)
      (proved : security.Proves security.pending request) (config : after.config = security.config)
      (role : after.session.role = security.pending.role)
      (sessionId : after.session.sessionId = security.pending.sessionId) (valid : after.session.valid ≠ 0)
      (first : after.session.nextCounter = 1) (consumed : after.pending = zeroPending) :
      Finishes security request nowSeconds capacity (.ok response) after

theorem securityAuthFinish_finishes (security : Security) (request : List U8) (nowSeconds : U32) (capacity : Nat) :
    security.Finishes request nowSeconds capacity (securityAuthFinish security request nowSeconds capacity).1
      (securityAuthFinish security request nowSeconds capacity).2 := by
  unfold securityAuthFinish
  dsimp only
  split_ifs with unconfigured length small idle schema other
  · exact .refuses (fun evaluates => evaluates.1 unconfigured) rfl rfl (Or.inl rfl)
  · exact .refuses (fun evaluates => length evaluates.2.2.1) securityExpirePending_config securityExpirePending_session
      securityExpirePending_pending
  · exact .refuses (fun evaluates => absurd evaluates.2.2.2.1 (Nat.not_le.mpr small)) securityExpirePending_config
      securityExpirePending_session securityExpirePending_pending
  · refine .refuses ?_ securityExpirePending_config securityExpirePending_session securityExpirePending_pending
    rintro ⟨-, live, -⟩
    rcases securityExpirePending_cases with ⟨-, same⟩ | ⟨dead, -⟩
    · rw [same] at idle
      exact live.1 idle
    · exact dead live
  · exact .refuses (fun evaluates => schema evaluates.2.2.2.2) securityExpirePending_config securityExpirePending_session
      securityExpirePending_pending
  · obtain ⟨live, same⟩ := securityExpirePending_live idle
    exact .rejects ⟨unconfigured, live, not_not.mp length, Nat.not_lt.mp small, not_not.mp schema⟩
      securityExpirePending_config securityExpirePending_session rfl
  · obtain ⟨live, same⟩ := securityExpirePending_live idle
    have evaluates : security.Evaluates request nowSeconds capacity :=
      ⟨unconfigured, live, not_not.mp length, Nat.not_lt.mp small, not_not.mp schema⟩
    rw [same] at other ⊢
    obtain ⟨role, sessionId⟩ := not_or.mp other
    rw [not_not.mp role, not_not.mp sessionId]
    split
    · exact .rejects evaluates rfl rfl rfl
    · next proof client =>
      split_ifs with wrong
      · exact .rejects evaluates rfl rfl rfl
      · split
        · exact .rejects evaluates rfl rfl rfl
        · have size : securityTagSize ≤ proof.length := by
            obtain ⟨transcript, -, rfl⟩ := Option.map_eq_some_iff.mp client
            rw [hmacSha256_length]
            decide
          have received : securityTagSize ≤ (request.drop 6).length := by
            rw [List.length_drop, not_not.mp length]
            decide
          have matches' := (cryptoConstantTimeEqual_iff (by decide) size received).mp (by simpa using wrong)
          exact .activates evaluates ⟨not_not.mp role, not_not.mp sessionId, proof, client, matches'⟩ rfl rfl rfl
            (by decide : (1 : U8) ≠ 0) rfl rfl

inductive Security.Unwraps (security : Security) (outerRequest : Frame) (nowSeconds : U32) :
    Except SecurityResult (Frame × U64) → Security → Prop
  | refuses {result : SecurityResult} {after : Security} (config : after.config = security.config)
      (pending : after.pending = security.pending)
      (session : after.session = (securityExpireSession security nowSeconds).session) :
      Unwraps security outerRequest nowSeconds (.error result) after
  | exhausts {result : SecurityResult} {after : Security} (authentic : security.Authentic outerRequest nowSeconds)
      (config : after.config = security.config) (pending : after.pending = security.pending)
      (session : after.session = zeroSession) : Unwraps security outerRequest nowSeconds (.error result) after
  | accepts (innerRequest : Frame) (authentic : security.Authentic outerRequest nowSeconds)
      (command : innerRequest.command = secureInnerCommand outerRequest)
      (type : innerRequest.messageType = .request)
      (more : security.session.nextCounter + 1 ≠ 0) :
      Unwraps security outerRequest nowSeconds (.ok (innerRequest, secureCounter outerRequest))
        { security with session :=
            { security.session with nextCounter := security.session.nextCounter + 1, lastActivitySeconds := nowSeconds } }

def Security.UnwrapsTo (security : Security) (outerRequest : Frame) (nowSeconds : U32)
    (ran : Except SecurityResult (Frame × U64) × Security) : Prop :=
  security.Unwraps outerRequest nowSeconds ran.1 ran.2

theorem securityAuthentic {outerRequest : Frame} {nowSeconds : U32} {tag : List U8}
    (idle : ¬ (securityExpireSession security nowSeconds).session.valid = 0)
    (session : ¬ secureSessionId outerRequest ≠ (securityExpireSession security nowSeconds).session.sessionId)
    (length : ¬ outerRequest.payload.length ≠ securityRequestOverhead + secureInnerLength outerRequest)
    (tagged : securityRequestTag (securityExpireSession security nowSeconds) outerRequest
      (secureSessionId outerRequest) (secureCounter outerRequest) (secureInnerCommand outerRequest)
      (secureInnerPayload outerRequest) = some tag)
    (right : cryptoConstantTimeEqual tag (secureTag outerRequest) securityTagSize = true)
    (next : ¬ secureCounter outerRequest ≠ (securityExpireSession security nowSeconds).session.nextCounter) :
    security.Authentic outerRequest nowSeconds := by
  obtain ⟨live, same⟩ := securityExpireSession_live idle
  rw [same] at session tagged next
  have size : securityTagSize ≤ tag.length := by
    obtain ⟨transcript, -, rfl⟩ := Option.map_eq_some_iff.mp tagged
    rw [hmacSha256_length]
    decide
  have received : securityTagSize ≤ (secureTag outerRequest).length := by
    rw [secureTag, List.length_drop, not_not.mp length, securityRequestOverhead, securityTagSize]
    omega
  have equal := (cryptoConstantTimeEqual_iff (by decide) size received).mp right
  exact ⟨live, not_not.mp session, ⟨tag, tagged, equal⟩, not_not.mp next⟩

theorem securityUnwrapRequest_unwraps (security : Security) (outerRequest : Frame) (nowSeconds : U32) :
    security.Unwraps outerRequest nowSeconds (securityUnwrapRequest security outerRequest nowSeconds).1
      (securityUnwrapRequest security outerRequest nowSeconds).2 := by
  have split : security.UnwrapsTo outerRequest nowSeconds (securityUnwrapRequest security outerRequest nowSeconds) := by
    have refused {result : SecurityResult} {after : Security}
        (config : after.config = (securityExpireSession security nowSeconds).config)
        (pending : after.pending = (securityExpireSession security nowSeconds).pending)
        (session : after.session = (securityExpireSession security nowSeconds).session) :
        security.UnwrapsTo outerRequest nowSeconds (.error result, after) :=
      .refuses (config.trans securityExpireSession_config) (pending.trans securityExpireSession_pending) session
    unfold securityUnwrapRequest
    dsimp only
    apply Check.cases
    · exact fun _ => refused rfl rfl rfl
    intro idle
    apply Check.either
    · exact refused rfl rfl rfl
    apply Check.either
    · exact refused rfl rfl rfl
    apply Check.cases
    · exact fun _ => refused rfl rfl rfl
    intro other
    apply Check.either
    · exact refused rfl rfl rfl
    apply Check.cases
    · exact fun _ => refused rfl rfl rfl
    intro length
    cases tagged : securityRequestTag (securityExpireSession security nowSeconds) outerRequest
        (secureSessionId outerRequest) (secureCounter outerRequest) (secureInnerCommand outerRequest)
        (secureInnerPayload outerRequest) with
    | none => exact refused rfl rfl rfl
    | some tag =>
      apply Check.cases
      · exact fun _ => refused rfl rfl rfl
      intro wrong
      apply Check.cases
      · exact fun _ => refused rfl rfl rfl
      intro replayed
      have authentic := securityAuthentic idle other length tagged (by simpa using wrong) replayed
      rw [(securityExpireSession_live idle).2]
      apply Check.cases
      · exact fun _ => .exhausts authentic rfl rfl rfl
      · exact fun more => .accepts _ authentic rfl rfl more
  exact split

end moves

end Guardian.Session
