import Guardian.Security.Security

namespace Guardian.Session

open Word ByteString Guardian.Crypto Guardian.Protocol

structure Security.Named (security : Security) : Prop where
  configured : security.configured = 0 ∨ security.configured = 1
  maxRole : security.config.maxRole ≤ roleAdmin
  pending : security.pending.role ≤ roleAdmin
  session : security.session.role ≤ roleAdmin

theorem roleNone_le : roleNone ≤ roleAdmin := by decide

theorem securityInit_named : securityInit.Named := ⟨Or.inl rfl, roleNone_le, roleNone_le, roleNone_le⟩

section steps

variable {security : Security}

theorem Security.Named.clearPending (named : security.Named) : (securityClearPending security).Named :=
  ⟨named.configured, named.maxRole, roleNone_le, named.session⟩

theorem Security.Named.clearSession (named : security.Named) : (securityClearSession security).Named :=
  ⟨named.configured, named.maxRole, named.pending, roleNone_le⟩

theorem Security.Named.failAuth (named : security.Named) : security.failAuth.Named :=
  ⟨named.configured, named.maxRole, named.pending, named.session⟩

theorem Security.Named.rejectUnauthorized (named : security.Named) : security.rejectUnauthorized.Named :=
  ⟨named.configured, named.maxRole, named.pending, named.session⟩

theorem Security.Named.rejectReplay (named : security.Named) : security.rejectReplay.Named :=
  ⟨named.configured, named.maxRole, named.pending, named.session⟩

theorem Security.Named.expirePending (named : security.Named) (nowSeconds : U32) :
    (securityExpirePending security nowSeconds).Named := by
  unfold securityExpirePending
  split_ifs
  · exact named
  · exact named.clearPending
  · exact named

theorem Security.Named.expireSession (named : security.Named) (nowSeconds : U32) :
    (securityExpireSession security nowSeconds).Named := by
  unfold securityExpireSession
  split_ifs
  · exact named
  · exact named.clearSession
  · exact named

theorem securityConfigure_named (named : security.Named) (config : SecurityConfig) :
    (securityConfigure security config).2.Named := by
  unfold securityConfigure
  by_cases range : config.maxRole < roleObserver ∨ config.maxRole > roleAdmin
  · rw [if_pos range]
    exact named
  · rw [if_neg range]
    exact ⟨Or.inr rfl, BitVec.not_lt.mp (not_or.mp range).2, roleNone_le, roleNone_le⟩

theorem securityAuthBegin_named (named : security.Named) (request : List U8) (nowSeconds : U32) (capacity : Nat)
    (random : Option (Bytes 20)) : (securityAuthBegin security request nowSeconds capacity random).2.Named := by
  unfold securityAuthBegin
  dsimp only
  split_ifs with configured size small schema role
  · exact named
  · exact named.failAuth
  · exact named
  · exact named.failAuth
  · exact named.rejectUnauthorized
  · have expired := named.expirePending nowSeconds
    have admitted : request.getD 1 0 ≤ roleAdmin :=
      BitVec.le_trans (BitVec.not_lt.mp (not_or.mp role).2) named.maxRole
    cases random with
    | none => exact expired
    | some randomBytes =>
      dsimp only
      split
      · exact ⟨expired.configured, expired.maxRole, roleNone_le, expired.session⟩
      · exact ⟨expired.configured, expired.maxRole, admitted, expired.session⟩

theorem securityAuthFinish_named (named : security.Named) (request : List U8) (nowSeconds : U32) (capacity : Nat) :
    (securityAuthFinish security request nowSeconds capacity).2.Named := by
  have expired := named.expirePending nowSeconds
  unfold securityAuthFinish
  dsimp only
  generalize securityExpirePending security nowSeconds = security at expired ⊢
  split_ifs with configured size small pending schema role
  · exact named
  · exact expired.failAuth
  · exact expired
  · exact expired.failAuth
  · exact expired.failAuth
  · exact expired.failAuth.clearPending
  · have same : request.getD 1 0 = security.pending.role := not_not.mp (not_or.mp role).1
    split
    · exact expired.clearPending
    · split_ifs
      · exact expired.failAuth.clearPending
      · split
        · exact expired.clearPending
        · have admitted : request.getD 1 0 ≤ roleAdmin := same ▸ expired.pending
          exact ⟨expired.configured, expired.maxRole, roleNone_le, admitted⟩

theorem securityUnwrapRequest_named (named : security.Named) (outerRequest : Frame) (nowSeconds : U32) :
    (securityUnwrapRequest security outerRequest nowSeconds).2.Named := by
  have expired := named.expireSession nowSeconds
  unfold securityUnwrapRequest
  dsimp only
  generalize securityExpireSession security nowSeconds = security at expired ⊢
  generalize securityRequestTag security outerRequest _ _ _ _ = tag
  cases tag with
  | none =>
    dsimp only
    split_ifs
    · exact expired.rejectUnauthorized
    · exact expired.failAuth
    · exact expired.failAuth
    · exact expired.rejectUnauthorized
    · exact expired.failAuth
    · exact expired.failAuth
    · exact expired
  | some expectedTag =>
    dsimp only
    split_ifs
    · exact expired.rejectUnauthorized
    · exact expired.failAuth
    · exact expired.failAuth
    · exact expired.rejectUnauthorized
    · exact expired.failAuth
    · exact expired.failAuth
    · exact expired.failAuth
    · exact expired.rejectReplay
    · exact expired.clearSession
    · exact ⟨expired.configured, expired.maxRole, expired.pending, expired.session⟩

theorem securityAuthorize_named (named : security.Named) (command : U8) :
    (securityAuthorize security command).2.Named := by
  unfold securityAuthorize
  split_ifs
  · exact named
  · exact named.rejectUnauthorized
  · exact named

theorem securityStatus_named (named : security.Named) (nowSeconds : U32) :
    (securityStatus security nowSeconds).2.Named := by
  have expired := (named.expirePending nowSeconds).expireSession nowSeconds
  unfold securityStatus
  dsimp only
  split_ifs <;> exact expired

theorem securityStatus_names (named : security.Named) (nowSeconds : U32) :
    let status := (securityStatus security nowSeconds).1
    (status.configured = 0 ∨ status.configured = 1) ∧ (status.active = 0 ∨ status.active = 1) ∧
      status.activeRole ≤ roleAdmin := by
  have expired := (named.expirePending nowSeconds).expireSession nowSeconds
  unfold securityStatus
  dsimp only
  generalize securityExpireSession (securityExpirePending security nowSeconds) nowSeconds = security at expired ⊢
  by_cases active : security.session.valid ≠ 0
  · rw [if_pos active]
    exact ⟨expired.configured, Or.inr rfl, expired.session⟩
  · rw [if_neg active]
    exact ⟨expired.configured, Or.inl rfl, roleNone_le⟩

end steps

end Guardian.Session
