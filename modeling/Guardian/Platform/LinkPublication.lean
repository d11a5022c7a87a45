import Guardian.Control.ControlFlags
import Guardian.Health.HealthScores
import Guardian.Platform.LinkSupervision
import Guardian.Security.SecurityRoles

namespace Guardian.Platform

open Word Guardian.Protocol Guardian.App Guardian.Dsp Guardian.Health Guardian.Supervision Guardian.Session
  Guardian.Firmware

section core

variable {α ρ : Type} {outcome : Nat → Bool}

theorem LinkCore.Moves.flagged {before after : LinkCore α ρ} {commanded : Option ControlAction}
    (moves : before.Moves outcome commanded after) (flagged : before.control.Flagged) : after.control.Flagged := by
  cases moves with
  | stays => exact flagged
  | syncs => rwa [LinkCore.synced_control]
  | follows health =>
    rw [LinkCore.synced_control]
    exact controlUpdateHealth_flagged outcome flagged _
  | inputs operation isLocal =>
    rw [LinkCore.synced_control]
    exact step_flagged outcome operation flagged
  | acts action asked =>
    rw [LinkCore.synced_control]
    exact controlAction_flagged outcome flagged action

end core

structure EmbeddedLink.Ranged {α ρ : Type} (link : EmbeddedLink α ρ) : Prop where
  scored : link.health.Scored
  named : link.security.Named

section dispatch

variable {α ρ : Type} (platform : LinkPlatform) {link : EmbeddedLink α ρ}

theorem EmbeddedLink.Ranged.counted (ranged : link.Ranged) (stats : LinkStats) :
    ({ link with stats } : EmbeddedLink α ρ).Ranged := ⟨ranged.scored, ranged.named⟩

theorem embeddedSyncControlState_health (link : EmbeddedLink α ρ) :
    (embeddedSyncControlState link).health = link.health := by
  unfold embeddedSyncControlState
  dsimp only
  split_ifs <;> rfl

theorem embeddedSyncControlState_ranged (ranged : link.Ranged) : (embeddedSyncControlState link).Ranged := by
  constructor
  · rw [embeddedSyncControlState_health]
    exact ranged.scored
  · rw [embeddedSyncControlState_security]
    exact ranged.named

variable [Zero ρ]

theorem embeddedDispatchPrivileged_ranged (ranged : link.Ranged) (request : Frame) :
    (embeddedDispatchPrivileged platform link request).2.Ranged := by
  unfold embeddedDispatchPrivileged
  dsimp only
  split_ifs
  · have handled : (healthHandleRequest link.health request).2.Scored := healthHandleRequest_scored ranged.scored request
    obtain ⟨answer, answered, -⟩ := healthHandleRequest_answers link.health request
    rw [answered]
    dsimp only
    split_ifs
    · exact embeddedSyncControlState_ranged ⟨handled, ranged.named⟩
    · exact ⟨handled, ranged.named⟩
  · exact embeddedSyncControlState_ranged ⟨ranged.scored, ranged.named⟩
  all_goals exact ⟨ranged.scored, ranged.named⟩

theorem embeddedAuthorize_ranged (ranged : link.Ranged) (protocolResult : ProtocolResult) (request : Frame) :
    (embeddedAuthorize platform protocolResult link request).2.Ranged := by
  have authorized := securityAuthorize_named ranged.named request.command
  unfold embeddedAuthorize
  dsimp only
  split_ifs
  · apply embeddedDispatchPrivileged_ranged
    exact ⟨ranged.scored, authorized⟩
  · exact ⟨ranged.scored, authorized⟩
  · exact ⟨ranged.scored, authorized⟩

theorem embeddedSecureCommand_ranged (ranged : link.Ranged) (protocolResult : ProtocolResult) (request : Frame)
    (nowSeconds : U32) : (embeddedSecureCommand platform protocolResult link request nowSeconds).link.Ranged := by
  have unwrapped := securityUnwrapRequest_named ranged.named request nowSeconds
  unfold embeddedSecureCommand
  dsimp only
  generalize securityUnwrapRequest link.security request nowSeconds = result at unwrapped ⊢
  obtain ⟨failed | ⟨innerRequest, counter⟩, security⟩ := result
  · exact ⟨ranged.scored, unwrapped⟩
  · dsimp only
    rw [embeddedWrap_link]
    apply embeddedAuthorize_ranged
    exact ⟨ranged.scored, unwrapped⟩

theorem embeddedService_ranged (ranged : link.Ranged) (request : Frame) (runtimeSeconds : U32) :
    (embeddedService platform link request runtimeSeconds).2.Ranged := by
  unfold embeddedService
  dsimp only
  split_ifs
  · exact ⟨ranged.scored, ranged.named⟩
  · exact ranged
  · exact ⟨healthHandleRequest_scored ranged.scored request, ranged.named⟩
  · exact embeddedDispatchPrivileged_ranged platform ranged request
  · exact embeddedSyncControlState_ranged ⟨ranged.scored, ranged.named⟩
  · exact embeddedDispatchPrivileged_ranged platform ranged request
  · exact ranged

theorem embeddedDispatch_ranged (ranged : link.Ranged) (protocolResult : ProtocolResult) (request : Frame)
    (nowSeconds runtimeSeconds : U32) :
    (embeddedDispatch platform protocolResult link request nowSeconds runtimeSeconds).link.Ranged := by
  unfold embeddedDispatch
  split_ifs
  · exact ⟨ranged.scored, securityAuthBegin_named ranged.named _ _ _ _⟩
  · exact ⟨ranged.scored, securityAuthFinish_named ranged.named _ _ _⟩
  · unfold embeddedGetSecurityStatus
    split_ifs
    · exact ranged
    · exact ⟨ranged.scored, securityStatus_named ranged.named nowSeconds⟩
  · unfold embeddedGetFirmwareStatus
    split_ifs <;> exact ranged
  · exact embeddedSecureCommand_ranged platform ranged protocolResult request nowSeconds
  · exact ranged
  · dsimp only
    rw [PollBranch.handled_link]
    exact embeddedService_ranged platform ranged request runtimeSeconds

theorem embeddedReceive_ranged (environment : PollEnvironment) (loop : PollLoop α ρ) (byte : U8)
    (ranged : loop.link.Ranged) : (embeddedReceive platform environment loop byte).link.Ranged := by
  unfold embeddedReceive
  dsimp only
  cases (parserPushByte loop.link.parser byte).1 with
  | frameReady request =>
    obtain ⟨stats, handled⟩ := embeddedHandleFrame_stats environment platform
      { loop with link := { loop.link with parser := (parserPushByte loop.link.parser byte).2 } } request
    rw [handled]
    apply EmbeddedLink.Ranged.counted
    apply embeddedDispatch_ranged
    exact ⟨ranged.scored, ranged.named⟩
  | _ => exact ⟨ranged.scored, ranged.named⟩

end dispatch

structure EmbeddedLink.Publishable {α ρ : Type} (link : EmbeddedLink α ρ) : Prop where
  sound : link.core.Sound
  flagged : link.control.Flagged
  ranged : link.Ranged

section operate

variable {α ρ : Type} [HealthNumber ρ] (platform : LinkPlatform)

theorem embeddedReceive_publishable (environment : PollEnvironment) (loop : PollLoop α ρ) (byte : U8)
    (publishable : loop.link.Publishable) : (embeddedReceive platform environment loop byte).link.Publishable := by
  have moves := embeddedReceive_moves platform environment loop byte
  exact ⟨moves.sound publishable.sound, moves.flagged publishable.flagged,
    embeddedReceive_ranged platform environment loop byte publishable.ranged⟩

theorem embeddedReceive_run_publishable (environment : PollEnvironment) {loop : PollLoop α ρ}
    (publishable : loop.link.Publishable) (received : List U8) :
    (Run.after (embeddedReceive platform environment) received loop).link.Publishable :=
  @Run.after_invariant _ _ (embeddedReceive platform environment) (fun loop : PollLoop α ρ => loop.link.Publishable)
    (embeddedReceive_publishable platform environment) _ publishable received

theorem embeddedLinkPoll_publishable (environment : PollEnvironment) {link : EmbeddedLink α ρ}
    (publishable : link.Publishable) (incoming : List U8) (rxBudget : Nat) :
    (embeddedLinkPoll platform environment link incoming rxBudget).link.Publishable := by
  have started : (embeddedPollStart link).link.Publishable := publishable
  have received := embeddedReceive_run_publishable platform environment started (embeddedConsumed incoming rxBudget)
  unfold embeddedLinkPoll
  obtain ⟨telemetry, stats, flushed⟩ := embeddedFlushTelemetry_link environment
    (Run.after (embeddedReceive platform environment) (embeddedConsumed incoming rxBudget) (embeddedPollStart link))
  rw [flushed]
  exact ⟨received.sound, received.flagged, received.ranged.scored, received.ranged.named⟩

theorem embeddedOperate_flagged (link : EmbeddedLink α ρ) (operation : LinkOperation α)
    (flagged : link.control.Flagged)
    (poll : ∀ incoming rxBudget environment, operation ≠ .poll incoming rxBudget environment)
    (publish : ∀ state, operation ≠ .setState state) : (embeddedOperate platform link operation).control.Flagged :=
  (embeddedOperate_moves platform link poll publish).flagged flagged

variable [RoundedOrder ρ]

theorem embeddedOperate_ranged (link : EmbeddedLink α ρ) (operation : LinkOperation α) (ranged : link.Ranged)
    (poll : ∀ incoming rxBudget environment, operation ≠ .poll incoming rxBudget environment) :
    (embeddedOperate platform link operation).Ranged := by
  cases operation with
  | poll incoming rxBudget environment => exact absurd rfl (poll incoming rxBudget environment)
  | setState state =>
    unfold embeddedOperate embeddedSetState
    dsimp only
    split_ifs
    · exact ranged
    · exact ⟨ranged.scored, ranged.named⟩
  | updateDsp features =>
    apply embeddedSyncControlState_ranged
    exact ⟨healthIngest_scored ranged.scored features, ranged.named⟩
  | configureControlOutput output => exact embeddedSyncControlState_ranged ⟨ranged.scored, ranged.named⟩
  | setLocalRunRequest requested => exact embeddedSyncControlState_ranged ⟨ranged.scored, ranged.named⟩
  | setInterlock closed => exact embeddedSyncControlState_ranged ⟨ranged.scored, ranged.named⟩
  | configureSecurity config => exact ⟨ranged.scored, securityConfigure_named ranged.named config⟩
  | securityStatus nowSeconds => exact ⟨ranged.scored, securityStatus_named ranged.named nowSeconds⟩
  | _ => exact ⟨ranged.scored, ranged.named⟩

theorem embeddedOperate_publishable (link : EmbeddedLink α ρ) (operation : LinkOperation α)
    (publishable : link.Publishable) : (embeddedOperate platform link operation).Publishable := by
  have sound := embeddedOperate_sound platform link operation publishable.sound
  cases operation with
  | poll incoming rxBudget environment =>
    exact embeddedLinkPoll_publishable platform environment publishable incoming rxBudget
  | setState state =>
    have flagged : (embeddedSetState link state).control.Flagged := by
      unfold embeddedSetState
      dsimp only
      split_ifs <;> exact publishable.flagged
    exact ⟨sound, flagged, embeddedOperate_ranged platform link _ publishable.ranged (by simp)⟩
  | _ =>
    exact ⟨sound, embeddedOperate_flagged platform link _ publishable.flagged (by simp) (by simp),
      embeddedOperate_ranged platform link _ publishable.ranged (by simp)⟩

theorem embeddedRun_publishable (flash : FirmwarePlatform) (identity : DeviceIdentity)
    (operations : List (LinkOperation α)) :
    (embeddedRun platform flash identity operations : EmbeddedLink α ρ).Publishable := by
  have started : (embeddedLinkInit flash identity : ProtocolResult × EmbeddedLink α ρ).2.Publishable := by
    refine ⟨embeddedLinkInit_sound flash identity, ?_, ?_⟩
    · unfold embeddedLinkInit
      dsimp only
      split <;> exact controlInit_flagged
    · unfold embeddedLinkInit
      dsimp only
      split <;> exact ⟨healthReset_scored, securityInit_named⟩
  exact @Run.after_invariant _ _ (embeddedOperate platform) (fun link : EmbeddedLink α ρ => link.Publishable)
    (embeddedOperate_publishable platform) _ started operations

end operate

end Guardian.Platform
