import Guardian.App.FirmwareApp

namespace Guardian.App

open Word Guardian.Protocol Guardian.Platform Guardian.Session Guardian.Health Guardian.Firmware

section lifetime

variable {ρ : Type}

def Recorded (uptimeMs : U32) (since : Nat) (seconds : U32) : Prop :=
  since ≤ uptimeMs.toNat ∧ seconds.toNat = (uptimeMs.toNat - since) / 1000

theorem firmwareUptimeSeconds_toNat (uptimeMs : U32) : (firmwareUptimeSeconds uptimeMs).toNat = uptimeMs.toNat / 1000 :=
  BitVec.toNat_udiv

theorem Recorded.now (uptimeMs : U32) : Recorded uptimeMs 0 (firmwareUptimeSeconds uptimeMs) :=
  ⟨Nat.zero_le _, firmwareUptimeSeconds_toNat uptimeMs⟩

theorem Recorded.tick {uptimeMs : U32} {since : Nat} {seconds : U32} (recorded : Recorded uptimeMs since seconds)
    (running : uptimeMs ≠ 0xFFFFFFFF) : Recorded (uptimeMs + 1) (since + 1) seconds := by
  have raised : (uptimeMs + 1).toNat = uptimeMs.toNat + 1 := by
    have full : uptimeMs.toNat ≠ 0xFFFFFFFF := fun full => running (BitVec.eq_of_toNat_eq full)
    have one : (1 : U32).toNat = 1 := rfl
    rw [BitVec.toNat_add, one]
    omega
  obtain ⟨past, same⟩ := recorded
  refine ⟨by omega, ?_⟩
  rw [same, raised]
  congr 1
  omega

theorem Recorded.bounds {uptimeMs : U32} {since : Nat} {seconds limit : U32} (recorded : Recorded uptimeMs since seconds)
    (fresh : firmwareUptimeSeconds uptimeMs - seconds < limit) : since < 1000 * limit.toNat := by
  obtain ⟨past, same⟩ := recorded
  have clock := firmwareUptimeSeconds_toNat uptimeMs
  have bounded := uptimeMs.isLt
  have elapsed : (firmwareUptimeSeconds uptimeMs - seconds).toNat =
      (firmwareUptimeSeconds uptimeMs).toNat - seconds.toNat := by
    apply BitVec.toNat_sub_of_le
    rw [BitVec.le_def]
    omega
  rw [BitVec.lt_def, elapsed] at fresh
  omega

structure FirmwareHistory.Timed (history : FirmwareHistory ρ) : Prop where
  session : history.app.loop.link.security.session.valid ≠ 0 →
    Recorded history.app.uptimeMs history.sinceActivity history.app.loop.link.security.session.lastActivitySeconds
  pending : history.app.loop.link.security.pending.valid ≠ 0 →
    Recorded history.app.uptimeMs history.sinceChallenge history.app.loop.link.security.pending.startedSeconds

variable [HealthNumber ρ] (platform : LinkPlatform)

theorem embeddedReceive_ages (app : FirmwareApp ρ) (byte : U8) (accepts : Nat → Bool) :
    app.loop.link.security.Ages
      (embeddedReceive platform (app.environment accepts) app.loop byte).link.security
      (firmwareUptimeSeconds app.uptimeMs)
      (app.opens (.receive byte accepts) || app.accepts (.receive byte accepts))
      (app.challenges platform (.receive byte accepts)) := by
  unfold embeddedReceive FirmwareApp.opens FirmwareApp.accepts FirmwareApp.challenges FirmwareApp.completed
  dsimp only
  cases (parserPushByte app.loop.link.parser byte).1 with
  | frameReady request =>
    obtain ⟨stats, handled⟩ := embeddedHandleFrame_stats (app.environment accepts) platform
      { app.loop with link := { app.loop.link with parser := (parserPushByte app.loop.link.parser byte).2 } } request
    rw [handled]
    exact embeddedDispatch_ages platform
      (EmbeddedLink.received { app.loop.link with parser := (parserPushByte app.loop.link.parser byte).2 }) request
      (firmwareUptimeSeconds app.uptimeMs) _ _
  | _ => exact .unchanged _ (Or.inl rfl) (Or.inl rfl)

theorem embeddedOperate_untimed (link : EmbeddedLink Unit ρ) {operation : LinkOperation Unit}
    (untimed : LinkOperation.Untimed operation) (nowSeconds : U32) :
    link.security.Ages (embeddedOperate platform link operation).security nowSeconds false false := by
  apply embeddedOperate_ages platform link
  rintro incoming rxBudget environment rfl
  exact untimed

theorem embeddedOperate_idle {link : EmbeddedLink Unit ρ} {operation : LinkOperation Unit}
    (untimed : LinkOperation.Untimed operation)
    (idle : link.security.session.valid = 0 ∧ link.security.pending.valid = 0) :
    (embeddedOperate platform link operation).security.session.valid = 0 ∧
      (embeddedOperate platform link operation).security.pending.valid = 0 := by
  have ages := embeddedOperate_untimed platform link untimed 0
  constructor
  · by_contra valid
    rcases ages.session valid with ⟨renewed, -⟩ | ⟨-, same⟩
    · exact absurd renewed (by decide)
    · exact valid ((congrArg SecuritySession.valid same).trans idle.1)
  · by_contra valid
    rcases ages.pending valid with ⟨renewed, -⟩ | ⟨-, same⟩
    · exact absurd renewed (by decide)
    · exact valid ((congrArg SecurityPending.valid same).trans idle.2)

theorem firmwareAppInit_idle (flash : FirmwarePlatform) (deviceId : U32) :
    (firmwareAppInit platform flash deviceId : FirmwareApp ρ).loop.link.security.session.valid = 0 ∧
      (firmwareAppInit platform flash deviceId : FirmwareApp ρ).loop.link.security.pending.valid = 0 := by
  have started (identity : DeviceIdentity) :
      (embeddedLinkInit flash identity : ProtocolResult × EmbeddedLink Unit ρ).2.security.session.valid = 0 ∧
        (embeddedLinkInit flash identity : ProtocolResult × EmbeddedLink Unit ρ).2.security.pending.valid = 0 := by
    unfold embeddedLinkInit
    dsimp only
    split <;> exact ⟨rfl, rfl⟩
  unfold firmwareAppInit
  dsimp only [embeddedPollStart, Run.after_cons, Run.after_nil]
  refine embeddedOperate_idle platform ?_ (embeddedOperate_idle platform ?_ (embeddedOperate_idle platform ?_
    (embeddedOperate_idle platform ?_ (started _))))
  all_goals exact trivial

omit [HealthNumber ρ] in
theorem FirmwareHistory.Timed.ages {history after : FirmwareHistory ρ} (timed : history.Timed)
    {renewed challenged : Bool} (uptime : after.app.uptimeMs = history.app.uptimeMs)
    (ages : history.app.loop.link.security.Ages after.app.loop.link.security
      (firmwareUptimeSeconds history.app.uptimeMs) renewed challenged)
    (activity : after.sinceActivity = if renewed then 0 else history.sinceActivity)
    (challenge : after.sinceChallenge = if challenged then 0 else history.sinceChallenge) : after.Timed := by
  constructor
  · intro valid
    rw [uptime, activity]
    rcases ages.session valid with ⟨rfl, now⟩ | ⟨rfl, same⟩
    · rw [now]
      exact Recorded.now _
    · rw [same] at valid ⊢
      exact timed.session valid
  · intro valid
    rw [uptime, challenge]
    rcases ages.pending valid with ⟨rfl, now⟩ | ⟨rfl, same⟩
    · rw [now]
      exact Recorded.now _
    · rw [same] at valid ⊢
      exact timed.pending valid

theorem FirmwareHistory.step_timed (history : FirmwareHistory ρ) (event : FirmwareEvent) (timed : history.Timed)
    (running : event = .tick → history.app.uptimeMs ≠ 0xFFFFFFFF) : (history.step platform event).Timed := by
  have same : history.app.loop.link.security.Ages history.app.loop.link.security
      (firmwareUptimeSeconds history.app.uptimeMs) false false := .unchanged _ (Or.inl rfl) (Or.inl rfl)
  cases event with
  | tick =>
    have raised : (history.step platform .tick).app.uptimeMs = history.app.uptimeMs + 1 := if_pos (running rfl)
    constructor
    · intro valid
      rw [raised]
      exact (timed.session valid).tick (running rfl)
    · intro valid
      rw [raised]
      exact (timed.pending valid).tick (running rfl)
  | pollStart => exact timed.ages rfl same rfl rfl
  | receive byte accepts => exact timed.ages rfl (embeddedReceive_ages platform history.app byte accepts) rfl rfl
  | pollEnd accepts =>
    obtain ⟨telemetry, stats, flushed⟩ :=
      embeddedFlushTelemetry_link (history.app.environment accepts) history.app.loop
    have security : (embeddedFlushTelemetry (history.app.environment accepts) history.app.loop).link.security =
        history.app.loop.link.security := by
      rw [flushed]
    have ages := same.congr (congrArg Security.session security) (congrArg Security.pending security)
    exact timed.ages rfl ages rfl rfl
  | securityStatus => exact timed.ages rfl (securityStatus_ages _ _) rfl rfl
  | call operation untimed => exact timed.ages rfl (embeddedOperate_untimed platform _ untimed _) rfl rfl

theorem firmwareRun_timed (flash : FirmwarePlatform) (deviceId : U32) {events : List FirmwareEvent}
    (running : ∀ earlier later, events = earlier ++ .tick :: later →
      (firmwareRun platform flash deviceId earlier : FirmwareHistory ρ).app.uptimeMs ≠ 0xFFFFFFFF) :
    (firmwareRun platform flash deviceId events : FirmwareHistory ρ).Timed := by
  have started : (⟨firmwareAppInit platform flash deviceId, 0, 0⟩ : FirmwareHistory ρ).Timed := by
    obtain ⟨session, pending⟩ := @firmwareAppInit_idle ρ _ platform flash deviceId
    generalize (firmwareAppInit platform flash deviceId : FirmwareApp ρ) = app at session pending ⊢
    exact ⟨fun valid => absurd session valid, fun valid => absurd pending valid⟩
  apply Run.after_guarded (FirmwareHistory.step_timed platform) started
  rintro earlier event later split rfl
  exact running earlier later split

/-- As long as no tick finds the uptime at its end, a session lasts for its timeout and a challenge for its own. -/
theorem authentication_lifetimes (flash : FirmwarePlatform) (deviceId : U32) (events : List FirmwareEvent)
    (running : ∀ earlier later, events = earlier ++ .tick :: later →
      (firmwareRun platform flash deviceId earlier : FirmwareHistory ρ).app.uptimeMs ≠ 0xFFFFFFFF)
    (event : FirmwareEvent) :
    let history : FirmwareHistory ρ := firmwareRun platform flash deviceId events
    let security := history.app.loop.link.security
    (history.app.accepts event → history.sinceActivity < 1000 * (security.config.sessionTimeoutSeconds.toNat + 1)) ∧
      (history.app.opens event → history.sinceChallenge < 1000 * (securityPendingTimeoutSeconds.toNat + 1)) := by
  intro history security
  have thirty : securityPendingTimeoutSeconds.toNat = 30 := rfl
  have timed : history.Timed := firmwareRun_timed platform flash deviceId running
  constructor
  · intro accepted
    obtain ⟨request, -, secure⟩ := (Option.any_eq_true _ _).mp accepted
    have live := linkAccepts_live secure
    have fresh := (timed.session live.1).bounds live.2
    rw [BitVec.toNat_setWidth_of_le (by decide)] at fresh
    change history.sinceActivity < 1000 * (history.app.loop.link.security.config.sessionTimeoutSeconds.toNat + 1)
    omega
  · intro accepted
    obtain ⟨request, -, proof⟩ := (Option.any_eq_true _ _).mp accepted
    have live := linkOpens_challenges proof
    have fresh := (timed.pending live.1).bounds live.2
    rw [thirty] at fresh ⊢
    omega

end lifetime

section ticks

variable {ρ : Type} [HealthNumber ρ] (platform : LinkPlatform)

theorem firmwareRun_uptime (flash : FirmwarePlatform) (deviceId : U32) (events : List FirmwareEvent) :
    (firmwareRun platform flash deviceId events : FirmwareHistory ρ).app.uptimeMs.toNat ≤ events.length := by
  have run : ∀ (events : List FirmwareEvent) (history : FirmwareHistory ρ),
      (Run.after (FirmwareHistory.step platform) events history).app.uptimeMs.toNat ≤
        history.app.uptimeMs.toNat + events.length := by
    intro events
    induction events with
    | nil => exact fun _ => Nat.le_refl _
    | cons event events ih =>
      intro history
      have step : (history.step platform event).app.uptimeMs.toNat ≤ history.app.uptimeMs.toNat + 1 := by
        cases event with
        | tick =>
          change (if history.app.uptimeMs ≠ 0xFFFFFFFF then history.app.uptimeMs + 1 else history.app.uptimeMs).toNat ≤ _
          split_ifs
          · rw [BitVec.toNat_add]
            exact Nat.mod_le _ _
          · exact Nat.le_succ _
        | _ => exact Nat.le_succ _
      have rest := ih (history.step platform event)
      rw [Run.after_cons, List.length_cons]
      omega
  exact (run events _).trans (by simp [firmwareAppInit])

theorem firmwareRun_running (flash : FirmwarePlatform) (deviceId : U32) {events : List FirmwareEvent}
    (short : events.length < 0xFFFFFFFF) (earlier later : List FirmwareEvent)
    (split : events = earlier ++ .tick :: later) :
    (firmwareRun platform flash deviceId earlier : FirmwareHistory ρ).app.uptimeMs ≠ 0xFFFFFFFF := by
  intro full
  have bounded := @firmwareRun_uptime ρ _ platform flash deviceId earlier
  rw [full] at bounded
  rw [split, List.length_append] at short
  exact absurd bounded (by simp; omega)

theorem uptime_saturates (elapsed : Nat) :
    (if BitVec.ofNat 32 (min elapsed 0xFFFFFFFF) ≠ 0xFFFFFFFF then BitVec.ofNat 32 (min elapsed 0xFFFFFFFF) + 1
      else BitVec.ofNat 32 (min elapsed 0xFFFFFFFF)) = BitVec.ofNat 32 (min (elapsed + 1) 0xFFFFFFFF) := by
  by_cases last : 0xFFFFFFFF ≤ elapsed
  · rw [Nat.min_eq_right last, Nat.min_eq_right (Nat.le_succ_of_le last)]
    rfl
  · have current : min elapsed 0xFFFFFFFF = elapsed := by omega
    have next : min (elapsed + 1) 0xFFFFFFFF = elapsed + 1 := by omega
    rw [current, next]
    apply BitVec.eq_of_toNat_eq
    rw [if_pos]
    · simp
    · intro full
      have value := congrArg BitVec.toNat full
      simp at value
      omega

omit [HealthNumber ρ] in
theorem telemetryTick1ms_disabled {telemetry : Telemetry} (disabled : telemetry.enabled = 0) (count : Nat) :
    telemetryTick1ms { telemetry with timestampMs := telemetry.timestampMs + BitVec.ofNat 32 count } =
      { telemetry with timestampMs := telemetry.timestampMs + BitVec.ofNat 32 (count + 1) } := by
  unfold telemetryTick1ms
  dsimp only
  rw [if_neg fun both => both.1 disabled]
  simp [BitVec.ofNat_add, BitVec.add_assoc]

theorem firmwareTick (history : FirmwareHistory ρ) :
    history.step platform .tick =
      ⟨firmwareAppTick history.app, history.sinceActivity + 1, history.sinceChallenge + 1⟩ := rfl

theorem firmwareTicks {history : FirmwareHistory ρ} (disabled : history.app.loop.link.telemetry.enabled = 0)
    (count : Nat) :
    Run.after (FirmwareHistory.step platform) (List.replicate count .tick) history =
      { app := FirmwareApp.withLink
          { history.app with uptimeMs := BitVec.ofNat 32 (min (history.app.uptimeMs.toNat + count) 0xFFFFFFFF) }
          { history.app.loop.link with telemetry :=
              { history.app.loop.link.telemetry with
                timestampMs := history.app.loop.link.telemetry.timestampMs + BitVec.ofNat 32 count } }
        sinceActivity := history.sinceActivity + count
        sinceChallenge := history.sinceChallenge + count } := by
  induction count with
  | zero =>
    have bounded := history.app.uptimeMs.isLt
    have same : min (history.app.uptimeMs.toNat + 0) 0xFFFFFFFF = history.app.uptimeMs.toNat := by omega
    rw [same, List.replicate_zero, Run.after_nil, BitVec.ofNat_toNat, BitVec.setWidth_eq]
    simp [FirmwareApp.withLink]
  | succ count ih =>
    have ticked := telemetryTick1ms_disabled disabled count
    rw [List.replicate_succ', Run.after_snoc, ih, firmwareTick]
    unfold firmwareAppTick FirmwareApp.withLink
    dsimp only
    rw [uptime_saturates, ticked]
    rfl

end ticks

def appPlatform : LinkPlatform :=
  ⟨fun _ => some (padded 20 [1]), fun _ => ⟨true, true, fun _ => 0⟩, fun _ => true, fun _ _ _ _ => false⟩

def appFlash : FirmwarePlatform := ⟨fun _ => 0xFF, none, 0, 0⟩

def receivedStream (command : U8) (payload : List U8) : List FirmwareEvent :=
  (Frame.wire ⟨.request, command, supportedFlags, 1, payload⟩).map fun byte => .receive byte fun _ => true

def challengeEvents : List FirmwareEvent :=
  .pollStart :: receivedStream commandAuthBegin ([1, roleAdmin] ++ List.replicate 16 0)

/-- The client proof for the challenge that the generator gives. -/
def proofEvents : List FirmwareEvent :=
  .pollStart :: receivedStream commandAuthFinish ([1, roleAdmin, 1, 0, 0, 0] ++
    [13, 62, 177, 43, 94, 71, 141, 143, 35, 212, 233, 183, 186, 49, 74, 201])

def provisionedEvents : List FirmwareEvent :=
  [.call (.configureSecurity ⟨padded 32 [7], roleAdmin, 0⟩) trivial]

theorem authentication_lifetimes_proof :
    (firmwareRun appPlatform appFlash 7 (provisionedEvents ++ challengeEvents ++ proofEvents.dropLast) :
      FirmwareHistory ℚ).sinceChallenge < 1000 * (securityPendingTimeoutSeconds.toNat + 1) := by
  have running := @firmwareRun_running ℚ _ appPlatform appFlash 7
    (provisionedEvents ++ challengeEvents ++ proofEvents.dropLast) (by decide +kernel)
  have lifetimes := authentication_lifetimes (ρ := ℚ) appPlatform appFlash 7 _ running (proofEvents.getLastD .tick)
  exact lifetimes.2 (by decide +kernel)

/-- After 2 ^ 32 - 1 ticks the clock stands still, and a client proof opens a session at any time after its challenge. -/
theorem frozen_clock_opens :
    let frozen := provisionedEvents ++ List.replicate 0xFFFFFFFF .tick
    let late := challengeEvents ++ List.replicate 31000 .tick ++ proofEvents.dropLast
    let history : FirmwareHistory ℚ := firmwareRun appPlatform appFlash 7 (frozen ++ late)
    history.app.opens (proofEvents.getLastD .tick) ∧
      ¬ history.sinceChallenge < 1000 * (securityPendingTimeoutSeconds.toNat + 1) := by
  intro frozen late history
  have provisioned : (firmwareRun appPlatform appFlash 7 provisionedEvents : FirmwareHistory ℚ).app.loop.link.telemetry.enabled = 0 := by
    decide +kernel
  have stops := firmwareTicks appPlatform provisioned 0xFFFFFFFF
  have challenged : (Run.after (FirmwareHistory.step appPlatform) challengeEvents
      (Run.after (FirmwareHistory.step appPlatform) (List.replicate 0xFFFFFFFF .tick)
        (firmwareRun appPlatform appFlash 7 provisionedEvents : FirmwareHistory ℚ))).app.loop.link.telemetry.enabled = 0 := by
    rw [stops]
    decide +kernel
  have waits := firmwareTicks appPlatform challenged 31000
  have split : history = Run.after (FirmwareHistory.step appPlatform) proofEvents.dropLast
      (Run.after (FirmwareHistory.step appPlatform) (List.replicate 31000 .tick)
        (Run.after (FirmwareHistory.step appPlatform) challengeEvents
          (Run.after (FirmwareHistory.step appPlatform) (List.replicate 0xFFFFFFFF .tick)
            (firmwareRun appPlatform appFlash 7 provisionedEvents)))) := by
    simp only [history, frozen, late, firmwareRun, Run.after_append]
  rw [split, waits, stops]
  decide +kernel

end Guardian.App
