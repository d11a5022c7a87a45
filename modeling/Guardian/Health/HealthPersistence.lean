import Guardian.Health.HealthBaseline
import Guardian.Health.HealthScores

namespace Guardian.Health

open Word Dsp HealthNumber

section levels

variable {ρ : Type} [HealthNumber ρ]

def AlarmLevel (deviation : ρ) : Prop := atMost healthAlarmZ deviation = true
def WarningLevel (deviation : ρ) : Prop := atMost healthWarningZ deviation = true
def RecoveryLevel (deviation : ρ) : Prop := less deviation healthRecoveryZ = true

def healthDeviation (health : HealthModel ρ) (features : DspFeatures) : ρ :=
  (healthWorst health features).maximumWeightedZ

omit [HealthNumber ρ] in
def HealthModel.Scores (health : HealthModel ρ) (features : DspFeatures) : Prop :=
  healthInputValid features = true ∧
    (health.baselineSampleRateHz = 0 ∨ features.sampleRateHz.setWidth 32 = health.baselineSampleRateHz) ∧
    (health.status.state = .ready ∨ health.status.state = .warning ∨ health.status.state = .alarm)

omit [HealthNumber ρ] in
def HealthModel.Rejects (health : HealthModel ρ) (features : DspFeatures) : Prop :=
  healthInputValid features = false ∨
    health.baselineSampleRateHz ≠ 0 ∧ features.sampleRateHz.setWidth 32 ≠ health.baselineSampleRateHz

instance (health : HealthModel ρ) (features : DspFeatures) : Decidable (health.Scores features) := by
  unfold HealthModel.Scores
  infer_instance

/-- The model beside the deviations of the blocks that have been scored. -/
structure HealthHistory (ρ : Type) where
  health : HealthModel ρ
  deviations : List ρ

def HealthHistory.ingest (history : HealthHistory ρ) (features : DspFeatures) : HealthHistory ρ where
  health := healthIngest history.health features
  deviations :=
    if history.health.Scores features then history.deviations ++ [healthDeviation history.health features]
    else history.deviations

end levels

/-- The last `count` items all have a property. -/
def LastAll {α : Type} (property : α → Prop) (count : ℕ) (items : List α) : Prop :=
  ∃ earlier recent, items = earlier ++ recent ∧ recent.length = count ∧ ∀ item ∈ recent, property item

section recent

variable {α : Type} {property : α → Prop} {count : ℕ} {items : List α} {item : α}

theorem LastAll.none : LastAll property 0 items := ⟨items, [], by simp⟩

theorem LastAll.snoc (last : LastAll property count items) (holds : property item) :
    LastAll property (count + 1) (items ++ [item]) := by
  obtain ⟨earlier, recent, rfl, length, all⟩ := last
  refine ⟨earlier, recent ++ [item], by simp, by simp [length], fun other member => ?_⟩
  rcases List.mem_append.mp member with member | member
  · exact all other member
  · rw [List.mem_singleton.mp member]
    exact holds

theorem LastAll.fewer (last : LastAll property count items) {fewer : ℕ} (less : fewer ≤ count) :
    LastAll property fewer items := by
  obtain ⟨earlier, recent, rfl, length, all⟩ := last
  refine ⟨earlier ++ recent.take (count - fewer), recent.drop (count - fewer), by simp, by simp; omega, ?_⟩
  intro item member
  exact all item (List.mem_of_mem_drop member)

end recent

section persistence

variable {ρ : Type} [HealthNumber ρ]

/-- What the blocks scored so far must be for a change of state, and that rejected blocks change nothing. -/
structure StepPersists (before after : HealthHistory ρ) (features : DspFeatures) : Prop where
  alarm : before.health.status.state ≠ .alarm → after.health.status.state = .alarm →
    LastAll AlarmLevel 2 after.deviations
  warning : before.health.status.state ≠ .warning → after.health.status.state = .warning →
    LastAll AlarmLevel 1 after.deviations ∨ LastAll WarningLevel 3 after.deviations
  ready : before.health.status.state = .warning ∨ before.health.status.state = .alarm →
    after.health.status.state = .ready → LastAll RecoveryLevel 5 after.deviations
  rejected : before.health.Rejects features → after.deviations = before.deviations ∧
    ∃ total count flags, after.health = { before.health with
      rejectedInputsTotal := total
      status := { before.health.status with rejectedInputs := count, qualityFlags := flags } }

/-- An alarm-level block outside of ALARM does not come right after a block between the two thresholds. -/
def HealthHistory.SevereTwice (history : HealthHistory ρ) (features : DspFeatures) : Prop :=
  history.health.Scores features → history.health.status.state ≠ .alarm →
    AlarmLevel (healthDeviation history.health features) →
    ∀ last ∈ history.deviations.getLast?, WarningLevel last → AlarmLevel last

/-- Histories from the start of a baseline, in which every block meets a condition. -/
inductive HealthReached (condition : HealthHistory ρ → DspFeatures → Prop) : HealthHistory ρ → Prop
  | start {before started : HealthModel ρ} {target : U16}
      (starts : healthStartBaseline before target = (true, started)) : HealthReached condition ⟨started, []⟩
  | ingest {history : HealthHistory ρ} (reached : HealthReached condition history) {features : DspFeatures}
      (met : condition history features) : HealthReached condition (history.ingest features)

/-- The streaks count blocks of their level, and there are none before the baseline is learned. -/
structure HealthHistory.Streaks (history : HealthHistory ρ) : Prop where
  anomalous : LastAll WarningLevel history.health.anomalousStreak.toNat history.deviations
  recovery : LastAll RecoveryLevel history.health.recoveryStreak.toNat history.deviations
  learning : history.health.status.state = .learning → history.health.anomalousStreak = 0 ∧
    history.health.recoveryStreak = 0

variable {history : HealthHistory ρ}

theorem healthIncrementU8_le (value : U8) : (healthIncrementU8 value).toNat ≤ value.toNat + 1 := by
  unfold healthIncrementU8
  split_ifs <;> bv_omega

theorem alarm_is_warning [RoundedOrder ρ] {deviation : ρ} (alarm : AlarmLevel deviation) : WarningLevel deviation := by
  have thresholds : atMost (healthWarningZ : ρ) healthAlarmZ = true :=
    (RoundedOrder.atMost_whole (show 3 ≤ 65535 by decide) (show 6 ≤ 65535 by decide)).mpr (by decide)
  exact RoundedOrder.atMost_trans thresholds alarm

theorem healthScore_qualifies (health : HealthModel ρ) (features : DspFeatures) :
    let scored := healthScore health features
    let qualified := healthQualify health (healthDeviation health features)
    scored.status.state = qualified.status.state ∧ scored.anomalousStreak = qualified.anomalousStreak ∧
      scored.recoveryStreak = qualified.recoveryStreak := by
  unfold healthScore healthQualify healthDeviation
  dsimp only
  split_ifs <;> exact ⟨rfl, rfl, rfl⟩

theorem healthIngest_scores {health : HealthModel ρ} {features : DspFeatures} (scores : health.Scores features) :
    healthIngest health features = healthScore health features := by
  obtain ⟨valid, rate, state⟩ := scores
  have same : ¬ (health.baselineSampleRateHz ≠ 0 ∧ features.sampleRateHz.setWidth 32 ≠ health.baselineSampleRateHz) := by
    rcases rate with none | same
    · simp [none]
    · simp [same]
  unfold healthIngest
  rw [if_neg (by simp [valid]), if_neg same]
  rcases state with state | state | state <;> rw [state]

theorem healthIngest_rejects {health : HealthModel ρ} {features : DspFeatures} (rejects : health.Rejects features) :
    ∃ flag, healthIngest health features = healthRejectInput health flag := by
  unfold healthIngest
  by_cases valid : healthInputValid features = true
  · rcases rejects with invalid | rate
    · rw [valid] at invalid
      cases invalid
    · rw [if_neg (by simp [valid]), if_pos rate]
      exact ⟨_, rfl⟩
  · rw [if_pos (by simpa using valid)]
    exact ⟨_, rfl⟩

omit [HealthNumber ρ] in
theorem HealthModel.Rejects.not_scores {health : HealthModel ρ} {features : DspFeatures}
    (rejects : health.Rejects features) : ¬ health.Scores features := by
  rintro ⟨valid, rate, -⟩
  rcases rejects with invalid | ⟨learned, differs⟩
  · rw [valid] at invalid
    cases invalid
  · rcases rate with none | same
    · exact learned none
    · exact differs same

theorem healthIngest_other {health : HealthModel ρ} {features : DspFeatures} (scores : ¬ health.Scores features)
    (accepts : ¬ health.Rejects features) :
    health.status.state = .learning ∧ healthIngest health features = healthLearn health features ∨
      health.status.state = .untrained ∧ healthIngest health features = health := by
  unfold HealthModel.Rejects at accepts
  push Not at accepts
  obtain ⟨valid, rate⟩ := accepts
  rw [Bool.ne_false_iff] at valid
  have same : ¬ (health.baselineSampleRateHz ≠ 0 ∧ features.sampleRateHz.setWidth 32 ≠ health.baselineSampleRateHz) := by
    rintro ⟨learned, differs⟩
    exact differs (rate learned)
  have known : health.baselineSampleRateHz = 0 ∨ features.sampleRateHz.setWidth 32 = health.baselineSampleRateHz := by
    by_cases none : health.baselineSampleRateHz = 0
    · exact .inl none
    · exact .inr (rate none)
  unfold healthIngest
  rw [if_neg (by simp [valid]), if_neg same]
  cases state : health.status.state with
  | learning => exact .inl ⟨rfl, rfl⟩
  | untrained => exact .inr ⟨rfl, rfl⟩
  | ready => exact absurd ⟨valid, known, .inl state⟩ scores
  | warning => exact absurd ⟨valid, known, .inr (.inl state)⟩ scores
  | alarm => exact absurd ⟨valid, known, .inr (.inr state)⟩ scores

theorem healthLearn_state (health : HealthModel ρ) (features : DspFeatures) :
    ((healthLearn health features).status.state = health.status.state ∨
      (healthLearn health features).status.state = .ready) ∧
    (healthLearn health features).anomalousStreak = health.anomalousStreak ∧
    (healthLearn health features).recoveryStreak = health.recoveryStreak := by
  unfold healthLearn healthFinishBaseline healthUpdateBaselineSummary
  dsimp only
  split_ifs <;> simp

theorem healthQualify_streaks [RoundedOrder ρ] {health : HealthModel ρ} {deviations : List ρ}
    (anomalous : LastAll WarningLevel health.anomalousStreak.toNat deviations)
    (recovery : LastAll RecoveryLevel health.recoveryStreak.toNat deviations) (deviation : ρ) :
    LastAll WarningLevel (healthQualify health deviation).anomalousStreak.toNat (deviations ++ [deviation]) ∧
      LastAll RecoveryLevel (healthQualify health deviation).recoveryStreak.toNat (deviations ++ [deviation]) := by
  have longer (warns : WarningLevel deviation) :
      LastAll WarningLevel (healthIncrementU8 health.anomalousStreak).toNat (deviations ++ [deviation]) :=
    (anomalous.snoc warns).fewer (healthIncrementU8_le _)
  unfold healthQualify
  by_cases alarm : atMost healthAlarmZ deviation = true
  · rw [if_pos alarm]
    exact ⟨longer (alarm_is_warning alarm), .none⟩
  rw [if_neg alarm]
  by_cases warns : atMost healthWarningZ deviation = true
  · rw [if_pos warns]
    exact ⟨longer warns, .none⟩
  rw [if_neg warns]
  by_cases recovers : less deviation healthRecoveryZ = true
  · rw [if_pos recovers]
    exact ⟨.none, (recovery.snoc recovers).fewer (healthIncrementU8_le _)⟩
  · rw [if_neg recovers]
    exact ⟨.none, .none⟩

theorem HealthHistory.Streaks.ingest [RoundedOrder ρ] (streaks : history.Streaks) (features : DspFeatures) :
    (history.ingest features).Streaks := by
  by_cases scores : history.health.Scores features
  · obtain ⟨state, anomalous, recovery⟩ := healthScore_qualifies history.health features
    obtain ⟨warned, recovered⟩ := healthQualify_streaks streaks.anomalous streaks.recovery
      (healthDeviation history.health features)
    refine ⟨?_, ?_, ?_⟩
    · simpa [HealthHistory.ingest, healthIngest_scores scores, scores, anomalous] using warned
    · simpa [HealthHistory.ingest, healthIngest_scores scores, scores, recovery] using recovered
    · simp only [HealthHistory.ingest, healthIngest_scores scores, state]
      intro learning
      exfalso
      obtain ⟨-, -, trained⟩ := scores
      unfold healthQualify at learning
      dsimp only at learning
      split_ifs at learning <;> simp_all
  · by_cases rejects : history.health.Rejects features
    · obtain ⟨flag, rejected⟩ := healthIngest_rejects rejects
      unfold HealthHistory.ingest
      rw [rejected, if_neg scores]
      exact ⟨streaks.anomalous, streaks.recovery, streaks.learning⟩
    · rcases healthIngest_other scores rejects with ⟨learning, learns⟩ | ⟨-, same⟩
      · obtain ⟨-, anomalous, recovery⟩ := healthLearn_state history.health features
        obtain ⟨none, zero⟩ := streaks.learning learning
        refine ⟨?_, ?_, fun _ => ?_⟩
        · simp only [HealthHistory.ingest, learns, anomalous, none]
          exact .none
        · simp only [HealthHistory.ingest, learns, recovery, zero]
          exact .none
        · simp only [HealthHistory.ingest, learns, anomalous, recovery]
          exact ⟨none, zero⟩
      · simpa [HealthHistory.ingest, same, scores] using streaks

theorem HealthReached.streaks [RoundedOrder ρ] {condition : HealthHistory ρ → DspFeatures → Prop}
    (reached : HealthReached condition history) : history.Streaks := by
  induction reached with
  | start starts =>
    unfold healthStartBaseline at starts
    split_ifs at starts
    · cases starts
    · cases starts
      exact ⟨.none, .none, fun _ => ⟨rfl, rfl⟩⟩
  | ingest reached met ih => exact ih.ingest _

theorem healthQualify_alarm {health : HealthModel ρ} {deviation : ρ} (outside : health.status.state ≠ .alarm)
    (enters : (healthQualify health deviation).status.state = .alarm) :
    AlarmLevel deviation ∧ 2 ≤ (healthIncrementU8 health.anomalousStreak).toNat := by
  unfold healthQualify at enters
  by_cases alarm : atMost healthAlarmZ deviation = true
  · rw [if_pos alarm] at enters
    refine ⟨alarm, ?_⟩
    by_contra short
    have few : ¬ healthIncrementU8 health.anomalousStreak ≥ healthAlarmStreak := short
    dsimp only at enters
    rw [if_neg few] at enters
    split_ifs at enters
    exact outside enters
  · exfalso
    rw [if_neg alarm] at enters
    dsimp only at enters
    split_ifs at enters <;> exact outside enters

theorem healthQualify_warning {health : HealthModel ρ} {deviation : ρ} (outside : health.status.state ≠ .warning)
    (enters : (healthQualify health deviation).status.state = .warning) :
    AlarmLevel deviation ∨ 3 ≤ (healthQualify health deviation).anomalousStreak.toNat := by
  unfold healthQualify at enters ⊢
  by_cases alarm : atMost healthAlarmZ deviation = true
  · exact .inl alarm
  rw [if_neg alarm] at enters ⊢
  by_cases warns : atMost healthWarningZ deviation = true
  · rw [if_pos warns] at enters ⊢
    dsimp only at enters
    split_ifs at enters with long
    · exact .inr long.1
    · exact absurd enters outside
  · exfalso
    rw [if_neg warns] at enters
    dsimp only at enters
    split_ifs at enters <;> exact outside enters

theorem healthQualify_ready {health : HealthModel ρ} {deviation : ρ}
    (outside : health.status.state = .warning ∨ health.status.state = .alarm)
    (enters : (healthQualify health deviation).status.state = .ready) :
    5 ≤ (healthQualify health deviation).recoveryStreak.toNat := by
  have other : health.status.state ≠ .ready := by
    rcases outside with outside | outside <;> rw [outside] <;> nofun
  unfold healthQualify at enters ⊢
  by_cases alarm : atMost healthAlarmZ deviation = true
  · exfalso
    rw [if_pos alarm] at enters
    dsimp only at enters
    split_ifs at enters
    exact other enters
  rw [if_neg alarm] at enters ⊢
  by_cases warns : atMost healthWarningZ deviation = true
  · exfalso
    rw [if_pos warns] at enters
    dsimp only at enters
    split_ifs at enters
    exact other enters
  rw [if_neg warns] at enters ⊢
  by_cases recovers : less deviation healthRecoveryZ = true
  · rw [if_pos recovers] at enters ⊢
    dsimp only at enters
    split_ifs at enters with long
    · exact long.1
    · exact absurd enters other
  · rw [if_neg recovers] at enters
    exact absurd enters other

/-- A change of state is earned by the streaks, once an alarm-level block outside of ALARM comes after another. -/
theorem HealthHistory.Streaks.persists [RoundedOrder ρ] (streaks : history.Streaks) {features : DspFeatures}
    (severe : history.SevereTwice features) : StepPersists history (history.ingest features) features := by
  have after := streaks.ingest features
  by_cases scores : history.health.Scores features
  · obtain ⟨state, anomalous, recovery⟩ := healthScore_qualifies history.health features
    have rejects : ¬ history.health.Rejects features := fun rejects => rejects.not_scores scores
    have twice := severe scores
    have warned := after.anomalous
    have recovered := after.recovery
    have before := streaks.anomalous
    simp only [HealthHistory.ingest, healthIngest_scores scores, if_pos scores, anomalous, recovery] at warned recovered
    unfold HealthHistory.ingest
    rw [healthIngest_scores scores, if_pos scores]
    generalize healthDeviation history.health features = deviation at *
    refine ⟨fun outside enters => ?_, fun outside enters => ?_, fun outside enters => ?_, fun no => absurd no rejects⟩
    · obtain ⟨alarm, streak⟩ := healthQualify_alarm outside (state.symm.trans enters)
      have some : 1 ≤ history.health.anomalousStreak.toNat := by
        have step := healthIncrementU8_le history.health.anomalousStreak
        omega
      obtain ⟨earlier, recent, split, length, all⟩ := before.fewer some
      obtain ⟨last, rfl⟩ := List.length_eq_one_iff.mp length
      have warns : WarningLevel last := all last (List.mem_singleton_self last)
      refine LastAll.snoc ⟨earlier, [last], split, rfl, fun item member => ?_⟩ alarm
      rw [List.mem_singleton.mp member]
      exact twice outside alarm last (by simp [split]) warns
    · rcases healthQualify_warning outside (state.symm.trans enters) with alarm | streak
      · exact .inl (LastAll.none.snoc alarm)
      · exact .inr (warned.fewer streak)
    · exact recovered.fewer (healthQualify_ready outside (state.symm.trans enters))
  · unfold HealthHistory.ingest
    rw [if_neg scores]
    by_cases rejects : history.health.Rejects features
    · obtain ⟨flag, rejected⟩ := healthIngest_rejects rejects
      rw [rejected]
      refine ⟨fun outside enters => absurd enters outside, fun outside enters => absurd enters outside,
        fun outside enters => ?_, fun _ => ⟨rfl, _, _, _, rfl⟩⟩
      change history.health.status.state = .ready at enters
      rcases outside with outside | outside <;> rw [outside] at enters <;> cases enters
    · rcases healthIngest_other scores rejects with ⟨learning, learns⟩ | ⟨untrained, same⟩
      · obtain ⟨state, -, -⟩ := healthLearn_state history.health features
        rw [learns]
        refine ⟨fun _ enters => ?_, fun _ enters => ?_, fun outside _ => ?_, fun no => absurd no rejects⟩
        · exfalso
          rcases state with state | state <;> rw [state] at enters
          · rw [learning] at enters
            cases enters
          · cases enters
        · exfalso
          rcases state with state | state <;> rw [state] at enters
          · rw [learning] at enters
            cases enters
          · cases enters
        · rw [learning] at outside
          rcases outside with outside | outside <;> cases outside
      · rw [same]
        refine ⟨fun outside enters => absurd enters outside, fun outside enters => absurd enters outside,
          fun outside enters => ?_, fun no => absurd no rejects⟩
        rw [untrained] at enters
        cases enters

/-- No transient trips the machine: in every history in which an alarm-level block outside of ALARM comes after another,
after every block. -/
theorem alarm_needs_persistence [RoundedOrder ρ] (reached : HealthReached HealthHistory.SevereTwice history)
    {features : DspFeatures} (severe : history.SevereTwice features) :
    StepPersists history (history.ingest features) features :=
  reached.streaks.persists severe

end persistence

/-- A baseline of sixteen blocks with one speed of vibration, and blocks after it. -/
def trainedOn (later : List DspFeatures) : HealthHistory ℚ :=
  Run.after HealthHistory.ingest (List.replicate 16 (exampleBlock 1000 100) ++ later)
    ⟨(healthStartBaseline healthReset 16).2, []⟩

instance (history : HealthHistory ℚ) (features : DspFeatures) : Decidable (history.SevereTwice features) := by
  unfold HealthHistory.SevereTwice AlarmLevel WarningLevel
  infer_instance

theorem HealthReached.after {condition : HealthHistory ℚ → DspFeatures → Prop} {history : HealthHistory ℚ}
    (reached : HealthReached condition history) (blocks : List DspFeatures)
    (met : ∀ index : Fin blocks.length,
      condition (Run.after HealthHistory.ingest (blocks.take index) history) (blocks.get index)) :
    HealthReached condition (Run.after HealthHistory.ingest blocks history) := by
  induction blocks generalizing history with
  | nil => exact reached
  | cons features blocks ih =>
    have first : condition history features := met ⟨0, by simp⟩
    exact ih (reached.ingest first) fun index => met index.succ

theorem example_starts : healthStartBaseline (healthReset : HealthModel ℚ) 16 =
    (true, (healthStartBaseline healthReset 16).2) := rfl

theorem alarm_needs_persistence_example :
    StepPersists (trainedOn [exampleBlock 1000 120]) (trainedOn [exampleBlock 1000 120, exampleBlock 1000 120])
      (exampleBlock 1000 120) ∧
    (trainedOn [exampleBlock 1000 120]).health.status.state = .warning ∧
    (trainedOn [exampleBlock 1000 120, exampleBlock 1000 120]).health.status.state = .alarm := by
  have reached : HealthReached HealthHistory.SevereTwice (trainedOn [exampleBlock 1000 120]) :=
    (HealthReached.start example_starts).after _ (by decide +kernel)
  exact ⟨alarm_needs_persistence reached (by decide +kernel), by decide +kernel, by decide +kernel⟩

/-- A warning-level block and then one alarm-level block lead to ALARM. -/
theorem alarm_without_persistence :
    HealthReached (fun _ _ => True) (trainedOn [exampleBlock 1000 110]) ∧
    (trainedOn [exampleBlock 1000 110]).health.status.state = .ready ∧
    (trainedOn [exampleBlock 1000 110, exampleBlock 1000 120]).health.status.state = .alarm ∧
    (trainedOn [exampleBlock 1000 110, exampleBlock 1000 120]).deviations = [3, 6] ∧
    ¬ StepPersists (trainedOn [exampleBlock 1000 110]) (trainedOn [exampleBlock 1000 110, exampleBlock 1000 120])
      (exampleBlock 1000 120) := by
  have ready : (trainedOn [exampleBlock 1000 110]).health.status.state = .ready := by decide +kernel
  have alarm : (trainedOn [exampleBlock 1000 110, exampleBlock 1000 120]).health.status.state = .alarm := by
    decide +kernel
  have deviations : (trainedOn [exampleBlock 1000 110, exampleBlock 1000 120]).deviations = [3, 6] := by decide +kernel
  refine ⟨(HealthReached.start example_starts).after _ fun _ => trivial, ready, alarm, deviations, fun persists => ?_⟩
  have twice := persists.alarm (by rw [ready]; nofun) alarm
  obtain ⟨earlier, recent, split, length, all⟩ := twice
  rw [deviations] at split
  have whole : recent = [3, 6] := by
    have none : earlier = [] := by
      have lengths := congrArg List.length split
      simpa [length] using lengths
    rw [none] at split
    exact split.symm
  have three : AlarmLevel (3 : ℚ) := all 3 (by simp [whole])
  revert three
  unfold AlarmLevel
  decide +kernel

end Guardian.Health
