import Guardian.Lib.Run
import Guardian.Simulator.HealthTracking

namespace Guardian.Simulator

open Word Health Dsp HealthNumber

inductive HealthInput
  | start (target : U16)
  | reset
  | block (features : DspFeatures)

/-- A block that passes the quality check of the device, if it is one. -/
def HealthInput.Sound : HealthInput → Prop
  | .block features => healthInputValid features = true
  | _ => True

section steps

variable {ρ : Type} [HostNumber ρ]

def deviceHealthStep (device : HealthModel ρ) : HealthInput → HealthModel ρ
  | .start target => (healthStartBaseline device target).2
  | .reset => healthReset
  | .block features => healthIngest device features

def SimulatorHealthModel.step (model : SimulatorHealthModel ρ) : HealthInput → SimulatorHealthModel ρ
  | .start target => model.start target.toNat
  | .reset => reset
  | .block features => model.ingest features

end steps

section agreement

structure HealthPair (ρ : Type) where
  device : HealthModel ρ
  simulator : SimulatorHealthModel ρ

noncomputable def HealthPair.step (pair : HealthPair ℝ) (input : HealthInput) : HealthPair ℝ :=
  ⟨deviceHealthStep pair.device input, pair.simulator.step input⟩

noncomputable def healthPairRun (inputs : List HealthInput) : HealthPair ℝ :=
  Run.after HealthPair.step inputs ⟨healthInit, .reset⟩

def unrounded (status : Host.HealthStatus) : Host.HealthStatus :=
  { status with
    anomalyScore := 0
    healthScore := 0
    maxDeviationMilli := 0
    baselineRmsMeanMg := 0
    baselineRmsStdMg := 0 }

structure HealthPair.Agrees (pair : HealthPair ℝ) : Prop where
  status : unrounded pair.simulator.status =
    unrounded (Host.readHealthStatus pair.device.status)
  means : ∀ feature, pair.simulator.means feature = (pair.device.stats feature).mean
  m2 : ∀ feature, pair.simulator.m2 feature = (pair.device.stats feature).m2
  anomalousStreak : pair.simulator.anomalousStreak = pair.device.anomalousStreak.toNat
  recoveryStreak : pair.simulator.recoveryStreak = pair.device.recoveryStreak.toNat
  anomalyScore : Near pair.simulator.status.anomalyScore pair.device.status.anomalyScore.toNat
  healthScore : Near pair.simulator.status.healthScore pair.device.status.healthScore.toNat
  maxDeviationMilli : Near pair.simulator.status.maxDeviationMilli pair.device.status.maxDeviationMilli.toNat
  baselineRmsMeanMg : Near pair.simulator.status.baselineRmsMeanMg pair.device.status.baselineRmsMeanMg.toNat
  baselineRmsStdMg : Near pair.simulator.status.baselineRmsStdMg pair.device.status.baselineRmsStdMg.toNat

/-- The simulator mirrors a tracked device, with scores of its own that are near. -/
structure HealthPair.Matched (pair : HealthPair ℝ) : Prop where
  tracked : Tracked pair.device
  mirrored : pair.simulator =
    mirrorHealth pair.device pair.simulator.anomalyScore pair.simulator.maxDeviationMilli
  anomaly : Near pair.simulator.anomalyScore pair.device.status.anomalyScore.toNat
  bounded : pair.simulator.anomalyScore ≤ 1000
  deviation : Near pair.simulator.maxDeviationMilli pair.device.status.maxDeviationMilli.toNat

theorem mirror_matched {device : HealthModel ℝ} {anomalyScore maxDeviationMilli : Nat} (tracked : Tracked device)
    (anomaly : Near anomalyScore device.status.anomalyScore.toNat) (bounded : anomalyScore ≤ 1000)
    (deviation : Near maxDeviationMilli device.status.maxDeviationMilli.toNat) :
    HealthPair.Matched ⟨device, mirrorHealth device anomalyScore maxDeviationMilli⟩ :=
  ⟨tracked, rfl, anomaly, bounded, deviation⟩

theorem healthFinishBaseline_scores {device : HealthModel ℝ} (calm : device.status.anomalyScore = 0) :
    (healthFinishBaseline device).status.anomalyScore = device.status.anomalyScore ∧
      (healthFinishBaseline device).status.maxDeviationMilli = device.status.maxDeviationMilli := by
  unfold healthFinishBaseline
  split_ifs
  · exact ⟨calm.symm, rfl⟩
  · exact ⟨rfl, rfl⟩

theorem healthUpdateBaselineSummary_scores (device : HealthModel ℝ) :
    (healthUpdateBaselineSummary device).status.anomalyScore = device.status.anomalyScore ∧
      (healthUpdateBaselineSummary device).status.maxDeviationMilli = device.status.maxDeviationMilli := by
  unfold healthUpdateBaselineSummary
  split_ifs <;> exact ⟨rfl, rfl⟩

theorem healthLearn_scores {device : HealthModel ℝ} (calm : device.status.anomalyScore = 0) (features : DspFeatures) :
    (healthLearn device features).status.anomalyScore = device.status.anomalyScore ∧
      (healthLearn device features).status.maxDeviationMilli = device.status.maxDeviationMilli := by
  have finished (model : HealthModel ℝ) (same : model.status.anomalyScore = 0) :
      (healthFinishBaseline (healthUpdateBaselineSummary model)).status.anomalyScore = model.status.anomalyScore ∧
        (healthFinishBaseline (healthUpdateBaselineSummary model)).status.maxDeviationMilli =
          model.status.maxDeviationMilli := by
    obtain ⟨anomaly, deviation⟩ := healthUpdateBaselineSummary_scores model
    obtain ⟨kept, left⟩ := healthFinishBaseline_scores (anomaly.trans same)
    exact ⟨kept.trans anomaly, left.trans deviation⟩
  exact finished _ calm

theorem summary_near {samples : Nat} {published : U16} {none : Prop} [Decidable none] {value : ℝ}
    (zero : samples = 0 ↔ none) (given : published = if none then 0 else healthU16 value) (low : 0 ≤ value)
    (high : value ≤ 65535) : Near (if samples ≠ 0 then HostNumber.round value else 0) published.toNat := by
  rw [given]
  by_cases first : none
  · rw [if_neg (not_not.mpr (zero.mpr first)), if_pos first]
    exact ⟨Nat.zero_le _, Nat.zero_le _⟩
  · rw [if_pos (mt zero.mp first), if_neg first]
    exact round_near low high

theorem near_self (value : Nat) : Near value value := ⟨Nat.le_succ _, Nat.le_succ _⟩

theorem ingest_matched {pair : HealthPair ℝ} (matched : pair.Matched) {features : DspFeatures}
    (valid : healthInputValid features = true) : (pair.step (.block features)).Matched := by
  obtain ⟨device, simulator⟩ := pair
  obtain ⟨tracked, mirrored, anomaly, bounded, deviation⟩ := matched
  dsimp only at tracked mirrored anomaly bounded deviation
  have ingested := mirror_ingest device simulator.anomalyScore simulator.maxDeviationMilli features valid
    tracked.published tracked.fresh tracked.counted (fun learning => (tracked.learning learning).2.2.2)
  rw [← mirrored] at ingested
  change HealthPair.Matched ⟨healthIngest device features, simulator.ingest features⟩
  rw [ingested, healthIngest, if_neg (by rw [valid]; decide)]
  by_cases mismatch : device.baselineSampleRateHz ≠ 0 ∧ features.sampleRateHz.setWidth 32 ≠ device.baselineSampleRateHz
  · rw [if_pos mismatch, if_pos mismatch]
    exact mirror_matched (healthRejectInput_tracked tracked _) anomaly bounded deviation
  rw [if_neg mismatch, if_neg mismatch]
  have scoring (trained : device.status.state ≠ .learning) :
      HealthPair.Matched ⟨healthScore device features, simulator.score features⟩ := by
    have scored := healthScore_scored trained features
    rw [mirrored, mirror_score]
    exact mirror_matched (scored.tracked tracked) scored.anomaly_near (Nat.min_le_left _ _) scored.deviation_near
  cases state : device.status.state with
  | learning =>
    obtain ⟨same, kept⟩ := healthLearn_scores (tracked.learning state).2.2.1 features
    apply mirror_matched (healthLearn_tracked tracked state features) _ bounded
    · rw [kept]
      exact deviation
    · rw [same]
      exact anomaly
  | untrained =>
    exact ⟨tracked, mirrored, anomaly, bounded, deviation⟩
  | ready =>
    exact scoring (by rw [state]; exact HealthState.noConfusion)
  | warning =>
    exact scoring (by rw [state]; exact HealthState.noConfusion)
  | alarm =>
    exact scoring (by rw [state]; exact HealthState.noConfusion)

theorem step_matched_health {pair : HealthPair ℝ} (matched : pair.Matched) {input : HealthInput} (sound : input.Sound) :
    (pair.step input).Matched := by
  cases input with
  | block features => exact ingest_matched matched sound
  | reset => exact mirror_matched healthReset_tracked (near_self 0) (Nat.zero_le _) (near_self 0)
  | start target =>
    have tracked := healthStartBaseline_tracked matched.tracked target
    change HealthPair.Matched ⟨(healthStartBaseline pair.device target).2, pair.simulator.start target.toNat⟩
    rw [matched.mirrored]
    rcases mirror_start pair.device pair.simulator.anomalyScore pair.simulator.maxDeviationMilli target with
      ⟨same, kept⟩ | ⟨same, started, -⟩
    · rw [same, kept]
      exact mirror_matched matched.tracked matched.anomaly matched.bounded matched.deviation
    · rw [same]
      rw [started] at tracked ⊢
      exact mirror_matched tracked (near_self 0) (Nat.zero_le _) (near_self 0)

theorem HealthPair.Matched.agrees {pair : HealthPair ℝ} (matched : pair.Matched) : pair.Agrees := by
  obtain ⟨device, simulator⟩ := pair
  obtain ⟨tracked, mirrored, anomaly, bounded, deviation⟩ := matched
  dsimp only at tracked mirrored anomaly bounded deviation
  have least : device.status.anomalyScore.toNat ≤ 1000 := BitVec.le_def.mp tracked.severity
  have zero : simulator.baselineSamples = 0 ↔ device.status.baselineSamples = 0 := by
    rw [mirrored]
    exact ⟨fun none => BitVec.eq_of_toNat_eq none, fun none => by rw [mirrorHealth, none]; rfl⟩
  constructor
  · rw [mirrored]
    simp only [unrounded, SimulatorHealthModel.status, mirrorHealth, Host.readHealthStatus,
      tracked.consecutive]
  · intro feature
    rw [mirrored]
    rfl
  · intro feature
    rw [mirrored]
    rfl
  · rw [mirrored]
    rfl
  · rw [mirrored]
    rfl
  · exact anomaly
  · change Near simulator.healthScore device.status.healthScore.toNat
    have inverse : simulator.healthScore = 1000 - simulator.anomalyScore := by rw [mirrored]; rfl
    rw [tracked.health, inverse, BitVec.toNat_sub, show (1000 : U16).toNat = 1000 from rfl]
    unfold Near at anomaly ⊢
    omega
  · exact deviation
  · change Near (if simulator.baselineSamples ≠ 0 then HostNumber.round (simulator.means 0) else 0) _
    have mean : simulator.means 0 = (device.stats 0).mean := by rw [mirrored]; rfl
    rw [mean]
    exact summary_near zero tracked.mean tracked.low tracked.high
  · change Near (if simulator.baselineSamples ≠ 0 then HostNumber.round (simulator.sigma 0) else 0) _
    have sigma : simulator.sigma 0 = healthSigma device 0 := by rw [mirrored, mirror_sigma]
    rw [sigma]
    exact summary_near zero tracked.deviation (healthSigma_within tracked).1 (healthSigma_within tracked).2

/-- The simulator reports the health of the device, on the same blocks in exact arithmetic. -/
theorem simulator_health_mirrors (inputs : List HealthInput) (sound : ∀ input ∈ inputs, input.Sound) :
    (healthPairRun inputs).Agrees := by
  apply HealthPair.Matched.agrees
  have start : HealthPair.Matched ⟨healthInit, .reset⟩ :=
    mirror_matched healthReset_tracked (near_self 0) (Nat.zero_le _) (near_self 0)
  refine @Run.after_guarded _ _ HealthPair.step HealthPair.Matched (fun _ input => HealthInput.Sound input)
    (fun _ _ matched sound => step_matched_health matched sound) _ start _ ?_
  rintro earlier input later rfl
  exact sound input (List.mem_append_right _ (List.mem_cons_self ..))

def quietBlock : DspFeatures :=
  { zeroDspFeatures with sampleRateHz := 1000, rmsMg := 100, acquisitionStatusFlags := 1, dspStatusFlags := 1 }

def shakenBlock : DspFeatures := { quietBlock with rmsMg := 900, blockSequence := 17 }

def trainingInputs : List HealthInput := .start 16 :: List.replicate 16 (.block quietBlock)

/-- The baseline is trained, so the last block is scored. -/
theorem simulator_health_mirrors_shaken :
    (healthPairRun trainingInputs).device.status.state = .ready ∧
      (healthPairRun (trainingInputs ++ [.block shakenBlock])).Agrees := by
  refine ⟨rfl, simulator_health_mirrors _ fun input member => ?_⟩
  rcases List.mem_append.mp member with trained | last
  · rcases List.mem_cons.mp trained with rfl | block
    · trivial
    · rw [List.eq_of_mem_replicate block]
      exact (by decide : healthInputValid quietBlock = true)
  · rw [List.mem_singleton.mp last]
    exact (by decide : healthInputValid shakenBlock = true)

end agreement

end Guardian.Simulator
