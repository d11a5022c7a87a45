import Guardian.Lib.Word
import Guardian.Simulator.SimulatorHealth

namespace Guardian.Simulator

open Word Health Dsp HealthNumber

section mirror

variable {ρ : Type}

/-- The simulator whose fields are those of the device, but for the two scores that it rounds in its own way. -/
def mirrorHealth (device : HealthModel ρ) (anomalyScore maxDeviationMilli : Nat) : SimulatorHealthModel ρ where
  state := device.status.state
  baselineSamples := device.status.baselineSamples.toNat
  baselineTarget := device.status.baselineTarget.toNat
  sampleRateHz := device.baselineSampleRateHz.toNat
  means feature := (device.stats feature).mean
  m2 feature := (device.stats feature).m2
  anomalyScore
  healthScore := 1000 - anomalyScore
  dominantFeature := device.status.dominantFeature.toNat
  anomalousStreak := device.anomalousStreak.toNat
  recoveryStreak := device.recoveryStreak.toNat
  qualityFlags := device.status.qualityFlags.toNat
  blockSequence := device.status.blockSequence.toNat
  currentRmsMg := device.status.currentRmsMg.toNat
  currentCrestFactorMilli := device.status.currentCrestFactorMilli.toNat
  currentDominantFrequencyCentiHz := device.status.currentDominantFrequencyCentiHz.toNat
  exceededFeatureMask := device.status.exceededFeatureMask.toNat
  rejectedInputs := device.status.rejectedInputs.toNat
  maxDeviationMilli

variable (device : HealthModel ρ) (anomalyScore maxDeviationMilli : Nat) (features : DspFeatures)

/-- The rejections that the device publishes, of all that it counted. -/
def publishedRejections (total : U32) : U16 := if total > 65535 then 65535 else total.setWidth 16

theorem publishedRejections_toNat (total : U32) : (publishedRejections total).toNat = min 0xFFFF total.toNat := by
  unfold publishedRejections
  by_cases many : total > 65535
  · rw [if_pos many]
    have large : 65535 < total.toNat := BitVec.lt_def.mp many
    rw [show (65535 : U16).toNat = 65535 from rfl]
    omega
  · rw [if_neg many]
    have small : total.toNat ≤ 65535 := Nat.not_lt.mp (fun large => many (BitVec.lt_def.mpr large))
    rw [BitVec.toNat_setWidth]
    omega

theorem mirror_rejectInput (published : device.status.rejectedInputs = publishedRejections device.rejectedInputsTotal) :
    (mirrorHealth device anomalyScore maxDeviationMilli).rejectInput =
      mirrorHealth (healthRejectInput device (healthQualityInputRejected ||| healthQualitySampleRateMismatch))
        anomalyScore maxDeviationMilli := by
  have counted := saturate_toNat (by decide) device.rejectedInputsTotal
  have rejections : min 0xFFFF (device.status.rejectedInputs.toNat + 1) =
      (publishedRejections (if device.rejectedInputsTotal ≠ 0xFFFFFFFF then device.rejectedInputsTotal + 1
        else device.rejectedInputsTotal)).toNat := by
    rw [publishedRejections_toNat, published, publishedRejections_toNat]
    rw [show BitVec.allOnes 32 = 0xFFFFFFFF from rfl] at counted
    omega
  unfold SimulatorHealthModel.rejectInput
  change _ = mirrorHealth _ _ _
  simp only [mirrorHealth, healthRejectInput, rejections, BitVec.toNat_or]
  rfl

theorem mirror_finishBaseline (none : device.status.dominantFeature = healthFeatureNone) :
    mirrorHealth (healthFinishBaseline device) anomalyScore maxDeviationMilli =
      let model := mirrorHealth device anomalyScore maxDeviationMilli
      if model.baselineSamples ≥ model.baselineTarget then
        { model with state := .ready, qualityFlags := model.qualityFlags ||| 0x0008 }
      else model := by
  unfold healthFinishBaseline
  by_cases reached : device.status.baselineSamples ≥ device.status.baselineTarget
  · have met : (mirrorHealth device anomalyScore maxDeviationMilli).baselineSamples ≥
      (mirrorHealth device anomalyScore maxDeviationMilli).baselineTarget := BitVec.le_def.mp reached
    dsimp only
    rw [if_pos reached, if_pos met]
    simp only [mirrorHealth, none, BitVec.toNat_or]
    rfl
  · have missed : ¬ (mirrorHealth device anomalyScore maxDeviationMilli).baselineSamples ≥
      (mirrorHealth device anomalyScore maxDeviationMilli).baselineTarget := fun met => reached (BitVec.le_def.mpr met)
    dsimp only
    rw [if_neg reached, if_neg missed]

variable [HostNumber ρ]

theorem mirror_start (target : U16) :
    ((mirrorHealth device anomalyScore maxDeviationMilli).start target.toNat =
        mirrorHealth (healthStartBaseline device target).2 anomalyScore maxDeviationMilli ∧
        (healthStartBaseline device target).2 = device) ∨
      ((mirrorHealth device anomalyScore maxDeviationMilli).start target.toNat =
        mirrorHealth (healthStartBaseline device target).2 0 0 ∧
        (healthStartBaseline device target).2 = { (healthReset : HealthModel ρ) with
          status := { (healthReset : HealthModel ρ).status with state := .learning, baselineTarget := target } } ∧
        healthBaselineMinSamples ≤ target ∧ target ≤ healthBaselineMaxSamples) := by
  unfold SimulatorHealthModel.start healthStartBaseline
  by_cases outside : target < healthBaselineMinSamples ∨ target > healthBaselineMaxSamples
  · have bounds : ¬ (16 ≤ target.toNat ∧ target.toNat ≤ 1024) := by
      rintro ⟨low, high⟩
      rcases outside with below | above
      · exact absurd (BitVec.lt_def.mp below) (Nat.not_lt.mpr low)
      · exact absurd (BitVec.lt_def.mp above) (Nat.not_lt.mpr high)
    rw [if_pos outside, if_pos bounds]
    exact Or.inl ⟨rfl, rfl⟩
  · obtain ⟨low, high⟩ := not_or.mp outside
    have bounds : ¬ ¬ (16 ≤ target.toNat ∧ target.toNat ≤ 1024) :=
      not_not.mpr ⟨BitVec.le_def.mp (BitVec.not_lt.mp low), BitVec.le_def.mp (BitVec.not_lt.mp high)⟩
    rw [if_neg outside, if_neg bounds]
    exact Or.inr ⟨rfl, rfl, BitVec.not_lt.mp low, BitVec.not_lt.mp high⟩

theorem mirror_updateBaselineSummary :
    mirrorHealth (healthUpdateBaselineSummary device) anomalyScore maxDeviationMilli =
      mirrorHealth device anomalyScore maxDeviationMilli := by
  unfold healthUpdateBaselineSummary
  split_ifs <;> rfl

theorem mirror_learn (counted : device.status.baselineSamples ≤ 1024)
    (none : device.status.dominantFeature = healthFeatureNone)
    (rate : device.status.baselineSamples = 0 → device.baselineSampleRateHz = features.sampleRateHz.setWidth 32) :
    (mirrorHealth device anomalyScore maxDeviationMilli).learn features =
      mirrorHealth (healthLearn device features) anomalyScore maxDeviationMilli := by
  have next : (device.status.baselineSamples + 1).toNat = device.status.baselineSamples.toNat + 1 := by
    have bound : device.status.baselineSamples.toNat ≤ 1024 := BitVec.le_def.mp counted
    rw [BitVec.toNat_add, show (1 : U16).toNat = 1 from rfl]
    omega
  have flags : (if features.acquisitionStatusFlags.toNat &&& 0x0010 ≠ 0 then
      device.status.qualityFlags.toNat ||| 0x0001 else device.status.qualityFlags.toNat) =
      (if features.acquisitionStatusFlags &&& 0x0010 ≠ 0 then
        device.status.qualityFlags ||| healthQualityReferenceCalibration else device.status.qualityFlags).toNat := by
    have calibrated : features.acquisitionStatusFlags.toNat &&& 0x0010 ≠ 0 ↔
        features.acquisitionStatusFlags &&& 0x0010 ≠ 0 := by
      rw [← toNat_ne_zero, BitVec.toNat_and]
      rfl
    rw [apply_ite BitVec.toNat, BitVec.toNat_or]
    simp only [calibrated]
    rfl
  have kept : (if device.status.baselineSamples = 0 then features.sampleRateHz.setWidth 32
      else device.baselineSampleRateHz) = device.baselineSampleRateHz := by
    by_cases first : device.status.baselineSamples = 0
    · rw [if_pos first, rate first]
    · rw [if_neg first]
  rw [healthLearn, mirror_finishBaseline _ _ _ (by rw [← none]; unfold healthUpdateBaselineSummary; split_ifs <;> rfl),
    mirror_updateBaselineSummary, kept]
  unfold SimulatorHealthModel.learn
  simp only [mirrorHealth, SimulatorHealthModel.learnStatistics, flags, next]
  simp only [HealthStat.learn, next]
  rfl

theorem mirror_sigma (feature : Fin 7) :
    (mirrorHealth device anomalyScore maxDeviationMilli).sigma feature = healthSigma device feature := by
  have several : (mirrorHealth device anomalyScore maxDeviationMilli).baselineSamples > 1 ↔
      device.status.baselineSamples > 1 := Iff.symm BitVec.lt_def
  unfold SimulatorHealthModel.sigma healthSigma
  simp only [several]
  by_cases trained : device.status.baselineSamples > 1
  · have fewer : (device.status.baselineSamples - 1).toNat = device.status.baselineSamples.toNat - 1 := by
      have large : 1 < device.status.baselineSamples.toNat := BitVec.lt_def.mp trained
      rw [BitVec.toNat_sub, show (1 : U16).toNat = 1 from rfl]
      omega
    rw [if_pos trained, if_pos trained, fewer]
    rfl
  · rw [if_neg trained, if_neg trained]
    rfl

theorem mirror_weighted (feature : Fin 7) :
    (mirrorHealth device anomalyScore maxDeviationMilli).weighted features feature =
      healthWeighted device features feature := by
  rw [SimulatorHealthModel.weighted, mirror_sigma]
  rfl

/-- The worst feature of the device, as the simulator keeps it. -/
def readWorst (worst : HealthWorst ρ) : SimulatorWorst ρ :=
  ⟨worst.maximumWeightedZ, worst.dominantFeature.toNat, worst.exceededMask.toNat⟩

theorem bit_toNat : ∀ feature : Fin 7, ((1 <<< feature.val : Nat) : U16).toNat = 1 <<< feature.val ∧
    (BitVec.ofNat 8 feature.val).toNat = feature.val := by
  decide

theorem mirror_worst :
    (mirrorHealth device anomalyScore maxDeviationMilli).worst features = readWorst (healthWorst device features) := by
  unfold SimulatorHealthModel.worst healthWorst
  have level : (SimulatorHealthModel.warningZ : ρ) = healthWarningZ := rfl
  simp only [mirror_weighted, level]
  generalize hstart : (⟨0, healthFeatureNone, 0⟩ : HealthWorst ρ) = start
  have read : (⟨0, 0xFF, 0⟩ : SimulatorWorst ρ) = readWorst start := by rw [← hstart]; rfl
  rw [read]
  clear read hstart
  induction List.finRange 7 generalizing start with
  | nil => rfl
  | cons feature rest ih =>
    rw [List.foldl_cons, List.foldl_cons, ← ih]
    congr 1
    obtain ⟨bit, index⟩ := bit_toNat feature
    by_cases worse : less start.maximumWeightedZ (healthWeighted device features feature) = true <;>
      by_cases exceeds : atMost healthWarningZ (healthWeighted device features feature) = true <;>
        simp only [readWorst, worse, exceeds, if_true, if_false, Bool.false_eq_true, BitVec.toNat_or, bit, index]

theorem healthIncrementU8_toNat (value : U8) : (healthIncrementU8 value).toNat = min 255 (value.toNat + 1) :=
  saturate_toNat (by decide) value

theorem mirror_qualify (maximumWeightedZ : ρ) :
    (mirrorHealth device anomalyScore maxDeviationMilli).qualify maximumWeightedZ =
      mirrorHealth (healthQualify device maximumWeightedZ) anomalyScore maxDeviationMilli := by
  have alarm : (SimulatorHealthModel.alarmZ : ρ) = healthAlarmZ := rfl
  have warning : (SimulatorHealthModel.warningZ : ρ) = healthWarningZ := rfl
  have recovery : (SimulatorHealthModel.recoveryZ : ρ) = healthRecoveryZ := rfl
  have reaches (value bound : U8) : min 255 (value.toNat + 1) ≥ bound.toNat ↔ healthIncrementU8 value ≥ bound := by
    rw [← healthIncrementU8_toNat]
    exact Iff.symm BitVec.le_def
  have anomalous : (mirrorHealth device anomalyScore maxDeviationMilli).anomalousStreak = device.anomalousStreak.toNat := rfl
  have recovering : (mirrorHealth device anomalyScore maxDeviationMilli).recoveryStreak = device.recoveryStreak.toNat := rfl
  have state : (mirrorHealth device anomalyScore maxDeviationMilli).state = device.status.state := rfl
  have two := reaches device.anomalousStreak healthAlarmStreak
  have three := reaches device.anomalousStreak healthWarningStreak
  have five := reaches device.recoveryStreak healthRecoveryStreak
  rw [show healthAlarmStreak.toNat = 2 from rfl] at two
  rw [show healthWarningStreak.toNat = 3 from rfl] at three
  rw [show healthRecoveryStreak.toNat = 5 from rfl] at five
  unfold SimulatorHealthModel.qualify healthQualify
  simp only [alarm, warning, recovery, anomalous, recovering, state, two, three, five]
  by_cases severe : atMost healthAlarmZ maximumWeightedZ = true
  · rw [if_pos severe, if_pos severe]
    simp only [mirrorHealth, healthIncrementU8_toNat]
    rfl
  rw [if_neg severe, if_neg severe]
  by_cases anomaly : atMost healthWarningZ maximumWeightedZ = true
  · rw [if_pos anomaly, if_pos anomaly]
    simp only [mirrorHealth, healthIncrementU8_toNat]
    rfl
  rw [if_neg anomaly, if_neg anomaly]
  by_cases normal : less maximumWeightedZ healthRecoveryZ = true
  · rw [if_pos normal, if_pos normal]
    simp only [mirrorHealth, healthIncrementU8_toNat]
    rfl
  · rw [if_neg normal, if_neg normal]
    rfl

/-- The severity that both models round, and the one that the device clamps first. -/
def severity (maximumWeightedZ : ρ) : ρ := maximumWeightedZ / healthAlarmZ * hundredths 100000

theorem mirror_score :
    (mirrorHealth device anomalyScore maxDeviationMilli).score features =
      mirrorHealth (healthScore device features)
        (min 1000 (HostNumber.round (severity (healthWorst device features).maximumWeightedZ)))
        (min 0xFFFF (HostNumber.round ((healthWorst device features).maximumWeightedZ * hundredths 100000))) := by
  have warning : (SimulatorHealthModel.warningZ : ρ) = healthWarningZ := rfl
  unfold SimulatorHealthModel.score healthScore
  rw [mirror_worst]
  set worst := healthWorst device features
  have flags : (if atMost healthWarningZ worst.maximumWeightedZ = true then device.status.qualityFlags.toNat ||| 0x0010
      else Nat.ldiff device.status.qualityFlags.toNat 0x0010) =
      (if atMost healthWarningZ worst.maximumWeightedZ = true then
        device.status.qualityFlags ||| healthQualityAnomalyPresent
        else device.status.qualityFlags &&& ~~~healthQualityAnomalyPresent).toNat := by
    rw [apply_ite BitVec.toNat, BitVec.toNat_or, ldiff_toNat]
    rfl
  refine Eq.trans ?_ (mirror_qualify _ _ _ worst.maximumWeightedZ)
  simp only [mirrorHealth, readWorst, warning, flags]
  rfl

theorem mirror_ingest (valid : healthInputValid features = true)
    (published : device.status.rejectedInputs = publishedRejections device.rejectedInputsTotal)
    (fresh : device.status.baselineSamples = 0 → device.baselineSampleRateHz = 0)
    (counted : device.status.baselineSamples ≤ 1024)
    (none : device.status.state = .learning → device.status.dominantFeature = healthFeatureNone) :
    (mirrorHealth device anomalyScore maxDeviationMilli).ingest features =
      if device.baselineSampleRateHz ≠ 0 ∧ features.sampleRateHz.setWidth 32 ≠ device.baselineSampleRateHz then
        mirrorHealth (healthRejectInput device (healthQualityInputRejected ||| healthQualitySampleRateMismatch))
          anomalyScore maxDeviationMilli
      else match device.status.state with
        | .learning => mirrorHealth (healthLearn device features) anomalyScore maxDeviationMilli
        | .untrained => mirrorHealth device anomalyScore maxDeviationMilli
        | .ready | .warning | .alarm => (mirrorHealth device anomalyScore maxDeviationMilli).score features := by
  have sampled : features.sampleRateHz ≠ 0 := by
    unfold healthInputValid at valid
    split_ifs at valid
    assumption
  have width : (features.sampleRateHz.setWidth 32).toNat = features.sampleRateHz.toNat := by
    have bound := features.sampleRateHz.isLt
    rw [BitVec.toNat_setWidth]
    omega
  unfold SimulatorHealthModel.ingest
  by_cases first : device.status.state = .learning ∧ device.status.baselineSamples = 0
  · -- The first sample of a training sets the rate that it is then checked against.
    let captured : HealthModel ρ := { device with baselineSampleRateHz := features.sampleRateHz.setWidth 32 }
    have zero : device.status.baselineSamples.toNat = 0 := by rw [first.2]; rfl
    have started : (mirrorHealth device anomalyScore maxDeviationMilli).state = .learning ∧
        (mirrorHealth device anomalyScore maxDeviationMilli).baselineSamples = 0 := ⟨first.1, zero⟩
    have rate : { mirrorHealth device anomalyScore maxDeviationMilli with sampleRateHz := features.sampleRateHz.toNat } =
        mirrorHealth captured anomalyScore maxDeviationMilli := by
      rw [← width]
      rfl
    have learned : healthLearn captured features = healthLearn device features := by
      unfold healthLearn
      simp only [captured, first.2, if_true]
    rw [if_pos started, rate]
    dsimp only
    rw [if_neg (fun mismatch => mismatch.2 width.symm), if_pos (show (mirrorHealth captured _ _).state = _ from first.1),
      mirror_learn captured _ _ features counted (none first.1) (fun _ => rfl), learned,
      if_neg (fun mismatch => mismatch.1 (fresh first.2)), first.1]
  · have later : ¬ ((mirrorHealth device anomalyScore maxDeviationMilli).state = .learning ∧
        (mirrorHealth device anomalyScore maxDeviationMilli).baselineSamples = 0) := by
      rintro ⟨learning, zero⟩
      exact first ⟨learning, BitVec.eq_of_toNat_eq zero⟩
    have mismatch : (mirrorHealth device anomalyScore maxDeviationMilli).sampleRateHz ≠ 0 ∧
        features.sampleRateHz.toNat ≠ (mirrorHealth device anomalyScore maxDeviationMilli).sampleRateHz ↔
        device.baselineSampleRateHz ≠ 0 ∧ features.sampleRateHz.setWidth 32 ≠ device.baselineSampleRateHz := by
      rw [← toNat_ne_zero, ← width, ne_eq (features.sampleRateHz.setWidth 32), ← BitVec.toNat_inj]
      rfl
    rw [if_neg later]
    dsimp only
    simp only [mismatch]
    by_cases other : device.baselineSampleRateHz ≠ 0 ∧ features.sampleRateHz.setWidth 32 ≠ device.baselineSampleRateHz
    · rw [if_pos other, if_pos other, mirror_rejectInput device _ _ published]
    · rw [if_neg other, if_neg other]
      change (if device.status.state = .learning then _ else if device.status.state = .untrained then _ else _) = _
      cases state : device.status.state with
      | learning =>
        rw [if_pos rfl]
        exact mirror_learn device _ _ features counted (none state) (fun zero => absurd ⟨state, zero⟩ first)
      | untrained => rfl
      | ready => rfl
      | warning => rfl
      | alarm => rfl

end mirror

end Guardian.Simulator
