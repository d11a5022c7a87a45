import Guardian.Lib.Rounding
import Guardian.Lib.Welford
import Guardian.Simulator.HealthMirror
import Mathlib.Analysis.SpecialFunctions.Pow.NNReal

namespace Guardian.Simulator

open Word Health Dsp HealthNumber

local instance healthHundred : Nat.AtLeastTwo 100 := ⟨by decide⟩

open Classical in
/-- Real numbers, with an exact square root. -/
noncomputable instance : HealthNumber ℝ where
  ofNat := Nat.cast
  hundredths count := count / 100
  less left right := left < right
  atMost left right := left ≤ right
  sqrt := Real.sqrt
  truncate value := ⌊value⌋.toNat

noncomputable instance : HostNumber ℝ where
  round value := (Rounding.halfEven value).toNat

def Near (left right : Nat) : Prop := left ≤ right + 1 ∧ right ≤ left + 1

section rounding

theorem less_iff (left right : ℝ) : less left right = true ↔ left < right := decide_eq_true_iff

theorem atMost_iff (left right : ℝ) : atMost left right = true ↔ left ≤ right := decide_eq_true_iff

theorem healthU16_floor {value : ℝ} (nonneg : 0 ≤ value) (fits : value ≤ 65535) :
    (healthU16 value).toNat = ⌊value + 1 / 2⌋.toNat := by
  have limit : (hundredths 6553500 : ℝ) = 65535 := by
    change ((6553500 : Nat) : ℝ) / 100 = 65535
    norm_num
  have half : (hundredths 50 : ℝ) = 1 / 2 := by
    change ((50 : Nat) : ℝ) / 100 = 1 / 2
    norm_num
  unfold healthU16
  rw [limit, half]
  by_cases positive : less 0 value = true
  · rw [if_neg (by rw [positive]; decide)]
    by_cases last : atMost 65535 value = true
    · have full : value = 65535 := le_antisymm fits ((atMost_iff _ _).mp last)
      rw [if_pos last, full, show ⌊(65535 : ℝ) + 1 / 2⌋ = 65535 by rw [Int.floor_eq_iff]; norm_num]
      rfl
    · have below : value < 65535 := not_le.mp (fun above => last ((atMost_iff _ _).mpr above))
      have small : ⌊value + 1 / 2⌋ < 65536 := Int.floor_lt.mpr (by push_cast; linarith)
      rw [if_neg last, BitVec.toNat_ofNat]
      change ⌊value + 1 / 2⌋.toNat % 2 ^ 16 = _
      apply Nat.mod_eq_of_lt
      omega
  · have zero : value = 0 := le_antisymm (not_lt.mp (fun above => positive ((less_iff _ _).mpr above))) nonneg
    rw [if_pos (by rw [Bool.not_eq_true _ |>.mp positive]; decide), zero,
      show ⌊(0 : ℝ) + 1 / 2⌋ = 0 by rw [Int.floor_eq_iff]; norm_num]
    rfl

theorem round_near {value : ℝ} (nonneg : 0 ≤ value) (fits : value ≤ 65535) :
    Near (HostNumber.round value) (healthU16 value).toNat := by
  have near := Rounding.halfEven_near value
  rw [healthU16_floor nonneg fits]
  change Near (Rounding.halfEven value).toNat _
  unfold Near
  omega

theorem round_clamped {value : ℝ} (nonneg : 0 ≤ value) (limit : Nat) (small : limit ≤ 65535) :
    Near (min limit (HostNumber.round value)) (healthU16 (if (limit : ℝ) < value then (limit : ℝ) else value)).toNat := by
  have bound : (limit : ℝ) ≤ 65535 := by exact_mod_cast small
  by_cases exceeds : (limit : ℝ) < value
  · have reached : (limit : ℤ) ≤ Rounding.halfEven value := Rounding.le_halfEven (by exact_mod_cast exceeds.le)
    have whole : ⌊(limit : ℝ) + 1 / 2⌋ = limit := by
      rw [Int.floor_eq_iff]
      constructor <;> push_cast <;> linarith
    rw [if_pos exceeds, healthU16_floor (Nat.cast_nonneg limit) bound, whole]
    change Near (min limit (Rounding.halfEven value).toNat) _
    unfold Near
    omega
  · have within : value ≤ limit := not_lt.mp exceeds
    have kept : Rounding.halfEven value ≤ (limit : ℤ) := Rounding.halfEven_le (by exact_mod_cast within)
    have near := round_near nonneg (within.trans bound)
    rw [if_neg exceeds, Nat.min_eq_right]
    · exact near
    · change (Rounding.halfEven value).toNat ≤ limit
      omega

theorem healthU16_saturates (value : ℝ) :
    healthU16 value = healthU16 (if ((0xFFFF : Nat) : ℝ) < value then ((0xFFFF : Nat) : ℝ) else value) := by
  by_cases exceeds : ((0xFFFF : Nat) : ℝ) < value
  · have limit : (hundredths 6553500 : ℝ) = ((0xFFFF : Nat) : ℝ) := by
      change ((6553500 : Nat) : ℝ) / 100 = _
      norm_num
    have saturated (large : ℝ) (reached : ((0xFFFF : Nat) : ℝ) ≤ large) : healthU16 large = 65535 := by
      have positive : less 0 large = true := (less_iff _ _).mpr (lt_of_lt_of_le (by norm_num) reached)
      rw [healthU16, if_neg (by rw [positive]; decide), limit, if_pos ((atMost_iff _ _).mpr reached)]
    rw [if_pos exceeds, saturated value exceeds.le, saturated _ (le_refl _)]
  · rw [if_neg exceeds]

end rounding

section tracking

/-- What holds of every state of the device: its published counts and summary, and the range of its RMS statistics. -/
structure Tracked (device : HealthModel ℝ) : Prop where
  published : device.status.rejectedInputs = publishedRejections device.rejectedInputsTotal
  consecutive : device.status.consecutiveAnomalous = device.anomalousStreak
  fresh : device.status.baselineSamples = 0 → device.baselineSampleRateHz = 0
  counted : device.status.baselineSamples ≤ 1024
  learning : device.status.state = .learning → device.status.baselineSamples < device.status.baselineTarget ∧
    device.status.baselineTarget ≤ 1024 ∧ device.status.anomalyScore = 0 ∧
      device.status.dominantFeature = healthFeatureNone
  severity : device.status.anomalyScore ≤ 1000
  health : device.status.healthScore = 1000 - device.status.anomalyScore
  mean : device.status.baselineRmsMeanMg =
    if device.status.baselineSamples = 0 then 0 else healthU16 (device.stats 0).mean
  deviation : device.status.baselineRmsStdMg =
    if device.status.baselineSamples = 0 then 0 else healthU16 (healthSigma device 0)
  low : (0 : ℝ) ≤ (device.stats 0).mean
  high : (device.stats 0).mean ≤ (65535 : ℝ)
  spread : (device.stats 0).m2 ≤ (device.status.baselineSamples.toNat - 1 : Nat) * (65535 : ℝ) ^ 2

theorem healthReset_tracked : Tracked healthReset where
  published := rfl
  consecutive := rfl
  fresh _ := rfl
  counted := by decide
  learning learning := nomatch learning
  severity := by decide
  health := rfl
  mean := rfl
  deviation := rfl
  low := le_refl _
  high := by
    change (0 : ℝ) ≤ 65535
    norm_num
  spread := by
    change (0 : ℝ) ≤ _
    positivity

variable {device : HealthModel ℝ}

theorem healthStartBaseline_tracked (tracked : Tracked device) (target : U16) :
    Tracked (healthStartBaseline device target).2 := by
  rcases mirror_start device 0 0 target with ⟨-, same⟩ | ⟨-, started, low, high⟩
  · rw [same]
    exact tracked
  · have reset := healthReset_tracked
    rw [started]
    refine ⟨reset.published, reset.consecutive, reset.fresh, reset.counted, fun _ => ⟨?_, high, rfl, rfl⟩, reset.severity,
      reset.health, reset.mean, reset.deviation, reset.low, reset.high, reset.spread⟩
    exact BitVec.lt_def.mpr (Nat.lt_of_lt_of_le
      (by decide : (0 : U16).toNat < healthBaselineMinSamples.toNat) (BitVec.le_def.mp low))

theorem healthRejectInput_tracked (tracked : Tracked device) (flags : U16) : Tracked (healthRejectInput device flags) :=
  ⟨rfl, tracked.consecutive, tracked.fresh, tracked.counted, tracked.learning, tracked.severity, tracked.health,
    tracked.mean, tracked.deviation, tracked.low, tracked.high, tracked.spread⟩

theorem healthVector_rms (features : DspFeatures) :
    (0 : ℝ) ≤ healthVector features 0 ∧ (healthVector features 0 : ℝ) ≤ 65535 := by
  have bound : features.rmsMg.toNat ≤ 65535 := by have := features.rmsMg.isLt; omega
  change (0 : ℝ) ≤ (features.rmsMg.toNat : ℝ) ∧ (features.rmsMg.toNat : ℝ) ≤ 65535
  exact ⟨Nat.cast_nonneg _, by exact_mod_cast bound⟩

theorem healthFinishBaseline_tracked (tracked : Tracked { device with status := { device.status with state := .untrained } })
    (learning : device.status.baselineTarget ≤ 1024 ∧ device.status.anomalyScore = 0 ∧
      device.status.dominantFeature = healthFeatureNone) : Tracked (healthFinishBaseline device) := by
  unfold healthFinishBaseline
  by_cases reached : device.status.baselineSamples ≥ device.status.baselineTarget
  · rw [if_pos reached]
    refine ⟨tracked.published, tracked.consecutive, tracked.fresh, tracked.counted, ?_, ?_, ?_, tracked.mean,
      tracked.deviation, tracked.low, tracked.high, tracked.spread⟩
    · exact fun learning => nomatch learning
    · exact (by decide : (0 : U16) ≤ 1000)
    · exact (BitVec.sub_zero _).symm
  · rw [if_neg reached]
    exact ⟨tracked.published, tracked.consecutive, tracked.fresh, tracked.counted,
      fun _ => ⟨BitVec.not_le.mp reached, learning⟩, tracked.severity, tracked.health, tracked.mean, tracked.deviation,
      tracked.low, tracked.high, tracked.spread⟩

theorem healthLearn_tracked (tracked : Tracked device) (learning : device.status.state = .learning)
    (features : DspFeatures) : Tracked (healthLearn device features) := by
  obtain ⟨below, target, calm, none⟩ := tracked.learning learning
  have limit : device.status.baselineSamples.toNat < device.status.baselineTarget.toNat := BitVec.lt_def.mp below
  have bound : device.status.baselineTarget.toNat ≤ 1024 := BitVec.le_def.mp target
  have next : (device.status.baselineSamples + 1).toNat = device.status.baselineSamples.toNat + 1 := by
    rw [BitVec.toNat_add, show (1 : U16).toNat = 1 from rfl]
    omega
  have some : device.status.baselineSamples + 1 ≠ 0 := by
    rw [← toNat_ne_zero, next]
    omega
  obtain ⟨least, most⟩ := healthVector_rms features
  have counted : 0 < device.status.baselineSamples.toNat + 1 := Nat.succ_pos _
  have within := Welford.update_within counted tracked.low tracked.high least most
  have spread := Welford.spread_within counted tracked.low tracked.high least most tracked.spread
  rw [healthLearn, healthUpdateBaselineSummary]
  dsimp only
  rw [if_neg some]
  refine healthFinishBaseline_tracked ?_ ?_
  case refine_2 => exact ⟨target, calm, none⟩
  constructor
  · exact tracked.published
  · exact tracked.consecutive
  · exact fun zero => absurd zero some
  · rw [BitVec.le_def]
    change (device.status.baselineSamples + 1).toNat ≤ 1024
    omega
  · rintro ⟨⟩
  · exact tracked.severity
  · exact tracked.health
  · exact (if_neg some).symm
  · exact (if_neg some).symm
  · change (0 : ℝ) ≤ (device.stats 0).mean + _ / ((device.status.baselineSamples + 1).toNat : ℝ)
    rw [next]
    exact within.1
  · change (device.stats 0).mean + _ / ((device.status.baselineSamples + 1).toNat : ℝ) ≤ 65535
    rw [next]
    exact within.2
  · change (device.stats 0).m2 + _ * (_ - ((device.stats 0).mean + _ / ((device.status.baselineSamples + 1).toNat : ℝ))) ≤
      ((device.status.baselineSamples + 1).toNat - 1 : Nat) * (65535 : ℝ) ^ 2
    rw [next]
    exact spread

theorem healthQualify_eq (trained : device.status.state ≠ .learning) (maximumWeightedZ : ℝ) :
    ∃ state anomalousStreak recoveryStreak, healthQualify device maximumWeightedZ =
        { device with anomalousStreak, recoveryStreak, status := { device.status with state } } ∧ state ≠ .learning := by
  unfold healthQualify
  dsimp only
  split_ifs
  all_goals refine ⟨_, _, _, rfl, ?_⟩
  all_goals first | exact trained | exact HealthState.noConfusion

theorem worst_nonneg (device : HealthModel ℝ) (features : DspFeatures) :
    (0 : ℝ) ≤ (healthWorst device features).maximumWeightedZ := by
  unfold healthWorst
  refine List.foldlRecOn (motive := fun worst : HealthWorst ℝ => (0 : ℝ) ≤ worst.maximumWeightedZ) _ _ (le_refl (0 : ℝ)) ?_
  intro worst nonneg feature _
  by_cases worse : less worst.maximumWeightedZ (healthWeighted device features feature) = true
  · dsimp only
    rw [if_pos worse]
    exact nonneg.trans ((less_iff _ _).mp worse).le
  · dsimp only
    rw [if_neg worse]
    exact nonneg

/-- The severity that the device publishes, clamped to its range. -/
noncomputable def clampedSeverity (device : HealthModel ℝ) (features : DspFeatures) : ℝ :=
  if less (hundredths 100000) (severity (healthWorst device features).maximumWeightedZ) then hundredths 100000
  else severity (healthWorst device features).maximumWeightedZ

theorem severity_nonneg (device : HealthModel ℝ) (features : DspFeatures) :
    (0 : ℝ) ≤ severity (healthWorst device features).maximumWeightedZ := by
  have worst := worst_nonneg device features
  change (0 : ℝ) ≤ (healthWorst device features).maximumWeightedZ / (((600 : Nat) : ℝ) / 100) * (((100000 : Nat) : ℝ) / 100)
  positivity

theorem clampedSeverity_eq (device : HealthModel ℝ) (features : DspFeatures) :
    clampedSeverity device features =
      if ((1000 : Nat) : ℝ) < severity (healthWorst device features).maximumWeightedZ then ((1000 : Nat) : ℝ)
      else severity (healthWorst device features).maximumWeightedZ := by
  have limit : (hundredths 100000 : ℝ) = ((1000 : Nat) : ℝ) := by
    change ((100000 : Nat) : ℝ) / 100 = _
    norm_num
  simp only [clampedSeverity, limit, less_iff]

theorem clampedSeverity_within (device : HealthModel ℝ) (features : DspFeatures) :
    0 ≤ clampedSeverity device features ∧ clampedSeverity device features ≤ 1000 := by
  rw [clampedSeverity_eq]
  split_ifs with exceeds
  · norm_num
  · exact ⟨severity_nonneg device features, by exact_mod_cast not_lt.mp exceeds⟩

/-- What a scoring leaves of the fields that the invariant is about. -/
structure Scored (before : HealthModel ℝ) (features : DspFeatures) (after : HealthModel ℝ) : Prop where
  trained : after.status.state ≠ .learning
  stats : after.stats = before.stats
  samples : after.status.baselineSamples = before.status.baselineSamples
  rate : after.baselineSampleRateHz = before.baselineSampleRateHz
  rejections : after.status.rejectedInputs = before.status.rejectedInputs ∧
    after.rejectedInputsTotal = before.rejectedInputsTotal
  consecutive : after.status.consecutiveAnomalous = after.anomalousStreak
  summary : after.status.baselineRmsMeanMg = before.status.baselineRmsMeanMg ∧
    after.status.baselineRmsStdMg = before.status.baselineRmsStdMg
  anomaly : after.status.anomalyScore = healthU16 (clampedSeverity before features)
  health : after.status.healthScore = 1000 - after.status.anomalyScore
  deviation : after.status.maxDeviationMilli =
    healthU16 ((healthWorst before features).maximumWeightedZ * hundredths 100000)

theorem healthScore_scored (trained : device.status.state ≠ .learning) (features : DspFeatures) :
    Scored device features (healthScore device features) := by
  obtain ⟨state, anomalousStreak, recoveryStreak, qualified, other⟩ := @healthQualify_eq
    { device with status :=
        { device.status with
          blockSequence := features.blockSequence
          currentRmsMg := features.rmsMg
          currentCrestFactorMilli := features.crestFactorMilli
          currentDominantFrequencyCentiHz := features.dominantFrequencyCentiHz
          exceededFeatureMask := (healthWorst device features).exceededMask
          dominantFeature := (healthWorst device features).dominantFeature
          maxDeviationMilli := healthU16 ((healthWorst device features).maximumWeightedZ * hundredths 100000)
          anomalyScore := healthU16 (clampedSeverity device features)
          healthScore := 1000 - healthU16 (clampedSeverity device features)
          qualityFlags :=
            if atMost healthWarningZ (healthWorst device features).maximumWeightedZ then
              device.status.qualityFlags ||| healthQualityAnomalyPresent
            else device.status.qualityFlags &&& ~~~healthQualityAnomalyPresent } } trained
    (healthWorst device features).maximumWeightedZ
  unfold clampedSeverity severity at qualified
  rw [healthScore]
  dsimp only
  rw [qualified]
  exact ⟨other, rfl, rfl, rfl, ⟨rfl, rfl⟩, rfl, ⟨rfl, rfl⟩, rfl, rfl, rfl⟩

variable {after : HealthModel ℝ} {features : DspFeatures}

theorem Scored.anomaly_near (scored : Scored device features after) :
    Near (min 1000 (HostNumber.round (severity (healthWorst device features).maximumWeightedZ)))
      after.status.anomalyScore.toNat := by
  rw [scored.anomaly, clampedSeverity_eq]
  exact round_clamped (severity_nonneg device features) 1000 (by decide)

theorem Scored.severity (scored : Scored device features after) : after.status.anomalyScore ≤ 1000 := by
  obtain ⟨nonneg, clamped⟩ := clampedSeverity_within device features
  have floor : ⌊clampedSeverity device features + 1 / 2⌋ < 1001 := by
    rw [Int.floor_lt]
    push_cast
    linarith
  rw [BitVec.le_def, scored.anomaly, healthU16_floor nonneg (clamped.trans (by norm_num))]
  change _ ≤ 1000
  omega

theorem Scored.tracked (scored : Scored device features after) (tracked : Tracked device) : Tracked after := by
  refine ⟨?_, scored.consecutive, ?_, ?_, fun learning => absurd learning scored.trained, scored.severity, scored.health,
    ?_, ?_, ?_, ?_, ?_⟩
  · rw [scored.rejections.1, scored.rejections.2]
    exact tracked.published
  · rw [scored.samples, scored.rate]
    exact tracked.fresh
  · rw [scored.samples]
    exact tracked.counted
  · rw [scored.summary.1, scored.samples, scored.stats]
    exact tracked.mean
  · unfold healthSigma
    rw [scored.summary.2, scored.samples, scored.stats]
    exact tracked.deviation
  · rw [scored.stats]
    exact tracked.low
  · rw [scored.stats]
    exact tracked.high
  · rw [scored.samples, scored.stats]
    exact tracked.spread

theorem Scored.deviation_near {after : HealthModel ℝ} {features : DspFeatures} (scored : Scored device features after) :
    Near (min 0xFFFF (HostNumber.round ((healthWorst device features).maximumWeightedZ * hundredths 100000)))
      after.status.maxDeviationMilli.toNat := by
  have nonneg : (0 : ℝ) ≤ (healthWorst device features).maximumWeightedZ * hundredths 100000 := by
    have worst := worst_nonneg device features
    change (0 : ℝ) ≤ (healthWorst device features).maximumWeightedZ * (((100000 : Nat) : ℝ) / 100)
    positivity
  rw [scored.deviation, healthU16_saturates]
  exact round_clamped nonneg 0xFFFF (by decide)

theorem healthSigma_within (tracked : Tracked device) : (0 : ℝ) ≤ healthSigma device 0 ∧ healthSigma device 0 ≤ 65535 := by
  have floor : (healthSigmaFloor 0 : ℝ) = 5 := by
    change ((500 : Nat) : ℝ) / 100 = 5
    norm_num
  have floored : (0 : ℝ) ≤ healthSigmaFloor 0 ∧ (healthSigmaFloor 0 : ℝ) ≤ 65535 := by
    rw [floor]
    norm_num
  unfold healthSigma
  dsimp only
  split_ifs with several positive wider
  · have large : 1 < device.status.baselineSamples.toNat := BitVec.lt_def.mp several
    have fewer : (device.status.baselineSamples - 1).toNat = device.status.baselineSamples.toNat - 1 := by
      rw [BitVec.toNat_sub, show (1 : U16).toNat = 1 from rfl]
      omega
    have count : (0 : ℝ) < (device.status.baselineSamples.toNat - 1 : Nat) := by
      rw [Nat.cast_pos]
      omega
    rw [fewer]
    constructor
    · exact Real.sqrt_nonneg _
    · apply (Real.sqrt_le_left (by norm_num)).mpr
      have spread := tracked.spread
      rw [mul_comm] at spread
      exact (div_le_iff₀ count).mpr spread
  · exact floored
  · exact floored
  · exact floored

end tracking

end Guardian.Simulator
