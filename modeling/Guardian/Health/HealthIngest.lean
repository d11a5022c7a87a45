import Guardian.Dsp.DspService
import Guardian.Health.HealthService
import Mathlib.Data.Fin.VecNotation
import Mathlib.Data.Rat.Sqrt

namespace Guardian.Health

open Word Guardian.Dsp

def healthRejectedAcquisitionFlags : U16 := 0x0002 ||| 0x0008 ||| 0x0020 ||| 0x0040
def healthWarningStreak : U8 := 3
def healthAlarmStreak : U8 := 2
def healthRecoveryStreak : U8 := 5

def healthQualityReferenceCalibration : U16 := 0x0001
def healthQualityInputRejected : U16 := 0x0002
def healthQualitySampleRateMismatch : U16 := 0x0004
def healthQualityBaselineReady : U16 := 0x0008
def healthQualityAnomalyPresent : U16 := 0x0010

/-- The operations of the `float` type. Comparisons are false on unordered values, and `hundredths` gives the literals. -/
class HealthNumber (ρ : Type) extends Zero ρ, Add ρ, Sub ρ, Mul ρ, Div ρ, Neg ρ where
  ofNat : Nat → ρ
  hundredths : Nat → ρ
  less : ρ → ρ → Bool
  atMost : ρ → ρ → Bool
  sqrt : ρ → ρ
  truncate : ρ → Nat

open HealthNumber

section ingest

variable {ρ : Type} [HealthNumber ρ]

def healthWarningZ : ρ := hundredths 300
def healthAlarmZ : ρ := hundredths 600
def healthRecoveryZ : ρ := hundredths 200

def healthSigmaFloor (feature : Fin 7) : ρ := hundredths (![500, 5000, 50000, 50000, 1000, 1000, 1000] feature)
def healthWeight (feature : Fin 7) : ρ := hundredths (![150, 120, 100, 90, 80, 80, 80] feature)

def healthU16 (value : ρ) : U16 :=
  if !less 0 value then 0
  else if atMost (hundredths 6553500) value then 65535
  else BitVec.ofNat 16 (truncate (value + hundredths 50))

def healthAbs (value : ρ) : ρ := if less value 0 then -value else value

def healthVector (features : DspFeatures) (feature : Fin 7) : ρ :=
  ofNat (![features.rmsMg.toNat, features.crestFactorMilli.toNat, features.dominantFrequencyCentiHz.toNat,
    features.spectralCentroidCentiHz.toNat, features.lowBandPermille.toNat, features.midBandPermille.toNat,
    features.highBandPermille.toNat] feature)

def healthInputValid (features : DspFeatures) : Bool :=
  if features.dspStatusFlags &&& 0x0001 = 0 then false
  else if features.acquisitionStatusFlags &&& 0x0001 = 0 then false
  else if features.acquisitionStatusFlags &&& healthRejectedAcquisitionFlags ≠ 0 then false
  else if features.sampleRateHz = 0 then false
  else true

def healthSigma (health : HealthModel ρ) (feature : Fin 7) : ρ :=
  let floor : ρ := healthSigmaFloor feature
  if health.status.baselineSamples > 1 then
    let variance := (health.stats feature).m2 / ofNat (health.status.baselineSamples - 1).toNat
    if less 0 variance then
      let candidate := sqrt variance
      if less floor candidate then candidate else floor
    else floor
  else floor

def healthUpdateBaselineSummary (health : HealthModel ρ) : HealthModel ρ :=
  if health.status.baselineSamples = 0 then
    { health with status := { health.status with baselineRmsMeanMg := 0, baselineRmsStdMg := 0 } }
  else
    { health with status :=
        { health.status with
          baselineRmsMeanMg := healthU16 (health.stats 0).mean
          baselineRmsStdMg := healthU16 (healthSigma health 0) } }

def healthRejectInput (health : HealthModel ρ) (qualityFlag : U16) : HealthModel ρ :=
  let total := if health.rejectedInputsTotal ≠ 0xFFFFFFFF then health.rejectedInputsTotal + 1
    else health.rejectedInputsTotal
  { health with
    rejectedInputsTotal := total
    status :=
      { health.status with
        rejectedInputs := if total > 65535 then 65535 else total.setWidth 16
        qualityFlags := health.status.qualityFlags ||| qualityFlag } }

/-- One update of a running mean and sum of squares, with the `count`-th sample. -/
def HealthStat.learn (stat : HealthStat ρ) (sample : ρ) (count : U16) : HealthStat ρ :=
  let delta := sample - stat.mean
  let mean := stat.mean + delta / ofNat count.toNat
  { mean, m2 := stat.m2 + delta * (sample - mean) }

def healthFinishBaseline (health : HealthModel ρ) : HealthModel ρ :=
  if health.status.baselineSamples ≥ health.status.baselineTarget then
    { health with status :=
        { health.status with
          state := .ready
          qualityFlags := health.status.qualityFlags ||| healthQualityBaselineReady
          anomalyScore := 0
          healthScore := 1000
          dominantFeature := healthFeatureNone } }
  else health

def healthLearn (health : HealthModel ρ) (features : DspFeatures) : HealthModel ρ :=
  let nextCount := health.status.baselineSamples + 1
  healthFinishBaseline (healthUpdateBaselineSummary
    { health with
      baselineSampleRateHz :=
        if health.status.baselineSamples = 0 then features.sampleRateHz.setWidth 32 else health.baselineSampleRateHz
      stats := fun feature => (health.stats feature).learn (healthVector features feature) nextCount
      status :=
        { health.status with
          baselineSamples := nextCount
          qualityFlags :=
            if features.acquisitionStatusFlags &&& 0x0010 ≠ 0 then
              health.status.qualityFlags ||| healthQualityReferenceCalibration
            else health.status.qualityFlags
          blockSequence := features.blockSequence
          currentRmsMg := features.rmsMg
          currentCrestFactorMilli := features.crestFactorMilli
          currentDominantFrequencyCentiHz := features.dominantFrequencyCentiHz } })

/-- The worst feature so far, with the features that reach the warning level. -/
structure HealthWorst (ρ : Type) where
  maximumWeightedZ : ρ
  dominantFeature : U8
  exceededMask : U16

def healthWeighted (health : HealthModel ρ) (features : DspFeatures) (feature : Fin 7) : ρ :=
  healthAbs (healthVector features feature - (health.stats feature).mean) / healthSigma health feature *
    healthWeight feature

def healthWorst (health : HealthModel ρ) (features : DspFeatures) : HealthWorst ρ :=
  (List.finRange 7).foldl (fun worst feature =>
    let weighted := healthWeighted health features feature
    let exceededMask :=
      if atMost healthWarningZ weighted then worst.exceededMask ||| 1 <<< feature.val else worst.exceededMask
    if less worst.maximumWeightedZ weighted then ⟨weighted, BitVec.ofNat 8 feature.val, exceededMask⟩
    else { worst with exceededMask }) ⟨0, healthFeatureNone, 0⟩

def healthIncrementU8 (value : U8) : U8 := if value ≠ 255 then value + 1 else value

/-- The persistence that qualifies a warning, an alarm or a recovery. -/
def healthQualify (health : HealthModel ρ) (maximumWeightedZ : ρ) : HealthModel ρ :=
  let anomalous := healthIncrementU8 health.anomalousStreak
  if atMost healthAlarmZ maximumWeightedZ then
    let state :=
      if anomalous ≥ healthAlarmStreak then .alarm
      else if health.status.state = .ready then .warning
      else health.status.state
    { health with recoveryStreak := 0, anomalousStreak := anomalous, status := { health.status with state } }
  else if atMost healthWarningZ maximumWeightedZ then
    let state :=
      if anomalous ≥ healthWarningStreak ∧ health.status.state ≠ .alarm then .warning else health.status.state
    { health with recoveryStreak := 0, anomalousStreak := anomalous, status := { health.status with state } }
  else if less maximumWeightedZ healthRecoveryZ then
    let recovery := healthIncrementU8 health.recoveryStreak
    let state :=
      if recovery ≥ healthRecoveryStreak ∧ (health.status.state = .warning ∨ health.status.state = .alarm) then .ready
      else health.status.state
    { health with recoveryStreak := recovery, anomalousStreak := 0, status := { health.status with state } }
  else { health with recoveryStreak := 0, anomalousStreak := 0 }

def healthScore (health : HealthModel ρ) (features : DspFeatures) : HealthModel ρ :=
  let worst := healthWorst health features
  let severity := worst.maximumWeightedZ / healthAlarmZ * hundredths 100000
  let anomalyScore := healthU16 (if less (hundredths 100000) severity then hundredths 100000 else severity)
  let scored := healthQualify
    { health with status :=
        { health.status with
          blockSequence := features.blockSequence
          currentRmsMg := features.rmsMg
          currentCrestFactorMilli := features.crestFactorMilli
          currentDominantFrequencyCentiHz := features.dominantFrequencyCentiHz
          exceededFeatureMask := worst.exceededMask
          dominantFeature := worst.dominantFeature
          maxDeviationMilli := healthU16 (worst.maximumWeightedZ * hundredths 100000)
          anomalyScore
          healthScore := 1000 - anomalyScore
          qualityFlags :=
            if atMost healthWarningZ worst.maximumWeightedZ then
              health.status.qualityFlags ||| healthQualityAnomalyPresent
            else health.status.qualityFlags &&& ~~~healthQualityAnomalyPresent } } worst.maximumWeightedZ
  { scored with status := { scored.status with consecutiveAnomalous := scored.anomalousStreak } }

def healthIngest (health : HealthModel ρ) (features : DspFeatures) : HealthModel ρ :=
  if !healthInputValid features then healthRejectInput health healthQualityInputRejected
  else if health.baselineSampleRateHz ≠ 0 ∧ features.sampleRateHz.setWidth 32 ≠ health.baselineSampleRateHz then
    healthRejectInput health (healthQualityInputRejected ||| healthQualitySampleRateMismatch)
  else
    match health.status.state with
    | .learning => healthLearn health features
    | .ready | .warning | .alarm => healthScore health features
    | .untrained => health

end ingest

/-- Rational numbers for the model. -/
instance : HealthNumber ℚ where
  ofNat := Nat.cast
  hundredths count := count / 100
  less left right := left < right
  atMost left right := left ≤ right
  sqrt := Rat.sqrt
  truncate value := value.floor.toNat

end Guardian.Health
