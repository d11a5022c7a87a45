import Guardian.Health.HealthIngest
import Guardian.Host.StatusDecoders
import Mathlib.Data.Nat.Bitwise

namespace Guardian.Simulator

open Word Health Dsp HealthNumber

/-- The numbers of the simulator, with the integer that `round` gives for a number that is not negative. -/
class HostNumber (ρ : Type) extends HealthNumber ρ where
  round : ρ → Nat

structure SimulatorHealthModel (ρ : Type) where
  state : HealthState
  baselineSamples : Nat
  baselineTarget : Nat
  sampleRateHz : Nat
  means : Fin 7 → ρ
  m2 : Fin 7 → ρ
  anomalyScore : Nat
  healthScore : Nat
  dominantFeature : Nat
  anomalousStreak : Nat
  recoveryStreak : Nat
  qualityFlags : Nat
  blockSequence : Nat
  currentRmsMg : Nat
  currentCrestFactorMilli : Nat
  currentDominantFrequencyCentiHz : Nat
  exceededFeatureMask : Nat
  rejectedInputs : Nat
  maxDeviationMilli : Nat

structure SimulatorWorst (ρ : Type) where
  maximumWeightedZ : ρ
  dominantFeature : Nat
  exceededMask : Nat

namespace SimulatorHealthModel

variable {ρ : Type} [HostNumber ρ]

def sigmaFloor (feature : Fin 7) : ρ := hundredths (![500, 5000, 50000, 50000, 1000, 1000, 1000] feature)
def weight (feature : Fin 7) : ρ := hundredths (![150, 120, 100, 90, 80, 80, 80] feature)
def warningZ : ρ := hundredths 300
def alarmZ : ρ := hundredths 600
def recoveryZ : ρ := hundredths 200

def reset : SimulatorHealthModel ρ where
  state := .untrained
  baselineSamples := 0
  baselineTarget := 0
  sampleRateHz := 0
  means _ := 0
  m2 _ := 0
  anomalyScore := 0
  healthScore := 1000
  dominantFeature := 0xFF
  anomalousStreak := 0
  recoveryStreak := 0
  qualityFlags := 0
  blockSequence := 0
  currentRmsMg := 0
  currentCrestFactorMilli := 0
  currentDominantFrequencyCentiHz := 0
  exceededFeatureMask := 0
  rejectedInputs := 0
  maxDeviationMilli := 0

/-- The `ValueError` of a target out of bounds leaves the model as it is. -/
def start (model : SimulatorHealthModel ρ) (targetSamples : Nat) : SimulatorHealthModel ρ :=
  if ¬ (16 ≤ targetSamples ∧ targetSamples ≤ 1024) then model
  else { (reset : SimulatorHealthModel ρ) with state := .learning, baselineTarget := targetSamples }

def vector (features : DspFeatures) (feature : Fin 7) : ρ :=
  ofNat (![features.rmsMg.toNat, features.crestFactorMilli.toNat, features.dominantFrequencyCentiHz.toNat,
    features.spectralCentroidCentiHz.toNat, features.lowBandPermille.toNat, features.midBandPermille.toNat,
    features.highBandPermille.toNat] feature)

/-- The larger of two numbers, and the first one unless the second is greater. -/
def larger (first second : ρ) : ρ := if less first second then second else first

def sigma (model : SimulatorHealthModel ρ) (feature : Fin 7) : ρ :=
  if model.baselineSamples > 1 then
    let variance := model.m2 feature / ofNat (model.baselineSamples - 1)
    if less 0 variance then larger (sigmaFloor feature) (HealthNumber.sqrt variance) else sigmaFloor feature
  else sigmaFloor feature

def magnitude (value : ρ) : ρ := if less value 0 then -value else value

/-- The update of the statistics with the sample that makes `nextCount`. -/
def learnStatistics (model : SimulatorHealthModel ρ) (features : DspFeatures) (nextCount : Nat) :
    SimulatorHealthModel ρ :=
  let delta feature := vector features feature - model.means feature
  let means feature := model.means feature + delta feature / ofNat nextCount
  { model with
    means
    m2 := fun feature => model.m2 feature + delta feature * (vector features feature - means feature)
    baselineSamples := nextCount }

def learn (model : SimulatorHealthModel ρ) (features : DspFeatures) : SimulatorHealthModel ρ :=
  let learned := model.learnStatistics features (model.baselineSamples + 1)
  let published : SimulatorHealthModel ρ :=
    { learned with
      blockSequence := features.blockSequence.toNat
      currentRmsMg := features.rmsMg.toNat
      currentCrestFactorMilli := features.crestFactorMilli.toNat
      currentDominantFrequencyCentiHz := features.dominantFrequencyCentiHz.toNat
      qualityFlags :=
        if features.acquisitionStatusFlags.toNat &&& 0x0010 ≠ 0 then learned.qualityFlags ||| 0x0001
        else learned.qualityFlags }
  if published.baselineSamples ≥ published.baselineTarget then
    { published with state := .ready, qualityFlags := published.qualityFlags ||| 0x0008 }
  else published

def weighted (model : SimulatorHealthModel ρ) (features : DspFeatures) (feature : Fin 7) : ρ :=
  magnitude (vector features feature - model.means feature) / model.sigma feature * weight feature

def worst (model : SimulatorHealthModel ρ) (features : DspFeatures) : SimulatorWorst ρ :=
  (List.finRange 7).foldl (fun worst feature =>
    let weighted := model.weighted features feature
    let exceededMask :=
      if atMost warningZ weighted then worst.exceededMask ||| 1 <<< feature.val else worst.exceededMask
    if less worst.maximumWeightedZ weighted then ⟨weighted, feature.val, exceededMask⟩
    else { worst with exceededMask }) ⟨0, 0xFF, 0⟩

def qualify (model : SimulatorHealthModel ρ) (maximumWeightedZ : ρ) : SimulatorHealthModel ρ :=
  let anomalous := min 255 (model.anomalousStreak + 1)
  if atMost alarmZ maximumWeightedZ then
    { model with
      recoveryStreak := 0
      anomalousStreak := anomalous
      state := if anomalous ≥ 2 then .alarm else if model.state = .ready then .warning else model.state }
  else if atMost warningZ maximumWeightedZ then
    { model with
      recoveryStreak := 0
      anomalousStreak := anomalous
      state := if anomalous ≥ 3 ∧ model.state ≠ .alarm then .warning else model.state }
  else if less maximumWeightedZ recoveryZ then
    let recovery := min 255 (model.recoveryStreak + 1)
    { model with
      anomalousStreak := 0
      recoveryStreak := recovery
      state := if recovery ≥ 5 ∧ (model.state = .warning ∨ model.state = .alarm) then .ready else model.state }
  else { model with anomalousStreak := 0, recoveryStreak := 0 }

def score (model : SimulatorHealthModel ρ) (features : DspFeatures) : SimulatorHealthModel ρ :=
  let worst := model.worst features
  let anomalyScore := min 1000 (HostNumber.round (worst.maximumWeightedZ / alarmZ * hundredths 100000))
  { model with
    blockSequence := features.blockSequence.toNat
    currentRmsMg := features.rmsMg.toNat
    currentCrestFactorMilli := features.crestFactorMilli.toNat
    currentDominantFrequencyCentiHz := features.dominantFrequencyCentiHz.toNat
    exceededFeatureMask := worst.exceededMask
    dominantFeature := worst.dominantFeature
    maxDeviationMilli := min 0xFFFF (HostNumber.round (worst.maximumWeightedZ * hundredths 100000))
    anomalyScore
    healthScore := 1000 - anomalyScore
    qualityFlags :=
      if atMost warningZ worst.maximumWeightedZ then model.qualityFlags ||| 0x0010
      else Nat.ldiff model.qualityFlags 0x0010 }.qualify worst.maximumWeightedZ

def rejectInput (model : SimulatorHealthModel ρ) : SimulatorHealthModel ρ :=
  { model with
    rejectedInputs := min 0xFFFF (model.rejectedInputs + 1)
    qualityFlags := model.qualityFlags ||| (0x0002 ||| 0x0004) }

def ingest (model : SimulatorHealthModel ρ) (features : DspFeatures) : SimulatorHealthModel ρ :=
  let captured : SimulatorHealthModel ρ :=
    if model.state = .learning ∧ model.baselineSamples = 0 then
      { model with sampleRateHz := features.sampleRateHz.toNat }
    else model
  if captured.sampleRateHz ≠ 0 ∧ features.sampleRateHz.toNat ≠ captured.sampleRateHz then captured.rejectInput
  else if captured.state = .learning then captured.learn features
  else if captured.state = .untrained then captured
  else captured.score features

local instance featuresNeZero : NeZero 7 := ⟨by decide⟩

def status (model : SimulatorHealthModel ρ) : Host.HealthStatus where
  state := model.state
  baselineSamples := model.baselineSamples
  baselineTarget := model.baselineTarget
  anomalyScore := model.anomalyScore
  healthScore := model.healthScore
  maxDeviationMilli := model.maxDeviationMilli
  dominantFeature := model.dominantFeature
  consecutiveAnomalous := model.anomalousStreak
  qualityFlags := model.qualityFlags
  blockSequence := model.blockSequence
  currentRmsMg := model.currentRmsMg
  currentCrestFactorMilli := model.currentCrestFactorMilli
  currentDominantFrequencyCentiHz := model.currentDominantFrequencyCentiHz
  baselineRmsMeanMg := if model.baselineSamples ≠ 0 then HostNumber.round (model.means 0) else 0
  baselineRmsStdMg := if model.baselineSamples ≠ 0 then HostNumber.round (model.sigma 0) else 0
  exceededFeatureMask := model.exceededFeatureMask
  rejectedInputs := model.rejectedInputs

end SimulatorHealthModel

end Guardian.Simulator
