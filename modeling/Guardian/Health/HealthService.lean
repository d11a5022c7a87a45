import Guardian.Lib.Check
import Guardian.Protocol.Frame
import Guardian.Lib.Word

namespace Guardian.Health

open Word

inductive HealthState
  | untrained
  | learning
  | ready
  | warning
  | alarm
  deriving DecidableEq, Repr

structure HealthStatus where
  state : HealthState
  baselineSamples : U16
  baselineTarget : U16
  anomalyScore : U16
  healthScore : U16
  maxDeviationMilli : U16
  dominantFeature : U8
  consecutiveAnomalous : U8
  qualityFlags : U16
  blockSequence : U32
  currentRmsMg : U16
  currentCrestFactorMilli : U16
  currentDominantFrequencyCentiHz : U32
  baselineRmsMeanMg : U16
  baselineRmsStdMg : U16
  exceededFeatureMask : U16
  rejectedInputs : U16
  deriving DecidableEq, Repr

open Guardian.Protocol

def healthSchemaVersion : U8 := 0x01
def healthStatusPayloadSize : Nat := 36
def baselineControlPayloadSize : Nat := 4
def healthBaselineMinSamples : U16 := 16
def healthBaselineMaxSamples : U16 := 1024
def healthFeatureNone : U8 := 0xFF

def baselineActionStart : U8 := 1
def baselineActionReset : U8 := 2

def HealthState.code : HealthState → U8
  | .untrained => 0
  | .learning => 1
  | .ready => 2
  | .warning => 3
  | .alarm => 4

/-- The running mean and sum of squares of one feature, in the numbers `ρ` that the model computes with. -/
structure HealthStat (ρ : Type) where
  mean : ρ
  m2 : ρ
  deriving DecidableEq

structure HealthModel (ρ : Type) where
  status : HealthStatus
  stats : Fin 7 → HealthStat ρ
  baselineSampleRateHz : U32
  anomalousStreak : U8
  recoveryStreak : U8
  rejectedInputsTotal : U32

section model

variable {ρ : Type} [Zero ρ]

def healthReset : HealthModel ρ where
  status :=
    { state := .untrained
      baselineSamples := 0
      baselineTarget := 0
      anomalyScore := 0
      healthScore := 1000
      maxDeviationMilli := 0
      dominantFeature := healthFeatureNone
      consecutiveAnomalous := 0
      qualityFlags := 0
      blockSequence := 0
      currentRmsMg := 0
      currentCrestFactorMilli := 0
      currentDominantFrequencyCentiHz := 0
      baselineRmsMeanMg := 0
      baselineRmsStdMg := 0
      exceededFeatureMask := 0
      rejectedInputs := 0 }
  stats _ := ⟨0, 0⟩
  baselineSampleRateHz := 0
  anomalousStreak := 0
  recoveryStreak := 0
  rejectedInputsTotal := 0

def healthInit : HealthModel ρ := healthReset

def healthStartBaseline (health : HealthModel ρ) (targetSamples : U16) : Bool × HealthModel ρ :=
  if targetSamples < healthBaselineMinSamples ∨ targetSamples > healthBaselineMaxSamples then (false, health)
  else
    let reset : HealthModel ρ := healthReset
    (true, { reset with status := { reset.status with state := .learning, baselineTarget := targetSamples } })

def healthMakeError (request : Frame) (error : ErrorCode) : Frame := makeError request error

def healthEncodeStatusPayload (status : HealthStatus) (capacity : Nat) : Except ProtocolResult (List U8) :=
  if capacity < healthStatusPayloadSize then .error .errorOutputTooSmall
  else
    .ok ([healthSchemaVersion, status.state.code] ++ putU16Be status.baselineSamples ++
      putU16Be status.baselineTarget ++ putU16Be status.anomalyScore ++ putU16Be status.healthScore ++
      putU16Be status.maxDeviationMilli ++ [status.dominantFeature, status.consecutiveAnomalous] ++
      putU16Be status.qualityFlags ++ putU32Be status.blockSequence ++ putU16Be status.currentRmsMg ++
      putU16Be status.currentCrestFactorMilli ++ putU32Be status.currentDominantFrequencyCentiHz ++
      putU16Be status.baselineRmsMeanMg ++ putU16Be status.baselineRmsStdMg ++ putU16Be status.exceededFeatureMask ++
      putU16Be status.rejectedInputs)

def healthHandleRequest (health : HealthModel ρ) (request : Frame) : Except ProtocolResult Frame × HealthModel ρ :=
  if request.messageType ≠ .request then (.ok (healthMakeError request .malformedFrame), health)
  else if request.command = commandGetHealthStatus then
    if request.payload.length ≠ 0 then (.ok (healthMakeError request .invalidPayload), health)
    else ((healthEncodeStatusPayload health.status maxPayloadSize).map (request.answer .response), health)
  else if request.command = commandBaselineControl then
    if request.payload.length ≠ baselineControlPayloadSize then
      (.ok (healthMakeError request .invalidPayload), health)
    else if request.payload.getD 0 0 ≠ healthSchemaVersion then
      (.ok (healthMakeError request .invalidPayload), health)
    else
      let action := request.payload.getD 1 0
      let targetSamples := getU16Be (request.payload.drop 2)
      let response (target : U16) : Frame :=
        request.answer .response ([healthSchemaVersion, action] ++ putU16Be target)
      if action = baselineActionStart then
        let started := healthStartBaseline health targetSamples
        if !started.1 then (.ok (healthMakeError request .invalidPayload), health)
        else (.ok (response started.2.status.baselineTarget), started.2)
      else if action = baselineActionReset then
        if targetSamples ≠ 0 then (.ok (healthMakeError request .invalidPayload), health)
        else (.ok (response 0), healthReset)
      else (.ok (healthMakeError request .invalidPayload), health)
  else (.ok (healthMakeError request .unknownCommand), health)

theorem healthHandleRequest_answers (health : HealthModel ρ) (request : Frame) :
    ∃ answer, (healthHandleRequest health request).1 = .ok answer ∧ answer.Answers request ∧
      answer.payload.length ≤ healthStatusPayloadSize := by
  change request.Replied healthStatusPayloadSize (healthHandleRequest health request)
  have error (code : ErrorCode) : request.Replied healthStatusPayloadSize (.ok (healthMakeError request code), health) :=
    request.replied_error code (by decide) health
  have response {payload : List U8} (fits : payload.length ≤ healthStatusPayloadSize) (after : HealthModel ρ) :
      request.Replied healthStatusPayloadSize (.ok (request.answer .response payload), after) :=
    request.replied_response fits (by decide) after
  unfold healthHandleRequest
  apply Check.either (error _)
  apply Check.either
  · apply Check.either (error _)
    exact response (by simp [healthStatusPayloadSize]) health
  apply Check.either
  · apply Check.either (error _)
    apply Check.either (error _)
    dsimp only
    apply Check.either
    · apply Check.either (error _)
      exact response (by simp [healthStatusPayloadSize]) _
    · apply Check.either
      · apply Check.either (error _)
        exact response (by simp [healthStatusPayloadSize]) _
      · exact error _
  · exact error _

theorem healthHandleRequest_malformed (health : HealthModel ρ) {request : Frame} (other : request.messageType ≠ .request) :
    healthHandleRequest health request = (.ok (makeError request .malformedFrame), health) := if_pos other

theorem healthHandleRequest_keeps (health : HealthModel ρ) {request : Frame}
    (other : request.command ≠ commandBaselineControl) : (healthHandleRequest health request).2 = health := by
  unfold healthHandleRequest
  rw [if_neg other]
  split_ifs <;> rfl

theorem healthHandleRequest_refused (health : HealthModel ρ) {request answer : Frame}
    (handled : (healthHandleRequest health request).1 = .ok answer) (refused : answer.messageType ≠ .response) :
    (healthHandleRequest health request).2 = health := by
  have changed : ChangedByResponse health (healthHandleRequest health request) := by
    have error (code : ErrorCode) : ChangedByResponse health (.ok (healthMakeError request code), health) :=
      changedByResponse_kept health _
    unfold healthHandleRequest
    apply Check.either (error _)
    apply Check.either
    · apply Check.either (error _)
      exact changedByResponse_kept health _
    apply Check.either
    · apply Check.either (error _)
      apply Check.either (error _)
      dsimp only
      apply Check.either
      · apply Check.either (error _)
        exact changedByResponse_answer health _ request _
      · apply Check.either
        · apply Check.either (error _)
          exact changedByResponse_answer health _ request _
        · exact error _
    · exact error _
  exact changed answer handled refused

end model

end Guardian.Health
