import Guardian.Control.ControlFlags
import Guardian.Control.ControlService
import Guardian.Dsp.DspService
import Guardian.Health.HealthService
import Guardian.Host.FirmwareCodec
import Guardian.Host.SecureCodec
import Guardian.Host.TelemetryMonitor
import Guardian.Lib.PackedFields
import Guardian.Control.Control

namespace Guardian.Host

open Word Health Supervision

structure HealthStatus where
  state : HealthState
  baselineSamples : Nat
  baselineTarget : Nat
  anomalyScore : Nat
  healthScore : Nat
  maxDeviationMilli : Nat
  dominantFeature : Nat
  consecutiveAnomalous : Nat
  qualityFlags : Nat
  blockSequence : Nat
  currentRmsMg : Nat
  currentCrestFactorMilli : Nat
  currentDominantFrequencyCentiHz : Nat
  baselineRmsMeanMg : Nat
  baselineRmsStdMg : Nat
  exceededFeatureMask : Nat
  rejectedInputs : Nat
  deriving DecidableEq, Repr

structure ControlStatus where
  state : ControlState
  supervisionEnabled : Bool
  localRunRequest : Bool
  runPermit : Bool
  interlockClosed : Bool
  healthState : HealthState
  outputAvailable : Bool
  latchedFaults : Nat
  activeFaults : Nat
  healthScore : Nat
  anomalyScore : Nat
  transitionCount : Nat
  faultLatchCount : Nat
  lastTransitionReason : Nat
  deriving DecidableEq, Repr

/-- The health record of the device, as the host library holds it. -/
def readHealthStatus (status : Health.HealthStatus) : HealthStatus where
  state := status.state
  baselineSamples := status.baselineSamples.toNat
  baselineTarget := status.baselineTarget.toNat
  anomalyScore := status.anomalyScore.toNat
  healthScore := status.healthScore.toNat
  maxDeviationMilli := status.maxDeviationMilli.toNat
  dominantFeature := status.dominantFeature.toNat
  consecutiveAnomalous := status.consecutiveAnomalous.toNat
  qualityFlags := status.qualityFlags.toNat
  blockSequence := status.blockSequence.toNat
  currentRmsMg := status.currentRmsMg.toNat
  currentCrestFactorMilli := status.currentCrestFactorMilli.toNat
  currentDominantFrequencyCentiHz := status.currentDominantFrequencyCentiHz.toNat
  baselineRmsMeanMg := status.baselineRmsMeanMg.toNat
  baselineRmsStdMg := status.baselineRmsStdMg.toNat
  exceededFeatureMask := status.exceededFeatureMask.toNat
  rejectedInputs := status.rejectedInputs.toNat

/-- The control record of the device, as the host library holds it. -/
def readControlStatus (status : Supervision.ControlStatus) : ControlStatus where
  state := status.state
  supervisionEnabled := status.supervisionEnabled ≠ 0
  localRunRequest := status.localRunRequest ≠ 0
  runPermit := status.runPermit ≠ 0
  interlockClosed := status.interlockClosed ≠ 0
  healthState := status.healthState
  outputAvailable := status.outputAvailable ≠ 0
  latchedFaults := status.latchedFaults.toNat
  activeFaults := status.activeFaults.toNat
  healthScore := status.healthScore.toNat
  anomalyScore := status.anomalyScore.toNat
  transitionCount := status.transitionCount.toNat
  faultLatchCount := status.faultLatchCount.toNat
  lastTransitionReason := status.lastTransitionReason.toNat

open PackedFields Guardian.Protocol Guardian.App Guardian.Dsp Guardian.Health Guardian.Supervision Guardian.Session

  Guardian.Firmware

inductive ControlFlag
  | supervisionEnabled
  | localRunRequest
  | runPermit
  | interlockClosed
  | outputAvailable
  deriving DecidableEq, Repr

/-- Each failure stands for one message and carries the values in it. -/
inductive StatusFailure
  | size (received : Nat)
  | schemaVersion (schema : U8)
  | reserved
  | healthState (raw : U8)
  | controlState (raw : U8)
  | scores
  | flag (field : ControlFlag)
  deriving DecidableEq, Repr

structure SecurityStatus where
  configured : Bool
  active : Bool
  activeRole : SecurityRole
  sessionId : Nat
  nextCounter : Nat
  timeoutSeconds : Nat
  remainingSeconds : Nat
  authSuccesses : Nat
  authFailures : Nat
  replayRejections : Nat
  unauthorizedRejections : Nat
  deriving DecidableEq, Repr

structure DspFeatures where
  blockSequence : Nat
  sampleRateHz : Nat
  rmsMg : Nat
  peakMg : Nat
  crestFactorMilli : Nat
  dominantFrequencyCentiHz : Nat
  dominantPeakMg : Nat
  spectralCentroidCentiHz : Nat
  lowBandPermille : Nat
  midBandPermille : Nat
  highBandPermille : Nat
  acquisitionStatusFlags : Nat
  deriving DecidableEq, Repr

/-- The security status of the device, as the host library holds it. -/
def readSecurityStatus (status : Session.SecurityStatus) : SecurityStatus where
  configured := status.configured ≠ 0
  active := status.active ≠ 0
  activeRole := status.activeRole
  sessionId := status.sessionId.toNat
  nextCounter := status.nextCounter.toNat
  timeoutSeconds := status.timeoutSeconds.toNat
  remainingSeconds := status.remainingSeconds.toNat
  authSuccesses := status.authSuccesses.toNat
  authFailures := status.authFailures.toNat
  replayRejections := status.replayRejections.toNat
  unauthorizedRejections := status.unauthorizedRejections.toNat

/-- The features of the device, as the host library holds them. -/
def readDspFeatures (features : Dsp.DspFeatures) : DspFeatures where
  blockSequence := features.blockSequence.toNat
  sampleRateHz := features.sampleRateHz.toNat
  rmsMg := features.rmsMg.toNat
  peakMg := features.peakMg.toNat
  crestFactorMilli := features.crestFactorMilli.toNat
  dominantFrequencyCentiHz := features.dominantFrequencyCentiHz.toNat
  dominantPeakMg := features.dominantPeakMg.toNat
  spectralCentroidCentiHz := features.spectralCentroidCentiHz.toNat
  lowBandPermille := features.lowBandPermille.toNat
  midBandPermille := features.midBandPermille.toNat
  highBandPermille := features.highBandPermille.toNat
  acquisitionStatusFlags := features.acquisitionStatusFlags.toNat

def readMachineTelemetry (telemetry : Telemetry) (state : DeviceState) : MachineTelemetry where
  state
  timestampMs := telemetry.timestampMs
  measurements := telemetry.measurements

def memberOf {σ : Type} (members : List σ) (code : σ → U8) (raw : U8) : Option σ :=
  members.find? fun member => code member = raw

def healthStateOf (raw : U8) : Option HealthState :=
  memberOf [.untrained, .learning, .ready, .warning, .alarm] HealthState.code raw

def controlStateOf (raw : U8) : Option ControlState :=
  memberOf [.disabled, .armed, .active, .degraded, .faultLatched] ControlState.code raw

def firmwareStateOf (raw : U8) : Option FirmwareState :=
  memberOf [.idle, .receiving, .verified, .pendingActivation, .confirmed, .rolledBack, .failed] FirmwareState.code raw

def firmwareFailureOf (raw : U8) : Option FirmwareFailure :=
  memberOf [.none, .unconfigured, .invalidPayload, .rollbackBlocked, .storage, .hashMismatch, .signatureInvalid,
    .activation, .confirmation, .outOfOrder] FirmwareFailure.code raw

@[simp] theorem healthStateOf_code (state : HealthState) : healthStateOf state.code = some state := by
  cases state <;> rfl

@[simp] theorem controlStateOf_code (state : ControlState) : controlStateOf state.code = some state := by
  cases state <;> rfl

@[simp] theorem firmwareStateOf_code (state : FirmwareState) : firmwareStateOf state.code = some state := by
  cases state <;> rfl

@[simp] theorem firmwareFailureOf_code (failure : FirmwareFailure) :
    firmwareFailureOf failure.code = some failure := by
  cases failure <;> rfl

def healthStatusFormat : List Field :=
  [.u8, .u8, .u16, .u16, .u16, .u16, .u16, .u8, .u8, .u16, .u32, .u16, .u16, .u32, .u16, .u16, .u16, .u16]

def controlStatusFormat : List Field :=
  [.u8, .u8, .u8, .u8, .u8, .u8, .u8, .u8, .u16, .u16, .u16, .u16, .u32, .u32, .u8, .u8, .u16]

def securityStatusFormat : List Field :=
  [.u8, .u8, .u8, .u8, .u32, .u64, .u16, .u16, .u32, .u32, .u32, .u32]

def firmwareStatusFormat : List Field :=
  [.u8, .u8, .u8, .u8, .u32, .u32, .u32, .u32, .u32, .u32, .u16, .u16, .u16]

def dspFeaturesFormat : List Field :=
  [.u8, .u8, .u32, .u16, .u16, .u16, .u16, .u32, .u16, .u32, .u16, .u16, .u16, .u16]

def decodeHealthStatus (encoded : List U8) : Except StatusFailure HealthStatus :=
  if encoded.length ≠ packedSize healthStatusFormat then .error (.size encoded.length)
  else
    let (schemaVersion, stateValue, baselineSamples, baselineTarget, anomalyScore, healthScore, maxDeviationMilli,
      dominantFeature, consecutiveAnomalous, qualityFlags, blockSequence, currentRmsMg, currentCrestFactorMilli,
      currentDominantFrequencyCentiHz, baselineRmsMeanMg, baselineRmsStdMg, exceededFeatureMask, rejectedInputs, ()) :=
      unpack healthStatusFormat encoded
    if schemaVersion ≠ healthSchemaVersion then .error (.schemaVersion schemaVersion)
    else match healthStateOf stateValue with
      | none => .error (.healthState stateValue)
      | some state =>
        if anomalyScore.toNat > 1000 ∨ healthScore.toNat > 1000 then .error .scores
        else
          .ok
            { state
              baselineSamples := baselineSamples.toNat
              baselineTarget := baselineTarget.toNat
              anomalyScore := anomalyScore.toNat
              healthScore := healthScore.toNat
              maxDeviationMilli := maxDeviationMilli.toNat
              dominantFeature := dominantFeature.toNat
              consecutiveAnomalous := consecutiveAnomalous.toNat
              qualityFlags := qualityFlags.toNat
              blockSequence := blockSequence.toNat
              currentRmsMg := currentRmsMg.toNat
              currentCrestFactorMilli := currentCrestFactorMilli.toNat
              currentDominantFrequencyCentiHz := currentDominantFrequencyCentiHz.toNat
              baselineRmsMeanMg := baselineRmsMeanMg.toNat
              baselineRmsStdMg := baselineRmsStdMg.toNat
              exceededFeatureMask := exceededFeatureMask.toNat
              rejectedInputs := rejectedInputs.toNat }

def decodeBool (value : U8) (field : ControlFlag) : Except StatusFailure Bool :=
  if ¬ (value = 0 ∨ value = 1) then .error (.flag field) else .ok (value ≠ 0)

def decodeControlStatus (encoded : List U8) : Except StatusFailure ControlStatus :=
  if encoded.length ≠ packedSize controlStatusFormat then .error (.size encoded.length)
  else
    let (schemaVersion, stateValue, supervisionEnabledValue, localRunRequestValue, runPermitValue, interlockClosedValue,
      healthStateValue, outputAvailableValue, latchedFaults, activeFaults, healthScore, anomalyScore, transitionCount,
      faultLatchCount, lastTransitionReason, reserved, reserved2, ()) := unpack controlStatusFormat encoded
    if schemaVersion ≠ controlSchemaVersion then .error (.schemaVersion schemaVersion)
    else if reserved ≠ 0 ∨ reserved2 ≠ 0 then .error .reserved
    else match controlStateOf stateValue with
      | none => .error (.controlState stateValue)
      | some state => match healthStateOf healthStateValue with
        | none => .error (.healthState healthStateValue)
        | some healthState =>
          if healthScore.toNat > 1000 ∨ anomalyScore.toNat > 1000 then .error .scores
          else do
            let supervisionEnabled ← decodeBool supervisionEnabledValue .supervisionEnabled
            let localRunRequest ← decodeBool localRunRequestValue .localRunRequest
            let runPermit ← decodeBool runPermitValue .runPermit
            let interlockClosed ← decodeBool interlockClosedValue .interlockClosed
            let outputAvailable ← decodeBool outputAvailableValue .outputAvailable
            return {
              state
              supervisionEnabled
              localRunRequest
              runPermit
              interlockClosed
              healthState
              outputAvailable
              latchedFaults := latchedFaults.toNat
              activeFaults := activeFaults.toNat
              healthScore := healthScore.toNat
              anomalyScore := anomalyScore.toNat
              transitionCount := transitionCount.toNat
              faultLatchCount := faultLatchCount.toNat
              lastTransitionReason := lastTransitionReason.toNat }

def decodeSecurityStatus (encoded : List U8) : Except SecurityValueFailure SecurityStatus :=
  if encoded.length ≠ packedSize securityStatusFormat then .error (.statusSize encoded.length)
  else
    let (schema, configured, active, roleValue, sessionId, nextCounter, timeoutSeconds, remainingSeconds, authSuccesses,
      authFailures, replayRejections, unauthorizedRejections, ()) := unpack securityStatusFormat encoded
    if schema ≠ securitySchemaVersion then .error (.schemaVersion schema)
    else if ¬ (configured = 0 ∨ configured = 1) ∨ ¬ (active = 0 ∨ active = 1) then .error .statusBooleans
    else
      (securityRoleOf roleValue).map fun activeRole =>
        { configured := configured ≠ 0
          active := active ≠ 0
          activeRole
          sessionId := sessionId.toNat
          nextCounter := nextCounter.toNat
          timeoutSeconds := timeoutSeconds.toNat
          remainingSeconds := remainingSeconds.toNat
          authSuccesses := authSuccesses.toNat
          authFailures := authFailures.toNat
          replayRejections := replayRejections.toNat
          unauthorizedRejections := unauthorizedRejections.toNat }

def decodeFirmwareStatus (encoded : List U8) : Except FirmwareValueFailure FirmwareStatus :=
  if encoded.length ≠ packedSize firmwareStatusFormat then .error (.statusSize encoded.length)
  else
    let (schema, stateValue, failureValue, algorithm, activeCounter, rollbackFloor, candidateCounter, bytesReceived,
      imageSize, keyId, major, minor, patch, ()) := unpack firmwareStatusFormat encoded
    if schema ≠ firmwareSchemaVersion then .error (.schemaVersion schema)
    else match firmwareStateOf stateValue with
      | none => .error (.stateValue stateValue)
      | some state => match firmwareFailureOf failureValue with
        | none => .error (.failureValue failureValue)
        | some failure =>
          .ok
            { state
              failure
              signatureAlgorithm := algorithm.toNat
              activeVersionCounter := activeCounter.toNat
              rollbackFloor := rollbackFloor.toNat
              candidateVersionCounter := candidateCounter.toNat
              bytesReceived := bytesReceived.toNat
              imageSize := imageSize.toNat
              keyId := keyId.toNat
              firmwareMajor := major.toNat
              firmwareMinor := minor.toNat
              firmwarePatch := patch.toNat }

def decodeDspFeatures (encoded : List U8) : Except StatusFailure DspFeatures :=
  if encoded.length ≠ packedSize dspFeaturesFormat then .error (.size encoded.length)
  else
    let (schemaVersion, reserved, blockSequence, sampleRateHz, rmsMg, peakMg, crestFactorMilli,
      dominantFrequencyCentiHz, dominantPeakMg, spectralCentroidCentiHz, lowBandPermille, midBandPermille,
      highBandPermille, acquisitionStatusFlags, ()) := unpack dspFeaturesFormat encoded
    if schemaVersion ≠ dspSchemaVersion then .error (.schemaVersion schemaVersion)
    else if reserved ≠ 0 then .error .reserved
    else
      .ok
        { blockSequence := blockSequence.toNat
          sampleRateHz := sampleRateHz.toNat
          rmsMg := rmsMg.toNat
          peakMg := peakMg.toNat
          crestFactorMilli := crestFactorMilli.toNat
          dominantFrequencyCentiHz := dominantFrequencyCentiHz.toNat
          dominantPeakMg := dominantPeakMg.toNat
          spectralCentroidCentiHz := spectralCentroidCentiHz.toNat
          lowBandPermille := lowBandPermille.toNat
          midBandPermille := midBandPermille.toNat
          highBandPermille := highBandPermille.toNat
          acquisitionStatusFlags := acquisitionStatusFlags.toNat }

def healthStatusValues (status : Health.HealthStatus) : Values healthStatusFormat :=
  (healthSchemaVersion, status.state.code, status.baselineSamples, status.baselineTarget, status.anomalyScore,
    status.healthScore, status.maxDeviationMilli, status.dominantFeature, status.consecutiveAnomalous,
    status.qualityFlags, status.blockSequence, status.currentRmsMg, status.currentCrestFactorMilli,
    status.currentDominantFrequencyCentiHz, status.baselineRmsMeanMg, status.baselineRmsStdMg,
    status.exceededFeatureMask, status.rejectedInputs, ())

def controlStatusValues (status : Supervision.ControlStatus) : Values controlStatusFormat :=
  (controlSchemaVersion, status.state.code, status.supervisionEnabled, status.localRunRequest, status.runPermit,
    status.interlockClosed, status.healthState.code, status.outputAvailable, status.latchedFaults, status.activeFaults,
    status.healthScore, status.anomalyScore, status.transitionCount, status.faultLatchCount,
    status.lastTransitionReason, 0, 0, ())

def securityStatusValues (status : Session.SecurityStatus) : Values securityStatusFormat :=
  (securitySchemaVersion, status.configured, status.active, status.activeRole, status.sessionId, status.nextCounter,
    status.timeoutSeconds, status.remainingSeconds, status.authSuccesses, status.authFailures, status.replayRejections,
    status.unauthorizedRejections, ())

def firmwareStatusValues (status : Firmware.FirmwareStatus) : Values firmwareStatusFormat :=
  (firmwareSchemaVersion, status.state.code, status.failure.code, status.signatureAlgorithm,
    status.activeVersionCounter, status.rollbackFloor, status.candidateVersionCounter, status.bytesReceived,
    status.imageSize, status.keyId, status.firmwareMajor, status.firmwareMinor, status.firmwarePatch, ())

def dspFeaturesValues (features : Dsp.DspFeatures) : Values dspFeaturesFormat :=
  (dspSchemaVersion, 0, features.blockSequence, features.sampleRateHz, features.rmsMg, features.peakMg,
    features.crestFactorMilli, features.dominantFrequencyCentiHz, features.dominantPeakMg,
    features.spectralCentroidCentiHz, features.lowBandPermille, features.midBandPermille, features.highBandPermille,
    features.acquisitionStatusFlags, ())

section published

variable {capacity : Nat} {payload : List U8}

theorem healthEncodeStatusPayload_packed {status : Health.HealthStatus}
    (encoded : healthEncodeStatusPayload status capacity = .ok payload) :
    payload = pack healthStatusFormat (healthStatusValues status) := by
  unfold healthEncodeStatusPayload at encoded
  split_ifs at encoded
  exact (Except.ok.inj encoded).symm

theorem controlEncodeStatusPayload_packed {status : Supervision.ControlStatus}
    (encoded : controlEncodeStatusPayload status capacity = .ok payload) :
    payload = pack controlStatusFormat (controlStatusValues status) := by
  unfold controlEncodeStatusPayload at encoded
  split_ifs at encoded
  exact (Except.ok.inj encoded).symm

theorem securityEncodeStatusPayload_packed {status : Session.SecurityStatus}
    (encoded : securityEncodeStatusPayload status capacity = .ok payload) :
    payload = pack securityStatusFormat (securityStatusValues status) := by
  unfold securityEncodeStatusPayload at encoded
  split_ifs at encoded
  exact (Except.ok.inj encoded).symm

theorem firmwareEncodeStatusPayload_packed {status : Firmware.FirmwareStatus}
    (encoded : firmwareEncodeStatusPayload status capacity = some payload) :
    payload = pack firmwareStatusFormat (firmwareStatusValues status) := by
  unfold firmwareEncodeStatusPayload at encoded
  split_ifs at encoded
  exact (Option.some.inj encoded).symm

theorem dspEncodePayload_packed {features : Dsp.DspFeatures}
    (encoded : dspEncodePayload features capacity = .ok payload) :
    payload = pack dspFeaturesFormat (dspFeaturesValues features) := by
  unfold dspEncodePayload at encoded
  split_ifs at encoded
  exact (Except.ok.inj encoded).symm

theorem decodeHealthStatus_packed {status : Health.HealthStatus} (anomaly : status.anomalyScore.toNat ≤ 1000)
    (health : status.healthScore.toNat ≤ 1000) :
    decodeHealthStatus (pack healthStatusFormat (healthStatusValues status)) = .ok (readHealthStatus status) := by
  unfold decodeHealthStatus
  rw [pack_length, unpack_pack_self, if_neg (not_not.mpr rfl)]
  dsimp only [healthStatusValues]
  rw [if_neg (not_not.mpr rfl), healthStateOf_code]
  exact if_neg (by omega)

theorem decodeBool_canonical {flag : U8} (canonical : Canonical flag) (field : ControlFlag) :
    decodeBool flag field = .ok (flag ≠ 0) := if_neg (not_not.mpr canonical)

theorem decodeControlStatus_packed {status : Supervision.ControlStatus} (flagged : status.Flagged)
    (health : status.healthScore.toNat ≤ 1000) (anomaly : status.anomalyScore.toNat ≤ 1000) :
    decodeControlStatus (pack controlStatusFormat (controlStatusValues status)) = .ok (readControlStatus status) := by
  unfold decodeControlStatus
  rw [pack_length, unpack_pack_self, if_neg (not_not.mpr rfl)]
  dsimp only [controlStatusValues]
  rw [if_neg (not_not.mpr rfl), if_neg (by decide), controlStateOf_code]
  dsimp only
  rw [healthStateOf_code]
  dsimp only
  rw [if_neg (by omega), decodeBool_canonical flagged.supervisionEnabled, decodeBool_canonical flagged.localRunRequest,
    decodeBool_canonical flagged.runPermit, decodeBool_canonical flagged.interlockClosed,
    decodeBool_canonical flagged.outputAvailable]
  rfl

theorem decodeSecurityStatus_packed {status : Session.SecurityStatus} (configured : Canonical status.configured)
    (active : Canonical status.active) (role : status.activeRole ≤ roleAdmin) :
    decodeSecurityStatus (pack securityStatusFormat (securityStatusValues status)) = .ok (readSecurityStatus status) := by
  have named : securityRoleOf status.activeRole = .ok status.activeRole := if_neg (BitVec.not_lt.mpr role)
  unfold Canonical at configured active
  unfold decodeSecurityStatus
  rw [pack_length, unpack_pack_self, if_neg (not_not.mpr rfl)]
  dsimp only [securityStatusValues]
  rw [if_neg (not_not.mpr rfl), if_neg (not_or.mpr ⟨not_not.mpr configured, not_not.mpr active⟩), named]
  rfl

theorem decodeFirmwareStatus_packed (status : Firmware.FirmwareStatus) :
    decodeFirmwareStatus (pack firmwareStatusFormat (firmwareStatusValues status)) = .ok (readFirmwareStatus status) := by
  unfold decodeFirmwareStatus
  rw [pack_length, unpack_pack_self, if_neg (not_not.mpr rfl)]
  dsimp only [firmwareStatusValues]
  rw [if_neg (not_not.mpr rfl), firmwareStateOf_code]
  dsimp only
  rw [firmwareFailureOf_code]
  rfl

theorem decodeDspFeatures_packed (features : Dsp.DspFeatures) :
    decodeDspFeatures (pack dspFeaturesFormat (dspFeaturesValues features)) = .ok (readDspFeatures features) := by
  unfold decodeDspFeatures
  rw [pack_length, unpack_pack_self, if_neg (not_not.mpr rfl)]
  dsimp only [dspFeaturesValues]
  rw [if_neg (not_not.mpr rfl), if_neg (not_not.mpr rfl)]
  rfl

theorem deviceStateOf_code (state : DeviceState) : deviceStateOf state.code = .ok state := by
  cases state <;> rfl

def machineTelemetryFormat : List Field := [.u8, .u8, .u32, .u16, .u16, .u16, .u16, .u16, .u16]

def machineTelemetryValues (telemetry : Telemetry) (state : DeviceState) : Values machineTelemetryFormat :=
  (telemetrySchemaVersion, state.code, telemetry.timestampMs, telemetry.measurements.temperatureCentiC,
    telemetry.measurements.vibrationMgRms, telemetry.measurements.currentMa, telemetry.measurements.rpm,
    telemetry.measurements.supplyMv, telemetry.measurements.statusFlags, ())

theorem decodeMachineTelemetry_unpack (encoded : List U8) : decodeMachineTelemetry encoded =
    if encoded.length ≠ packedSize machineTelemetryFormat then .error (.sampleSize encoded.length)
    else
      let (schemaVersion, stateRaw, timestampMs, temperatureCentiC, vibrationMgRms, currentMa, rpm, supplyMv,
        statusFlags, ()) := unpack machineTelemetryFormat encoded
      if schemaVersion ≠ telemetrySchemaVersion then .error (.sampleSchemaVersion schemaVersion)
      else match deviceStateOf stateRaw with
        | .error failure => .error failure
        | .ok state =>
          .ok ⟨state, timestampMs, ⟨temperatureCentiC, vibrationMgRms, currentMa, rpm, supplyMv, statusFlags⟩⟩ := by
  unfold decodeMachineTelemetry machineTelemetryFormat unpack
  simp only [Field.get, Field.size, unpack, List.drop_drop, List.getD_eq_getElem?_getD, List.getElem?_drop]
  rfl

theorem telemetryMakeDueFrame_reads {telemetry : Telemetry} {state : DeviceState} {frame : Frame}
    (due : (telemetryMakeDueFrame telemetry state).1 = some frame) :
    decodeMachineTelemetry frame.payload = .ok (readMachineTelemetry telemetry state) := by
  obtain ⟨enabled, late, -, -⟩ := telemetryMakeDueFrame_due due
  have packed : frame.payload = pack machineTelemetryFormat (machineTelemetryValues telemetry state) := by
    unfold telemetryMakeDueFrame at due
    rw [if_neg enabled, if_neg late] at due
    cases due
    rfl
  rw [packed, decodeMachineTelemetry_unpack, pack_length, unpack_pack_self, if_neg (not_not.mpr rfl)]
  dsimp only [machineTelemetryValues]
  rw [if_neg (not_not.mpr rfl), deviceStateOf_code]
  rfl

end published

end Guardian.Host
