import Guardian.Host.StatusDecoders
import Guardian.Platform.LinkPublication
import Guardian.Platform.LinkRequests

namespace Guardian.Host

open Word PackedFields Guardian.Protocol Guardian.App Guardian.Dsp Guardian.Health Guardian.Supervision Guardian.Session
  Guardian.Firmware Guardian.Platform

section answers

variable {α ρ : Type}

/-- The decoders read in the payload of a response what the modules of `link` hold at `nowSeconds`. -/
structure Reads (link : EmbeddedLink α ρ) (nowSeconds : U32) (answer : Frame) : Prop where
  health : answer.command = commandGetHealthStatus →
    decodeHealthStatus answer.payload = .ok (readHealthStatus link.health.status)
  control : answer.command = commandGetControlStatus →
    decodeControlStatus answer.payload = .ok (readControlStatus link.control.status)
  security : answer.command = commandGetSecurityStatus →
    decodeSecurityStatus answer.payload = .ok (readSecurityStatus (securityStatus link.security nowSeconds).1)
  firmware : answer.command = commandGetFirmwareStatus →
    decodeFirmwareStatus answer.payload = .ok (readFirmwareStatus (firmwareStatus link.firmware.lifecycle))
  features : answer.command = commandGetDspFeatures →
    decodeDspFeatures answer.payload = .ok (readDspFeatures link.dspFeatures)

theorem mapped_payload {request answer : Frame} {encoded : Except ProtocolResult (List U8)}
    (made : encoded.map (request.answer .response) = .ok answer) : encoded = .ok answer.payload := by
  cases encoded with
  | error failure => cases made
  | ok payload =>
    cases made
    rfl

theorem healthHandleRequest_reads [Zero ρ] {health : HealthModel ρ} (scored : health.Scored) {request answer : Frame}
    (asked : request.command = commandGetHealthStatus) (handled : (healthHandleRequest health request).1 = .ok answer)
    (response : answer.messageType = .response) :
    decodeHealthStatus answer.payload = .ok (readHealthStatus health.status) := by
  unfold healthHandleRequest at handled
  rw [if_pos asked] at handled
  split_ifs at handled
  · exact absurd (Except.ok.inj handled).symm (makeError_ne_response response _)
  · exact absurd (Except.ok.inj handled).symm (makeError_ne_response response _)
  · dsimp only at handled
    rw [healthEncodeStatusPayload_packed (mapped_payload handled)]
    exact decodeHealthStatus_packed scored.anomaly scored.health

theorem controlHandleRequest_reads (outcome : Nat → Bool) {control : Control α} (flagged : control.Flagged)
    (health : control.status.healthScore.toNat ≤ 1000) (anomaly : control.status.anomalyScore.toNat ≤ 1000)
    {request answer : Frame} (asked : request.command = commandGetControlStatus)
    (handled : (controlHandleRequest outcome control request).1 = .ok answer)
    (response : answer.messageType = .response) :
    decodeControlStatus answer.payload = .ok (readControlStatus control.status) := by
  unfold controlHandleRequest at handled
  rw [if_pos asked] at handled
  split_ifs at handled
  · exact absurd (Except.ok.inj handled).symm (makeError_ne_response response _)
  · exact absurd (Except.ok.inj handled).symm (makeError_ne_response response _)
  · dsimp only at handled
    rw [controlEncodeStatusPayload_packed (mapped_payload handled)]
    exact decodeControlStatus_packed flagged health anomaly

theorem dspHandleRequest_reads {features : Dsp.DspFeatures} {featuresValid : U8} {request answer : Frame}
    (handled : dspHandleRequest features featuresValid request = .ok answer)
    (response : answer.messageType = .response) :
    decodeDspFeatures answer.payload = .ok (readDspFeatures features) := by
  unfold dspHandleRequest at handled
  split_ifs at handled
  · exact absurd (Except.ok.inj handled).symm (makeError_ne_response response _)
  · exact absurd (Except.ok.inj handled).symm (makeError_ne_response response _)
  · exact absurd (Except.ok.inj handled).symm (makeError_ne_response response _)
  · exact absurd (Except.ok.inj handled).symm (makeError_ne_response response _)
  · rw [dspEncodePayload_packed (mapped_payload handled)]
    exact decodeDspFeatures_packed features

theorem embeddedGetSecurityStatus_reads {link : EmbeddedLink α ρ} (named : link.security.Named)
    {protocolResult result : ProtocolResult} {request answer : Frame} {nowSeconds : U32} {after : EmbeddedLink α ρ}
    (dispatched : embeddedGetSecurityStatus protocolResult link request nowSeconds = ⟨result, some answer, after⟩)
    (response : answer.messageType = .response) : decodeSecurityStatus answer.payload =
      .ok (readSecurityStatus (securityStatus link.security nowSeconds).1) := by
  obtain ⟨configured, active, role⟩ := securityStatus_names named nowSeconds
  unfold embeddedGetSecurityStatus at dispatched
  dsimp only at dispatched
  split_ifs at dispatched
  · cases dispatched
    cases response
  · cases encoded : securityEncodeStatusPayload (securityStatus link.security nowSeconds).1 maxPayloadSize with
    | error failure =>
      rw [encoded] at dispatched
      cases dispatched
      cases response
    | ok payload =>
      rw [encoded] at dispatched
      cases dispatched
      change decodeSecurityStatus payload = _
      rw [securityEncodeStatusPayload_packed encoded]
      exact decodeSecurityStatus_packed configured active role

theorem embeddedGetFirmwareStatus_reads {link : EmbeddedLink α ρ} {protocolResult result : ProtocolResult}
    {request answer : Frame} {after : EmbeddedLink α ρ}
    (dispatched : embeddedGetFirmwareStatus protocolResult link request = ⟨result, some answer, after⟩)
    (response : answer.messageType = .response) : decodeFirmwareStatus answer.payload =
      .ok (readFirmwareStatus (firmwareStatus link.firmware.lifecycle)) := by
  unfold embeddedGetFirmwareStatus at dispatched
  dsimp only at dispatched
  split_ifs at dispatched
  · cases dispatched
    cases response
  · cases encoded : firmwareEncodeStatusPayload (firmwareStatus link.firmware.lifecycle) maxPayloadSize with
    | none =>
      rw [encoded] at dispatched
      cases dispatched
      cases response
    | some payload =>
      rw [encoded] at dispatched
      cases dispatched
      change decodeFirmwareStatus payload = _
      rw [firmwareEncodeStatusPayload_packed encoded]
      exact decodeFirmwareStatus_packed _

theorem publishable_controlScores {link : EmbeddedLink α ρ} (publishable : link.Publishable) :
    link.control.status.healthScore.toNat ≤ 1000 ∧ link.control.status.anomalyScore.toNat ≤ 1000 := by
  have verdict : link.control.status.verdict =
      (link.health.status.state, link.health.status.healthScore, link.health.status.anomalyScore) :=
    publishable.sound.verdict
  simp only [ControlStatus.verdict, Prod.mk.injEq] at verdict
  obtain ⟨-, score, anomaly⟩ := verdict
  rw [score, anomaly]
  exact ⟨publishable.ranged.scored.health, publishable.ranged.scored.anomaly⟩

variable [Zero ρ] (platform : LinkPlatform)

theorem embeddedDispatch_service {link : EmbeddedLink α ρ} {request : Frame} {command : U8}
    (asked : request.command = command)
    (plain : command ≠ commandAuthBegin ∧ command ≠ commandAuthFinish ∧ command ≠ commandGetSecurityStatus ∧
      command ≠ commandGetFirmwareStatus ∧ command ≠ commandSecureCommand ∧ embeddedPrivileged command = false)
    (nowSeconds runtimeSeconds : U32) {answer : Frame} {after : EmbeddedLink α ρ}
    (dispatched : embeddedDispatch platform .ok link request nowSeconds runtimeSeconds = ⟨.ok, some answer, after⟩) :
    (embeddedService platform link request runtimeSeconds).1 = .ok answer := by
  obtain ⟨auth, finish, security, firmware, secure, privileged⟩ := plain
  have open' : ¬ (link.securityRequired ≠ 0 ∧ embeddedPrivileged command = true) := by
    rintro ⟨-, needed⟩
    rw [privileged] at needed
    cases needed
  unfold embeddedDispatch at dispatched
  rw [asked, if_neg auth, if_neg finish, if_neg security, if_neg firmware, if_neg secure, if_neg open'] at dispatched
  dsimp only at dispatched
  cases handled : (embeddedService platform link request runtimeSeconds).1 with
  | error failure =>
    rw [handled] at dispatched
    cases dispatched
  | ok frame =>
    rw [handled] at dispatched
    cases dispatched
    rfl

theorem embeddedDispatch_reads {link : EmbeddedLink α ρ} (publishable : link.Publishable) {request answer : Frame}
    {after : EmbeddedLink α ρ} {nowSeconds runtimeSeconds : U32}
    (dispatched : embeddedDispatch platform .ok link request nowSeconds runtimeSeconds = ⟨.ok, some answer, after⟩)
    (answers : answer.Answers request) (response : answer.messageType = .response) : Reads link nowSeconds answer := by
  obtain ⟨-, command, -, -⟩ := answers
  constructor
  · intro health
    have asked : request.command = commandGetHealthStatus := command.symm.trans health
    have served := embeddedDispatch_service platform asked (by decide) nowSeconds runtimeSeconds dispatched
    unfold embeddedService at served
    rw [asked, if_neg (by decide), if_neg (by decide), if_pos rfl] at served
    exact healthHandleRequest_reads publishable.ranged.scored asked served response
  · intro control
    have asked : request.command = commandGetControlStatus := command.symm.trans control
    have served := embeddedDispatch_service platform asked (by decide) nowSeconds runtimeSeconds dispatched
    obtain ⟨score, anomaly⟩ := publishable_controlScores publishable
    unfold embeddedService at served
    rw [asked, if_neg (by decide), if_neg (by decide), if_neg (by decide), if_neg (by decide), if_pos rfl] at served
    exact controlHandleRequest_reads platform.output publishable.flagged score anomaly asked served response
  · intro security
    have asked : request.command = commandGetSecurityStatus := command.symm.trans security
    unfold embeddedDispatch at dispatched
    rw [asked, if_neg (by decide), if_neg (by decide), if_pos rfl] at dispatched
    exact embeddedGetSecurityStatus_reads publishable.ranged.named dispatched response
  · intro firmware
    have asked : request.command = commandGetFirmwareStatus := command.symm.trans firmware
    unfold embeddedDispatch at dispatched
    rw [asked, if_neg (by decide), if_neg (by decide), if_neg (by decide), if_pos rfl] at dispatched
    exact embeddedGetFirmwareStatus_reads dispatched response
  · intro features
    have asked : request.command = commandGetDspFeatures := command.symm.trans features
    have served := embeddedDispatch_service platform asked (by decide) nowSeconds runtimeSeconds dispatched
    unfold embeddedService at served
    rw [asked, if_neg (by decide), if_pos rfl] at served
    exact dspHandleRequest_reads served response

end answers

section polls

variable {α ρ : Type} (environment : PollEnvironment)

/-- The answer `frame` to the request that `byte` completes, which the host reads as the link meant it. -/
def Publishes (loop : PollLoop α ρ) (byte : U8) (frame : Frame) : Prop :=
  ∃ request, (parserPushByte loop.link.parser byte).1 = .frameReady request ∧ frame.Answers request ∧
    (frame.messageType = .response → Reads loop.link (environment.uptimeSeconds (2 * loop.frames)) frame)

variable [HealthNumber ρ] (platform : LinkPlatform)

theorem embeddedReceive_publishes {loop : PollLoop α ρ} (clean : loop.protocolResult = .ok)
    (publishable : loop.link.Publishable) (byte : U8) :
    (embeddedReceive platform environment loop byte).writes = loop.writes ∨
      ∃ frame, Publishes environment loop byte frame ∧ (embeddedReceive platform environment loop byte).writes =
        loop.writes ++ [⟨frame.wire, environment.accepts loop.writes.length⟩] := by
  unfold embeddedReceive Publishes
  dsimp only
  cases (parserPushByte loop.link.parser byte).1 with
  | frameReady request =>
    dsimp only
    generalize pushed : ({ loop with link := { loop.link with parser := (parserPushByte loop.link.parser byte).2 } } :
      PollLoop α ρ) = current
    have clean' : current.protocolResult = .ok := by
      rw [← pushed]
      exact clean
    have publishable' : current.link.received.Publishable := by
      rw [← pushed]
      exact ⟨publishable.sound, publishable.flagged, publishable.ranged.scored, publishable.ranged.named⟩
    obtain ⟨answer, after, dispatched, answers⟩ := embeddedDispatch_answers platform current.link.received request
      (environment.uptimeSeconds (2 * current.frames)) (environment.uptimeSeconds (2 * current.frames + 1))
    have sent : (embeddedHandleFrame platform environment current request).writes =
        current.writes ++ [⟨answer.wire, environment.accepts current.writes.length⟩] := by
      rw [embeddedHandleFrame_eq environment platform current clean' dispatched]
      exact embeddedTransmit_writes environment _ answers.2.2.2
    have reads := embeddedDispatch_reads platform publishable' dispatched answers
    subst pushed
    refine Or.inr ⟨answer, ⟨request, rfl, answers, fun response => ?_⟩, sent⟩
    obtain ⟨health, control, security, firmware, features⟩ := reads response
    exact ⟨health, control, security, firmware, features⟩
  | _ => exact Or.inl rfl

theorem embeddedReceive_run_publishes {link : EmbeddedLink α ρ} (publishable : link.Publishable) (received : List U8) :
    let loop (received : List U8) : PollLoop α ρ :=
      Run.after (embeddedReceive platform environment) received (embeddedPollStart link)
    ∀ write ∈ (loop received).writes, ∃ frame earlier byte later, write.bytes = frame.wire ∧
      received = earlier ++ byte :: later ∧ Publishes environment (loop earlier) byte frame := by
  intro loop
  have clean (received : List U8) : (loop received).protocolResult = .ok := by
    have started : (embeddedPollStart link).Answered link.parser [] := ⟨rfl, rfl, [], rfl, .nil⟩
    exact (embeddedReceive_run environment platform started received).result
  have started : (embeddedPollStart link).link.Publishable := publishable
  induction received using List.reverseRecOn with
  | nil =>
    intro write member
    cases member
  | append_singleton received byte ih =>
    have next : loop (received ++ [byte]) = embeddedReceive platform environment (loop received) byte :=
      Run.after_snoc _ _ _ _
    have earlier : ∀ write ∈ (loop received).writes, ∃ frame earlier last later, write.bytes = frame.wire ∧
        received ++ [byte] = earlier ++ last :: later ∧ Publishes environment (loop earlier) last frame := by
      intro write member
      obtain ⟨frame, earlier, last, later, bytes, split, publishes⟩ := ih write member
      exact ⟨frame, earlier, last, later ++ [byte], bytes, by simp [split], publishes⟩
    rw [next]
    intro write member
    rcases embeddedReceive_publishes environment platform (clean received)
      (embeddedReceive_run_publishable platform environment started received) byte with silent | ⟨frame, publishes, sent⟩
    · rw [silent] at member
      exact earlier write member
    · rw [sent, List.mem_append, List.mem_singleton] at member
      rcases member with member | rfl
      · exact earlier write member
      · exact ⟨frame, received, byte, [], rfl, rfl, publishes⟩

/-- Every frame that a reachable link writes is an answer, which the host reads as what the modules held when it was
built, or a telemetry frame, read as the last sample. -/
theorem host_reads_every_status [RoundedOrder ρ] (flash : FirmwarePlatform) (identity : DeviceIdentity)
    (operations : List (LinkOperation α)) (incoming : List U8) (rxBudget : Nat) :
    let link : EmbeddedLink α ρ := embeddedRun platform flash identity operations
    let loop (received : List U8) : PollLoop α ρ :=
      Run.after (embeddedReceive platform environment) received (embeddedPollStart link)
    let consumed := embeddedConsumed incoming rxBudget
    ∀ write ∈ (embeddedLinkPoll platform environment link incoming rxBudget).writes, ∃ frame : Frame,
      write.bytes = frame.wire ∧
        ((∃ earlier byte later, consumed = earlier ++ byte :: later ∧ Publishes environment (loop earlier) byte frame) ∨
          (frame.messageType = .telemetry ∧ frame.command = commandMachineTelemetry ∧
            decodeMachineTelemetry frame.payload =
              .ok (readMachineTelemetry (loop consumed).link.telemetry (loop consumed).link.state))) := by
  intro link loop consumed write member
  have publishable : link.Publishable := embeddedRun_publishable platform flash identity operations
  have answered := embeddedReceive_run_publishes environment platform publishable consumed
  change write ∈ (embeddedFlushTelemetry environment (loop consumed)).writes at member
  unfold embeddedFlushTelemetry at member
  dsimp only at member
  cases due : (telemetryMakeDueFrame (loop consumed).link.telemetry (loop consumed).link.state).1 with
  | none =>
    rw [due] at member
    obtain ⟨frame, earlier, byte, later, bytes, split, publishes⟩ := answered write member
    exact ⟨frame, bytes, Or.inl ⟨earlier, byte, later, split, publishes⟩⟩
  | some frame =>
    rw [due] at member
    obtain ⟨-, -, type, encodable⟩ := telemetryMakeDueFrame_due due
    dsimp only at member
    rw [embeddedTransmit_writes environment _ encodable, List.mem_append, List.mem_singleton] at member
    rcases member with member | rfl
    · obtain ⟨frame, earlier, byte, later, bytes, split, publishes⟩ := answered write member
      exact ⟨frame, bytes, Or.inl ⟨earlier, byte, later, split, publishes⟩⟩
    · exact ⟨frame, rfl, Or.inr ⟨type, telemetryMakeDueFrame_command due, telemetryMakeDueFrame_reads due⟩⟩

end polls

/-- A trained machine is asked for its control status. -/
theorem host_reads_every_status_trained :
    let link : EmbeddedLink Unit ℚ := embeddedRun steadyPlatform bareFlash bareIdentity trainedOperations
    let asked := commandStream commandGetControlStatus []
    let loop (received : List U8) : PollLoop Unit ℚ :=
      Run.after (embeddedReceive steadyPlatform (.still 5)) received (embeddedPollStart link)
    let consumed := embeddedConsumed asked 0
    let poll := embeddedLinkPoll steadyPlatform (.still 5) link asked 0
    poll.writes.length = 1 ∧ link.health.status.state = .ready ∧ ∀ write ∈ poll.writes, ∃ frame : Frame,
      write.bytes = frame.wire ∧
        ((∃ earlier byte later, consumed = earlier ++ byte :: later ∧
            Publishes (.still 5) (loop earlier) byte frame) ∨
          (frame.messageType = .telemetry ∧ frame.command = commandMachineTelemetry ∧
            decodeMachineTelemetry frame.payload =
              .ok (readMachineTelemetry (loop consumed).link.telemetry (loop consumed).link.state))) :=
  ⟨by decide +kernel, by decide +kernel,
    host_reads_every_status (ρ := ℚ) (.still 5) steadyPlatform bareFlash bareIdentity trainedOperations _ 0⟩

end Guardian.Host
