import Guardian.Channel.ChannelTraffic
import Guardian.Platform.LinkRun

namespace Guardian.Channel

open Word ByteString Guardian.Crypto Guardian.Protocol Guardian.App Guardian.Health Guardian.Session Guardian.Platform
  Guardian.Host

section host

variable {α ρ : Type} {channel : SecureChannel α ρ}

theorem SecureChannel.Sound.follow (sound : channel.Sound) {turn : HostTurn} (follows : channel.hostLog.Follows turn)
    (answered : ∀ call response, turn.result = .exchanged call (.ok response) → channel.Justified call response) :
    (channel.follow turn).Sound := by
  have extends' : channel.Extends (channel.follow turn) :=
    ⟨channel.hostLog.follow_extends turn, DeviceLog.Extends.refl _⟩
  refine ⟨follows.sound, sound.device, ?_, ?_, ?_⟩
  · intro frame member secure
    rcases List.mem_append.mp member with new | old
    · exact Or.inl (follows.sent frame (Option.mem_toList.mp new) secure)
    · exact (sound.sent frame old secure).extends extends'
  · intro acceptance accepted
    obtain ⟨request, asked, executes⟩ := sound.executed acceptance accepted
    exact ⟨request, extends'.host.requests asked, executes⟩
  · intro entry member
    rcases HostLog.follow_returned member with old | result
    · exact (sound.returned entry old).extends extends'
    · exact (answered entry.1 entry.2 result).extends extends'

theorem SecureChannel.Sound.verify (sound : channel.Sound) (exchanged : Except GuardianCtlError Frame) :
    (channel.verify exchanged).Sound :=
  ⟨sound.host.verify _, sound.device, sound.sent, sound.executed, sound.returned⟩

theorem SecureChannel.Sound.resume (sound : channel.Sound) {exchanged : Except GuardianCtlError Frame}
    (delivered : ∀ request response, channel.host.phase.request = some request → exchanged = .ok response →
      response ∈ channel.sent ∧ response.command = request.command ∧ response.messageType = .response)
    (fresh : (channel.resume exchanged).Fresh) : (channel.resume exchanged).Sound := by
  have verified := sound.verify exchanged
  apply verified.follow
  · exact verified.host.resume exchanged fresh.host
  · intro call response answered
    obtain ⟨sessionKey, counter, request, waiting, outerResponse, secureResponse, returned, rfl, decoded, -, count, -,
      produced, payload, turn⟩ := resume_returns answered
    cases (congrArg HostTurn.result turn).symm.trans answered
    obtain ⟨sent, command, type⟩ := delivered request outerResponse (by rw [waiting]; rfl) rfl
    have followed : (channel.verify (.ok outerResponse)).Extends (channel.resume (.ok outerResponse)) :=
      ⟨HostLog.follow_extends _ _, DeviceLog.Extends.refl _⟩
    refine verified.justified followed fresh waiting sent command type decoded ?_ count produced payload
    apply followed.host.verified
    apply List.mem_append_left
    rw [waiting, verification, decoded]
    exact List.mem_singleton.mpr rfl

theorem correlate_ok {request frame response : Frame} (correlated : correlate request [frame] = some (.ok response)) :
    response = frame ∧ response.command = request.command ∧ response.messageType = .response := by
  unfold correlate at correlated
  by_cases other : frame.sequence ≠ request.sequence
  · rw [if_pos other] at correlated
    cases correlated
  rw [if_neg other] at correlated
  have valid := Option.some.inj correlated
  unfold validateCorrelatedResponse at valid
  obtain ⟨command, valid⟩ := Check.accepted valid
  by_cases failed : frame.messageType = .error
  · rw [if_pos failed] at valid
    obtain ⟨-, valid⟩ := Check.accepted valid
    cases valid
  rw [if_neg failed] at valid
  obtain ⟨type, valid⟩ := Check.accepted valid
  cases valid
  exact ⟨rfl, not_not.mp command, not_not.mp type⟩

theorem SecureChannel.Sound.hostReceives (sound : channel.Sound) {frame : Frame} (sent : frame ∈ channel.sent)
    (fresh : (channel.hostReceives frame).Fresh) : (channel.hostReceives frame).Sound := by
  unfold SecureChannel.hostReceives at fresh ⊢
  cases waits : channel.host.phase.request with
  | none => exact sound
  | some request =>
    rw [waits] at fresh
    dsimp only at fresh ⊢
    cases correlated : correlate request [frame] with
    | none => exact sound
    | some exchanged =>
      rw [correlated] at fresh
      apply sound.resume _ fresh
      rintro asked response asks rfl
      cases waits.symm.trans asks
      obtain ⟨rfl, command, type⟩ := correlate_ok correlated
      exact ⟨sent, command, type⟩

theorem SecureChannel.Sound.exchange (sound : channel.Sound) (idle : channel.host.phase = .idle) (command : U8)
    (payload : List U8) (clientNonce : Bytes 16) (fresh : (channel.exchange command payload clientNonce).Fresh) :
    (channel.exchange command payload clientNonce).Sound := by
  have called : (channel.call ⟨channel.hostLog.calls.length, command, payload⟩).Sound := by
    obtain ⟨host, device, sent, executed, returned⟩ := sound
    have allowed := host.allowed
    rw [idle] at allowed
    refine ⟨⟨(host.orderly.call rfl).1, ?_⟩, device, sent, executed, returned⟩
    show HostLog.Allows _ channel.host.session channel.host.phase
    rw [idle]
    exact allowed
  apply called.follow
  · exact sound.host.exchange idle rfl clientNonce fresh.host
  · intro call response answered
    rcases exchange_turns channel.host ⟨channel.hostLog.calls.length, command, payload⟩ clientNonce with
      ends | protects | begins
    · exact absurd answered (ends.unanswered call response)
    · cases protects.waits.symm.trans answered
    · cases begins.waits.symm.trans answered

theorem SecureChannel.Sound.authenticate (sound : channel.Sound) (idle : channel.host.phase = .idle)
    (clientNonce : Bytes 16) (fresh : (channel.follow (Host.authenticate channel.host none clientNonce)).Fresh) :
    (channel.follow (Host.authenticate channel.host none clientNonce)).Sound := by
  apply sound.follow
  · exact sound.host.authenticate idle clientNonce fresh.host
  · intro call response answered
    rcases authenticate_turns channel.host none clientNonce with ends | begins
    · exact absurd answered (ends.unanswered call response)
    · cases begins.waits.symm.trans answered

theorem SecureChannel.Sound.invalidate (sound : channel.Sound) (idle : channel.host.phase = .idle) :
    ({ channel with host := channel.host.invalidate } : SecureChannel α ρ).Sound := by
  obtain ⟨host, device, sent, executed, returned⟩ := sound
  refine ⟨⟨host.orderly, ?_⟩, device, sent, executed, returned⟩
  show channel.hostLog.Allows .invalidated channel.host.phase
  rw [idle]
  exact HostLog.reserves_invalidated

theorem SecureChannel.Sound.hostRequests (sound : channel.Sound) {command : U8}
    (other : command ≠ commandSecureCommand) (payload : List U8) : (channel.hostRequests command payload).Sound := by
  obtain ⟨host, device, sent, executed, returned⟩ := sound
  refine ⟨⟨host.orderly, host.allowed⟩, device, ?_, executed, returned⟩
  intro frame member secure
  rcases List.mem_cons.mp member with rfl | old
  · exact absurd secure other
  · exact sent frame old secure

end host

section device

variable {α ρ : Type} {channel : SecureChannel α ρ}

theorem SecureChannel.Sound.operate (sound : channel.Sound) {device : EmbeddedLink α ρ} {nowSeconds : U32}
    (ages : channel.device.security.Ages device.security nowSeconds false false) {frames : List Frame}
    (plain : ∀ frame ∈ frames, frame.command ≠ commandSecureCommand) :
    ({ channel with device, sent := frames ++ channel.sent } : SecureChannel α ρ).Sound := by
  refine ⟨sound.host, sound.device.ages ages, ?_, sound.executed, sound.returned⟩
  intro frame member secure
  rcases List.mem_append.mp member with new | old
  · exact absurd secure (plain frame new)
  · exact sound.sent frame old secure

theorem SecureChannel.Sound.deviceFlushes (sound : channel.Sound) (environment : PollEnvironment) :
    (channel.deviceFlushes environment).Sound := by
  obtain ⟨telemetry, stats, flushed⟩ := embeddedFlushTelemetry_link environment (embeddedPollStart channel.device)
  have same : (channel.deviceFlushes environment).device.security = channel.device.security := by
    show (embeddedFlushTelemetry environment (embeddedPollStart channel.device)).link.security = _
    rw [flushed]
    rfl
  have ages : channel.device.security.Ages (channel.deviceFlushes environment).device.security 0 false false := by
    rw [same]
    exact .unchanged 0 (Or.inl rfl) (Or.inl rfl)
  apply sound.operate ages
  intro frame due secure
  have command := telemetryMakeDueFrame_command (Option.mem_toList.mp due)
  exact absurd (command.symm.trans secure) (by decide)

variable [HealthNumber ρ] (platform : LinkPlatform)

theorem SecureChannel.deviceReceives_eq (channel : SecureChannel α ρ) (frame : Frame) (environment : PollEnvironment) :
    ∃ answer after stats, embeddedDispatch platform .ok channel.device.received frame (environment.uptimeSeconds 0)
        (environment.uptimeSeconds 1) = ⟨.ok, some answer, after⟩ ∧ answer.Answers frame ∧
      channel.deviceReceives platform frame environment =
        { channel with
          device := { after with stats }
          sent := answer :: channel.sent
          deviceLog := channel.deviceLog.receive platform channel.device.received frame
            (environment.uptimeSeconds 0) } := by
  obtain ⟨answer, after, dispatched, answers⟩ := embeddedDispatch_answers platform channel.device.received frame
    (environment.uptimeSeconds 0) (environment.uptimeSeconds 1)
  obtain ⟨stats, handled⟩ := embeddedHandleFrame_stats environment platform (embeddedPollStart channel.device) frame
  refine ⟨answer, after, stats, dispatched, answers, ?_⟩
  have link : (embeddedHandleFrame platform environment (embeddedPollStart channel.device) frame).link =
      { after with stats } := by
    rw [handled]
    exact congrArg (fun branch : PollBranch α ρ => { branch.link with stats }) dispatched
  have output : (embeddedHandleFrame platform environment (embeddedPollStart channel.device) frame).output =
      some answer := by
    rw [embeddedHandleFrame_eq environment platform (embeddedPollStart channel.device) rfl dispatched,
      embeddedTransmit_output]
  unfold SecureChannel.deviceReceives
  dsimp only
  rw [link, output]
  rfl

theorem SecureChannel.Sound.deviceReceives (sound : channel.Sound) {frame : Frame} (sent : frame ∈ channel.sent)
    (environment : PollEnvironment) (fresh : (channel.deviceReceives platform frame environment).Fresh) :
    (channel.deviceReceives platform frame environment).Sound := by
  obtain ⟨answer, after, stats, dispatched, answers, received⟩ :=
    channel.deviceReceives_eq platform frame environment
  have extends' : channel.Extends (channel.deviceReceives platform frame environment) :=
    ⟨HostLog.Extends.refl _, DeviceLog.receive_extends platform _ _ _ _⟩
  have device := @DeviceLog.Sound.receive α ρ _ platform channel.deviceLog channel.device.received sound.device frame
    (environment.uptimeSeconds 0) (environment.uptimeSeconds 1)
  rw [received] at fresh extends' ⊢
  have justified : ∀ entry ∈ channel.hostLog.returned, SecureChannel.Justified _ entry.1 entry.2 :=
    fun entry member => (sound.returned entry member).extends extends'
  by_cases secure : frame.command = commandSecureCommand
  · have secures := embeddedSecureCommand_secures platform channel.deviceLog channel.device.received secure
      (environment.uptimeSeconds 0)
    rw [← embeddedDispatch_secure platform channel.device.received secure (environment.uptimeSeconds 0)
      (environment.uptimeSeconds 1), dispatched] at secures
    rw [dispatched] at device
    generalize channel.deviceLog.receive platform channel.device.received frame (environment.uptimeSeconds 0) = logged
      at secures device fresh extends' justified ⊢
    refine ⟨sound.host, device fresh.device, ?_, ?_, justified⟩
    · intro each member protects
      rcases List.mem_cons.mp member with rfl | old
      · cases secures with
        | refuses error output ages =>
          cases output
          exact Or.inr (Or.inr ⟨MessageType.noConfusion, (by decide : 1 < securityRequestOverhead)⟩)
        | accepts acceptance response carries result fits produced output kept =>
          cases output
          exact Or.inr (Or.inl ⟨acceptance, List.mem_cons_self, response, result, fits, produced, rfl⟩)
      · exact (sound.sent each old protects).extends extends'
    · cases secures with
      | refuses error output ages => exact sound.executed
      | accepts acceptance response carries result fits produced output kept =>
        intro each member
        rcases List.mem_cons.mp member with rfl | old
        · exact (sound.sent frame sent secure).executes carries sound.host.orderly extends' fresh List.mem_cons_self
        · exact sound.executed each old
  · rw [dispatched] at device
    refine ⟨sound.host, device fresh.device, ?_, ?_, justified⟩
    · intro each member protects
      rcases List.mem_cons.mp member with rfl | old
      · exact absurd (answers.2.1.symm.trans protects) secure
      · exact (sound.sent each old protects).extends extends'
    · intro acceptance member
      apply sound.executed acceptance
      rwa [← DeviceLog.receive_accepted platform channel.deviceLog channel.device.received secure
        (environment.uptimeSeconds 0)]

end device

section run

variable {α ρ : Type} {channel : SecureChannel α ρ}

theorem SecureChannel.extends_logs {after : SecureChannel α ρ} (host : after.hostLog = channel.hostLog)
    (device : after.deviceLog = channel.deviceLog) : channel.Extends after := by
  constructor
  · rw [host]
    exact HostLog.Extends.refl _
  · rw [device]
    exact DeviceLog.Extends.refl _

theorem SecureChannel.resume_extends (channel : SecureChannel α ρ) (exchanged : Except GuardianCtlError Frame) :
    channel.Extends (channel.resume exchanged) := by
  have verified : channel.hostLog.Extends (channel.verify exchanged).hostLog :=
    { HostLog.Extends.refl channel.hostLog with verified := List.subset_append_right _ _ }
  exact ⟨verified.trans (HostLog.follow_extends _ _), DeviceLog.Extends.refl _⟩

theorem SecureChannel.hostReceives_extends (channel : SecureChannel α ρ) (frame : Frame) :
    channel.Extends (channel.hostReceives frame) := by
  unfold SecureChannel.hostReceives
  split
  · exact SecureChannel.extends_logs rfl rfl
  · split
    · exact SecureChannel.extends_logs rfl rfl
    · exact SecureChannel.resume_extends channel _

theorem SecureChannel.Initial.sound (initial : channel.Initial) : channel.Sound := by
  obtain ⟨idle, inactive, challenge, session, sent, hostLog, deviceLog⟩ := initial
  refine ⟨⟨?_, ?_⟩, ⟨?_, ?_, ?_⟩, ?_, ?_, ?_⟩
  · rw [hostLog]
    constructor <;> simp
  · rw [idle, inactive]
    exact HostLog.reserves_invalidated
  · rw [deviceLog]
    constructor <;> simp
  · exact fun valid => absurd challenge valid
  · exact fun valid => absurd session valid
  · simp [sent]
  · simp [deviceLog]
  · simp [hostLog]

def SecureChannel.Runs (channel : SecureChannel α ρ) (acceptance : SecureAcceptance) (call : SecureCall) : Prop :=
  ∃ request ∈ channel.hostLog.requests, request.call = call ∧ acceptance.Executes request

theorem SecureAcceptance.Executes.inner {acceptance : SecureAcceptance} {request : SecureRequest}
    (executes : acceptance.Executes request) : acceptance.request.command = request.call.command ∧
      acceptance.request.payload = request.call.payload := by
  rw [executes.2.2]
  exact ⟨rfl, rfl⟩

theorem SecureChannel.Sound.once (sound : channel.Sound) : channel.deviceLog.accepted.Pairwise
    fun acceptance other => ∀ call, channel.Runs acceptance call → ¬ channel.Runs other call := by
  apply (List.pairwise_map.mp sound.device.orderly.counters).imp
  rintro acceptance other different call ⟨request, asked, rfl, executes⟩ ⟨repeated, askedToo, same, executesToo⟩
  have one : repeated = request := by
    apply List.inj_on_of_nodup_map sound.host.orderly.once askedToo asked
    rw [same]
  subst one
  apply different
  rw [executes.1, executes.2.1, executesToo.1, executesToo.2.1]

variable [HealthNumber ρ] (platform : LinkPlatform)

theorem SecureChannel.step_extends (channel : SecureChannel α ρ) (event : ChannelEvent α) :
    channel.Extends (channel.step platform event) := by
  have same : channel.Extends channel := SecureChannel.extends_logs rfl rfl
  unfold SecureChannel.step
  cases event with
  | authenticate clientNonce =>
    dsimp only
    split_ifs
    · exact ⟨HostLog.follow_extends _ _, DeviceLog.Extends.refl _⟩
    · exact same
  | exchange command payload clientNonce =>
    dsimp only
    split_ifs
    · exact ⟨{ HostLog.follow_extends (channel.call _).hostLog _ with }, DeviceLog.Extends.refl _⟩
    · exact same
  | invalidate =>
    dsimp only
    split_ifs <;> exact SecureChannel.extends_logs rfl rfl
  | hostRequests command payload =>
    dsimp only
    split_ifs
    · exact SecureChannel.extends_logs rfl rfl
    · exact same
  | hostReceives frame =>
    dsimp only
    split_ifs
    · exact channel.hostReceives_extends frame
    · exact same
  | hostFails error =>
    dsimp only
    split_ifs
    · exact same
    · exact channel.resume_extends _
  | deviceReceives frame environment =>
    dsimp only
    split_ifs
    · exact ⟨HostLog.Extends.refl _, DeviceLog.receive_extends platform _ _ _ _⟩
    · exact same
  | deviceFlushes environment => exact SecureChannel.extends_logs rfl rfl
  | deviceOperates operation =>
    dsimp only
    split_ifs <;> exact SecureChannel.extends_logs rfl rfl

theorem SecureChannel.Sound.step (sound : channel.Sound) (event : ChannelEvent α)
    (fresh : (channel.step platform event).Fresh) : (channel.step platform event).Sound := by
  unfold SecureChannel.step at fresh ⊢
  cases event with
  | authenticate clientNonce =>
    dsimp only at fresh ⊢
    split_ifs at fresh ⊢ with idle
    · exact sound.authenticate idle clientNonce fresh
    · exact sound
  | exchange command payload clientNonce =>
    dsimp only at fresh ⊢
    split_ifs at fresh ⊢ with idle
    · exact sound.exchange idle command payload clientNonce fresh
    · exact sound
  | invalidate =>
    dsimp only
    split_ifs with idle
    · exact sound.invalidate idle
    · exact sound
  | hostRequests command payload =>
    dsimp only
    split_ifs with allowed
    · exact sound.hostRequests allowed.2 payload
    · exact sound
  | hostReceives frame =>
    dsimp only at fresh ⊢
    split_ifs at fresh ⊢ with sent
    · exact sound.hostReceives sent fresh
    · exact sound
  | hostFails error =>
    dsimp only at fresh ⊢
    split_ifs at fresh ⊢ with idle
    · exact sound
    · apply sound.resume _ fresh
      intro request response asks failed
      cases failed
  | deviceReceives frame environment =>
    dsimp only at fresh ⊢
    split_ifs at fresh ⊢ with sent
    · exact sound.deviceReceives platform sent environment fresh
    · exact sound
  | deviceFlushes environment => exact sound.deviceFlushes environment
  | deviceOperates operation =>
    dsimp only
    split_ifs with polls
    · exact sound
    · have other : ∀ incoming rxBudget environment, operation ≠ .poll incoming rxBudget environment := by
        rintro incoming rxBudget environment rfl
        exact polls rfl
      have ages := embeddedOperate_ages platform channel.device other 0
      have none : ∀ frame ∈ ([] : List Frame), frame.command ≠ commandSecureCommand := by simp
      exact sound.operate ages none

theorem SecureChannel.run_sound (initial : channel.Initial) (events : List (ChannelEvent α))
    (fresh : (Run.after (SecureChannel.step platform) events channel).Fresh) :
    (Run.after (SecureChannel.step platform) events channel).Sound := by
  have run := @Run.after_invariant _ _ (SecureChannel.step platform) (fun channel => channel.Fresh → channel.Sound)
    (fun channel event sound fresh => (sound (fresh.earlier (channel.step_extends platform event))).step platform event
      fresh) channel (fun _ => initial.sound) events
  exact run fresh

/-- Every accepted request was asked for by a call, and no other is accepted for it. A call that returns a response was
dispatched once, and the response is what the device produced for it. -/
theorem exchange_dispatched_once (initial : channel.Initial) (events : List (ChannelEvent α))
    (fresh : (Run.after (SecureChannel.step platform) events channel).Fresh) :
    let final := Run.after (SecureChannel.step platform) events channel
    (final.hostLog.calls.map SecureCall.number).Nodup ∧
      (∀ acceptance ∈ final.deviceLog.accepted, ∃ call ∈ final.hostLog.calls, final.Runs acceptance call ∧
        acceptance.request.command = call.command ∧ acceptance.request.payload = call.payload) ∧
      (final.deviceLog.accepted.Pairwise fun acceptance other =>
        ∀ call, final.Runs acceptance call → ¬ final.Runs other call) ∧
      ∀ call response, (call, response) ∈ final.hostLog.returned → call ∈ final.hostLog.calls ∧
        ∃ newer acceptance older, final.deviceLog.accepted = newer ++ acceptance :: older ∧
          final.Runs acceptance call ∧ (∀ other ∈ newer ++ older, ¬ final.Runs other call) ∧
          acceptance.dispatched = true ∧ acceptance.request.command = call.command ∧
          acceptance.request.payload = call.payload ∧
          ∃ produced, acceptance.result = .ok produced ∧ produced.messageType = .response ∧
            produced.payload = response.payload := by
  intro final
  have sound : final.Sound := SecureChannel.run_sound platform initial events fresh
  refine ⟨sound.host.orderly.distinct, ?_, sound.once, ?_⟩
  · intro acceptance accepted
    obtain ⟨request, asked, executes⟩ := sound.executed acceptance accepted
    exact ⟨request.call, sound.host.orderly.asked request asked, ⟨request, asked, rfl, executes⟩, executes.inner⟩
  · intro call response returned
    obtain ⟨request, asked, rfl, acceptance, accepted, executes, dispatched, produced⟩ :=
      sound.returned (call, response) returned
    have runs : final.Runs acceptance request.call := ⟨request, asked, rfl, executes⟩
    obtain ⟨newer, older, split⟩ := List.append_of_mem accepted
    refine ⟨sound.host.orderly.asked request asked, newer, acceptance, older, split, runs, ?_, dispatched,
      executes.inner.1, executes.inner.2, produced⟩
    have once := sound.once
    rw [split] at once
    obtain ⟨-, later, earlier⟩ := List.pairwise_append.mp once
    intro other member runsToo
    rcases List.mem_append.mp member with new | old
    · exact earlier other new acceptance List.mem_cons_self _ runsToo runs
    · exact (List.pairwise_cons.mp later).1 other old _ runs runsToo

end run

end Guardian.Channel
