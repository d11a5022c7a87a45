import Guardian.Platform.LinkAnswers
import Mathlib.Data.List.Forall2

namespace Guardian.Platform

open Word Guardian.Protocol Guardian.App Guardian.Firmware

section poll

variable {α ρ : Type} (environment : PollEnvironment)

theorem embeddedTransmit_stats (loop : PollLoop α ρ) (frame : Option Frame) :
    ∃ stats, (embeddedTransmit environment loop frame).link = { loop.link with stats } := by
  unfold embeddedTransmit
  split <;> exact ⟨_, rfl⟩

theorem embeddedTransmit_result (loop : PollLoop α ρ) (frame : Option Frame) :
    (embeddedTransmit environment loop frame).protocolResult = loop.protocolResult := by
  unfold embeddedTransmit
  split <;> rfl

theorem embeddedTransmit_output (loop : PollLoop α ρ) (frame : Option Frame) :
    (embeddedTransmit environment loop frame).output = loop.output := by
  unfold embeddedTransmit
  split <;> rfl

theorem embeddedTransmit_writes (loop : PollLoop α ρ) {frame : Frame} (encodable : frame.Encodable) :
    (embeddedTransmit environment loop (some frame)).writes =
      loop.writes ++ [⟨frame.wire, environment.accepts loop.writes.length⟩] := by
  unfold embeddedTransmit
  rw [Option.map_some, protocolEncode_ok encodable]

theorem embeddedRecordResponseError_stats (link : EmbeddedLink α ρ) (response : Frame) :
    ∃ stats, embeddedRecordResponseError link response = { link with stats } := by
  unfold embeddedRecordResponseError
  split_ifs <;> exact ⟨_, rfl⟩

variable [Zero ρ] (platform : LinkPlatform)

def EmbeddedLink.received (link : EmbeddedLink α ρ) : EmbeddedLink α ρ :=
  { link with stats := { link.stats with rxFrames := embeddedIncrementU32 link.stats.rxFrames } }

theorem embeddedHandleFrame_eq (loop : PollLoop α ρ) (clean : loop.protocolResult = .ok) {request answer : Frame}
    {after : EmbeddedLink α ρ}
    (dispatched : embeddedDispatch platform .ok loop.link.received request (environment.uptimeSeconds (2 * loop.frames))
      (environment.uptimeSeconds (2 * loop.frames + 1)) = ⟨.ok, some answer, after⟩) :
    embeddedHandleFrame platform environment loop request =
      embeddedTransmit environment
        ⟨embeddedRecordResponseError after answer, .ok, some answer, loop.frames + 1, loop.writes⟩ (some answer) := by
  unfold EmbeddedLink.received at dispatched
  unfold embeddedHandleFrame
  rw [clean]
  dsimp only
  rw [dispatched]
  exact if_neg (not_not.mpr rfl)

theorem embeddedHandleFrame_stats (loop : PollLoop α ρ) (request : Frame) :
    ∃ stats, (embeddedHandleFrame platform environment loop request).link =
      { (embeddedDispatch platform loop.protocolResult loop.link.received request
          (environment.uptimeSeconds (2 * loop.frames)) (environment.uptimeSeconds (2 * loop.frames + 1))).link with
        stats } := by
  unfold embeddedHandleFrame EmbeddedLink.received
  dsimp only
  generalize embeddedDispatch platform loop.protocolResult (_ : EmbeddedLink α ρ) request _ _ = branch
  split_ifs
  · exact ⟨_, rfl⟩
  · split
    · exact ⟨_, rfl⟩
    · next output stored =>
      obtain ⟨recorded, same⟩ := embeddedRecordResponseError_stats branch.link output
      obtain ⟨stats, sent⟩ := embeddedTransmit_stats environment
        ⟨embeddedRecordResponseError branch.link output, branch.protocolResult, branch.output <|> loop.output,
          loop.frames + 1, loop.writes⟩ (some output)
      exact ⟨stats, by rw [sent, same]⟩

theorem embeddedHandleFrame_answers {loop : PollLoop α ρ} (clean : loop.protocolResult = .ok) (request : Frame) :
    (embeddedHandleFrame platform environment loop request).protocolResult = .ok ∧
      (embeddedHandleFrame platform environment loop request).link.parser = loop.link.parser ∧
      ∃ answer : Frame, answer.Answers request ∧ (embeddedHandleFrame platform environment loop request).writes =
        loop.writes ++ [⟨answer.wire, environment.accepts loop.writes.length⟩] := by
  obtain ⟨answer, after, dispatched, answers⟩ := embeddedDispatch_answers platform loop.link.received request
    (environment.uptimeSeconds (2 * loop.frames)) (environment.uptimeSeconds (2 * loop.frames + 1))
  obtain ⟨stats, handled⟩ := embeddedHandleFrame_stats environment platform loop request
  have parser : (embeddedHandleFrame platform environment loop request).link.parser = loop.link.parser := by
    rw [handled]
    exact embeddedDispatch_parserState platform loop.link.received request _ _ _
  refine ⟨?_, parser, answer, answers, ?_⟩
  · rw [embeddedHandleFrame_eq environment platform loop clean dispatched]
    exact embeddedTransmit_result environment _ _
  · rw [embeddedHandleFrame_eq environment platform loop clean dispatched]
    exact embeddedTransmit_writes environment _ answers.2.2.2

/-- A poll that met no failure has answered each frame of `stream`, in order, and nothing else. -/
structure PollLoop.Answered (start : Parser) (stream : List U8) (loop : PollLoop α ρ) : Prop where
  result : loop.protocolResult = .ok
  parser : loop.link.parser = start.after stream
  writes : ∃ answers, loop.writes.map LinkWrite.bytes = answers.map Frame.wire ∧
    List.Forall₂ Frame.Answers answers (start.delivered stream)

theorem Parser.after_snoc (start : Parser) (stream : List U8) (byte : U8) :
    start.after (stream ++ [byte]) = (parserPushByte (start.after stream) byte).2 := Run.after_snoc _ _ _ _

theorem Parser.delivered_snoc (start : Parser) (stream : List U8) (byte : U8) :
    start.delivered (stream ++ [byte]) =
      start.delivered stream ++ (parserPushByte (start.after stream) byte).1.frame?.toList := by
  rw [Parser.delivered_append, Parser.delivered, Parser.delivered, List.append_nil]

theorem embeddedReceive_answered {start : Parser} {stream : List U8} {loop : PollLoop α ρ}
    (answered : loop.Answered start stream) (byte : U8) :
    (embeddedReceive platform environment loop byte).Answered start (stream ++ [byte]) := by
  obtain ⟨answers, written, matched⟩ := answered.writes
  have next : (parserPushByte loop.link.parser byte).2 = start.after (stream ++ [byte]) := by
    rw [Parser.after_snoc, answered.parser]
  have frames : start.delivered (stream ++ [byte]) =
      start.delivered stream ++ (parserPushByte loop.link.parser byte).1.frame?.toList := by
    rw [Parser.delivered_snoc, answered.parser]
  -- The step delivers no frame unless the parser has one ready.
  have silent (none : (parserPushByte loop.link.parser byte).1.frame? = none) :
      ∃ answers, loop.writes.map LinkWrite.bytes = answers.map Frame.wire ∧
        List.Forall₂ Frame.Answers answers (start.delivered (stream ++ [byte])) := by
    rw [frames, none, Option.toList_none, List.append_nil]
    exact answered.writes
  unfold embeddedReceive
  dsimp only
  split
  · next nothing => exact ⟨answered.result, next, silent (by rw [nothing]; rfl)⟩
  · next request ready =>
    generalize pushed : ({ loop with link := { loop.link with parser := (parserPushByte loop.link.parser byte).2 } } :
      PollLoop α ρ) = current
    have clean : current.protocolResult = .ok := by
      rw [← pushed]
      exact answered.result
    obtain ⟨result, parser, answer, answers', sent⟩ := embeddedHandleFrame_answers environment platform clean request
    refine ⟨result, ?_, answers ++ [answer], ?_, ?_⟩
    · rw [parser, ← pushed]
      exact next
    · rw [sent, List.map_append, ← pushed, written, List.map_append]
      rfl
    · rw [frames, ready]
      exact List.rel_append matched (.cons answers' .nil)
  · next other neither ready => exact ⟨answered.result, next, silent (by
      revert neither ready
      cases (parserPushByte loop.link.parser byte).1 <;> simp [ParserResult.frame?])⟩

theorem embeddedReceive_run {start : Parser} {stream : List U8} {loop : PollLoop α ρ}
    (answered : loop.Answered start stream) (received : List U8) :
    (Run.after (embeddedReceive platform environment) received loop).Answered start (stream ++ received) := by
  induction received generalizing stream loop with
  | nil => simpa using answered
  | cons byte received ih =>
    have step := embeddedReceive_answered environment platform answered byte
    simpa using ih step

theorem embeddedLinkPoll_answers (link : EmbeddedLink α ρ) (incoming : List U8) (rxBudget : Nat) :
    (embeddedLinkPoll platform environment link incoming rxBudget).link.parser =
        link.parser.after (embeddedConsumed incoming rxBudget) ∧
      ∃ (answers : List Frame) (telemetry : Option Frame),
        (embeddedLinkPoll platform environment link incoming rxBudget).writes.map LinkWrite.bytes =
          (answers ++ telemetry.toList).map Frame.wire ∧
        List.Forall₂ Frame.Answers answers (link.parser.delivered (embeddedConsumed incoming rxBudget)) ∧
        ∀ frame ∈ telemetry, frame.messageType = .telemetry ∧ frame.Encodable ∧
          (embeddedLinkPoll platform environment link incoming rxBudget).link.telemetry.enabled ≠ 0 := by
  have started : (embeddedPollStart link).Answered link.parser [] := ⟨rfl, rfl, [], rfl, .nil⟩
  have ended := embeddedReceive_run environment platform started (embeddedConsumed incoming rxBudget)
  rw [List.nil_append] at ended
  unfold embeddedLinkPoll
  generalize Run.after (embeddedReceive platform environment) (embeddedConsumed incoming rxBudget)
    (embeddedPollStart link) = loop at ended ⊢
  obtain ⟨answers, written, matched⟩ := ended.writes
  unfold embeddedFlushTelemetry
  dsimp only
  split
  · next idle => exact ⟨ended.parser, answers, none, by simpa using written, matched, by simp⟩
  · next frame due =>
    obtain ⟨enabled, -, type, encodable⟩ := telemetryMakeDueFrame_due due
    have still : (telemetryMakeDueFrame loop.link.telemetry loop.link.state).2.enabled = loop.link.telemetry.enabled := by
      unfold telemetryMakeDueFrame
      split_ifs <;> rfl
    generalize flushed : ({ loop with link := { loop.link with telemetry := _ } } : PollLoop α ρ) = last
    obtain ⟨stats, sent⟩ := embeddedTransmit_stats environment last (some frame)
    have written' := embeddedTransmit_writes environment last encodable
    subst flushed
    refine ⟨?_, answers, some frame, ?_, matched, ?_⟩
    · rw [sent]
      exact ended.parser
    · rw [written', List.map_append, written, List.map_append]
      rfl
    · intro other member
      cases member
      refine ⟨type, encodable, ?_⟩
      rw [sent]
      exact fun off => enabled (still.symm.trans off)

end poll

section schedule

variable {α ρ : Type}

/-- What happens to a link: bytes arrive, a poll runs, or anything else, which leaves the parser. -/
inductive LinkEvent (α ρ : Type)
  | receive (bytes : List U8)
  | poll (rxBudget : Nat) (environment : PollEnvironment)
  | operate (link : EmbeddedLink α ρ)

structure LinkPoll (α ρ : Type) where
  consumed : List U8
  writes : List LinkWrite
  link : EmbeddedLink α ρ

/-- A run of the link, with the bytes that wait and the polls so far, oldest first. -/
structure LinkRun (α ρ : Type) where
  link : EmbeddedLink α ρ
  waiting : List U8
  polls : List (LinkPoll α ρ)

def LinkRun.start (link : EmbeddedLink α ρ) : LinkRun α ρ := ⟨link, [], []⟩
def LinkRun.consumed (run : LinkRun α ρ) : List U8 := run.polls.flatMap LinkPoll.consumed
def LinkRun.writes (run : LinkRun α ρ) : List LinkWrite := run.polls.flatMap LinkPoll.writes

variable [Zero ρ] (platform : LinkPlatform)

def linkStep (run : LinkRun α ρ) : LinkEvent α ρ → LinkRun α ρ
  | .receive bytes => { run with waiting := run.waiting ++ bytes }
  | .poll rxBudget environment =>
    let polled := embeddedLinkPoll platform environment run.link run.waiting rxBudget
    let consumed := embeddedConsumed run.waiting rxBudget
    ⟨polled.link, run.waiting.drop consumed.length, run.polls ++ [⟨consumed, polled.writes, polled.link⟩]⟩
  | .operate link => { run with link := { link with parser := run.link.parser } }

def linkRun (link : EmbeddedLink α ρ) (events : List (LinkEvent α ρ)) : LinkRun α ρ :=
  Run.after (linkStep platform) events (.start link)

/-- The writes of a poll are `answered.1`, then at most one telemetry frame. -/
def LinkPoll.Sends (poll : LinkPoll α ρ) (answered : List Frame × Option Frame) : Prop :=
  poll.writes.map LinkWrite.bytes = (answered.1 ++ answered.2.toList).map Frame.wire ∧
    ∀ frame ∈ answered.2, frame.messageType = .telemetry ∧ frame.Encodable ∧ poll.link.telemetry.enabled ≠ 0

/-- Each frame delivered since `start` was answered by the poll that received it. -/
structure LinkRun.Answered (start : Parser) (run : LinkRun α ρ) : Prop where
  parser : run.link.parser = start.after run.consumed
  answered : ∃ answered, List.Forall₂ LinkPoll.Sends run.polls answered ∧
    List.Forall₂ Frame.Answers (answered.flatMap Prod.fst) (start.delivered run.consumed)

theorem linkStep_answered {start : Parser} {run : LinkRun α ρ} (event : LinkEvent α ρ) (answered : run.Answered start) :
    (linkStep platform run event).Answered start := by
  obtain ⟨parser, answers, sends, matched⟩ := answered
  cases event with
  | receive bytes => exact ⟨parser, answers, sends, matched⟩
  | operate link => exact ⟨parser, answers, sends, matched⟩
  | poll rxBudget environment =>
    obtain ⟨next, replies, telemetry, written, replied, due⟩ :=
      embeddedLinkPoll_answers environment platform run.link run.waiting rxBudget
    rw [parser] at next replied
    have consumed : (linkStep platform run (.poll rxBudget environment)).consumed =
        run.consumed ++ embeddedConsumed run.waiting rxBudget := by
      simp [linkStep, LinkRun.consumed]
    refine ⟨?_, answers ++ [(replies, telemetry)], List.rel_append sends (.cons ⟨written, due⟩ .nil), ?_⟩
    · rw [consumed]
      exact next.trans (Run.after_append _ _ _ _).symm
    · rw [consumed, Parser.delivered_append, List.flatMap_append]
      exact List.rel_append matched (by simpa using replied)

theorem linkRun_answered (link : EmbeddedLink α ρ) (events : List (LinkEvent α ρ)) :
    (linkRun platform link events).Answered link.parser :=
  Run.after_invariant (fun _ event answered => linkStep_answered platform event answered) ⟨rfl, [], .nil, .nil⟩ events

end schedule

def PollEnvironment.still (nowSeconds : U32) : PollEnvironment := ⟨fun _ => nowSeconds, fun _ => true⟩

section division

variable {α ρ : Type} [Zero ρ] (platform : LinkPlatform) (nowSeconds : U32)

/-- A poll that has written `written` goes on as the poll `fresh` that starts from its link. -/
structure PollLoop.Resumes (written : List LinkWrite) (fresh after : PollLoop α ρ) : Prop where
  result : after.protocolResult = .ok
  link : after.link = fresh.link
  writes : after.writes = written ++ fresh.writes

theorem embeddedHandleFrame_resumes (loop : PollLoop α ρ) (clean : loop.protocolResult = .ok) (request : Frame) :
    PollLoop.Resumes loop.writes (embeddedHandleFrame platform (.still nowSeconds) (embeddedPollStart loop.link) request)
      (embeddedHandleFrame platform (.still nowSeconds) loop request) := by
  obtain ⟨answer, after, dispatched, answers⟩ :=
    embeddedDispatch_answers platform loop.link.received request nowSeconds nowSeconds
  rw [embeddedHandleFrame_eq (.still nowSeconds) platform loop clean dispatched,
    embeddedHandleFrame_eq (.still nowSeconds) platform (embeddedPollStart loop.link) rfl dispatched]
  have encoded := protocolEncode_ok answers.2.2.2
  unfold embeddedTransmit
  rw [Option.map_some, encoded]
  exact ⟨rfl, rfl, rfl⟩

theorem embeddedReceive_resumes (loop : PollLoop α ρ) (clean : loop.protocolResult = .ok) (byte : U8) :
    PollLoop.Resumes loop.writes (embeddedReceive platform (.still nowSeconds) (embeddedPollStart loop.link) byte)
      (embeddedReceive platform (.still nowSeconds) loop byte) := by
  unfold embeddedReceive embeddedPollStart
  dsimp only
  split
  · exact ⟨clean, rfl, (List.append_nil _).symm⟩
  · next request ready =>
    exact embeddedHandleFrame_resumes platform nowSeconds
      { loop with link := { loop.link with parser := (parserPushByte loop.link.parser byte).2 } } clean request
  · exact ⟨clean, rfl, (List.append_nil _).symm⟩

theorem embeddedReceive_run_resumes (loop : PollLoop α ρ) (clean : loop.protocolResult = .ok) (received : List U8) :
    PollLoop.Resumes loop.writes
      (Run.after (embeddedReceive platform (.still nowSeconds)) received (embeddedPollStart loop.link))
      (Run.after (embeddedReceive platform (.still nowSeconds)) received loop) := by
  induction received generalizing loop with
  | nil => exact ⟨clean, rfl, (List.append_nil _).symm⟩
  | cons byte received ih =>
    have step := embeddedReceive_resumes platform nowSeconds loop clean byte
    have first := embeddedReceive_resumes platform nowSeconds (embeddedPollStart loop.link) rfl byte
    have rest := ih _ step.result
    have fresh := ih _ first.result
    rw [step.link] at rest
    exact ⟨rest.result, rest.link.trans fresh.link.symm, by
      rw [Run.after_cons, Run.after_cons, rest.writes, fresh.writes, step.writes, List.append_assoc]⟩

theorem embeddedReceive_idle {loop : PollLoop α ρ} (environment : PollEnvironment) (idle : loop.link.telemetry.Idle)
    (byte : U8) : (embeddedReceive platform environment loop byte).link.telemetry.Idle := by
  unfold embeddedReceive
  dsimp only
  split
  · exact idle
  · next request ready =>
    generalize pushed : ({ loop with link := { loop.link with parser := (parserPushByte loop.link.parser byte).2 } } :
      PollLoop α ρ) = current
    have idle' : current.link.received.telemetry.Idle := by
      rw [← pushed]
      exact idle
    obtain ⟨stats, handled⟩ := embeddedHandleFrame_stats environment platform current request
    rw [handled]
    dsimp only
    rcases embeddedDispatch_steady platform current.link.received request current.protocolResult
      (environment.uptimeSeconds (2 * current.frames)) (environment.uptimeSeconds (2 * current.frames + 1)) with
      ⟨-, -, same⟩ | set
    · rw [same]
      exact idle'
    · rw [set]
      exact telemetryHandleRequest_idle idle' request
  · exact idle

/-- What one poll without a budget does to a stream, before it looks for telemetry. -/
def embeddedStream (link : EmbeddedLink α ρ) (stream : List U8) : PollLoop α ρ :=
  Run.after (embeddedReceive platform (.still nowSeconds)) stream (embeddedPollStart link)

theorem embeddedStream_idle {link : EmbeddedLink α ρ} (idle : link.telemetry.Idle) (stream : List U8) :
    (embeddedStream platform nowSeconds link stream).link.telemetry.Idle := by
  let quiet (loop : PollLoop α ρ) : Prop := loop.link.telemetry.Idle
  have preserved : ∀ loop byte, quiet loop → quiet (embeddedReceive platform (.still nowSeconds) loop byte) :=
    fun loop byte still => embeddedReceive_idle platform (.still nowSeconds) still byte
  exact Run.after_invariant preserved idle stream

theorem embeddedStream_append (link : EmbeddedLink α ρ) (left right : List U8) :
    PollLoop.Resumes (embeddedStream platform nowSeconds link left).writes
      (embeddedStream platform nowSeconds (embeddedStream platform nowSeconds link left).link right)
      (embeddedStream platform nowSeconds link (left ++ right)) := by
  have first := embeddedReceive_run_resumes platform nowSeconds (embeddedPollStart link) rfl left
  have rest := embeddedReceive_run_resumes platform nowSeconds (embeddedStream platform nowSeconds link left)
    first.result right
  unfold embeddedStream at rest ⊢
  rw [Run.after_append]
  exact rest

/-- The events of a schedule in which only polls run, the clock stands still and every write is taken. -/
def LinkEvent.Still : LinkEvent α ρ → Prop
  | .receive _ => True
  | .poll _ environment => environment = .still nowSeconds
  | .operate _ => False

structure LinkRun.Streamed (link : EmbeddedLink α ρ) (run : LinkRun α ρ) : Prop where
  reached : run.link = (embeddedStream platform nowSeconds link run.consumed).link
  written : run.writes = (embeddedStream platform nowSeconds link run.consumed).writes

theorem linkStep_streamed {link : EmbeddedLink α ρ} (idle : link.telemetry.Idle) {run : LinkRun α ρ}
    {event : LinkEvent α ρ} (still : event.Still nowSeconds) (streamed : run.Streamed platform nowSeconds link) :
    (linkStep platform run event).Streamed platform nowSeconds link := by
  cases event with
  | receive bytes => exact ⟨streamed.reached, streamed.written⟩
  | operate other => exact still.elim
  | poll rxBudget environment =>
    have same : environment = .still nowSeconds := still
    subst same
    have idle' := embeddedStream_idle platform nowSeconds idle run.consumed
    rw [← streamed.reached] at idle'
    have resumes := embeddedStream_append platform nowSeconds link run.consumed (embeddedConsumed run.waiting rxBudget)
    rw [← streamed.reached, ← streamed.written] at resumes
    have silent : embeddedLinkPoll platform (.still nowSeconds) run.link run.waiting rxBudget =
        embeddedStream platform nowSeconds run.link (embeddedConsumed run.waiting rxBudget) := by
      have ended := embeddedStream_idle platform nowSeconds idle' (embeddedConsumed run.waiting rxBudget)
      unfold embeddedLinkPoll embeddedFlushTelemetry
      unfold embeddedStream at ended ⊢
      rw [telemetryMakeDueFrame_idle ended]
    have consumed : (linkStep platform run (.poll rxBudget (.still nowSeconds))).consumed =
        run.consumed ++ embeddedConsumed run.waiting rxBudget := by
      simp [linkStep, LinkRun.consumed]
    have writes : (linkStep platform run (.poll rxBudget (.still nowSeconds))).writes =
        run.writes ++ (embeddedLinkPoll platform (.still nowSeconds) run.link run.waiting rxBudget).writes := by
      simp [linkStep, LinkRun.writes]
    constructor
    · rw [consumed, resumes.link, ← silent]
      rfl
    · rw [consumed, writes, silent, resumes.writes]

theorem linkRun_streamed {link : EmbeddedLink α ρ} (idle : link.telemetry.Idle) {events : List (LinkEvent α ρ)}
    (still : ∀ event ∈ events, event.Still nowSeconds) :
    (linkRun platform link events).Streamed platform nowSeconds link := by
  have run : ∀ state : LinkRun α ρ, state.Streamed platform nowSeconds link →
      (Run.after (linkStep platform) events state).Streamed platform nowSeconds link := by
    induction events with
    | nil => exact fun _ streamed => streamed
    | cons event events ih =>
      intro state streamed
      have step := linkStep_streamed platform nowSeconds idle (still event List.mem_cons_self) streamed
      exact ih (fun later member => still later (List.mem_cons_of_mem _ member)) _ step
  exact run _ ⟨rfl, rfl⟩

end division

/-- Every frame delivered gets one answer, other writes are telemetry, and the answers do not depend on the polls. -/
theorem link_answers_once {α ρ : Type} [Zero ρ] (platform : LinkPlatform) (link : EmbeddedLink α ρ) :
    (∀ events, ∃ answered, List.Forall₂ LinkPoll.Sends (linkRun platform link events).polls answered ∧
      List.Forall₂ Frame.Answers (answered.flatMap Prod.fst)
        (link.parser.delivered (linkRun platform link events).consumed)) ∧
    ∀ (nowSeconds : U32) (left right : List (LinkEvent α ρ)), link.telemetry.enabled = 0 →
      (∀ event ∈ left, event.Still nowSeconds) → (∀ event ∈ right, event.Still nowSeconds) →
      (linkRun platform link left).consumed = (linkRun platform link right).consumed →
      (linkRun platform link left).writes = (linkRun platform link right).writes := by
  refine ⟨fun events => (linkRun_answered platform link events).answered, ?_⟩
  intro nowSeconds left right disabled leftStill rightStill same
  have leftRun := linkRun_streamed platform nowSeconds (Or.inl disabled) leftStill
  have rightRun := linkRun_streamed platform nowSeconds (Or.inl disabled) rightStill
  rw [leftRun.written, rightRun.written, same]

def steadyPlatform : LinkPlatform := ⟨fun _ => none, fun _ => ⟨true, true, fun _ => 0⟩, fun _ => true, fun _ _ _ _ => false⟩

def bareLink : EmbeddedLink Unit Nat := (embeddedLinkInit ⟨fun _ => 0xFF, none, 0, 0⟩ ⟨[0x46], 1, 0, 0, 7⟩).2

def pingStream : List U8 := [0x47, 0x46, 1, 1, 1, 0, 0, 0, 0, 1, 0, 0, 0x34, 0x02, 0x5E, 0x68]

theorem link_answers_once_divided :
    (linkRun steadyPlatform bareLink [.receive pingStream, .poll 0 (.still 5)]).writes =
      (linkRun steadyPlatform bareLink [.receive (pingStream.take 3), .poll 0 (.still 5),
        .receive (pingStream.drop 3), .poll 7 (.still 5), .poll 0 (.still 5)]).writes := by
  apply (link_answers_once steadyPlatform bareLink).2 5 _ _ rfl
  · simp [LinkEvent.Still]
  · simp [LinkEvent.Still]
  · decide +kernel

end Guardian.Platform
