import Guardian.Host.Correlation

namespace Guardian.Host

open Word Guardian.Protocol Guardian.App

section timed

variable {τ : Type} [MonotonicTime τ]

def chunkBytes (reads : List (Except TransportFailure (List U8))) : List U8 :=
  reads.flatMap fun
    | .ok chunk => chunk
    | .error _ => []

/-- The frames that a stream has still to give: those already found, then those on the wire. -/
def Receiving (stream : ByteStream τ) (frames : List Frame) : Prop :=
  ∃ onWire rest, frames = stream.pending ++ onWire ∧ Clean stream.parser (chunkBytes stream.reads ++ rest) onWire

theorem pollFrame_receiving {deadline : τ} {writes : List (Except TransportFailure Nat)} {clock : List τ}
    {reads : List (Except TransportFailure (List U8))} {parser : IncrementalParser} {pending : List Frame}
    {outcome : Except GuardianCtlError Frame} {later : ByteStream τ} {frames : List Frame}
    (receiving : Receiving (⟨clock, writes, reads, parser, pending⟩ : ByteStream τ) frames)
    (ended : pollFrame deadline writes clock reads parser pending = some (outcome, later)) :
    ∃ taken remaining, frames = taken ++ remaining ∧ Receiving later remaining ∧
      (∀ frame, outcome = .ok frame → taken = [frame]) ∧ later.clock.length < clock.length := by
  induction clock generalizing reads parser pending with
  | nil => cases ended
  | cons now clock ih =>
    unfold pollFrame at ended
    by_cases early : MonotonicTime.before now deadline = true
    · rw [if_pos early] at ended
      cases pending with
      | cons frame pending =>
        cases ended
        obtain ⟨onWire, rest, split, clean⟩ := receiving
        refine ⟨[frame], pending ++ onWire, split, ⟨onWire, rest, rfl, clean⟩, ?_, Nat.lt_succ_self _⟩
        intro other same
        cases same
        rfl
      | nil =>
        cases reads with
        | nil => cases ended
        | cons read reads =>
          cases read with
          | error failure =>
            cases ended
            refine ⟨[], frames, rfl, receiving, ?_, Nat.lt_succ_self _⟩
            intro other same
            cases same
          | ok chunk =>
            obtain ⟨onWire, rest, split, clean⟩ := receiving
            have read : chunkBytes (.ok chunk :: reads) = chunk ++ chunkBytes reads := rfl
            dsimp only at ended clean split
            rw [read, List.append_assoc] at clean
            by_cases empty : chunk = []
            · rw [if_pos empty] at ended
              rw [empty, List.nil_append] at clean
              obtain ⟨taken, remaining, parts, left, only, shorter⟩ := ih ⟨onWire, rest, split, clean⟩ ended
              exact ⟨taken, remaining, parts, left, only, Nat.lt_succ_of_lt shorter⟩
            · rw [if_neg empty] at ended
              obtain ⟨unread, brought, left⟩ := IncrementalParser.feed_clean clean
              have found : Receiving (⟨clock, writes, reads, (parser.feed chunk).2, (parser.feed chunk).1⟩ :
                  ByteStream τ) frames := ⟨unread, rest, by rw [split]; exact brought, left⟩
              obtain ⟨taken, remaining, parts, left, only, shorter⟩ := ih found ended
              exact ⟨taken, remaining, parts, left, only, Nat.lt_succ_of_lt shorter⟩
    · rw [if_neg early] at ended
      cases ended
      refine ⟨[], frames, rfl, receiving, ?_, Nat.lt_succ_self _⟩
      intro other same
      cases same

/-- The stream still gives `frames`, and the clock is before the deadline for every read up to `rest` and `turns` frames. -/
def OnTime (deadline : τ) (rest : List U8) (turns : Nat) (stream : ByteStream τ) (frames : List Frame) : Prop :=
  ∃ (soon late : List τ) (chunks : List (List U8)) (reads : List (Except TransportFailure (List U8)))
    (onWire : List Frame), stream.clock = soon ++ late ∧
    (∀ now ∈ soon, MonotonicTime.before now deadline = true) ∧ stream.reads = chunks.map Except.ok ++ reads ∧
    chunks.length + turns ≤ soon.length ∧ frames = stream.pending ++ onWire ∧
    Clean stream.parser (chunks.flatten ++ rest) onWire

theorem pollFrame_takes {deadline : τ} {writes : List (Except TransportFailure Nat)} {soon late : List τ}
    (early : ∀ now ∈ soon, MonotonicTime.before now deadline = true) {chunks : List (List U8)} {turns : Nat}
    (enough : chunks.length + (turns + 1) ≤ soon.length) {reads : List (Except TransportFailure (List U8))}
    {parser : IncrementalParser} {pending onWire : List Frame} {rest : List U8}
    (clean : Clean parser (chunks.flatten ++ rest) onWire) {frame first : Frame} {more before after : List Frame}
    (split : frame :: more = pending ++ onWire) (target : frame :: more = before ++ first :: after)
    (reach : rest.length ≤ (wireStream after).length) :
    ∃ later, pollFrame deadline writes (soon ++ late) (chunks.map Except.ok ++ reads) parser pending =
        some (.ok frame, later) ∧ OnTime deadline rest turns later more := by
  induction soon generalizing chunks parser pending onWire with
  | nil => exact absurd enough (Nat.not_le_of_gt (Nat.succ_pos _))
  | cons now soon ih =>
    have earlier : ∀ now ∈ soon, MonotonicTime.before now deadline = true :=
      fun other member => early other (List.mem_cons_of_mem _ member)
    rw [List.length_cons] at enough
    rw [List.cons_append]
    unfold pollFrame
    rw [if_pos (early now List.mem_cons_self)]
    cases pending with
    | cons found pending =>
      cases split
      exact ⟨_, rfl, soon, late, chunks, reads, onWire, rfl, earlier, rfl, by omega, rfl, clean⟩
    | nil =>
      rw [List.nil_append] at split
      cases chunks with
      | nil =>
        rw [List.flatten_nil, List.nil_append, ← split, target] at clean
        have unread := clean.unread
        omega
      | cons chunk chunks =>
        rw [List.length_cons] at enough
        rw [List.flatten_cons, List.append_assoc] at clean
        rw [List.map_cons, List.cons_append]
        dsimp only
        by_cases empty : chunk = []
        · rw [if_pos empty]
          rw [empty, List.nil_append] at clean
          exact ih earlier (by omega) clean split
        · rw [if_neg empty]
          obtain ⟨unread, brought, left⟩ := IncrementalParser.feed_clean clean
          exact ih earlier (by omega) left (by rw [← brought]; exact split)

theorem nextFrame_takes {deadline : τ} {rest : List U8} {turns : Nat} {stream : ByteStream τ} {frame first : Frame}
    {more before after : List Frame} (onTime : OnTime deadline rest (turns + 1) stream (frame :: more))
    (target : frame :: more = before ++ first :: after) (reach : rest.length ≤ (wireStream after).length) :
    ∃ later, nextFrame deadline stream = some (.ok frame, later) ∧ OnTime deadline rest turns later more := by
  obtain ⟨soon, late, chunks, reads, onWire, clock, early, received, enough, split, clean⟩ := onTime
  rw [nextFrame, clock, received]
  exact pollFrame_takes early enough clean split target reach

theorem awaitResponse_first {request first : Frame} {deadline : τ} {rest : List U8} {before after : List Frame}
    {stream : ByteStream τ} (onTime : OnTime deadline rest (before.length + 1) stream (before ++ first :: after))
    (reach : rest.length ≤ (wireStream after).length) (unrelated : Unrelated request before)
    (related : first.sequence = request.sequence) {fuel : Nat} (turns : before.length < fuel) :
    ∃ later, awaitResponse request deadline fuel stream = some (validateCorrelatedResponse request first, later) := by
  induction before generalizing stream fuel with
  | nil =>
    obtain ⟨fuel, rfl⟩ : ∃ less, fuel = less + 1 := ⟨fuel - 1, by omega⟩
    obtain ⟨later, taken, _⟩ := nextFrame_takes onTime (List.nil_append _).symm reach
    rw [awaitResponse, taken]
    dsimp only
    rw [if_neg (not_not.mpr related)]
    exact ⟨later, rfl⟩
  | cons frame before ih =>
    rw [List.length_cons] at turns
    obtain ⟨fuel, rfl⟩ : ∃ less, fuel = less + 1 := ⟨fuel - 1, by omega⟩
    obtain ⟨later, taken, left⟩ := nextFrame_takes onTime (List.cons_append : frame :: before ++ first :: after = _).symm reach
    rw [awaitResponse, taken]
    dsimp only
    rw [if_pos (unrelated frame List.mem_cons_self)]
    exact ih left (fun other member => unrelated other (List.mem_cons_of_mem _ member)) (by omega)

theorem awaitResponse_receiving {request : Frame} {deadline : τ} {stream later : ByteStream τ} {frames : List Frame}
    (receiving : Receiving stream frames) {fuel : Nat} {outcome : Except GuardianCtlError Frame}
    (ended : awaitResponse request deadline fuel stream = some (outcome, later)) :
    ∃ remaining, remaining <:+ frames ∧ Receiving later remaining := by
  induction fuel generalizing stream frames with
  | zero => cases ended
  | succ fuel ih =>
    rw [awaitResponse] at ended
    cases polled : nextFrame deadline stream with
    | none =>
      rw [polled] at ended
      cases ended
    | some result =>
      obtain ⟨taken, remaining, split, left, _⟩ := pollFrame_receiving receiving polled
      have suffix : remaining <:+ frames := ⟨taken, split.symm⟩
      rw [polled] at ended
      obtain ⟨frame | frame, next⟩ := result
      · cases ended
        exact ⟨remaining, suffix, left⟩
      · dsimp only at ended
        by_cases other : frame.sequence ≠ request.sequence
        · rw [if_pos other] at ended
          obtain ⟨last, shorter, receivingLast⟩ := ih left ended
          exact ⟨last, shorter.trans suffix, receivingLast⟩
        · rw [if_neg other] at ended
          cases ended
          exact ⟨remaining, suffix, left⟩

theorem waitForResponse_receiving {request : Frame} {timeout : τ} {stream later : ByteStream τ} {frames : List Frame}
    (receiving : Receiving stream frames) {outcome : Except GuardianCtlError Frame}
    (ended : waitForResponse stream request timeout = some (outcome, later)) :
    ∃ remaining, remaining <:+ frames ∧ Receiving later remaining := by
  rw [waitForResponse] at ended
  cases clock : stream.clock with
  | nil =>
    rw [clock] at ended
    cases ended
  | cons now readings =>
    rw [clock] at ended
    have same : Receiving { stream with clock := readings } frames := receiving
    exact awaitResponse_receiving same ended

theorem sampleLoop_receiving {consumer : List TelemetryRecord → TelemetryRecord → Bool} {sampleTimeout : τ} {count : Nat}
    {stream later : ByteStream τ} {frames : List Frame} (receiving : Receiving stream frames) {fuel : Nat}
    {delivered : List TelemetryRecord} {outcome : Except StreamError Unit}
    (ended : (sampleLoop consumer sampleTimeout count fuel stream delivered).2 = some (outcome, later)) :
    ∃ remaining, remaining <:+ frames ∧ Receiving later remaining := by
  induction fuel generalizing stream frames delivered with
  | zero => cases ended
  | succ fuel ih =>
    rw [sampleLoop] at ended
    by_cases enough : ¬ delivered.length < count
    · rw [if_pos enough] at ended
      cases ended
      exact ⟨frames, List.suffix_rfl, receiving⟩
    rw [if_neg enough] at ended
    cases clock : stream.clock with
    | nil =>
      rw [clock] at ended
      cases ended
    | cons now readings =>
      rw [clock] at ended
      dsimp only at ended
      have same : Receiving { stream with clock := readings } frames := receiving
      cases polled : nextFrame (now + sampleTimeout) { stream with clock := readings } with
      | none =>
        rw [polled] at ended
        cases ended
      | some result =>
        obtain ⟨taken, remaining, split, left, _⟩ := pollFrame_receiving same polled
        have suffix : remaining <:+ frames := ⟨taken, split.symm⟩
        have again : ∀ {delivered : List TelemetryRecord} {next : ByteStream τ}, Receiving next remaining →
            (sampleLoop consumer sampleTimeout count fuel next delivered).2 = some (outcome, later) →
            ∃ remaining, remaining <:+ frames ∧ Receiving later remaining := by
          intro delivered next left ended
          obtain ⟨last, shorter, found⟩ := ih left ended
          exact ⟨last, shorter.trans suffix, found⟩
        rw [polled] at ended
        obtain ⟨failure | frame, next⟩ := result
        · cases ended
          exact ⟨remaining, suffix, left⟩
        · dsimp only at ended
          split_ifs at ended with kind channel
          · exact again left ended
          · exact again left ended
          · cases decoded : decodeMachineTelemetry frame.payload with
            | error failure =>
              rw [decoded] at ended
              cases ended
              exact ⟨remaining, suffix, left⟩
            | ok sample =>
              rw [decoded] at ended
              dsimp only at ended
              by_cases raises : consumer delivered ⟨frame.sequence, sample⟩ = true
              · rw [if_pos raises] at ended
                cases ended
                exact ⟨remaining, suffix, left⟩
              · rw [if_neg raises] at ended
                exact again left ended

/-- A wait over the last of the frames of a stream, with what the wait then did. -/
def WaitOver (timeout : τ) (frames : List Frame) (wait : Wait τ) : Prop :=
  (∃ remaining, remaining <:+ frames ∧ Receiving wait.stream remaining) ∧
    wait.outcome = (waitForResponse wait.stream wait.request timeout).map Prod.fst

omit [MonotonicTime τ] in
theorem sendRequest_receiving {stream later : ByteStream τ} {request : Frame} {frames : List Frame}
    (receiving : Receiving stream frames) {outcome : Except GuardianCtlError Unit}
    (ended : sendRequest stream request = some (outcome, later)) : Receiving later frames := by
  rw [sendRequest] at ended
  cases writes : stream.writes with
  | nil =>
    rw [writes] at ended
    cases ended
  | cons write writes' =>
    rw [writes] at ended
    cases write with
    | error failure =>
      cases ended
      exact receiving
    | ok written =>
      dsimp only at ended
      by_cases short : written ≠ (encodeFrame request).length
      · rw [if_pos short] at ended
        cases ended
        exact receiving
      · rw [if_neg short] at ended
        cases ended
        exact receiving

theorem configure_waits {stream : ByteStream τ} {frames : List Frame} (receiving : Receiving stream frames)
    (request : Frame) (timeout : τ) :
    (∀ wait ∈ (configure stream request timeout).1, WaitOver timeout frames wait) ∧
      ∀ outcome later, (configure stream request timeout).2 = some (outcome, later) →
        ∃ remaining, remaining <:+ frames ∧ Receiving later remaining := by
  have none_yet : ∀ wait ∈ ([] : List (Wait τ)), WaitOver timeout frames wait := fun wait member => by cases member
  unfold configure
  cases sent : sendRequest stream request with
  | none => exact ⟨none_yet, fun outcome later ended => by cases ended⟩
  | some result =>
    obtain ⟨failure | _, sending⟩ := result
    · refine ⟨none_yet, ?_⟩
      intro outcome later ended
      cases ended
      exact ⟨frames, List.suffix_rfl, sendRequest_receiving receiving sent⟩
    · have begins := sendRequest_receiving receiving sent
      have ends : ∀ ended, (waitForResponse sending request timeout).map Prod.fst = ended →
          ∀ wait ∈ [(⟨request, sending, ended⟩ : Wait τ)], WaitOver timeout frames wait := by
        intro ended same wait member
        cases List.mem_singleton.mp member
        exact ⟨⟨frames, List.suffix_rfl, begins⟩, same.symm⟩
      dsimp only
      cases waited : waitForResponse sending request timeout with
      | none => exact ⟨ends _ (by rw [waited]; rfl), fun outcome later ended => by cases ended⟩
      | some result =>
        have left : ∃ remaining, remaining <:+ frames ∧ Receiving result.2 remaining :=
          waitForResponse_receiving begins waited
        obtain ⟨failure | response, next⟩ := result
        · refine ⟨ends _ (by rw [waited]; rfl), ?_⟩
          intro outcome later ended
          cases ended
          exact left
        · refine ⟨ends _ (by rw [waited]; rfl), ?_⟩
          intro outcome later ended
          dsimp only at ended
          cases decoded : decodeTelemetryConfig response.payload with
          | error failure =>
            rw [decoded] at ended
            cases ended
            exact left
          | ok config =>
            rw [decoded] at ended
            cases ended
            exact left

theorem WaitOver.mono {timeout : τ} {shorter frames : List Frame} (suffix : shorter <:+ frames) {wait : Wait τ}
    (waited : WaitOver timeout shorter wait) : WaitOver timeout frames wait := by
  obtain ⟨⟨remaining, part, receiving⟩, ended⟩ := waited
  exact ⟨⟨remaining, part.trans suffix, receiving⟩, ended⟩

theorem streamSamples_waits (consumer : List TelemetryRecord → TelemetryRecord → Bool) (timeout : τ)
    (manager : SequenceManager) (opened : Except TransportFailure Unit) {stream : ByteStream τ} {frames : List Frame}
    (receiving : Receiving stream frames) (periodMs count : Nat) :
    ∀ wait ∈ (streamSamples consumer timeout manager opened stream periodMs count).waits,
      WaitOver timeout frames wait := by
  have none_yet : ∀ wait ∈ ([] : List (Wait τ)), WaitOver timeout frames wait := fun wait member => by cases member
  unfold streamSamples
  dsimp only
  by_cases range : ¬ (1 ≤ count ∧ count ≤ 100000)
  · rw [if_pos range]
    exact none_yet
  rw [if_neg range]
  cases encodeTelemetryConfig ⟨true, periodMs⟩ with
  | error failure => exact none_yet
  | ok enablePayload =>
    cases encodeTelemetryConfig ⟨false, periodMs⟩ with
    | error failure => exact none_yet
    | ok disablePayload =>
      cases opened with
      | error failure => exact none_yet
      | ok _ =>
        dsimp only
        have enabling := configure_waits receiving (setTelemetryRequest manager.next.1 enablePayload) timeout
        generalize configure stream (setTelemetryRequest manager.next.1 enablePayload) timeout = enable at enabling ⊢
        obtain ⟨enableWaits, enabled⟩ := enable
        obtain ⟨enableOver, enableLeft⟩ := enabling
        cases enabled with
        | none => exact enableOver
        | some result =>
          obtain ⟨failure | activeConfig, active⟩ := result
          · exact enableOver
          · obtain ⟨remaining, suffix, left⟩ := enableLeft _ _ rfl
            dsimp only
            by_cases contradictory : activeConfig ≠ ⟨true, periodMs⟩
            · rw [if_pos contradictory]
              exact enableOver
            rw [if_neg contradictory]
            generalize (if MonotonicTime.before timeout (MonotonicTime.sampleSpan periodMs) then
              MonotonicTime.sampleSpan periodMs else timeout) = sampleTimeout
            have looped : ∀ outcome later,
                (sampleLoop consumer sampleTimeout count (active.clock.length + 1) active []).2 = some (outcome, later) →
                ∃ last, last <:+ remaining ∧ Receiving later last :=
              fun outcome later ended => sampleLoop_receiving left ended
            generalize sampleLoop consumer sampleTimeout count (active.clock.length + 1) active [] = loop at looped ⊢
            obtain ⟨delivered, streamed⟩ := loop
            cases streamed with
            | none => exact enableOver
            | some result =>
              obtain ⟨streamed, stopping⟩ := result
              obtain ⟨last, shorter, stopped⟩ := looped _ _ rfl
              intro wait member
              rcases List.mem_append.mp member with early | late
              · exact enableOver wait early
              · have disabling := (configure_waits stopped _ timeout).1 wait late
                exact disabling.mono (shorter.trans suffix)

/-- Every call up to the answer succeeds, and the reads bring the answer in one piece or many. -/
structure TcpAnswered (connection : TcpConnection) (overtaking : List Frame) (answer : Frame) (later : List Frame) :
    Prop where
  connected : connection.connected = .ok ()
  sent : connection.sent = .ok ()
  received : ∃ (chunks : List (List U8)) (receipts : List (Except SocketFault (List U8))),
    connection.receipts = chunks.map Except.ok ++ receipts ∧ [] ∉ chunks ∧
      Carried chunks.flatten overtaking answer later

structure SerialAnswered (timeout : τ) (port : SerialPort τ) (request : Frame) (overtaking : List Frame)
    (answer : Frame) (later : List Frame) : Prop where
  opened : port.opened = .ok ()
  inputReset : port.inputReset = .ok ()
  written : port.written = .ok (encodeFrame request).length
  flushed : port.flushed = .ok ()
  received : ∃ (soon late : List τ) (chunks : List (List U8)) (reads : List (Except SerialFault (List U8))),
    port.clock = soon ++ late ∧ (∀ now ∈ soon, MonotonicTime.before now (port.started + timeout) = true) ∧
      port.reads = chunks.map Except.ok ++ reads ∧ soon.length = chunks.length ∧
      Carried chunks.flatten overtaking answer later

/-- The clock is read once for each read and for each frame taken. -/
def StreamAnswered (timeout : τ) (stream : ByteStream τ) (overtaking : List Frame) (answer : Frame) : Prop :=
  ∃ (start : τ) (soon late : List τ) (chunks : List (List U8)) (reads : List (Except TransportFailure (List U8))),
    stream.clock = start :: (soon ++ late) ∧
      (∀ now ∈ soon, MonotonicTime.before now (start + timeout) = true) ∧
      stream.reads = chunks.map Except.ok ++ reads ∧ soon.length = chunks.length + (overtaking.length + 1) ∧
      wireStream ((overtaking ++ [answer]).drop stream.pending.length) <+: stream.parser.buffer ++ chunks.flatten

omit [MonotonicTime τ] in
theorem tcpExchange_reported {connection : TcpConnection} {request answer : Frame} {overtaking later : List Frame}
    (requests : request.messageType = .request) (overtaken : Overtaken request overtaking answer later)
    (arrived : TcpAnswered connection overtaking answer later) :
    tcpExchange connection request = some (reported answer) ↔ Unrelated request overtaking := by
  obtain ⟨connected, sent, chunks, receipts, received, some_bytes, carried⟩ := arrived
  obtain ⟨rest, total, reach⟩ := carried.rest
  obtain ⟨before, first, after, found⟩ := overtaken.first
  have clean := Clean.fresh overtaken.frames_encodable total
  rw [found.split] at clean
  have ends := tcpReceive_first some_bytes receipts clean (Nat.le_trans reach found.reach) found.unrelated found.related
  rw [tcpExchange, if_neg (not_not.mpr requests), connected, sent, received]
  dsimp only
  rw [ends]
  exact found.reported_iff

theorem serialExchange_reported {timeout : τ} {port : SerialPort τ} {request answer : Frame}
    {overtaking later : List Frame} (requests : request.messageType = .request)
    (overtaken : Overtaken request overtaking answer later)
    (arrived : SerialAnswered timeout port request overtaking answer later) :
    serialExchange timeout port request = some (reported answer) ↔ Unrelated request overtaking := by
  obtain ⟨opened, inputReset, written, flushed, soon, late, chunks, reads, clock, early, received, enough, carried⟩ :=
    arrived
  obtain ⟨rest, total, reach⟩ := carried.rest
  obtain ⟨before, first, after, found⟩ := overtaken.first
  have clean := Clean.fresh overtaken.frames_encodable total
  rw [found.split] at clean
  have ends := serialReceive_first early enough late reads clean (Nat.le_trans reach found.reach) found.unrelated
    found.related
  rw [serialExchange, if_neg (not_not.mpr requests)]
  dsimp only
  rw [opened, inputReset, written, flushed]
  dsimp only
  rw [if_neg (not_not.mpr rfl), clock, received, ends]
  exact found.reported_iff

theorem wireStream_drop_le (frames : List Frame) (count : Nat) :
    (wireStream (frames.drop count)).length ≤ (wireStream frames).length := by
  have parts := congrArg (fun frames => (wireStream frames).length) (List.take_append_drop count frames)
  simp only [wireStream_append, List.length_append] at parts
  omega

theorem waitForResponse_reported {timeout : τ} {stream : ByteStream τ} {request answer : Frame}
    {overtaking later : List Frame} (receiving : Receiving stream (overtaking ++ answer :: later))
    (overtaken : Overtaken request overtaking answer later) (arrived : StreamAnswered timeout stream overtaking answer) :
    (waitForResponse stream request timeout).map Prod.fst = some (reported answer) ↔ Unrelated request overtaking := by
  obtain ⟨start, soon, late, chunks, reads, clock, early, received, enough, carried⟩ := arrived
  obtain ⟨onWire, rest, split, clean⟩ := receiving
  obtain ⟨before, first, after, found⟩ := overtaken.first
  have bytes : chunkBytes stream.reads = chunks.flatten ++ chunkBytes reads := by
    rw [received]
    unfold chunkBytes
    rw [List.flatMap_append, List.flatMap_map, List.flatten_eq_flatMap]
    rfl
  rw [bytes, List.append_assoc] at clean
  have reach : (chunkBytes reads ++ rest).length ≤ (wireStream later).length := by
    have parts : onWire = (overtaking ++ [answer]).drop stream.pending.length ++
        later.drop (stream.pending.length - (overtaking ++ [answer]).length) := by
      rw [← List.drop_append, List.append_assoc, List.singleton_append, split, List.drop_left]
    have sizes := congrArg List.length clean.stream
    have less := wireStream_drop_le later (stream.pending.length - (overtaking ++ [answer]).length)
    have long := carried.length_le
    rw [parts, wireStream_append] at sizes
    simp only [List.length_append] at sizes long less ⊢
    omega
  have onTime : OnTime (start + timeout) (chunkBytes reads ++ rest) (before.length + 1)
      ({ stream with clock := soon ++ late } : ByteStream τ) (before ++ first :: after) := by
    have sooner := found.sooner
    rw [← found.split]
    exact ⟨soon, late, chunks, reads, onWire, rfl, early, received, by omega, split, clean⟩
  have turns : before.length < (soon ++ late).length + 1 := by
    have sooner := found.sooner
    rw [List.length_append]
    omega
  obtain ⟨left, ends⟩ := awaitResponse_first onTime (Nat.le_trans reach found.reach) found.unrelated found.related turns
  rw [waitForResponse, clock]
  dsimp only
  rw [ends]
  exact found.reported_iff

/-- Telemetry disturbs a request exactly when, ahead of the answer, it has the sequence of the request. -/
theorem answers_reported_iff (timeout : τ) :
    (∀ connection request overtaking answer later, request.messageType = .request →
      Overtaken request overtaking answer later → TcpAnswered connection overtaking answer later →
      (tcpExchange connection request = some (reported answer) ↔ Unrelated request overtaking)) ∧
    (∀ port request overtaking answer later, request.messageType = .request →
      Overtaken request overtaking answer later → SerialAnswered timeout port request overtaking answer later →
      (serialExchange timeout port request = some (reported answer) ↔ Unrelated request overtaking)) ∧
    ∀ consumer manager opened (stream : ByteStream τ) periodMs count frames, (∀ frame ∈ frames, frame.Encodable) →
      stream.parser = incrementalParser → stream.pending = [] → chunkBytes stream.reads <+: wireStream frames →
      ∀ wait ∈ (streamSamples consumer timeout manager opened stream periodMs count).waits,
        (∃ remaining, remaining <:+ frames ∧ Receiving wait.stream remaining) ∧
        ∀ overtaking answer later, Receiving wait.stream (overtaking ++ answer :: later) →
          Overtaken wait.request overtaking answer later → StreamAnswered timeout wait.stream overtaking answer →
          (wait.outcome = some (reported answer) ↔ Unrelated wait.request overtaking) := by
  refine ⟨?_, ?_, ?_⟩
  · intro connection request overtaking answer later requests overtaken arrived
    exact tcpExchange_reported requests overtaken arrived
  · intro port request overtaking answer later requests overtaken arrived
    exact serialExchange_reported requests overtaken arrived
  · intro consumer manager opened stream periodMs count frames encodable fresh empty carried wait waited
    obtain ⟨rest, total⟩ := carried
    have receiving : Receiving stream frames := by
      refine ⟨frames, rest, ?_, ?_⟩
      · rw [empty]
        rfl
      · rw [fresh]
        exact Clean.fresh encodable total
    obtain ⟨rested, ended⟩ := streamSamples_waits consumer timeout manager opened receiving periodMs count wait waited
    refine ⟨rested, ?_⟩
    intro overtaking answer later still overtaken arrived
    rw [ended]
    exact waitForResponse_reported still overtaken arrived

end timed

def pingRequest : Frame := ⟨.request, commandPing, supportedFlags, 7, []⟩
def pingAnswer : Frame := pingRequest.answer .response []

/-- A telemetry frame of the device, with the sequence its counter has reached. -/
def sampleFrame (sequence : U32) : Frame :=
  { messageType := .telemetry
    command := commandMachineTelemetry
    flags := supportedFlags
    sequence
    payload := [telemetrySchemaVersion, DeviceState.running.code] ++ putU32Be 0 ++ putU16Be 0 ++ putU16Be 0 ++
      putU16Be 0 ++ putU16Be 0 ++ putU16Be 0 ++ putU16Be 0 }

theorem sampleFrame_telemetry (sequence : U32) : DeviceTelemetry (sampleFrame sequence) := by
  refine ⟨⟨1, 100, 100, 0, sequence, ⟨0, 0, 0, 0, 0, 0⟩⟩, .running, ?_⟩
  rw [telemetryMakeDueFrame, if_neg (show ¬ (1 : U8) = 0 by decide),
    if_neg (show ¬ (100 : U32) < (100 : U16).setWidth 32 by decide)]
  rfl

/-- One sample overtakes the answer, and both come in one receipt. -/
theorem answers_reported_iff_ping :
    tcpExchange ⟨.ok (), .ok (), [.ok (wireStream [sampleFrame 1, pingAnswer])]⟩ pingRequest =
      some (reported pingAnswer) := by
  apply ((answers_reported_iff (1000 : Nat)).1 _ pingRequest [sampleFrame 1] pingAnswer [] rfl
    ⟨?_, .response [] (Nat.zero_le _), ?_⟩ ⟨rfl, rfl, [wireStream [sampleFrame 1, pingAnswer]], [], rfl, ?_, ?_⟩).mpr
  · intro frame member
    rw [List.mem_singleton.mp member]
    decide
  · intro frame member
    rw [List.mem_singleton.mp member]
    exact sampleFrame_telemetry 1
  · intro frame member
    cases member
  · decide
  · rw [List.flatten_singleton]
    exact ⟨List.prefix_rfl, List.prefix_rfl⟩

def enableRequest : Frame := setTelemetryRequest 1 [1, 1, 0, 100]
def disableRequest : Frame := setTelemetryRequest 2 [1, 0, 0, 100]
def enableAnswer : Frame := enableRequest.answer .response [1, 1, 0, 100]
def disableAnswer : Frame := disableRequest.answer .response [1, 0, 0, 100]

/-- The device sends its second sample just before it hears the request to stop. -/
def crossingStream : ByteStream Nat :=
  { clock := List.replicate 12 0
    writes := [.ok (encodeFrame enableRequest).length, .ok (encodeFrame disableRequest).length]
    reads := [.ok enableAnswer.wire, .ok (sampleFrame 1).wire, .ok (sampleFrame 2).wire, .ok disableAnswer.wire]
    parser := incrementalParser
    pending := [] }

def crossingRun : StreamRun Nat := streamSamples (fun _ _ => false) 1000 ⟨1⟩ (.ok ()) crossingStream 100 1

def disableWait : Wait Nat :=
  { request := disableRequest
    stream :=
      { clock := List.replicate 6 0
        writes := []
        reads := [.ok (sampleFrame 2).wire, .ok disableAnswer.wire]
        parser := ⟨[], ⟨2, 0, 0, 0, 0⟩⟩
        pending := [] }
    outcome := some (.error (.protocolClient (.commandMismatch 0x21 0x20))) }

/-- The answer to the second request arrives in time, and the wait for it ends with the second sample. -/
theorem second_sample_ends_wait :
    crossingRun.outcome = some (.error (.guardianCtl (.protocolClient (.commandMismatch 0x21 0x20)))) ∧
      disableWait ∈ crossingRun.waits ∧ Receiving disableWait.stream ([sampleFrame 2] ++ disableAnswer :: []) ∧
      Overtaken disableWait.request [sampleFrame 2] disableAnswer [] ∧
      StreamAnswered 1000 disableWait.stream [sampleFrame 2] disableAnswer ∧
      disableWait.outcome ≠ some (reported disableAnswer) := by
  have run : crossingRun.outcome = some (.error (.guardianCtl (.protocolClient (.commandMismatch 0x21 0x20)))) ∧
      disableWait ∈ crossingRun.waits := by decide +kernel
  have telemetry : ∀ frame ∈ [sampleFrame 2], DeviceTelemetry frame := by
    intro frame member
    rw [List.mem_singleton.mp member]
    exact sampleFrame_telemetry 2
  have overtaken : Overtaken disableRequest [sampleFrame 2] disableAnswer [] :=
    ⟨telemetry, .response [1, 0, 0, 100] (by decide), fun frame member => by cases member⟩
  have carried : (sampleFrame 2).wire ++ disableAnswer.wire = wireStream [sampleFrame 2, disableAnswer] := by
    rw [wireStream_cons, wireStream_cons, wireStream, List.flatMap_nil, List.append_nil]
  refine ⟨run.1, run.2, ⟨[sampleFrame 2, disableAnswer], [], rfl, ?_⟩, overtaken, ?_, ?_⟩
  · refine ⟨overtaken.frames_encodable, ?_, ?_⟩
    · rw [← carried]
      rfl
    · show 0 < (sampleFrame 2).wire.length
      decide
  · refine ⟨0, List.replicate 4 0, [0], [(sampleFrame 2).wire, disableAnswer.wire], [], rfl, ?_, rfl, rfl, ?_⟩
    · intro now member
      rw [List.eq_of_mem_replicate member]
      rfl
    · rw [List.flatten_cons, List.flatten_singleton, carried]
      exact List.prefix_rfl
  · intro same
    exact reported_remote disableAnswer _ (Option.some.inj same).symm

end Guardian.Host
