import Guardian.Host.TelemetryMonitor

namespace Guardian.Host

open Word Guardian.Protocol Guardian.App

def DeviceTelemetry (frame : Frame) : Prop :=
  ∃ telemetry state, (telemetryMakeDueFrame telemetry state).1 = some frame

inductive DeviceAnswer (request : Frame) : Frame → Prop
  | response (payload : List U8) (bounded : payload.length ≤ maxPayloadSize) :
      DeviceAnswer request (request.answer .response payload)
  | error (code : ErrorCode) : DeviceAnswer request (makeError request code)

def reported (answer : Frame) : Except GuardianCtlError Frame :=
  if answer.messageType = .error then .error (.remoteDevice answer.command (answer.payload.getD 0 0)) else .ok answer

/-- The frames still to come: telemetry that overtakes the answer, the answer, and what follows it. -/
structure Overtaken (request : Frame) (overtaking : List Frame) (answer : Frame) (later : List Frame) : Prop where
  telemetry : ∀ frame ∈ overtaking, DeviceTelemetry frame
  answered : DeviceAnswer request answer
  encodable : ∀ frame ∈ later, frame.Encodable

/-- No telemetry that overtakes the answer has the sequence of the request. -/
def Unrelated (request : Frame) (overtaking : List Frame) : Prop :=
  ∀ frame ∈ overtaking, frame.sequence ≠ request.sequence

theorem DeviceTelemetry.kind {frame : Frame} (telemetry : DeviceTelemetry frame) :
    frame.messageType = .telemetry ∧ frame.Encodable := by
  obtain ⟨telemetry, state, due⟩ := telemetry
  exact (telemetryMakeDueFrame_due due).2.2

theorem DeviceAnswer.encodable {request answer : Frame} (answered : DeviceAnswer request answer) :
    answer.Encodable := by
  cases answered with
  | response payload bounded => exact (Frame.answer_answers request bounded).2.2.2
  | error code => exact (makeError_answers request code).2.2.2

theorem DeviceAnswer.sequence {request answer : Frame} (answered : DeviceAnswer request answer) :
    answer.sequence = request.sequence := by
  cases answered <;> rfl

theorem validateCorrelatedResponse_answer {request answer : Frame} (answered : DeviceAnswer request answer) :
    validateCorrelatedResponse request answer = reported answer := by
  cases answered with
  | response payload bounded => simp [validateCorrelatedResponse, reported, Frame.answer]
  | error code => simp [validateCorrelatedResponse, reported, makeError, Frame.answer]

theorem validateCorrelatedResponse_telemetry (request : Frame) {frame : Frame} (telemetry : DeviceTelemetry frame) :
    ∃ failure, validateCorrelatedResponse request frame = .error (.protocolClient failure) := by
  have kind := telemetry.kind.1
  unfold validateCorrelatedResponse
  by_cases command : frame.command ≠ request.command
  · exact ⟨_, if_pos command⟩
  · rw [if_neg command, if_neg (by rw [kind]; exact MessageType.noConfusion), if_pos (by rw [kind]; decide)]
    exact ⟨_, rfl⟩

theorem reported_remote (answer : Frame) (failure : ProtocolClientFailure) :
    reported answer ≠ .error (.protocolClient failure) := by
  unfold reported
  by_cases error : answer.messageType = .error
  · rw [if_pos error]
    intro same
    cases same
  · rw [if_neg error]
    intro same
    cases same

theorem correlate_unrelated {request : Frame} {frames : List Frame} (unrelated : Unrelated request frames)
    (later : List Frame) : correlate request (frames ++ later) = correlate request later := by
  induction frames with
  | nil => rfl
  | cons frame frames ih =>
    rw [List.cons_append, correlate, if_pos (unrelated frame List.mem_cons_self)]
    exact ih (fun other member => unrelated other (List.mem_cons_of_mem _ member))

theorem correlate_first {request first : Frame} {before : List Frame} (unrelated : Unrelated request before)
    (related : first.sequence = request.sequence) (more : List Frame) :
    correlate request (before ++ first :: more) = some (validateCorrelatedResponse request first) := by
  rw [correlate_unrelated unrelated, correlate, if_neg (not_not.mpr related)]

/-- The first frame of the stream with the sequence of the request: the answer, unless telemetry has it. -/
structure FirstRelated (request : Frame) (overtaking : List Frame) (answer : Frame) (later : List Frame)
    (before : List Frame) (first : Frame) (after : List Frame) : Prop where
  split : overtaking ++ answer :: later = before ++ first :: after
  unrelated : Unrelated request before
  related : first.sequence = request.sequence
  sooner : before.length ≤ overtaking.length
  reach : (wireStream later).length ≤ (wireStream after).length
  reported_iff : some (validateCorrelatedResponse request first) = some (reported answer) ↔ Unrelated request overtaking

theorem Overtaken.first {request answer : Frame} {overtaking later : List Frame}
    (overtaken : Overtaken request overtaking answer later) :
    ∃ before first after, FirstRelated request overtaking answer later before first after := by
  obtain ⟨telemetry, answered, _⟩ := overtaken
  induction overtaking with
  | nil =>
    refine ⟨[], answer, later, rfl, ?_, answered.sequence, Nat.le_refl _, Nat.le_refl _, ?_⟩
    · intro frame member
      cases member
    · rw [validateCorrelatedResponse_answer answered]
      exact iff_of_true rfl (fun frame member => by cases member)
  | cons frame overtaking ih =>
    by_cases clash : frame.sequence = request.sequence
    · refine ⟨[], frame, overtaking ++ answer :: later, rfl, ?_, clash, Nat.zero_le _, ?_, ?_⟩
      · intro other member
        cases member
      · rw [wireStream_append, wireStream_cons]
        simp only [List.length_append]
        omega
      · apply iff_of_false
        · obtain ⟨failure, ends⟩ :=
            validateCorrelatedResponse_telemetry request (telemetry frame List.mem_cons_self)
          rw [ends]
          intro same
          exact reported_remote answer failure (Option.some.inj same).symm
        · intro unrelated
          exact unrelated frame List.mem_cons_self clash
    · obtain ⟨before, first, after, found⟩ := ih (fun other member => telemetry other (List.mem_cons_of_mem _ member))
      refine ⟨frame :: before, first, after, ?_, ?_, found.related, ?_, found.reach, ?_⟩
      · rw [List.cons_append, found.split]
        rfl
      · exact List.forall_mem_cons.mpr ⟨clash, found.unrelated⟩
      · exact Nat.succ_le_succ found.sooner
      · rw [found.reported_iff]
        constructor
        · intro unrelated
          exact List.forall_mem_cons.mpr ⟨clash, unrelated⟩
        · intro unrelated other member
          exact unrelated other (List.mem_cons_of_mem _ member)

theorem Overtaken.frames_encodable {request answer : Frame} {overtaking later : List Frame}
    (overtaken : Overtaken request overtaking answer later) :
    ∀ frame ∈ overtaking ++ answer :: later, frame.Encodable := by
  intro frame member
  rcases List.mem_append.mp member with early | late
  · exact (overtaken.telemetry frame early).kind.2
  · rcases List.mem_cons.mp late with rfl | late
    · exact overtaken.answered.encodable
    · exact overtaken.encodable frame late

/-- The bytes that were read: all up to the answer, and perhaps some of what follows it. -/
structure Carried (bytes : List U8) (overtaking : List Frame) (answer : Frame) (later : List Frame) : Prop where
  whole : wireStream (overtaking ++ [answer]) <+: bytes
  intact : bytes <+: wireStream (overtaking ++ answer :: later)

theorem Carried.rest {bytes : List U8} {overtaking later : List Frame} {answer : Frame}
    (carried : Carried bytes overtaking answer later) :
    ∃ rest, bytes ++ rest = wireStream (overtaking ++ answer :: later) ∧
      rest.length ≤ (wireStream later).length := by
  obtain ⟨rest, total⟩ := carried.intact
  refine ⟨rest, total, ?_⟩
  have long := carried.whole.length_le
  have sizes := congrArg List.length total
  simp only [wireStream_append, wireStream_cons, List.length_append] at long sizes
  have nothing : (wireStream ([] : List Frame)).length = 0 := rfl
  omega

/-- A read brings the first related frame, or only frames that the request has nothing to do with. -/
theorem correlate_feed {request first : Frame} {before after : List Frame} {chunk later : List U8}
    {parser : IncrementalParser} (clean : Clean parser (chunk ++ later) (before ++ first :: after))
    (unrelated : Unrelated request before) (related : first.sequence = request.sequence) :
    correlate request (parser.feed chunk).1 = some (validateCorrelatedResponse request first) ∨
      correlate request (parser.feed chunk).1 = none ∧ ∃ missing, Unrelated request missing ∧
        Clean (parser.feed chunk).2 later (missing ++ first :: after) := by
  rcases IncrementalParser.feed_before clean with ⟨more, brought⟩ | ⟨missing, brought, left⟩
  · rw [brought]
    exact Or.inl (correlate_first unrelated related more)
  · have passed : correlate request (parser.feed chunk).1 = none := by
      rw [← List.append_nil (parser.feed chunk).1, correlate_unrelated]
      · rfl
      · intro frame member
        exact unrelated frame (by rw [brought]; exact List.mem_append_left _ member)
    refine Or.inr ⟨passed, missing, ?_, left⟩
    intro frame member
    exact unrelated frame (by rw [brought]; exact List.mem_append_right _ member)

theorem tcpReceive_first {request first : Frame} {before after : List Frame} {chunks : List (List U8)}
    (received : [] ∉ chunks) (receipts : List (Except SocketFault (List U8))) {parser : IncrementalParser}
    {rest : List U8} (clean : Clean parser (chunks.flatten ++ rest) (before ++ first :: after))
    (reach : rest.length ≤ (wireStream after).length) (unrelated : Unrelated request before)
    (related : first.sequence = request.sequence) :
    tcpReceive request (chunks.map .ok ++ receipts) parser = some (validateCorrelatedResponse request first) := by
  induction chunks generalizing before parser with
  | nil =>
    have unread := clean.unread
    rw [List.flatten_nil, List.nil_append] at unread
    omega
  | cons chunk chunks ih =>
    rw [List.mem_cons, not_or] at received
    rw [List.flatten_cons, List.append_assoc] at clean
    rw [List.map_cons, List.cons_append, tcpReceive, if_neg (Ne.symm received.1)]
    dsimp only
    rcases correlate_feed clean unrelated related with brought | ⟨passed, missing, others, left⟩
    · rw [brought]
    · rw [passed]
      exact ih received.2 left others

section timed

variable {τ : Type} [MonotonicTime τ]

theorem serialReceive_first {request first : Frame} {deadline : τ} {before after : List Frame}
    {chunks : List (List U8)} {soon : List τ} (early : ∀ now ∈ soon, MonotonicTime.before now deadline = true)
    (enough : soon.length = chunks.length) (late : List τ) (reads : List (Except SerialFault (List U8)))
    {parser : IncrementalParser} {rest : List U8}
    (clean : Clean parser (chunks.flatten ++ rest) (before ++ first :: after))
    (reach : rest.length ≤ (wireStream after).length) (unrelated : Unrelated request before)
    (related : first.sequence = request.sequence) :
    serialReceive request deadline (soon ++ late) (chunks.map .ok ++ reads) parser =
      some (validateCorrelatedResponse request first) := by
  induction chunks generalizing before parser soon with
  | nil =>
    have unread := clean.unread
    rw [List.flatten_nil, List.nil_append] at unread
    omega
  | cons chunk chunks ih =>
    cases soon with
    | nil => cases enough
    | cons now soon =>
      have rested : soon.length = chunks.length := Nat.succ.inj enough
      have earlier : ∀ now ∈ soon, MonotonicTime.before now deadline = true :=
        fun other member => early other (List.mem_cons_of_mem _ member)
      rw [List.flatten_cons, List.append_assoc] at clean
      rw [List.map_cons, List.cons_append, List.cons_append, serialReceive, if_pos (early now List.mem_cons_self)]
      by_cases empty : chunk = []
      · dsimp only
        rw [if_pos empty]
        rw [empty, List.nil_append] at clean
        exact ih earlier rested clean unrelated
      · dsimp only
        rw [if_neg empty]
        rcases correlate_feed clean unrelated related with brought | ⟨passed, missing, others, left⟩
        · rw [brought]
        · rw [passed]
          exact ih earlier rested left others

end timed

end Guardian.Host
