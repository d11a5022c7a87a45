import Guardian.Protocol.ParserExact

namespace Guardian.Protocol

open Word

inductive ParserOperation
  | pushByte (byte : U8)
  | resetStream

def parserStep (parser : Parser) : ParserOperation → Parser
  | .pushByte byte => (parserPushByte parser byte).2
  | .resetStream => parserReturnToSync parser

def parserReached (operations : List ParserOperation) : Parser := Run.after parserStep operations parserInit

theorem parserReached_holds (operations : List ParserOperation) :
    ∃ candidate, (parserReached operations).Holds candidate := by
  have preserved (parser : Parser) (operation : ParserOperation) (holding : ∃ candidate, parser.Holds candidate) :
      ∃ candidate, (parserStep parser operation).Holds candidate := by
    obtain ⟨candidate, holds⟩ := holding
    cases operation with
    | pushByte byte =>
      obtain ⟨next, pushed, left⟩ := parserPushByte_pushed holds byte
      exact ⟨next, left⟩
    | resetStream => exact ⟨[], parserReturnToSync_holds parser⟩
  exact Run.after_invariant preserved ⟨[], parserInit_holds⟩ operations

/-- The candidate of the parser is delivered, rejected or discarded on the stream, or there is none. -/
inductive Parser.Ended : Parser → List U8 → Prop
  | absent {parser : Parser} {stream : List U8} (none : parser.buffer = []) : Parser.Ended parser stream
  | here {parser : Parser} {byte : U8} {stream : List U8}
      (dropped : (parserPushByte parser byte).2.buffer ≠ parser.buffer ++ [byte]) : Parser.Ended parser (byte :: stream)
  | later {parser : Parser} {byte : U8} {stream : List U8}
      (grown : (parserPushByte parser byte).2.buffer = parser.buffer ++ [byte])
      (ended : (parserPushByte parser byte).2.Ended stream) : Parser.Ended parser (byte :: stream)

theorem Parser.Holds.ends {parser : Parser} {candidate : List U8} (holds : parser.Holds candidate) {stream : List U8}
    (long : maxFrameSize ≤ candidate.length + stream.length) : parser.Ended stream := by
  induction stream generalizing parser candidate with
  | nil =>
    have room := holds.bounds.1
    rw [holds.buffer] at room
    rw [List.length_nil] at long
    omega
  | cons byte stream ih =>
    obtain ⟨next, pushed, left⟩ := parserPushByte_pushed holds byte
    by_cases grown : (parserPushByte parser byte).2.buffer = parser.buffer ++ [byte]
    · apply Parser.Ended.later grown
      apply ih left
      rw [← left.buffer, grown, holds.buffer, List.length_append, List.length_singleton]
      rw [List.length_cons] at long
      omega
    · exact .here grown

/-- The two sync bytes stand next to each other only where an encoding starts. -/
def SyncAtStarts (frames : List Frame) : Prop :=
  ∀ before after, wires frames = before ++ [magic0, magic1] ++ after →
    ∃ early late, frames = early ++ late ∧ before = wires early

/-- The parser looks for a frame, perhaps with a first sync byte. -/
def Parser.Waiting (parser : Parser) : Prop := parser.Holds [] ∨ parser.Holds [magic0]

def Quiet (bytes : List U8) : Prop := ¬ [magic0, magic1] <:+: bytes

theorem Quiet.tail {byte : U8} {bytes : List U8} (quiet : Quiet (byte :: bytes)) : Quiet bytes :=
  fun pair => quiet (pair.trans (List.suffix_cons _ _).isInfix)

theorem Quiet.suffix {left right : List U8} (quiet : Quiet (left ++ right)) : Quiet right :=
  fun pair => quiet (pair.trans (List.suffix_append _ _).isInfix)

theorem wires_nil : wires [] = [] := rfl

theorem wires_cons (frame : Frame) (frames : List Frame) : wires (frame :: frames) = frame.wire ++ wires frames := rfl

theorem wires_append (left right : List Frame) : wires (left ++ right) = wires left ++ wires right :=
  List.flatMap_append

theorem SyncAtStarts.quiet {frames early late : List Frame} {frame : Frame} (starts : SyncAtStarts frames)
    (split : frames = early ++ frame :: late) : Quiet frame.wire.tail := by
  rintro ⟨before, after, pair⟩
  obtain ⟨rest, magic⟩ := frame.wire_magic
  have whole : frame.wire = magic0 :: (before ++ [magic0, magic1] ++ after) := by rw [pair, magic, List.tail_cons]
  have stream : wires frames = (wires early ++ magic0 :: before) ++ [magic0, magic1] ++ (after ++ wires late) := by
    rw [split, wires_append, wires_cons, whole]
    simp only [List.append_assoc, List.cons_append]
  obtain ⟨first, second, cut, same⟩ := starts _ _ stream
  have size := congrArg List.length same
  have length := congrArg List.length whole
  simp only [List.length_append, List.length_cons, List.length_nil] at size length
  -- The start that the pair would be lies strictly inside the frame.
  rcases List.append_eq_append_iff.mp (cut.symm.trans split) with ⟨middle, left, right⟩ | ⟨middle, left, right⟩
  · subst left
    rw [wires_append, List.length_append] at size
    omega
  · subst left
    rw [wires_append, List.length_append] at size
    cases middle with
    | nil =>
      rw [wires_nil, List.length_nil] at size
      omega
    | cons head middle =>
      rw [List.cons_append] at right
      have same := (List.cons.inj right).1
      subst same
      rw [wires_cons, List.length_append] at size
      omega

theorem Parser.Waiting.quiet {parser : Parser} {candidate stream : List U8} (holds : parser.Holds candidate)
    (waiting : candidate = [] ∨ candidate = [magic0]) (quiet : Quiet (candidate ++ stream)) :
    (parser.after stream).Waiting := by
  induction stream generalizing parser candidate with
  | nil =>
    rcases waiting with rfl | rfl
    · exact Or.inl holds
    · exact Or.inr holds
  | cons byte stream ih =>
    obtain ⟨next, pushed, left⟩ := parserPushByte_pushed holds byte
    generalize (parserPushByte parser byte).1 = result at pushed
    rcases waiting with rfl | rfl
    · cases pushed with
      | idles other => exact ih left (Or.inl rfl) quiet.tail
      | begins => exact ih left (Or.inr rfl) quiet
      | collects before | oversized before | delivers before | rejects before => exact absurd before.length (by decide)
    · cases pushed with
      | restarts => exact ih left (Or.inr rfl) quiet.tail
      | synchronises => exact absurd (List.prefix_append _ _).isInfix quiet
      | loses first second => exact ih left (Or.inl rfl) quiet.tail.tail
      | collects before | oversized before | delivers before | rejects before => exact absurd before.length (by decide)

theorem Parser.Waiting.frame {parser : Parser} (waiting : parser.Waiting) {frame : Frame}
    (encodable : frame.Encodable) :
    parser.results frame.wire = frame.results ∧ (parser.after frame.wire).Holds [] := by
  rcases waiting with holds | holds
  · exact Parser.results_frame encodable holds
  · obtain ⟨rest, magic⟩ := frame.wire_magic
    obtain ⟨next, pushed, left⟩ := parserPushByte_pushed holds magic0
    generalize answered : (parserPushByte parser magic0).1 = result at pushed
    cases pushed with
    | restarts =>
      obtain ⟨results, after⟩ := Parser.results_rest encodable left magic (List.cons_ne_nil _ _)
      rw [Frame.results, magic, Parser.results, answered, results]
      exact ⟨rfl, after⟩
    | loses first => exact absurd rfl first
    | collects before | oversized before | delivers before | rejects before => exact absurd before.length (by decide)

theorem Parser.Waiting.wires {parser : Parser} (waiting : parser.Waiting) {frames : List Frame}
    (encodable : ∀ frame ∈ frames, frame.Encodable) :
    parser.results (wires frames) = frames.flatMap Frame.results ∧ (parser.after (wires frames)).Waiting := by
  cases frames with
  | nil => exact ⟨rfl, waiting⟩
  | cons frame frames =>
    obtain ⟨first, left⟩ := waiting.frame (encodable frame List.mem_cons_self)
    obtain ⟨others, after⟩ :=
      Parser.results_wires (fun other member => encodable other (List.mem_cons_of_mem _ member)) left
    rw [wires_cons, Parser.results_append, Parser.after_append, first, others]
    exact ⟨rfl, Or.inl after⟩

theorem Pushed.dropped {candidate next : List U8} {byte : U8} {result : ParserResult}
    (pushed : Pushed candidate byte result next) (dropped : next ≠ candidate ++ [byte]) :
    next = [] ∨ next = [magic0] ∧ byte = magic0 := by
  cases pushed with
  | idles | loses | oversized | delivers | rejects => exact Or.inl rfl
  | restarts => exact Or.inr ⟨rfl, rfl⟩
  | begins | synchronises | collects => exact absurd rfl dropped

/-- In the rest of a frame the candidate ends and the parser waits again, or it takes all of the rest. -/
theorem Parser.Holds.tail {parser : Parser} {candidate sent rest : List U8} (holds : parser.Holds candidate)
    (present : candidate ≠ []) {frame : Frame} (encodable : frame.Encodable) (quiet : Quiet frame.wire.tail)
    (split : frame.wire = sent ++ rest) :
    (parser.after rest).Waiting ∨
      (∃ grown, (parser.after rest).Holds grown ∧ grown ≠ []) ∧
        ∀ stream, parser.Ended (rest ++ stream) → (parser.after rest).Ended stream := by
  induction rest generalizing parser candidate sent with
  | nil => exact Or.inr ⟨⟨candidate, holds, present⟩, fun stream ended => ended⟩
  | cons byte rest ih =>
    have joined : frame.wire = (sent ++ [byte]) ++ rest := by rw [split, List.append_assoc, List.singleton_append]
    obtain ⟨next, pushed, left⟩ := parserPushByte_pushed holds byte
    by_cases grown : next = candidate ++ [byte]
    · have some : next ≠ [] := by
        rw [grown]
        exact List.append_ne_nil_of_right_ne_nil _ (List.cons_ne_nil _ _)
      rcases ih left some joined with waits | ⟨holding, later⟩
      · exact Or.inl waits
      · refine Or.inr ⟨holding, ?_⟩
        intro stream ended
        apply later
        cases ended with
        | absent none => exact absurd (holds.buffer.symm.trans none) present
        | here dropped =>
          rw [left.buffer, holds.buffer] at dropped
          exact absurd grown dropped
        | later _ ended => exact ended
    · left
      change ((parserPushByte parser byte).2.after rest).Waiting
      have waits := pushed.dropped grown
      cases sent with
      | nil =>
        rw [List.nil_append] at split
        rw [split, List.tail_cons] at quiet
        rcases waits with rfl | ⟨rfl, first⟩
        · exact Parser.Waiting.quiet left (Or.inl rfl) quiet
        · -- The dropped candidate makes room for the start of this frame.
          subst first
          by_cases none : rest = []
          · subst none
            exact Or.inr left
          · exact Or.inl (Parser.results_rest encodable left split none).2
      | cons head sent =>
        rw [split, List.cons_append, List.tail_cons] at quiet
        have quiet := quiet.suffix
        rcases waits with rfl | ⟨rfl, first⟩
        · exact Parser.Waiting.quiet left (Or.inl rfl) quiet.tail
        · subst first
          exact Parser.Waiting.quiet left (Or.inr rfl) quiet

theorem Parser.Holds.empty {parser : Parser} {candidate : List U8} (holds : parser.Holds candidate)
    (none : parser.buffer = []) : parser.Waiting := by
  rw [holds.buffer] at none
  subst none
  exact Or.inl holds

theorem Parser.Ended.waits {parser : Parser} {candidate : List U8} (holds : parser.Holds candidate)
    {frames : List Frame} (encodable : ∀ frame ∈ frames, frame.Encodable)
    (quiet : ∀ frame ∈ frames, Quiet frame.wire.tail) (ended : parser.Ended (wires frames)) :
    (parser.after (wires frames)).Waiting := by
  induction frames generalizing parser candidate with
  | nil =>
    cases ended with
    | absent none => exact holds.empty none
  | cons frame frames ih =>
    have others : ∀ other ∈ frames, other.Encodable := fun other member => encodable other (List.mem_cons_of_mem _ member)
    rw [wires_cons] at ended ⊢
    rw [Parser.after_append]
    by_cases none : candidate = []
    · have waiting := holds.empty (holds.buffer.trans none)
      exact (Parser.Waiting.wires (Or.inl (waiting.frame (encodable frame List.mem_cons_self)).2) others).2
    · rcases holds.tail none (encodable frame List.mem_cons_self) (quiet frame List.mem_cons_self)
        (List.nil_append _).symm with waits | ⟨⟨grown, holds, some⟩, later⟩
      · exact (waits.wires others).2
      · exact ih holds others (fun other member => quiet other (List.mem_cons_of_mem _ member)) (later _ ended)

/-- A candidate ends within 272 bytes, and the frames that start after its end are delivered exactly once, in order. -/
theorem parser_resynchronises (operations : List ParserOperation) :
    (∀ stream : List U8, 272 ≤ stream.length → (parserReached operations).Ended (stream.take 272)) ∧
    ∀ early late : List Frame, (∀ frame ∈ early ++ late, frame.Encodable) → SyncAtStarts (early ++ late) →
      (parserReached operations).Ended (wires early) →
        (parserReached operations).results (wires (early ++ late)) =
          (parserReached operations).results (wires early) ++ late.flatMap Frame.results := by
  obtain ⟨candidate, holds⟩ := parserReached_holds operations
  refine ⟨?_, ?_⟩
  · intro stream long
    apply holds.ends
    rw [List.length_take, Nat.min_eq_left long]
    exact Nat.le_add_left _ _
  · intro early late encodable starts ended
    have quiet (frame : Frame) (member : frame ∈ early) : Quiet frame.wire.tail := by
      obtain ⟨before, after, rfl⟩ := List.append_of_mem member
      apply starts.quiet
      exact List.append_assoc _ _ _
    have first (frame : Frame) (member : frame ∈ early) : frame.Encodable :=
      encodable frame (List.mem_append_left _ member)
    have last (frame : Frame) (member : frame ∈ late) : frame.Encodable :=
      encodable frame (List.mem_append_right _ member)
    have waits := ended.waits holds first quiet
    rw [wires_append, Parser.results_append, (waits.wires last).1]

end Guardian.Protocol
