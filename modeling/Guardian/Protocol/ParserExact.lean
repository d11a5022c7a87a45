import Guardian.Protocol.Codec
import Guardian.Protocol.Parser
import Mathlib.Data.List.Induction

namespace Guardian.Protocol

open Word ByteString

def declaredSize (candidate : List U8) : Nat := headerSize + (getU16Be (candidate.drop 10)).toNat + crcSize

def expectedOf (candidate : List U8) : Nat :=
  if candidate.length < headerSize then 0 else declaredSize candidate

def stateOf : List U8 → ParserState
  | [] => .waitMagic0
  | [_] => .waitMagic1
  | _ => .readFrame

structure Synchronised (candidate : List U8) : Prop where
  magic : [magic0, magic1] <+: candidate
  unfinished : candidate.length < headerSize ∨
    candidate.length < declaredSize candidate ∧ declaredSize candidate ≤ maxFrameSize

def Unfinished (candidate : List U8) : Prop :=
  candidate = [] ∨ candidate = [magic0] ∨ Synchronised candidate

structure Parser.Holds (parser : Parser) (candidate : List U8) : Prop where
  state : parser.state = stateOf candidate
  buffer : parser.buffer = candidate
  expected : parser.expectedSize = expectedOf candidate
  unfinished : Unfinished candidate

def rejection (result : ProtocolResult) : ParserResult := if result = .errorCrc then .errorCrc else .errorProtocol

/-- What a byte makes of a candidate, with the result of its push. -/
inductive Pushed : List U8 → U8 → ParserResult → List U8 → Prop
  | idles {byte : U8} (other : byte ≠ magic0) : Pushed [] byte .noFrame []
  | begins : Pushed [] magic0 .noFrame [magic0]
  | restarts : Pushed [magic0] magic0 .noFrame [magic0]
  | synchronises : Pushed [magic0] magic1 .noFrame [magic0, magic1]
  | loses {byte : U8} (first : byte ≠ magic0) (second : byte ≠ magic1) : Pushed [magic0] byte .noFrame []
  | collects {candidate : List U8} {byte : U8} (before : Synchronised candidate)
      (after : Synchronised (candidate ++ [byte])) : Pushed candidate byte .noFrame (candidate ++ [byte])
  | oversized {candidate : List U8} {byte : U8} (before : Synchronised candidate)
      (header : candidate.length + 1 = headerSize) (large : maxFrameSize < declaredSize (candidate ++ [byte])) :
      Pushed candidate byte .errorOversize []
  | delivers {candidate : List U8} {byte : U8} {frame : Frame} (before : Synchronised candidate)
      (long : headerSize ≤ candidate.length) (complete : candidate.length + 1 = declaredSize (candidate ++ [byte]))
      (decoded : protocolDecode (candidate ++ [byte]) = .ok frame) : Pushed candidate byte (.frameReady frame) []
  | rejects {candidate : List U8} {byte : U8} {result : ProtocolResult} (before : Synchronised candidate)
      (long : headerSize ≤ candidate.length) (complete : candidate.length + 1 = declaredSize (candidate ++ [byte]))
      (refused : protocolDecode (candidate ++ [byte]) = .error result) : Pushed candidate byte (rejection result) []

theorem declaredSize_append {left : List U8} (right : List U8) (long : headerSize ≤ left.length) :
    declaredSize (left ++ right) = declaredSize left := by
  unfold headerSize at long
  obtain ⟨m0, m1, version, type, command, flags, s0, s1, s2, s3, high, low, rest, rfl⟩ := header_split long
  rfl

theorem Synchronised.length {candidate : List U8} (synchronised : Synchronised candidate) : 2 ≤ candidate.length :=
  synchronised.magic.length_le

theorem Synchronised.stateOf {candidate : List U8} (synchronised : Synchronised candidate) :
    stateOf candidate = .readFrame := by
  obtain ⟨rest, rfl⟩ := synchronised.magic
  rfl

theorem Synchronised.room {candidate : List U8} (synchronised : Synchronised candidate) :
    candidate.length < maxFrameSize := by
  rcases synchronised.unfinished with short | ⟨within, bounded⟩
  · unfold maxFrameSize
    omega
  · omega

theorem Parser.Holds.synced {parser : Parser} (state : parser.state = .waitMagic0) (buffer : parser.buffer = [])
    (expected : parser.expectedSize = 0) : parser.Holds [] := ⟨state, buffer, expected, Or.inl rfl⟩

theorem parserInit_holds : parserInit.Holds [] := Parser.Holds.synced rfl rfl rfl

theorem parserReturnToSync_holds (parser : Parser) : (parserReturnToSync parser).Holds [] :=
  Parser.Holds.synced rfl rfl rfl

theorem parserFinish_pushed {parser : Parser} {candidate : List U8} {byte : U8} (before : Synchronised candidate)
    (buffer : parser.buffer = candidate ++ [byte]) (expected : parser.expectedSize = declaredSize (candidate ++ [byte]))
    (long : headerSize ≤ candidate.length) (complete : candidate.length + 1 = declaredSize (candidate ++ [byte])) :
    Pushed candidate byte (parserFinish parser).1 [] ∧ (parserFinish parser).2.Holds [] := by
  have whole : parser.buffer.take parser.expectedSize = candidate ++ [byte] := by
    rw [buffer, expected, ← complete]
    exact List.take_of_length_le (by simp)
  unfold parserFinish
  rw [whole]
  cases decoded : protocolDecode (candidate ++ [byte]) with
  | ok frame => exact ⟨.delivers before long complete decoded, .synced rfl rfl rfl⟩
  | error result =>
    have rejected := Pushed.rejects before long complete decoded
    unfold rejection at rejected
    dsimp only
    by_cases corrupt : result = .errorCrc
    · rw [if_pos corrupt] at rejected ⊢
      exact ⟨rejected, .synced rfl rfl rfl⟩
    · rw [if_neg corrupt] at rejected ⊢
      exact ⟨rejected, .synced rfl rfl rfl⟩

theorem parserContinue_collects {parser : Parser} {candidate : List U8} {byte : U8} (before : Synchronised candidate)
    (after : Synchronised (candidate ++ [byte])) (state : parser.state = .readFrame)
    (buffer : parser.buffer = candidate ++ [byte]) (expected : parser.expectedSize = expectedOf (candidate ++ [byte])) :
    Pushed candidate byte (parserContinue parser).1 (candidate ++ [byte]) ∧
      (parserContinue parser).2.Holds (candidate ++ [byte]) := by
  have waiting : parser.expectedSize = 0 ∨ parser.buffer.length < parser.expectedSize := by
    rw [expected, buffer, expectedOf]
    by_cases short : (candidate ++ [byte]).length < headerSize
    · exact Or.inl (if_pos short)
    · rw [if_neg short]
      exact Or.inr (after.unfinished.resolve_left short).1
  rw [parserContinue, if_pos waiting]
  exact ⟨.collects before after, state.trans after.stateOf.symm, buffer, expected, Or.inr (Or.inr after)⟩

theorem parserContinue_finishes {parser : Parser} {candidate : List U8} {byte : U8} (before : Synchronised candidate)
    (buffer : parser.buffer = candidate ++ [byte]) (expected : parser.expectedSize = declaredSize (candidate ++ [byte]))
    (long : headerSize ≤ candidate.length) (complete : candidate.length + 1 = declaredSize (candidate ++ [byte])) :
    Pushed candidate byte (parserContinue parser).1 [] ∧ (parserContinue parser).2.Holds [] := by
  have full : ¬ (parser.expectedSize = 0 ∨ parser.buffer.length < parser.expectedSize) := by
    rw [expected, buffer, ← complete, List.length_append, List.length_singleton]
    omega
  rw [parserContinue, if_neg full]
  exact parserFinish_pushed before buffer expected long complete

/-- A push in the frame takes its byte, and ends the candidate when it is complete or declared too large. -/
theorem parserPushByte_reads {parser : Parser} {candidate : List U8} (holds : parser.Holds candidate)
    (synchronised : Synchronised candidate) (byte : U8) :
    ∃ next, Pushed candidate byte (parserPushByte parser byte).1 next ∧ (parserPushByte parser byte).2.Holds next := by
  have state : parser.state = .readFrame := holds.state.trans synchronised.stateOf
  have room : ¬ parser.buffer.length ≥ maxFrameSize := by
    have room := synchronised.room
    rw [holds.buffer]
    omega
  have magic : [magic0, magic1] <+: candidate ++ [byte] := synchronised.magic.trans (List.prefix_append _ _)
  have length : (candidate ++ [byte]).length = candidate.length + 1 := by
    rw [List.length_append, List.length_singleton]
  rw [parserPushByte, state]
  dsimp only
  rw [if_neg room, holds.buffer]
  by_cases header : (candidate ++ [byte]).length = headerSize
  · rw [if_pos header]
    by_cases large : (getU16Be ((candidate ++ [byte]).drop 10)).toNat > maxPayloadSize
    · rw [if_pos large]
      refine ⟨[], .oversized synchronised (by omega) ?_, parserReturnToSync_holds _⟩
      unfold maxFrameSize declaredSize
      omega
    · rw [if_neg large]
      have after : Synchronised (candidate ++ [byte]) := by
        refine ⟨magic, Or.inr ⟨?_, ?_⟩⟩
        · rw [header, declaredSize, crcSize]
          omega
        · unfold maxFrameSize declaredSize
          omega
      refine ⟨_, parserContinue_collects synchronised after rfl rfl ?_⟩
      rw [expectedOf, if_neg (by omega), declaredSize]
  · rw [if_neg header]
    by_cases short : candidate.length < headerSize
    · have after : Synchronised (candidate ++ [byte]) := ⟨magic, Or.inl (by omega)⟩
      refine ⟨_, parserContinue_collects synchronised after rfl rfl ?_⟩
      change parser.expectedSize = _
      rw [holds.expected, expectedOf, expectedOf, if_pos short, if_pos (by omega)]
    · obtain ⟨within, bounded⟩ := synchronised.unfinished.resolve_left short
      have long : headerSize ≤ candidate.length := by omega
      have same := declaredSize_append [byte] long
      have expected : parser.expectedSize = declaredSize (candidate ++ [byte]) := by
        rw [holds.expected, expectedOf, if_neg (by omega), same]
      by_cases complete : candidate.length + 1 = declaredSize candidate
      · exact ⟨[], parserContinue_finishes synchronised rfl expected long (complete.trans same.symm)⟩
      · have after : Synchronised (candidate ++ [byte]) := ⟨magic, Or.inr (by rw [same, length]; omega)⟩
        refine ⟨_, parserContinue_collects synchronised after rfl rfl ?_⟩
        rw [expectedOf, if_neg (by omega)]
        exact expected

theorem parserPushByte_pushed {parser : Parser} {candidate : List U8} (holds : parser.Holds candidate) (byte : U8) :
    ∃ next, Pushed candidate byte (parserPushByte parser byte).1 next ∧ (parserPushByte parser byte).2.Holds next := by
  rcases holds.unfinished with rfl | rfl | synchronised
  · have state : parser.state = .waitMagic0 := holds.state
    rw [parserPushByte, state]
    by_cases first : byte = magic0
    · subst first
      exact ⟨_, .begins, rfl, rfl, holds.expected, Or.inr (Or.inl rfl)⟩
    · dsimp only
      rw [if_neg first]
      exact ⟨_, .idles first, holds⟩
  · have state : parser.state = .waitMagic1 := holds.state
    rw [parserPushByte, state, holds.buffer]
    dsimp only
    by_cases second : byte = magic1
    · subst second
      rw [if_pos rfl]
      have after : Synchronised [magic0, magic1] := ⟨List.prefix_rfl, Or.inl (by decide)⟩
      exact ⟨_, .synchronises, rfl, rfl, holds.expected, Or.inr (Or.inr after)⟩
    · rw [if_neg second]
      by_cases first : byte = magic0
      · subst first
        rw [if_pos rfl]
        exact ⟨_, .restarts, rfl, rfl, holds.expected, Or.inr (Or.inl rfl)⟩
      · rw [if_neg first]
        exact ⟨_, .loses first second, parserReturnToSync_holds _⟩
  · exact parserPushByte_reads holds synchronised byte

theorem Pushed.suffix {candidate next stream : List U8} {byte : U8} {result : ParserResult}
    (pushed : Pushed candidate byte result next) (fed : candidate <:+ stream) : next <:+ stream ++ [byte] := by
  have grown : candidate ++ [byte] <:+ stream ++ [byte] := by
    obtain ⟨before, rfl⟩ := fed
    exact ⟨before, (List.append_assoc _ _ _).symm⟩
  cases pushed with
  | idles | loses | oversized | delivers | rejects => exact List.nil_suffix
  | begins | restarts => exact List.suffix_append _ _
  | synchronises => exact grown
  | collects => exact grown

theorem Parser.holds_suffix (stream : List U8) : ∃ candidate, (parserInit.after stream).Holds candidate ∧ candidate <:+ stream := by
  induction stream using List.reverseRecOn with
  | nil => exact ⟨[], parserInit_holds, List.suffix_rfl⟩
  | append_singleton stream byte ih =>
    obtain ⟨candidate, holds, fed⟩ := ih
    obtain ⟨next, pushed, left⟩ := parserPushByte_pushed holds byte
    refine ⟨next, ?_, pushed.suffix fed⟩
    rw [Parser.after, Run.after_snoc]
    exact left

theorem Parser.Holds.bounds {parser : Parser} {candidate : List U8} (holds : parser.Holds candidate) :
    parser.buffer.length < maxFrameSize ∧
      (parser.expectedSize = 0 ∨ 16 ≤ parser.expectedSize ∧ parser.expectedSize ≤ maxFrameSize) := by
  rw [holds.buffer, holds.expected]
  rcases holds.unfinished with rfl | rfl | synchronised
  · exact ⟨by decide, Or.inl rfl⟩
  · exact ⟨by decide, Or.inl rfl⟩
  · refine ⟨synchronised.room, ?_⟩
    rw [expectedOf]
    by_cases short : candidate.length < headerSize
    · exact Or.inl (if_pos short)
    · rw [if_neg short]
      refine Or.inr ⟨?_, (synchronised.unfinished.resolve_left short).2⟩
      unfold declaredSize headerSize crcSize
      omega

def Parser.results (parser : Parser) : List U8 → List ParserResult
  | [] => []
  | byte :: stream => (parserPushByte parser byte).1 :: (parserPushByte parser byte).2.results stream

theorem Parser.results_append (parser : Parser) (left right : List U8) :
    parser.results (left ++ right) = parser.results left ++ (parser.after left).results right := by
  induction left generalizing parser with
  | nil => rfl
  | cons byte left ih =>
    rw [List.cons_append, Parser.results, Parser.results, ih]
    rfl

theorem Parser.after_append (parser : Parser) (left right : List U8) :
    parser.after (left ++ right) = (parser.after left).after right := Run.after_append _ _ _ _

theorem Parser.delivered_results (parser : Parser) (stream : List U8) :
    parser.delivered stream = (parser.results stream).filterMap ParserResult.frame? := by
  induction stream generalizing parser with
  | nil => rfl
  | cons byte stream ih =>
    rw [Parser.delivered, Parser.results, List.filterMap_cons, ih]
    cases (parserPushByte parser byte).1.frame? <;> rfl

/-- The results of the pushes of a frame that is delivered with its last byte. -/
def Frame.results (frame : Frame) : List ParserResult :=
  List.replicate (frame.wire.length - 1) .noFrame ++ [.frameReady frame]

theorem Frame.declaredSize_wire {frame : Frame} (encodable : frame.Encodable) :
    declaredSize frame.wire = frame.wire.length := by
  rw [declaredSize, frame.wire_payloadLength encodable, frame.wire_length]

theorem Frame.wire_size {frame : Frame} (encodable : frame.Encodable) :
    headerSize + crcSize ≤ frame.wire.length ∧ frame.wire.length ≤ maxFrameSize := by
  have bounded := encodable.2
  rw [frame.wire_length]
  unfold maxFrameSize
  omega

theorem Frame.wire_magic (frame : Frame) : ∃ rest, frame.wire = magic0 :: magic1 :: rest := ⟨_, rfl⟩

theorem Frame.declaredSize_part {frame : Frame} (encodable : frame.Encodable) {sent rest : List U8}
    (split : frame.wire = sent ++ rest) (long : headerSize ≤ sent.length) : declaredSize sent = frame.wire.length := by
  rw [← declaredSize_append rest long, ← split, frame.declaredSize_wire encodable]

/-- A byte of a frame is collected with the bytes before it, and the last one delivers the frame. -/
theorem Pushed.of_frame {frame : Frame} (encodable : frame.Encodable) {sent rest next : List U8} {byte : U8}
    {result : ParserResult} (split : frame.wire = sent ++ byte :: rest) (pushed : Pushed sent byte result next) :
    (rest ≠ [] ∧ result = .noFrame ∧ next = sent ++ [byte]) ∨ (rest = [] ∧ result = .frameReady frame ∧ next = []) := by
  obtain ⟨small, large⟩ := frame.wire_size encodable
  obtain ⟨tail, magic⟩ := frame.wire_magic
  have joined : frame.wire = (sent ++ [byte]) ++ rest := by rw [split, List.append_assoc, List.singleton_append]
  have size : frame.wire.length = sent.length + 1 + rest.length := by
    rw [joined, List.length_append, List.length_append, List.length_singleton]
  have length : (sent ++ [byte]).length = sent.length + 1 := by rw [List.length_append, List.length_singleton]
  have declared (long : headerSize ≤ sent.length + 1) : declaredSize (sent ++ [byte]) = frame.wire.length :=
    frame.declaredSize_part encodable joined (by omega)
  -- The last byte completes the declared size.
  have last (long : headerSize ≤ sent.length) (complete : sent.length + 1 = declaredSize (sent ++ [byte])) :
      rest = [] ∧ protocolDecode (sent ++ [byte]) = .ok frame := by
    have none : rest = [] := by
      apply List.length_eq_zero_iff.mp
      have := declared (by omega)
      omega
    subst none
    rw [List.append_nil] at joined
    exact ⟨rfl, by rw [← joined, protocolDecode_wire encodable]⟩
  unfold headerSize crcSize at small
  cases pushed with
  | idles other =>
    rw [split, List.nil_append] at magic
    exact absurd (List.cons.inj magic).1 other
  | begins => exact Or.inl ⟨by rintro rfl; simp at size; omega, rfl, rfl⟩
  | restarts =>
    rw [split] at magic
    exact absurd (List.cons.inj (List.cons.inj magic).2).1 (by decide)
  | synchronises => exact Or.inl ⟨by rintro rfl; simp at size; omega, rfl, rfl⟩
  | loses first second =>
    rw [split] at magic
    exact absurd (List.cons.inj (List.cons.inj magic).2).1 second
  | collects before after =>
    refine Or.inl ⟨?_, rfl, rfl⟩
    rintro rfl
    rw [List.length_nil] at size
    rcases after.unfinished with short | ⟨within, bounded⟩
    · unfold headerSize at short
      omega
    · rw [declared (by unfold headerSize; omega)] at within
      omega
  | oversized before header excessive =>
    rw [declared (by omega)] at excessive
    omega
  | delivers before long complete decoded =>
    obtain ⟨none, same⟩ := last long complete
    rw [same] at decoded
    cases decoded
    exact Or.inr ⟨none, rfl, rfl⟩
  | rejects before long complete refused =>
    rw [(last long complete).2] at refused
    cases refused

theorem Parser.results_rest {frame : Frame} (encodable : frame.Encodable) {sent rest : List U8} {parser : Parser}
    (holds : parser.Holds sent) (split : frame.wire = sent ++ rest) (remains : rest ≠ []) :
    parser.results rest = List.replicate (rest.length - 1) .noFrame ++ [.frameReady frame] ∧
      (parser.after rest).Holds [] := by
  induction rest generalizing sent parser with
  | nil => exact absurd rfl remains
  | cons byte rest ih =>
    obtain ⟨next, pushed, left⟩ := parserPushByte_pushed holds byte
    rcases pushed.of_frame encodable split with ⟨more, result, grown⟩ | ⟨none, result, ended⟩
    · subst grown
      obtain ⟨results, after⟩ := ih left (by rw [split, List.append_assoc, List.singleton_append]) more
      have positive : rest.length = rest.length - 1 + 1 := by
        have := List.length_pos_of_ne_nil more
        omega
      refine ⟨?_, after⟩
      rw [Parser.results, result, results, List.length_cons, Nat.add_sub_cancel, positive, List.replicate_succ,
        Nat.add_sub_cancel]
      rfl
    · subst none ended
      exact ⟨by rw [Parser.results, result]; rfl, left⟩

def wires (frames : List Frame) : List U8 := frames.flatMap Frame.wire

theorem Parser.results_frame {frame : Frame} (encodable : frame.Encodable) {parser : Parser} (holds : parser.Holds []) :
    parser.results frame.wire = frame.results ∧ (parser.after frame.wire).Holds [] := by
  have remains : frame.wire ≠ [] := by
    intro none
    have size := (frame.wire_size encodable).1
    rw [none] at size
    exact absurd size (by decide)
  exact Parser.results_rest encodable holds (List.nil_append frame.wire).symm remains

theorem Parser.results_wires {frames : List Frame} (encodable : ∀ frame ∈ frames, frame.Encodable) {parser : Parser}
    (holds : parser.Holds []) :
    parser.results (wires frames) = frames.flatMap Frame.results ∧ (parser.after (wires frames)).Holds [] := by
  induction frames generalizing parser with
  | nil => exact ⟨rfl, holds⟩
  | cons frame frames ih =>
    obtain ⟨first, left⟩ := Parser.results_frame (encodable frame List.mem_cons_self) holds
    obtain ⟨others, after⟩ := ih (fun other member => encodable other (List.mem_cons_of_mem _ member)) left
    rw [wires, List.flatMap_cons, List.flatMap_cons, Parser.results_append, Parser.after_append, first]
    exact ⟨by rw [← others]; rfl, after⟩

theorem Parser.delivers_suffix {stream : List U8} {byte : U8} {frame : Frame}
    (ready : (parserPushByte (parserInit.after stream) byte).1 = .frameReady frame) :
    frame.Encodable ∧ frame.wire <:+ stream ++ [byte] := by
  obtain ⟨candidate, holds, before, rfl⟩ := Parser.holds_suffix stream
  obtain ⟨next, pushed, left⟩ := parserPushByte_pushed holds byte
  generalize (parserPushByte (parserInit.after (before ++ candidate)) byte).1 = result at ready pushed
  cases pushed with
  | delivers synchronised long complete decoded =>
    cases ready
    obtain ⟨encodable, wire⟩ := protocolDecode_ok decoded
    rw [wire, List.append_assoc]
    exact ⟨encodable, List.suffix_append _ _⟩
  | @rejects _ _ result =>
    unfold rejection at ready
    by_cases corrupt : result = .errorCrc
    · rw [if_pos corrupt] at ready
      cases ready
    · rw [if_neg corrupt] at ready
      cases ready
  | idles | begins | restarts | synchronises | loses | collects | oversized => cases ready

end Guardian.Protocol
