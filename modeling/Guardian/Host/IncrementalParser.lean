import Guardian.Host.FrameCodec

namespace Guardian.Host

open Word Guardian.Protocol

structure ParserStats where
  framesReceived : Nat
  crcErrors : Nat
  oversizeErrors : Nat
  protocolErrors : Nat
  discardedBytes : Nat
  deriving DecidableEq, Repr

structure IncrementalParser where
  buffer : List U8
  stats : ParserStats
  deriving DecidableEq, Repr

def incrementalParser : IncrementalParser := ⟨[], ⟨0, 0, 0, 0, 0⟩⟩

/-- `buffer.find(MAGIC)`. -/
def findMagic : List U8 → Option Nat
  | first :: second :: rest =>
    if first = magic0 ∧ second = magic1 then some 0 else (findMagic (second :: rest)).map (· + 1)
  | _ => none

/-- How one turn of the loop in `feed` ends: it stops for more bytes, drops a candidate, or takes a frame. -/
inductive Scanned
  | waiting (parser : IncrementalParser)
  | dropped (parser : IncrementalParser)
  | framed (frame : Frame) (parser : IncrementalParser)

def IncrementalParser.scan (parser : IncrementalParser) : Scanned :=
  match findMagic parser.buffer with
  | none =>
    let kept := if parser.buffer.getLast? = some magic0 then [magic0] else []
    let discarded := parser.stats.discardedBytes + (parser.buffer.length - kept.length)
    .waiting ⟨kept, { parser.stats with discardedBytes := discarded }⟩
  | some magicIndex =>
    let stats := { parser.stats with discardedBytes := parser.stats.discardedBytes + magicIndex }
    let buffer := parser.buffer.drop magicIndex
    if buffer.length < headerSize then .waiting ⟨buffer, stats⟩
    else
      let payloadLength := (getU16Be (buffer.drop 10)).toNat
      if payloadLength > maxPayloadSize then
        .dropped ⟨buffer.drop 1, { stats with oversizeErrors := stats.oversizeErrors + 1 }⟩
      else
        let expectedSize := headerSize + payloadLength + crcSize
        if buffer.length < expectedSize then .waiting ⟨buffer, stats⟩
        else
          let remaining := buffer.drop expectedSize
          match decodeFrame (buffer.take expectedSize) with
          | .error (.crcMismatch _ _) => .dropped ⟨remaining, { stats with crcErrors := stats.crcErrors + 1 }⟩
          | .error _ => .dropped ⟨remaining, { stats with protocolErrors := stats.protocolErrors + 1 }⟩
          | .ok frame => .framed frame ⟨remaining, { stats with framesReceived := stats.framesReceived + 1 }⟩

/-- The loop of `feed`. Each turn but the last takes at least one byte off the buffer. -/
def IncrementalParser.drain : Nat → IncrementalParser → List Frame × IncrementalParser
  | 0, parser => ([], parser)
  | fuel + 1, parser =>
    if parser.buffer = [] then ([], parser)
    else match parser.scan with
      | .waiting parser => ([], parser)
      | .dropped parser => parser.drain fuel
      | .framed frame parser =>
        let later := parser.drain fuel
        (frame :: later.1, later.2)

def IncrementalParser.feed (parser : IncrementalParser) (data : List U8) : List Frame × IncrementalParser :=
  let buffer := parser.buffer ++ data
  IncrementalParser.drain buffer.length { parser with buffer }

theorem findMagic_le {buffer : List U8} {index : Nat} (found : findMagic buffer = some index) :
    index + 2 ≤ buffer.length := by
  induction buffer generalizing index with
  | nil => cases found
  | cons first rest ih =>
    cases rest with
    | nil => cases found
    | cons second rest =>
      rw [findMagic] at found
      by_cases here : first = magic0 ∧ second = magic1
      · rw [if_pos here] at found
        cases found
        simp only [List.length_cons]
        omega
      · rw [if_neg here] at found
        obtain ⟨later, foundLater, rfl⟩ := Option.map_eq_some_iff.mp found
        have bound := ih foundLater
        simp only [List.length_cons] at bound ⊢
        omega

theorem IncrementalParser.scan_shorter (parser : IncrementalParser) :
    (∃ later, parser.scan = .waiting later) ∨
    ∃ later, later.buffer.length < parser.buffer.length ∧
      (parser.scan = .dropped later ∨ ∃ frame, parser.scan = .framed frame later) := by
  unfold IncrementalParser.scan
  cases found : findMagic parser.buffer with
  | none => exact Or.inl ⟨_, rfl⟩
  | some index =>
    have bound := findMagic_le found
    dsimp only
    generalize buffered : parser.buffer.drop index = buffer
    have size : buffer.length = parser.buffer.length - index := by rw [← buffered, List.length_drop]
    by_cases header : buffer.length < headerSize
    · rw [if_pos header]
      exact Or.inl ⟨_, rfl⟩
    rw [if_neg header]
    unfold headerSize at header
    by_cases large : (getU16Be (buffer.drop 10)).toNat > maxPayloadSize
    · rw [if_pos large]
      refine Or.inr ⟨_, ?_, Or.inl rfl⟩
      show (buffer.drop 1).length < parser.buffer.length
      rw [List.length_drop]
      omega
    rw [if_neg large]
    generalize expected : headerSize + (getU16Be (buffer.drop 10)).toNat + crcSize = expectedSize
    have some_bytes : 0 < expectedSize := by
      unfold headerSize at expected
      omega
    by_cases incomplete : buffer.length < expectedSize
    · rw [if_pos incomplete]
      exact Or.inl ⟨_, rfl⟩
    rw [if_neg incomplete]
    have shorter : (buffer.drop expectedSize).length < parser.buffer.length := by
      rw [List.length_drop]
      omega
    cases decodeFrame (buffer.take expectedSize) with
    | ok frame => exact Or.inr ⟨_, shorter, Or.inr ⟨frame, rfl⟩⟩
    | error failure =>
      cases failure
      all_goals exact Or.inr ⟨_, shorter, Or.inl rfl⟩

theorem IncrementalParser.drain_empty {parser : IncrementalParser} (empty : parser.buffer = []) (fuel : Nat) :
    parser.drain fuel = ([], parser) := by
  cases fuel with
  | zero => rfl
  | succ fuel => rw [drain, if_pos empty]

theorem IncrementalParser.drain_fuel {parser : IncrementalParser} {left right : Nat}
    (leftEnough : parser.buffer.length ≤ left) (rightEnough : parser.buffer.length ≤ right) :
    parser.drain left = parser.drain right := by
  induction left generalizing parser right with
  | zero =>
    have empty := List.length_eq_zero_iff.mp (Nat.le_zero.mp leftEnough)
    rw [drain_empty empty, drain_empty empty]
  | succ left ih =>
    cases right with
    | zero =>
      have empty := List.length_eq_zero_iff.mp (Nat.le_zero.mp rightEnough)
      rw [drain_empty empty, drain_empty empty]
    | succ right =>
      rw [drain, drain]
      by_cases empty : parser.buffer = []
      · rw [if_pos empty, if_pos empty]
      rw [if_neg empty, if_neg empty]
      rcases parser.scan_shorter with ⟨later, stops⟩ | ⟨later, shorter, drops | ⟨frame, frames⟩⟩
      · rw [stops]
      · rw [drops]
        exact ih (by omega) (by omega)
      · rw [frames]
        dsimp only
        rw [@ih later right (by omega) (by omega)]

def wireStream (frames : List Frame) : List U8 := frames.flatMap Frame.wire

def Incomplete (buffer : List U8) : List Frame → Prop
  | [] => buffer = []
  | frame :: _ => buffer.length < frame.wire.length

theorem wire_magic (frame : Frame) : ∃ tail, frame.wire = magic0 :: magic1 :: tail := ⟨_, rfl⟩

theorem findMagic_start (rest : List U8) : findMagic (magic0 :: magic1 :: rest) = some 0 := by
  rw [findMagic, if_pos ⟨rfl, rfl⟩]

theorem IncrementalParser.scan_frame {parser : IncrementalParser} {frame : Frame} {later : List U8}
    (encodable : frame.Encodable) (buffered : parser.buffer = frame.wire ++ later) :
    ∃ stats, parser.scan = .framed frame ⟨later, stats⟩ := by
  obtain ⟨tail, starts⟩ := wire_magic frame
  have long := frame.wire_length
  have bounded := encodable.2
  have first : findMagic parser.buffer = some 0 := by
    rw [buffered, starts]
    exact findMagic_start _
  have declared : (getU16Be ((frame.wire ++ later).drop 10)).toNat = frame.payload.length := by
    have field : (frame.wire ++ later).drop 10 = putU16Be frame.payloadLength ++
        (frame.payload ++ putU32Be (crc32 frame.body) ++ later) := rfl
    have same : frame.wire.drop 10 = putU16Be frame.payloadLength ++
        (frame.payload ++ putU32Be (crc32 frame.body)) := rfl
    have sent := frame.wire_payloadLength encodable
    rw [same, getU16Be_put] at sent
    rw [field, getU16Be_put, sent]
  unfold IncrementalParser.scan
  rw [first]
  dsimp only
  rw [List.drop_zero, buffered, declared, if_neg (by rw [List.length_append]; omega), if_neg (by omega), ← long,
    if_neg (by rw [List.length_append]; omega), List.take_left, List.drop_left, decodeFrame_wire encodable]
  exact ⟨_, rfl⟩

theorem IncrementalParser.scan_partial {parser : IncrementalParser} {frame : Frame} {missing : List U8}
    (encodable : frame.Encodable) (buffered : parser.buffer ++ missing = frame.wire) (some_bytes : parser.buffer ≠ [])
    (incomplete : parser.buffer.length < frame.wire.length) :
    ∃ stats, parser.scan = .waiting ⟨parser.buffer, stats⟩ := by
  obtain ⟨tail, starts⟩ := wire_magic frame
  have long := frame.wire_length
  have bounded := encodable.2
  unfold IncrementalParser.scan
  generalize parser.buffer = buffer at *
  match buffer, some_bytes with
  | [first], _ =>
    rw [starts] at buffered
    cases buffered
    exact ⟨_, rfl⟩
  | first :: second :: rest, _ =>
    have magic : findMagic (first :: second :: rest) = some 0 := by
      rw [starts] at buffered
      cases buffered
      exact findMagic_start _
    rw [magic]
    dsimp only
    rw [List.drop_zero]
    by_cases header : (first :: second :: rest).length < headerSize
    · rw [if_pos header]
      exact ⟨_, rfl⟩
    · have declared : (getU16Be ((first :: second :: rest).drop 10)).toNat = frame.payload.length := by
        have sent := frame.wire_payloadLength encodable
        rw [← buffered] at sent
        obtain ⟨m0, m1, version, type, command, flags, s0, s1, s2, s3, high, low, tail, split⟩ :=
          header_split (Nat.le_of_not_lt header)
        rw [split] at sent ⊢
        exact sent
      rw [if_neg header, declared, if_neg (by omega), ← long, if_pos incomplete]
      exact ⟨_, rfl⟩

theorem IncrementalParser.drain_clean {frames : List Frame} (encodable : ∀ frame ∈ frames, frame.Encodable)
    {parser : IncrementalParser} {rest : List U8} (stream : parser.buffer ++ rest = wireStream frames) {fuel : Nat}
    (enough : parser.buffer.length ≤ fuel) :
    ∃ remaining, frames = (parser.drain fuel).1 ++ remaining ∧
      (parser.drain fuel).2.buffer ++ rest = wireStream remaining ∧
      Incomplete (parser.drain fuel).2.buffer remaining := by
  induction frames generalizing parser fuel with
  | nil =>
    have empty := (List.append_eq_nil_iff.mp stream).1
    rw [drain_empty empty]
    exact ⟨[], rfl, stream, empty⟩
  | cons frame frames ih =>
    have sendable := encodable frame List.mem_cons_self
    have stream' : parser.buffer ++ rest = frame.wire ++ wireStream frames := stream
    by_cases empty : parser.buffer = []
    · rw [drain_empty empty]
      refine ⟨frame :: frames, rfl, stream, ?_⟩
      rw [empty]
      show 0 < frame.wire.length
      rw [frame.wire_length]
      exact Nat.lt_of_lt_of_le (by decide) (Nat.le_add_left crcSize _)
    · have shorter : 0 < parser.buffer.length := List.length_pos_iff.mpr empty
      obtain ⟨fuel, rfl⟩ : ∃ less, fuel = less + 1 := ⟨fuel - 1, by omega⟩
      rw [drain, if_neg empty]
      by_cases incomplete : parser.buffer.length < frame.wire.length
      · have cut : parser.buffer ++ frame.wire.drop parser.buffer.length = frame.wire := by
          have starts : frame.wire.take parser.buffer.length = parser.buffer := by
            rw [← List.take_append_of_le_length (Nat.le_of_lt incomplete), ← stream', List.take_left]
          rw [← starts, List.length_take, Nat.min_eq_left (Nat.le_of_lt incomplete), List.take_append_drop]
        obtain ⟨stats, waits⟩ := scan_partial sendable cut empty incomplete
        rw [waits]
        exact ⟨frame :: frames, rfl, stream, incomplete⟩
      · have whole : parser.buffer = frame.wire ++ parser.buffer.drop frame.wire.length := by
          have starts : parser.buffer.take frame.wire.length = frame.wire := by
            rw [← List.take_append_of_le_length (Nat.le_of_not_lt incomplete), stream', List.take_left]
          rw [← starts, List.length_take, Nat.min_eq_left (Nat.le_of_not_lt incomplete), List.take_append_drop]
        have after : parser.buffer.drop frame.wire.length ++ rest = wireStream frames := by
          rw [whole, List.append_assoc] at stream'
          exact List.append_cancel_left stream'
        obtain ⟨stats, takes⟩ := scan_frame sendable whole
        rw [takes]
        have less : (parser.buffer.drop frame.wire.length).length ≤ fuel := by
          have long := frame.wire_length
          unfold headerSize at long
          rw [List.length_drop]
          omega
        obtain ⟨remaining, split, left, short⟩ :=
          @ih (fun later member => encodable later (List.mem_cons_of_mem _ member))
            ⟨parser.buffer.drop frame.wire.length, stats⟩ after fuel less
        refine ⟨remaining, ?_, left, short⟩
        rw [split]
        rfl

@[simp] theorem wireStream_append (left right : List Frame) :
    wireStream (left ++ right) = wireStream left ++ wireStream right := List.flatMap_append

@[simp] theorem wireStream_cons (frame : Frame) (frames : List Frame) :
    wireStream (frame :: frames) = frame.wire ++ wireStream frames := rfl

/-- With `rest`, what the parser holds makes the frames, none of which it holds in whole. -/
structure Clean (parser : IncrementalParser) (rest : List U8) (frames : List Frame) : Prop where
  encodable : ∀ frame ∈ frames, frame.Encodable
  stream : parser.buffer ++ rest = wireStream frames
  incomplete : Incomplete parser.buffer frames

theorem Clean.fresh {rest : List U8} {frames : List Frame} (encodable : ∀ frame ∈ frames, frame.Encodable)
    (stream : rest = wireStream frames) : Clean incrementalParser rest frames := by
  refine ⟨encodable, stream, ?_⟩
  cases frames with
  | nil => rfl
  | cons frame frames =>
    show 0 < frame.wire.length
    rw [frame.wire_length]
    exact Nat.lt_of_lt_of_le (by decide) (Nat.le_add_left crcSize _)

theorem Clean.unread {parser : IncrementalParser} {rest : List U8} {before after : List Frame} {first : Frame}
    (clean : Clean parser rest (before ++ first :: after)) : (wireStream after).length < rest.length := by
  have total := congrArg List.length clean.stream
  have short := clean.incomplete
  cases before with
  | nil =>
    have held : parser.buffer.length < first.wire.length := short
    rw [List.nil_append, wireStream_cons, List.length_append, List.length_append] at total
    omega
  | cons frame before =>
    have held : parser.buffer.length < frame.wire.length := short
    rw [List.cons_append, wireStream_cons, wireStream_append, wireStream_cons] at total
    simp only [List.length_append] at total
    omega

theorem IncrementalParser.feed_clean {parser : IncrementalParser} {data rest : List U8} {frames : List Frame}
    (clean : Clean parser (data ++ rest) frames) :
    ∃ remaining, frames = (parser.feed data).1 ++ remaining ∧ Clean (parser.feed data).2 rest remaining := by
  have stream : ({ parser with buffer := parser.buffer ++ data } : IncrementalParser).buffer ++ rest =
      wireStream frames := by
    rw [← clean.stream, List.append_assoc]
  obtain ⟨remaining, split, left, short⟩ := drain_clean clean.encodable stream (Nat.le_refl _)
  refine ⟨remaining, split, ?_, left, short⟩
  intro frame member
  apply clean.encodable
  rw [split]
  exact List.mem_append_right _ member

/-- What a read does for one frame of the stream: it brings the frame, or it brings only frames before it. -/
theorem IncrementalParser.feed_before {parser : IncrementalParser} {data rest : List U8} {before after : List Frame}
    {first : Frame} (clean : Clean parser (data ++ rest) (before ++ first :: after)) :
    (∃ more, (parser.feed data).1 = before ++ first :: more) ∨
      ∃ missing, before = (parser.feed data).1 ++ missing ∧
        Clean (parser.feed data).2 rest (missing ++ first :: after) := by
  obtain ⟨remaining, split, left⟩ := feed_clean clean
  rcases List.append_eq_append_iff.mp split with ⟨more, brought, tail⟩ | ⟨missing, brought, tail⟩
  · cases more with
    | nil =>
      apply Or.inr
      refine ⟨[], by rw [brought, List.append_nil, List.append_nil], ?_⟩
      rw [List.nil_append] at tail ⊢
      rw [tail]
      exact left
    | cons frame more =>
      cases tail
      exact Or.inl ⟨more, brought⟩
  · apply Or.inr
    refine ⟨missing, brought, ?_⟩
    rw [← tail]
    exact left

end Guardian.Host
