import Guardian.Host.StreamDivision
import Guardian.Protocol.ParserResync

namespace Guardian.Host

open Word ByteString Guardian.Protocol

theorem findMagic_none_iff (buffer : List U8) : findMagic buffer = none ↔ Quiet buffer := by
  induction buffer with
  | nil => exact ⟨fun _ pair => absurd pair.length_le (by decide), fun _ => rfl⟩
  | cons first rest ih =>
    by_cases here : first = magic0 ∧ rest.head? = some magic1
    · obtain ⟨rfl, second⟩ := here
      obtain ⟨tail, rfl⟩ : ∃ tail, rest = magic1 :: tail := by
        cases rest with
        | nil => cases second
        | cons head tail => exact ⟨tail, by rw [Option.some.inj second]⟩
      rw [findMagic_pair ⟨rfl, rfl⟩]
      constructor
      · intro impossible
        cases impossible
      · intro quiet
        exact absurd (List.prefix_append [magic0, magic1] tail).isInfix quiet
    · rw [findMagic_cons here, Option.map_eq_none_iff, ih]
      constructor
      · intro quiet pair
        rcases List.infix_cons_iff.mp pair with start | later
        · obtain ⟨tail, same⟩ := start
          cases same
          exact here ⟨rfl, rfl⟩
        · exact quiet later
      · exact Quiet.tail

theorem IncrementalParser.feed_cons (parser : IncrementalParser) (byte : U8) (stream : List U8) :
    (parser.feed (byte :: stream)).1 = (parser.feed [byte]).1 ++ ((parser.feed [byte]).2.feed stream).1 := by
  have joined : parser.extend (byte :: stream) = (parser.extend [byte]).extend stream := by
    unfold extend
    rw [List.append_assoc, List.singleton_append]
  rw [feed_eq, joined, drainAll_extend, feed_eq, feed_eq]

theorem IncrementalParser.scan_synchronised {parser : IncrementalParser} (magic : [magic0, magic1] <+: parser.buffer) :
    parser.scan = parser.candidate := by
  obtain ⟨rest, starts⟩ := magic
  have first : findMagic parser.buffer = some 0 := by
    rw [← starts]
    exact findMagic_start rest
  rw [scan_found first]
  rfl

theorem IncrementalParser.feed_none {parser : IncrementalParser} {data : List U8} (some : data ≠ [])
    (none : findMagic (parser.buffer ++ data) = none) :
    (parser.feed data).1 = [] ∧ (parser.feed data).2.buffer = kept data := by
  have more : (parser.extend data).buffer ≠ [] := List.append_ne_nil_of_right_ne_nil _ some
  have stops : (parser.extend data).scan = .waiting (parser.extend data).keep := scan_none none
  rw [feed_eq, drainAll_turn more, stops]
  exact ⟨rfl, kept_append some parser.buffer⟩

theorem IncrementalParser.feed_unfinished {parser : IncrementalParser} {data : List U8}
    (unfinished : Unfinished (parser.buffer ++ data)) :
    (parser.feed data).1 = [] ∧ (parser.feed data).2.buffer = parser.buffer ++ data := by
  change Unfinished (parser.extend data).buffer at unfinished
  rw [feed_eq]
  change _ ∧ _ = (parser.extend data).buffer
  generalize parser.extend data = parser at *
  rcases unfinished with empty | single | synchronised
  · rw [drainAll_empty empty]
    exact ⟨rfl, rfl⟩
  · have some : parser.buffer ≠ [] := by
      rw [single]
      exact List.cons_ne_nil _ _
    have stops : parser.scan = .waiting parser.keep := scan_none (by rw [single]; rfl)
    rw [drainAll_turn some, stops]
    refine ⟨rfl, ?_⟩
    show kept parser.buffer = parser.buffer
    rw [single]
    rfl
  · have some : parser.buffer ≠ [] := List.ne_nil_of_length_pos (Nat.lt_of_lt_of_le (by decide) synchronised.length)
    have stops : parser.candidate = .waiting parser := by
      rcases synchronised.unfinished with short | ⟨incomplete, bounded⟩
      · exact candidate_short short
      · exact candidate_incomplete incomplete bounded
    rw [drainAll_turn some, scan_synchronised synchronised.magic, stops]
    exact ⟨rfl, rfl⟩

theorem IncrementalParser.feed_oversized {parser : IncrementalParser} {data : List U8}
    (magic : [magic0, magic1] <+: parser.buffer) (long : headerSize ≤ (parser.buffer ++ data).length)
    (large : maxFrameSize < declaredSize (parser.buffer ++ data)) :
    ∃ stats, parser.feed data = (IncrementalParser.mk ((parser.buffer ++ data).drop 1) stats).drainAll := by
  have some : (parser.extend data).buffer ≠ [] :=
    List.ne_nil_of_length_pos (Nat.lt_of_lt_of_le (by decide) long)
  have starts : [magic0, magic1] <+: (parser.extend data).buffer := magic.trans (List.prefix_append _ _)
  have drops : (parser.extend data).candidate = _ := candidate_large long large
  rw [feed_eq, drainAll_turn some, scan_synchronised starts, drops]
  exact ⟨_, rfl⟩

theorem IncrementalParser.feed_complete {parser : IncrementalParser} {data : List U8}
    (magic : [magic0, magic1] <+: parser.buffer)
    (complete : (parser.buffer ++ data).length = declaredSize (parser.buffer ++ data))
    (bounded : declaredSize (parser.buffer ++ data) ≤ maxFrameSize) :
    (parser.feed data).1 = (protocolDecode (parser.buffer ++ data)).toOption.toList ∧
      (parser.feed data).2.buffer = [] := by
  change (parser.extend data).buffer.length = declaredSize (parser.extend data).buffer at complete
  have starts : [magic0, magic1] <+: (parser.extend data).buffer := magic.trans (List.prefix_append _ _)
  have some : (parser.extend data).buffer ≠ [] :=
    List.ne_nil_of_length_pos (Nat.lt_of_lt_of_le (by decide) starts.length_le)
  have turn : (parser.extend data).candidate = _ := candidate_complete (Nat.le_of_eq complete.symm) bounded
  rw [← complete, take, List.take_length, List.drop_length] at turn
  rw [feed_eq, drainAll_turn some, scan_synchronised starts, turn]
  change _ = (protocolDecode (parser.extend data).buffer).toOption.toList ∧ _
  cases decoded : protocolDecode (parser.extend data).buffer with
  | ok frame =>
    rw [decodeFrame_ok decoded]
    dsimp only
    rw [drainAll_empty rfl]
    exact ⟨rfl, rfl⟩
  | error result =>
    obtain ⟨failure, refused⟩ := decodeFrame_error decoded
    rw [refused]
    cases failure
    all_goals
      dsimp only
      rw [drainAll_empty rfl]
      exact ⟨rfl, rfl⟩

/-- An oversized header that the next byte completes has no sync pair after its first byte, up to the byte after it. -/
def DropsQuietly (parser : Parser) (byte : U8) (later : List U8) : Prop :=
  parser.buffer.length + 1 = headerSize → maxFrameSize < declaredSize (parser.buffer ++ [byte]) →
    Quiet (parser.buffer.tail ++ byte :: later.take 1)

/-- Every oversized header that the device's parser meets on the stream is dropped so. -/
def RejectsQuietly (parser : Parser) (stream : List U8) : Prop :=
  ∀ earlier byte later, stream = earlier ++ byte :: later → DropsQuietly (parser.after earlier) byte later

theorem RejectsQuietly.tail {parser : Parser} {byte : U8} {stream : List U8}
    (quiet : RejectsQuietly parser (byte :: stream)) : RejectsQuietly (parserPushByte parser byte).2 stream := by
  intro earlier next later split
  exact quiet (byte :: earlier) next later (congrArg (byte :: ·) split)

/-- The host holds the device's candidate, or a first sync byte that the next byte does not join. -/
def Alike (host : IncrementalParser) (candidate later : List U8) : Prop :=
  host.buffer = candidate ∨ candidate = [] ∧ host.buffer = [magic0] ∧ later.head? ≠ some magic1

theorem feed_grows {host : IncrementalParser} {candidate later : List U8} {byte : U8} (same : host.buffer = candidate)
    (unfinished : Unfinished (candidate ++ [byte])) :
    (host.feed [byte]).1 = [] ∧ Alike (host.feed [byte]).2 (candidate ++ [byte]) later := by
  subst same
  obtain ⟨frames, left⟩ := IncrementalParser.feed_unfinished unfinished
  exact ⟨frames, Or.inl left⟩

theorem feed_idles {host : IncrementalParser} {candidate later : List U8} {byte : U8} (same : host.buffer = candidate)
    (none : findMagic (candidate ++ [byte]) = none) :
    (host.feed [byte]).1 = [] ∧ Alike (host.feed [byte]).2 (kept [byte]) later := by
  subst same
  obtain ⟨frames, left⟩ := IncrementalParser.feed_none (List.cons_ne_nil byte []) none
  exact ⟨frames, Or.inl left⟩

theorem kept_other {byte : U8} (other : byte ≠ magic0) : kept [byte] = [] :=
  if_neg fun last => other (Option.some.inj last)

theorem findMagic_two {first second : U8} (apart : ¬ (first = magic0 ∧ second = magic1)) :
    findMagic [first, second] = none := by
  rw [findMagic, if_neg apart]
  rfl

theorem feed_drops {host : IncrementalParser} {candidate later : List U8} {byte : U8} (same : host.buffer = candidate)
    (magic : [magic0, magic1] <+: candidate) (header : candidate.length + 1 = headerSize)
    (large : maxFrameSize < declaredSize (candidate ++ [byte])) (quiet : Quiet (candidate.tail ++ byte :: later.take 1)) :
    (host.feed [byte]).1 = [] ∧ Alike (host.feed [byte]).2 [] later := by
  subst same
  have long : headerSize ≤ (host.buffer ++ [byte]).length := by
    rw [List.length_append, List.length_singleton]
    exact Nat.le_of_eq header.symm
  obtain ⟨stats, drops⟩ := IncrementalParser.feed_oversized magic long large
  have rest : (host.buffer ++ [byte]).drop 1 = host.buffer.tail ++ [byte] := by
    obtain ⟨tail, starts⟩ := magic
    rw [← starts]
    rfl
  have some : (IncrementalParser.mk (host.buffer.tail ++ [byte]) stats).buffer ≠ [] :=
    List.append_ne_nil_of_right_ne_nil _ (List.cons_ne_nil _ _)
  have silent : Quiet (host.buffer.tail ++ [byte]) := by
    intro pair
    apply quiet
    apply pair.trans
    refine ⟨[], later.take 1, ?_⟩
    rw [List.nil_append, List.append_assoc, List.singleton_append]
  have stops : (IncrementalParser.mk (host.buffer.tail ++ [byte]) stats).scan = _ :=
    IncrementalParser.scan_none ((findMagic_none_iff _).mpr silent)
  rw [drops, rest, IncrementalParser.drainAll_turn some, stops]
  refine ⟨rfl, ?_⟩
  have left := kept_append (List.cons_ne_nil byte []) host.buffer.tail
  by_cases begins : byte = magic0
  · subst begins
    refine Or.inr ⟨rfl, left, ?_⟩
    intro second
    obtain ⟨tail, split⟩ := List.head?_eq_some_iff.mp second
    subst split
    apply quiet
    exact (List.suffix_append _ _).isInfix
  · rw [kept_other begins] at left
    exact Or.inl left

theorem rejection_frame (result : ProtocolResult) : (rejection result).frame? = none := by
  rw [rejection]
  split_ifs <;> rfl

theorem feed_completes {host : IncrementalParser} {candidate later : List U8} {byte : U8} (same : host.buffer = candidate)
    (before : Synchronised candidate) (long : headerSize ≤ candidate.length)
    (complete : candidate.length + 1 = declaredSize (candidate ++ [byte])) :
    (host.feed [byte]).1 = (protocolDecode (candidate ++ [byte])).toOption.toList ∧
      Alike (host.feed [byte]).2 [] later := by
  subst same
  have size : (host.buffer ++ [byte]).length = declaredSize (host.buffer ++ [byte]) := by
    rw [List.length_append, List.length_singleton, complete]
  have bounded : declaredSize (host.buffer ++ [byte]) ≤ maxFrameSize := by
    rw [declaredSize_append [byte] long]
    exact (before.unfinished.resolve_left (Nat.not_lt.mpr long)).2
  obtain ⟨frames, left⟩ := IncrementalParser.feed_complete before.magic size bounded
  exact ⟨frames, Or.inl left⟩

theorem feed_alike {host : IncrementalParser} {candidate next later : List U8} {byte : U8} {result : ParserResult}
    (alike : Alike host candidate (byte :: later)) (pushed : Pushed candidate byte result next)
    (unfinished : Unfinished next)
    (quiet : candidate.length + 1 = headerSize → maxFrameSize < declaredSize (candidate ++ [byte]) →
      Quiet (candidate.tail ++ byte :: later.take 1)) :
    (host.feed [byte]).1 = result.frame?.toList ∧ Alike (host.feed [byte]).2 next later := by
  rcases alike with same | ⟨empty, single, apart⟩
  · cases pushed with
    | idles other =>
      have idles := @feed_idles _ _ later byte same rfl
      rw [kept_other other] at idles
      exact idles
    | begins => exact feed_grows same unfinished
    | restarts => exact feed_idles same (findMagic_two (by decide))
    | synchronises => exact feed_grows same unfinished
    | loses first second =>
      have idles := @feed_idles _ _ later byte same (findMagic_two fun both => second both.2)
      rw [kept_other first] at idles
      exact idles
    | collects before after => exact feed_grows same unfinished
    | oversized before header large => exact feed_drops same before.magic header large (quiet header large)
    | delivers before long complete decoded =>
      have completes := @feed_completes _ _ later _ same before long complete
      rw [decoded] at completes
      exact completes
    | rejects before long complete refused =>
      have completes := @feed_completes _ _ later _ same before long complete
      rw [refused] at completes
      rw [rejection_frame]
      exact completes
  · have lonely : findMagic ([magic0] ++ [byte]) = none :=
      findMagic_two fun both => apart (congrArg Option.some both.2)
    have idles := @feed_idles _ _ later byte single lonely
    subst empty
    cases pushed with
    | idles other =>
      rw [kept_other other] at idles
      exact idles
    | begins => exact idles
    | collects before | oversized before | delivers before | rejects before =>
      exact absurd before.length (by decide)

/-- On a stream whose oversized headers are dropped quietly the host hears what the device delivers. -/
theorem Alike.feed {parser : Parser} {host : IncrementalParser} {candidate stream : List U8}
    (holds : parser.Holds candidate) (alike : Alike host candidate stream) (quiet : RejectsQuietly parser stream) :
    (host.feed stream).1 = parser.delivered stream := by
  induction stream generalizing parser host candidate with
  | nil =>
    have unfinished : Unfinished (host.buffer ++ []) := by
      rw [List.append_nil]
      rcases alike with same | ⟨-, single, -⟩
      · rw [same]
        exact holds.unfinished
      · exact Or.inr (Or.inl single)
    exact (IncrementalParser.feed_unfinished unfinished).1
  | cons byte stream ih =>
    obtain ⟨next, pushed, left⟩ := parserPushByte_pushed holds byte
    have drops := quiet [] byte stream rfl
    change DropsQuietly parser byte stream at drops
    unfold DropsQuietly at drops
    rw [holds.buffer] at drops
    obtain ⟨frames, later⟩ := feed_alike alike pushed left.unfinished drops
    rw [IncrementalParser.feed_cons, frames, ih left later quiet.tail]
    rfl

theorem findMagic_second {rest : List U8} {index : Nat} (found : findMagic (magic1 :: rest) = some index) :
    1 ≤ index := by
  rw [findMagic_cons fun both => absurd both.1 (by decide)] at found
  obtain ⟨later, -, same⟩ := Option.map_eq_some_iff.mp found
  omega

/-- A sync pair that an oversized header was dropped with: at most ten bytes of a candidate start there. -/
theorem magic_after {tail later : List U8} {byte : U8} (size : tail.length + 2 = headerSize)
    (second : tail.head? = some magic1) (loud : ¬ Quiet (tail ++ byte :: later.take 1)) :
    ∃ extra, extra <+: later ∧ (extra = [] ∨ extra = [magic1]) ∧ ∃ index,
      findMagic (tail ++ byte :: extra) = some index ∧ (tail ++ byte :: extra).length ≤ index + 10 := by
  unfold headerSize at size
  by_cases silent : Quiet (tail ++ [byte])
  · cases later with
    | nil => exact absurd silent loud
    | cons next later =>
      have none := (findMagic_none_iff _).mpr silent
      have resumed := findMagic_kept none [next]
      have joined : tail ++ [byte] ++ [next] = tail ++ [byte, next] := by
        rw [List.append_assoc, List.singleton_append]
      rw [joined, kept_append (List.cons_ne_nil _ _)] at resumed
      have heard : findMagic (tail ++ [byte, next]) ≠ Option.none := fun unseen => loud ((findMagic_none_iff _).mp unseen)
      by_cases begins : byte = magic0 ∧ next = magic1
      · obtain ⟨rfl, rfl⟩ := begins
        refine ⟨[magic1], List.prefix_append [magic1] later, Or.inr rfl, _, resumed, ?_⟩
        simp only [List.length_append, List.length_cons, List.length_nil, kept]
        simp
      · have nothing : findMagic (kept [byte] ++ [next]) = Option.none := by
          by_cases first : byte = magic0
          · subst first
            exact findMagic_two begins
          · rw [kept_other first]
            rfl
        rw [nothing] at resumed
        exact absurd resumed heard
  · obtain ⟨index, found⟩ := Option.ne_none_iff_exists'.mp (mt (findMagic_none_iff _).mp silent)
    obtain ⟨rest, rfl⟩ := List.head?_eq_some_iff.mp second
    refine ⟨[], List.nil_prefix, Or.inl rfl, index, found, ?_⟩
    have later := findMagic_second found
    rw [List.length_append, List.length_singleton]
    omega

theorem IncrementalParser.drainAll_waits {parser : IncrementalParser} {index : Nat}
    (found : findMagic parser.buffer = some index)
    (incomplete : (parser.buffer.drop index).length < declaredSize (parser.buffer.drop index))
    (bounded : declaredSize (parser.buffer.drop index) ≤ maxFrameSize) : parser.drainAll.1 = [] := by
  have some : parser.buffer ≠ [] := by
    intro empty
    rw [empty] at found
    cases found
  have stops : (parser.skip index).candidate = .waiting (parser.skip index) := candidate_incomplete incomplete bounded
  rw [drainAll_turn some, scan_found found, stops]

theorem oversized_drops {parser : Parser} {candidate : List U8} {byte : U8} (holds : parser.Holds candidate)
    (header : candidate.length + 1 = headerSize) (large : maxFrameSize < declaredSize (candidate ++ [byte])) :
    Synchronised candidate ∧ (parserPushByte parser byte).2.Holds [] := by
  unfold headerSize at header
  have length : (candidate ++ [byte]).length = candidate.length + 1 := by
    rw [List.length_append, List.length_singleton]
  obtain ⟨next, pushed, left⟩ := parserPushByte_pushed holds byte
  generalize (parserPushByte parser byte).1 = result at pushed
  cases pushed with
  | idles | begins | restarts | synchronises | loses => exact absurd header (by decide)
  | collects before after =>
    have within := after.unfinished
    unfold headerSize at within
    omega
  | oversized before => exact ⟨before, left⟩
  | delivers before long | rejects before long =>
    unfold headerSize at long
    omega

def probe : Frame := ⟨.request, 0x01, supportedFlags, 0, []⟩

theorem probe_encodable : probe.Encodable := ⟨rfl, Nat.zero_le _⟩

/-- Bytes that fill a candidate up to its declared size of 272, and the frame. -/
def filler (size : Nat) : List U8 := List.replicate (10 - size) 0 ++ [1, 0]

theorem quiet_of_not_mem {bytes : List U8} (absent : magic0 ∉ bytes) : Quiet bytes :=
  fun pair => absent (pair.subset List.mem_cons_self)

theorem declaredSize_filler {start : List U8} (short : start.length ≤ 10) (rest : List U8) :
    declaredSize (start ++ (filler start.length ++ rest)) = maxFrameSize := by
  have field : (start ++ (filler start.length ++ rest)).drop 10 = [1, 0] ++ rest := by
    rw [filler, List.append_assoc, ← List.append_assoc]
    apply List.drop_left'
    rw [List.length_append, List.length_replicate]
    omega
  unfold declaredSize
  rw [field]
  rfl

theorem delivered_probe {parser : Parser} (holds : parser.Holds []) {stream : List U8} (quiet : Quiet stream) :
    parser.delivered (stream ++ probe.wire) ≠ [] := by
  have waiting := Parser.Waiting.quiet holds (Or.inl rfl) quiet
  rw [Parser.delivered_append, Parser.delivered_results (parser.after stream), (waiting.frame probe_encodable).1]
  have heard : probe.results.filterMap ParserResult.frame? ≠ [] := by decide
  exact List.append_ne_nil_of_right_ne_nil _ heard

/-- A header dropped with a sync pair in it makes the host deaf to a frame that the device delivers. -/
theorem dropped_pair_diverges {parser : Parser} {host : IncrementalParser} {candidate later : List U8} {byte : U8}
    (holds : parser.Holds candidate) (same : host.buffer = candidate) (loud : ¬ DropsQuietly parser byte later) :
    ∃ sent, sent <+: byte :: later ∧ ∃ more, (host.feed (sent ++ more)).1 ≠ parser.delivered (sent ++ more) := by
  unfold DropsQuietly at loud
  rw [holds.buffer, Classical.not_imp, Classical.not_imp] at loud
  obtain ⟨header, large, loud⟩ := loud
  obtain ⟨before, left⟩ := oversized_drops holds header large
  obtain ⟨tail, starts⟩ := before.magic
  have rest : candidate = magic0 :: candidate.tail := by
    rw [← starts]
    rfl
  have size : candidate.tail.length + 2 = headerSize := by
    rw [List.length_tail]
    unfold headerSize at header ⊢
    omega
  have second : candidate.tail.head? = some magic1 := by
    rw [← starts]
    rfl
  obtain ⟨extra, sent, quiet, index, found, short⟩ := magic_after size second loud
  generalize start : (candidate.tail ++ byte :: extra).drop index = pair at *
  have within := findMagic_le found
  have small : pair.length ≤ 10 := by
    rw [← start, List.length_drop]
    omega
  refine ⟨byte :: extra, List.cons_prefix_cons.mpr ⟨rfl, sent⟩, filler pair.length ++ probe.wire, ?_⟩
  have deaf : (host.feed (byte :: extra ++ (filler pair.length ++ probe.wire))).1 = [] := by
    have joined : host.buffer ++ (byte :: extra ++ (filler pair.length ++ probe.wire)) =
        candidate ++ [byte] ++ (extra ++ (filler pair.length ++ probe.wire)) := by
      rw [same, List.append_assoc, List.singleton_append, List.cons_append]
    have complete : headerSize ≤ (candidate ++ [byte]).length := by
      rw [List.length_append, List.length_singleton]
      exact Nat.le_of_eq header.symm
    have magic : [magic0, magic1] <+: host.buffer := by
      rw [same]
      exact before.magic
    have long : headerSize ≤ (host.buffer ++ (byte :: extra ++ (filler pair.length ++ probe.wire))).length := by
      rw [joined, List.length_append]
      omega
    obtain ⟨stats, drops⟩ := IncrementalParser.feed_oversized magic long (by
      rw [joined, declaredSize_append _ complete]
      exact large)
    have remaining : (host.buffer ++ (byte :: extra ++ (filler pair.length ++ probe.wire))).drop 1 =
        candidate.tail ++ byte :: extra ++ (filler pair.length ++ probe.wire) := by
      rw [same, rest]
      simp only [List.cons_append, List.drop_succ_cons, List.drop_zero, List.append_assoc, List.tail_cons]
    have from_pair : (candidate.tail ++ byte :: extra ++ (filler pair.length ++ probe.wire)).drop index =
        pair ++ (filler pair.length ++ probe.wire) := by
      rw [List.drop_append_of_le_length (by omega), start]
    have declared := declaredSize_filler small probe.wire
    rw [drops, remaining]
    apply IncrementalParser.drainAll_waits (findMagic_append found _)
    · rw [from_pair, declared]
      simp only [List.length_append, filler, List.length_replicate, probe.wire_length, List.length_cons, List.length_nil]
      unfold probe maxFrameSize headerSize maxPayloadSize crcSize
      simp only [List.length_nil]
      omega
    · apply Nat.le_of_eq
      rw [from_pair, declared]
  have delivers : parser.delivered (byte :: extra ++ (filler pair.length ++ probe.wire)) ≠ [] := by
    have silent : Quiet (extra ++ filler pair.length) := by
      apply quiet_of_not_mem
      rcases quiet with rfl | rfl
      · simp [filler, magic0]
      · simp [filler, magic0, magic1]
    have split : byte :: extra ++ (filler pair.length ++ probe.wire) =
        byte :: (extra ++ filler pair.length ++ probe.wire) := by
      rw [List.cons_append, List.append_assoc]
    rw [split, Parser.delivered]
    exact List.append_ne_nil_of_right_ne_nil _ (delivered_probe left silent)
  rw [deaf]
  exact delivers.symm

/-- Where one is not dropped quietly, the two ends hear different frames on some stream that starts alike. -/
theorem Alike.diverges {parser : Parser} {host : IncrementalParser} {candidate stream : List U8}
    (holds : parser.Holds candidate) (alike : Alike host candidate stream) (loud : ¬ RejectsQuietly parser stream) :
    ∃ sent, sent <+: stream ∧ ∃ more, (host.feed (sent ++ more)).1 ≠ parser.delivered (sent ++ more) := by
  induction stream generalizing parser host candidate with
  | nil =>
    apply absurd _ loud
    intro earlier byte later split
    simp at split
  | cons byte stream ih =>
    by_cases drops : DropsQuietly parser byte stream
    · obtain ⟨next, pushed, left⟩ := parserPushByte_pushed holds byte
      have loud_later : ¬ RejectsQuietly (parserPushByte parser byte).2 stream := by
        intro quiet
        apply loud
        intro earlier second later split
        cases earlier with
        | nil =>
          cases split
          exact drops
        | cons first earlier =>
          cases split
          exact quiet earlier second later rfl
      unfold DropsQuietly at drops
      rw [holds.buffer] at drops
      obtain ⟨frames, later⟩ := feed_alike alike pushed left.unfinished drops
      obtain ⟨sent, starts, more, differ⟩ := ih left later loud_later
      refine ⟨byte :: sent, List.cons_prefix_cons.mpr ⟨rfl, starts⟩, more, ?_⟩
      rw [List.cons_append, IncrementalParser.feed_cons, frames, Parser.delivered]
      intro equal
      exact differ (List.append_cancel_left equal)
    · rcases alike with same | ⟨empty, -⟩
      · exact dropped_pair_diverges holds same drops
      · apply absurd _ drops
        intro header
        rw [holds.buffer, empty] at header
        exact absurd header (by decide)

/-- The stream's division does not matter to the host. Its frames are the device's on every stream whose oversized
headers hold no second sync pair, and some stream that starts with another tells the two apart. -/
theorem parsers_recover_alike (stream : List U8) :
    (∀ chunks : List (List U8), chunks.flatten = stream →
      incrementalParser.feedAll chunks = incrementalParser.feed stream) ∧
    (RejectsQuietly parserInit stream → ∀ chunks : List (List U8), chunks.flatten = stream →
      (incrementalParser.feedAll chunks).1 = parserInit.delivered stream) ∧
    (¬ RejectsQuietly parserInit stream → ∃ sent, sent <+: stream ∧ ∃ more, ∀ chunks : List (List U8),
      chunks.flatten = sent ++ more → (incrementalParser.feedAll chunks).1 ≠ parserInit.delivered (sent ++ more)) := by
  have alike : Alike incrementalParser [] stream := Or.inl rfl
  refine ⟨?_, ?_, ?_⟩
  · rintro chunks rfl
    exact incrementalParser_feedAll chunks
  · rintro quiet chunks rfl
    rw [incrementalParser_feedAll]
    exact alike.feed parserInit_holds quiet
  · intro loud
    obtain ⟨sent, starts, more, differ⟩ := alike.diverges parserInit_holds loud
    refine ⟨sent, starts, more, ?_⟩
    intro chunks divided
    rw [incrementalParser_feedAll, divided]
    exact differ

/-- A frame whose sequence reads as a length of 512 when two sync bytes of noise stand before it. -/
def maskedFrame : Frame := ⟨.request, 0x01, supportedFlags, 0x200, []⟩

theorem masked_frame_divides :
    (incrementalParser.feedAll [[0x47, 0x46] ++ maskedFrame.wire]).1 = [maskedFrame] ∧
      parserInit.delivered ([0x47, 0x46] ++ maskedFrame.wire) = [] := by
  decide +kernel

end Guardian.Host
