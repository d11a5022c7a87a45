import Guardian.Host.IncrementalParser
import Guardian.Protocol.ParserExact

namespace Guardian.Host

open Word ByteString Guardian.Protocol

/-- `feed` on one chunk after another. -/
def IncrementalParser.feedAll (parser : IncrementalParser) : List (List U8) → List Frame × IncrementalParser
  | [] => ([], parser)
  | chunk :: chunks =>
    let first := parser.feed chunk
    let later := first.2.feedAll chunks
    (first.1 ++ later.1, later.2)

def IncrementalParser.extend (parser : IncrementalParser) (data : List U8) : IncrementalParser :=
  { parser with buffer := parser.buffer ++ data }

def IncrementalParser.drainAll (parser : IncrementalParser) : List Frame × IncrementalParser :=
  parser.drain parser.buffer.length

theorem IncrementalParser.feed_eq (parser : IncrementalParser) (data : List U8) :
    parser.feed data = (parser.extend data).drainAll := rfl

theorem IncrementalParser.drainAll_empty {parser : IncrementalParser} (empty : parser.buffer = []) :
    parser.drainAll = ([], parser) := drain_empty empty _

theorem IncrementalParser.drainAll_turn {parser : IncrementalParser} (some : parser.buffer ≠ []) :
    parser.drainAll = match parser.scan with
      | .waiting later => ([], later)
      | .dropped later => later.drainAll
      | .framed frame later => (frame :: later.drainAll.1, later.drainAll.2) := by
  obtain ⟨fuel, length⟩ : ∃ fuel, parser.buffer.length = fuel + 1 :=
    Nat.exists_eq_succ_of_ne_zero (by simpa using some)
  rw [drainAll, length, drain, if_neg some]
  rcases parser.scan_shorter with ⟨later, stops⟩ | ⟨later, shorter, drops | ⟨frame, frames⟩⟩
  · rw [stops]
  · rw [drops]
    exact drain_fuel (by omega) (Nat.le_refl _)
  · rw [frames]
    have same : later.drain fuel = later.drainAll := drain_fuel (by omega) (Nat.le_refl _)
    dsimp only
    rw [same]

theorem findMagic_cons {first : U8} {rest : List U8} (other : ¬ (first = magic0 ∧ rest.head? = some magic1)) :
    findMagic (first :: rest) = (findMagic rest).map (· + 1) := by
  cases rest with
  | nil => rfl
  | cons second rest =>
    rw [List.head?_cons, Option.some.injEq] at other
    rw [findMagic, if_neg other]

theorem findMagic_pair {first second : U8} {rest : List U8} (here : first = magic0 ∧ second = magic1) :
    findMagic (first :: second :: rest) = some 0 := by
  rw [findMagic, if_pos here]

theorem findMagic_append {buffer : List U8} {index : Nat} (found : findMagic buffer = some index) (data : List U8) :
    findMagic (buffer ++ data) = some index := by
  induction buffer generalizing index with
  | nil => cases found
  | cons first rest ih =>
    cases rest with
    | nil => cases found
    | cons second rest =>
      by_cases here : first = magic0 ∧ second = magic1
      · rw [findMagic_pair here] at found
        rw [List.cons_append, List.cons_append, findMagic_pair here, found]
      · have other : ¬ (first = magic0 ∧ (second :: rest).head? = some magic1) := by simpa using here
        rw [findMagic_cons other] at found
        obtain ⟨later, foundLater, rfl⟩ := Option.map_eq_some_iff.mp found
        rw [List.cons_append, findMagic_cons (by simpa using here), ih foundLater]
        rfl

/-- What the parser keeps of bytes without a sync pair: a first sync byte at their end. -/
def kept (buffer : List U8) : List U8 := if buffer.getLast? = some magic0 then [magic0] else []

theorem kept_length_le (buffer : List U8) : (kept buffer).length ≤ buffer.length := by
  cases buffer with
  | nil => exact Nat.le_refl 0
  | cons first rest =>
    unfold kept
    split_ifs <;> simp

theorem kept_append {data : List U8} (some : data ≠ []) (buffer : List U8) : kept (buffer ++ data) = kept data := by
  rw [kept, kept, List.getLast?_append_of_ne_nil buffer some]

theorem kept_kept (buffer : List U8) : kept (kept buffer) = kept buffer := by
  by_cases last : buffer.getLast? = some magic0
  · rw [kept.eq_def buffer, if_pos last]
    rfl
  · rw [kept.eq_def buffer, if_neg last]
    rfl

theorem findMagic_kept {buffer : List U8} (none : findMagic buffer = none) (data : List U8) :
    findMagic (buffer ++ data) =
      (findMagic (kept buffer ++ data)).map (· + (buffer.length - (kept buffer).length)) := by
  induction buffer with
  | nil => simp [kept]
  | cons first rest ih =>
    cases rest with
    | nil =>
      by_cases begins : first = magic0
      · simp [kept, begins]
      · have other : ¬ (first = magic0 ∧ data.head? = some magic1) := fun both => begins both.1
        rw [List.singleton_append, findMagic_cons other]
        simp [kept, begins]
    | cons second rest =>
      have other : ¬ (first = magic0 ∧ second = magic1) := by
        intro here
        rw [findMagic_pair here] at none
        cases none
      rw [findMagic_cons (by simpa using other)] at none
      have same : kept (first :: second :: rest) = kept (second :: rest) :=
        kept_append (List.cons_ne_nil _ _) [first]
      have short := kept_length_le (second :: rest)
      rw [List.cons_append, findMagic_cons (by simpa using other), ih (Option.map_eq_none_iff.mp none), same,
        Option.map_map]
      congr 1
      funext index
      simp only [Function.comp_apply, List.length_cons] at short ⊢
      omega

/-- The rest of a turn, on a buffer that starts with a sync pair. -/
def IncrementalParser.candidate (parser : IncrementalParser) : Scanned :=
  if parser.buffer.length < headerSize then .waiting parser
  else
    let payloadLength := (getU16Be (parser.buffer.drop 10)).toNat
    if payloadLength > maxPayloadSize then
      .dropped ⟨parser.buffer.drop 1, { parser.stats with oversizeErrors := parser.stats.oversizeErrors + 1 }⟩
    else
      let expectedSize := headerSize + payloadLength + crcSize
      if parser.buffer.length < expectedSize then .waiting parser
      else
        let remaining := parser.buffer.drop expectedSize
        match decodeFrame (parser.buffer.take expectedSize) with
        | .error (.crcMismatch _ _) =>
          .dropped ⟨remaining, { parser.stats with crcErrors := parser.stats.crcErrors + 1 }⟩
        | .error _ => .dropped ⟨remaining, { parser.stats with protocolErrors := parser.stats.protocolErrors + 1 }⟩
        | .ok frame =>
          .framed frame ⟨remaining, { parser.stats with framesReceived := parser.stats.framesReceived + 1 }⟩

def IncrementalParser.skip (parser : IncrementalParser) (index : Nat) : IncrementalParser :=
  ⟨parser.buffer.drop index, { parser.stats with discardedBytes := parser.stats.discardedBytes + index }⟩

/-- The parser with what it keeps of bytes without a sync pair. -/
def IncrementalParser.keep (parser : IncrementalParser) : IncrementalParser :=
  ⟨kept parser.buffer, { parser.stats with
    discardedBytes := parser.stats.discardedBytes + (parser.buffer.length - (kept parser.buffer).length) }⟩

theorem IncrementalParser.scan_found {parser : IncrementalParser} {index : Nat}
    (found : findMagic parser.buffer = some index) : parser.scan = (parser.skip index).candidate := by
  rw [scan, found]
  rfl

theorem IncrementalParser.scan_none {parser : IncrementalParser} (none : findMagic parser.buffer = none) :
    parser.scan = .waiting parser.keep := by
  rw [scan, none]
  rfl

def Scanned.extend (data : List U8) : Scanned → Scanned
  | .waiting parser => .waiting (parser.extend data)
  | .dropped parser => .dropped (parser.extend data)
  | .framed frame parser => .framed frame (parser.extend data)

theorem IncrementalParser.candidate_short {parser : IncrementalParser} (short : parser.buffer.length < headerSize) :
    parser.candidate = .waiting parser := if_pos short

theorem declaredSize_large {buffer : List U8} :
    (getU16Be (buffer.drop 10)).toNat > maxPayloadSize ↔ maxFrameSize < declaredSize buffer := by
  unfold declaredSize maxFrameSize
  omega

theorem IncrementalParser.candidate_large {parser : IncrementalParser} (long : headerSize ≤ parser.buffer.length)
    (large : maxFrameSize < declaredSize parser.buffer) :
    parser.candidate = .dropped ⟨parser.buffer.drop 1,
      { parser.stats with oversizeErrors := parser.stats.oversizeErrors + 1 }⟩ := by
  rw [candidate, if_neg (Nat.not_lt.mpr long)]
  exact if_pos (declaredSize_large.mpr large)

theorem IncrementalParser.candidate_incomplete {parser : IncrementalParser}
    (incomplete : parser.buffer.length < declaredSize parser.buffer)
    (bounded : declaredSize parser.buffer ≤ maxFrameSize) : parser.candidate = .waiting parser := by
  by_cases short : parser.buffer.length < headerSize
  · exact candidate_short short
  · have small : ¬ (getU16Be (parser.buffer.drop 10)).toNat > maxPayloadSize := by
      rw [declaredSize_large]
      omega
    rw [candidate, if_neg short]
    dsimp only
    rw [if_neg small]
    exact if_pos incomplete

def IncrementalParser.take (parser : IncrementalParser) (size : Nat) : Scanned :=
  match decodeFrame (parser.buffer.take size) with
  | .error (.crcMismatch _ _) =>
    .dropped ⟨parser.buffer.drop size, { parser.stats with crcErrors := parser.stats.crcErrors + 1 }⟩
  | .error _ =>
    .dropped ⟨parser.buffer.drop size, { parser.stats with protocolErrors := parser.stats.protocolErrors + 1 }⟩
  | .ok frame =>
    .framed frame ⟨parser.buffer.drop size, { parser.stats with framesReceived := parser.stats.framesReceived + 1 }⟩

theorem IncrementalParser.candidate_complete {parser : IncrementalParser}
    (complete : declaredSize parser.buffer ≤ parser.buffer.length)
    (bounded : declaredSize parser.buffer ≤ maxFrameSize) :
    parser.candidate = parser.take (declaredSize parser.buffer) := by
  have long : ¬ parser.buffer.length < headerSize := by
    unfold declaredSize at complete
    omega
  have small : ¬ (getU16Be (parser.buffer.drop 10)).toNat > maxPayloadSize := by
    rw [declaredSize_large]
    omega
  rw [candidate, if_neg long]
  dsimp only
  rw [if_neg small]
  exact if_neg (Nat.not_lt.mpr complete)

theorem IncrementalParser.candidate_waits {parser later : IncrementalParser}
    (waits : parser.candidate = .waiting later) : later = parser := by
  by_cases short : parser.buffer.length < headerSize
  · rw [candidate_short short] at waits
    exact (Scanned.waiting.inj waits).symm
  by_cases large : maxFrameSize < declaredSize parser.buffer
  · rw [candidate_large (Nat.not_lt.mp short) large] at waits
    cases waits
  by_cases incomplete : parser.buffer.length < declaredSize parser.buffer
  · rw [candidate_incomplete incomplete (Nat.not_lt.mp large)] at waits
    exact (Scanned.waiting.inj waits).symm
  · rw [candidate_complete (Nat.not_lt.mp incomplete) (Nat.not_lt.mp large), take] at waits
    split at waits <;> cases waits

theorem IncrementalParser.take_extend {parser : IncrementalParser} {size : Nat} (within : size ≤ parser.buffer.length)
    (data : List U8) : (parser.extend data).take size = (parser.take size).extend data := by
  have front : (parser.buffer ++ data).take size = parser.buffer.take size := List.take_append_of_le_length within
  have back : (parser.buffer ++ data).drop size = parser.buffer.drop size ++ data := List.drop_append_of_le_length within
  unfold take extend
  dsimp only
  rw [front, back]
  cases decodeFrame (parser.buffer.take size) with
  | ok frame => rfl
  | error failure => cases failure <;> rfl

theorem IncrementalParser.candidate_extend {parser : IncrementalParser}
    (proceeds : parser.candidate ≠ .waiting parser) (data : List U8) :
    (parser.extend data).candidate = parser.candidate.extend data := by
  by_cases short : parser.buffer.length < headerSize
  · exact absurd (candidate_short short) proceeds
  have long := Nat.not_lt.mp short
  have same : declaredSize (parser.extend data).buffer = declaredSize parser.buffer := declaredSize_append data long
  have more : (parser.extend data).buffer.length = parser.buffer.length + data.length := List.length_append
  by_cases large : maxFrameSize < declaredSize parser.buffer
  · have rest : (parser.buffer ++ data).drop 1 = parser.buffer.drop 1 ++ data := by
      apply List.drop_append_of_le_length
      unfold headerSize at long
      omega
    rw [candidate_large (by omega) (by omega), candidate_large long large]
    unfold Scanned.extend extend
    dsimp only
    rw [rest]
  by_cases incomplete : parser.buffer.length < declaredSize parser.buffer
  · exact absurd (candidate_incomplete incomplete (Nat.not_lt.mp large)) proceeds
  · rw [candidate_complete (by omega) (by omega), candidate_complete (by omega) (by omega), same]
    exact take_extend (Nat.not_lt.mp incomplete) data

theorem findMagic_drop {buffer : List U8} {index : Nat} (found : findMagic buffer = some index) :
    findMagic (buffer.drop index) = some 0 := by
  induction buffer generalizing index with
  | nil => cases found
  | cons first rest ih =>
    by_cases here : first = magic0 ∧ rest.head? = some magic1
    · obtain ⟨rfl, second⟩ := here
      obtain ⟨tail, rfl⟩ := List.head?_eq_some_iff.mp second
      rw [findMagic_pair ⟨rfl, rfl⟩] at found
      cases found
      exact findMagic_pair ⟨rfl, rfl⟩
    · rw [findMagic_cons here] at found
      obtain ⟨later, foundLater, rfl⟩ := Option.map_eq_some_iff.mp found
      exact ih foundLater

theorem drop_kept (buffer : List U8) : buffer.drop (buffer.length - (kept buffer).length) = kept buffer := by
  by_cases last : buffer.getLast? = some magic0
  · obtain ⟨front, rfl⟩ := List.getLast?_eq_some_iff.mp last
    rw [kept, if_pos last, List.length_append]
    exact List.drop_left' rfl
  · rw [kept, if_neg last]
    exact List.drop_length

theorem IncrementalParser.skip_extend {parser : IncrementalParser} {index : Nat} (within : index ≤ parser.buffer.length)
    (data : List U8) : (parser.extend data).skip index = (parser.skip index).extend data := by
  unfold skip extend
  dsimp only
  rw [List.drop_append_of_le_length within]

theorem IncrementalParser.scan_extend {parser : IncrementalParser} (proceeds : ∀ later, parser.scan ≠ .waiting later)
    (data : List U8) : (parser.extend data).scan = parser.scan.extend data := by
  cases found : findMagic parser.buffer with
  | none => exact absurd (scan_none found) (proceeds _)
  | some index =>
    have within : index ≤ parser.buffer.length := by
      have bound := findMagic_le found
      omega
    have candidate : (parser.skip index).candidate ≠ .waiting (parser.skip index) := by
      rw [← scan_found found]
      exact proceeds _
    have same : findMagic (parser.extend data).buffer = some index := findMagic_append found data
    rw [scan_found same, scan_found found, skip_extend within, candidate_extend candidate]

theorem IncrementalParser.keep_extend (parser : IncrementalParser) (data : List U8) (index : Nat) :
    (parser.extend data).skip (index + (parser.buffer.length - (kept parser.buffer).length)) =
      (parser.keep.extend data).skip index := by
  have within : parser.buffer.length - (kept parser.buffer).length ≤ parser.buffer.length := Nat.sub_le _ _
  unfold skip extend keep
  dsimp only
  rw [Nat.add_comm index, ← List.drop_drop, List.drop_append_of_le_length within, drop_kept, Nat.add_assoc]

theorem IncrementalParser.keep_keep (parser : IncrementalParser) (data : List U8) :
    (parser.extend data).keep = (parser.keep.extend data).keep := by
  have same : kept (parser.buffer ++ data) = kept (kept parser.buffer ++ data) := by
    by_cases some : data = []
    · subst some
      rw [List.append_nil, List.append_nil, kept_kept]
    · rw [kept_append some, kept_append some]
  have short := kept_length_le parser.buffer
  have left := kept_length_le (kept parser.buffer ++ data)
  rw [List.length_append] at left
  have count : parser.stats.discardedBytes + (parser.buffer.length + data.length -
      (kept (kept parser.buffer ++ data)).length) = parser.stats.discardedBytes +
      (parser.buffer.length - (kept parser.buffer).length) +
        ((kept parser.buffer).length + data.length - (kept (kept parser.buffer ++ data)).length) := by
    omega
  unfold keep extend
  dsimp only
  rw [List.length_append, List.length_append, same, count]

theorem IncrementalParser.scan_resumes {parser later : IncrementalParser} (stops : parser.scan = .waiting later)
    (data : List U8) : (parser.extend data).scan = (later.extend data).scan := by
  cases found : findMagic parser.buffer with
  | none =>
    rw [scan_none found] at stops
    cases stops
    have resumed : findMagic (parser.extend data).buffer = _ := findMagic_kept found data
    cases again : findMagic (kept parser.buffer ++ data) with
    | none =>
      rw [again, Option.map_none] at resumed
      rw [scan_none resumed, scan_none again, keep_keep]
    | some index =>
      rw [again, Option.map_some] at resumed
      rw [scan_found resumed, scan_found again, keep_extend]
  | some index =>
    rw [scan_found found] at stops
    have same := candidate_waits stops
    subst same
    have within : index ≤ parser.buffer.length := by
      have bound := findMagic_le found
      omega
    have first : findMagic (parser.extend data).buffer = some index := findMagic_append found data
    have second : findMagic ((parser.skip index).extend data).buffer = some 0 :=
      findMagic_append (findMagic_drop found) data
    rw [scan_found first, scan_found second, skip_extend within]
    rfl

theorem IncrementalParser.drainAll_extend (parser : IncrementalParser) (data : List U8) :
    (parser.extend data).drainAll =
      (parser.drainAll.1 ++ (parser.drainAll.2.extend data).drainAll.1, (parser.drainAll.2.extend data).drainAll.2) := by
  generalize size : parser.buffer.length = length
  induction length using Nat.strongRecOn generalizing parser with
  | ind length ih =>
    by_cases empty : parser.buffer = []
    · rw [drainAll_empty empty, List.nil_append]
    have more : (parser.extend data).buffer ≠ [] := List.append_ne_nil_of_left_ne_nil empty data
    rcases parser.scan_shorter with ⟨later, stops⟩ | ⟨later, shorter, drops | ⟨frame, frames⟩⟩
    · have turn := drainAll_turn empty
      rw [stops] at turn
      rw [turn, List.nil_append]
      by_cases nothing : (later.extend data).buffer = []
      · have none := (List.append_eq_nil_iff.mp nothing).2
        subst none
        have whole : parser.extend [] = parser := by
          unfold extend
          rw [List.append_nil]
        have same : later.extend [] = later := by
          unfold extend
          rw [List.append_nil]
        rw [drainAll_empty nothing, whole, turn, same]
      · rw [drainAll_turn more, drainAll_turn nothing, scan_resumes stops]
    · have proceeds : ∀ later, parser.scan ≠ .waiting later := by
        rw [drops]
        exact fun later => Scanned.noConfusion
      rw [drainAll_turn more, scan_extend proceeds, drainAll_turn empty, drops]
      exact ih later.buffer.length (by omega) later rfl
    · have proceeds : ∀ later, parser.scan ≠ .waiting later := by
        rw [frames]
        exact fun later => Scanned.noConfusion
      rw [drainAll_turn more, scan_extend proceeds, drainAll_turn empty, frames]
      have rest := ih later.buffer.length (by omega) later rfl
      dsimp only [Scanned.extend]
      rw [rest]
      rfl

theorem IncrementalParser.feedAll_extend (parser : IncrementalParser) (chunks : List (List U8)) :
    (parser.drainAll.1 ++ (parser.drainAll.2.feedAll chunks).1, (parser.drainAll.2.feedAll chunks).2) =
      (parser.extend chunks.flatten).drainAll := by
  induction chunks generalizing parser with
  | nil =>
    unfold feedAll extend
    rw [List.flatten_nil, List.append_nil, List.append_nil]
  | cons chunk chunks ih =>
    have joined : parser.extend (chunk :: chunks).flatten = (parser.extend chunk).extend chunks.flatten := by
      unfold extend
      rw [List.flatten_cons, List.append_assoc]
    rw [joined, ← ih, drainAll_extend, feedAll, feed_eq, List.append_assoc]

theorem incrementalParser_feedAll (chunks : List (List U8)) :
    incrementalParser.feedAll chunks = incrementalParser.feed chunks.flatten := by
  rw [IncrementalParser.feed_eq, ← IncrementalParser.feedAll_extend]
  rfl

end Guardian.Host
