import Guardian.Protocol.ParserExact

namespace Guardian.Protocol

open Word ByteString

structure ParserStorage where
  state : ParserState
  buffer : Bytes maxFrameSize
  index : Nat
  expectedSize : Nat
  framesReceived : U32
  crcErrors : U32
  protocolErrors : U32
  oversizeErrors : U32
  lastProtocolResult : ProtocolResult
  deriving DecidableEq

namespace ParserStorage

def init (buffer : Bytes maxFrameSize) : ParserStorage := ⟨.waitMagic0, buffer, 0, 0, 0, 0, 0, 0, .ok⟩

def storeByte (parser : ParserStorage) (index : Nat) (byte : U8) : Option ParserStorage :=
  if index < maxFrameSize then
    some { parser with buffer := ⟨parser.buffer.1.set index byte, by rw [List.length_set, parser.buffer.2]⟩ }
  else none

def returnToSync (parser : ParserStorage) : ParserStorage :=
  { parser with state := .waitMagic0, index := 0, expectedSize := 0 }

def finish (parser : ParserStorage) : ParserResult × ParserStorage :=
  match protocolDecode (parser.buffer.1.take parser.expectedSize) with
  | .ok frame =>
    (.frameReady frame,
      { returnToSync parser with lastProtocolResult := .ok, framesReceived := parser.framesReceived + 1 })
  | .error result =>
    let synced : ParserStorage := { returnToSync parser with lastProtocolResult := result }
    if result = .errorCrc then (.errorCrc, { synced with crcErrors := parser.crcErrors + 1 })
    else (.errorProtocol, { synced with protocolErrors := parser.protocolErrors + 1 })

def collect (parser : ParserStorage) : ParserResult × ParserStorage :=
  if parser.expectedSize = 0 ∨ parser.index < parser.expectedSize then (.noFrame, parser) else finish parser

def pushByte (parser : ParserStorage) (byte : U8) : Option (ParserResult × ParserStorage) :=
  match parser.state with
  | .waitMagic0 =>
    if byte = magic0 then
      (parser.storeByte 0 byte).map fun stored => (.noFrame, { stored with index := 1, state := .waitMagic1 })
    else some (.noFrame, parser)
  | .waitMagic1 =>
    if byte = magic1 then
      (parser.storeByte 1 byte).map fun stored => (.noFrame, { stored with index := 2, state := .readFrame })
    else if byte = magic0 then
      (parser.storeByte 0 byte).map fun stored => (.noFrame, { stored with index := 1 })
    else some (.noFrame, returnToSync parser)
  | .readFrame =>
    if parser.index ≥ maxFrameSize then
      some (.errorOversize, returnToSync { parser with oversizeErrors := parser.oversizeErrors + 1 })
    else
      (parser.storeByte parser.index byte).map fun stored =>
        let stored := { stored with index := parser.index + 1 }
        if stored.index = headerSize then
          let payloadLength := (getU16Be (stored.buffer.1.drop 10)).toNat
          if payloadLength > maxPayloadSize then
            (.errorOversize, returnToSync { stored with
              oversizeErrors := parser.oversizeErrors + 1, lastProtocolResult := .errorPayloadTooLarge })
          else collect { stored with expectedSize := headerSize + payloadLength + crcSize }
        else collect stored

/-- The parser after a stream, if all its stores are inside the array. -/
def after (parser : ParserStorage) : List U8 → Option ParserStorage
  | [] => some parser
  | byte :: stream => (parser.pushByte byte).bind fun pushed => pushed.2.after stream

def view (parser : ParserStorage) : Parser where
  state := parser.state
  buffer := parser.buffer.1.take parser.index
  expectedSize := parser.expectedSize
  framesReceived := parser.framesReceived
  crcErrors := parser.crcErrors
  protocolErrors := parser.protocolErrors
  oversizeErrors := parser.oversizeErrors
  lastProtocolResult := parser.lastProtocolResult

theorem take_set {cells : List U8} {index : Nat} (byte : U8) (within : index < cells.length) :
    (cells.set index byte).take (index + 1) = cells.take index ++ [byte] := by
  rw [List.take_add_one, List.take_set, List.set_eq_of_length_le (List.length_take_le _ _), List.getElem?_set_self within]
  rfl

theorem getU16Be_take (bytes : List U8) : getU16Be (bytes.take 2) = getU16Be bytes := by
  match bytes with
  | [] | [_] | _ :: _ :: _ => rfl

theorem storeByte_some {parser : ParserStorage} {index : Nat} (byte : U8) (within : index < maxFrameSize) :
    ∃ cells : Bytes maxFrameSize, parser.storeByte index byte = some { parser with buffer := cells } ∧
      cells.1.take (index + 1) = parser.buffer.1.take index ++ [byte] := by
  refine ⟨_, if_pos within, take_set byte ?_⟩
  rw [parser.buffer.2]
  exact within

def Shows (pushed : ParserResult × Parser) (result : ParserResult × ParserStorage) : Prop :=
  result.1 = pushed.1 ∧ result.2.view = pushed.2 ∧ result.2.index ≤ maxFrameSize

theorem finish_shows {parser : ParserStorage} (complete : parser.expectedSize ≤ parser.index) :
    Shows (parserFinish parser.view) parser.finish := by
  have whole : parser.view.buffer.take parser.view.expectedSize = parser.buffer.1.take parser.expectedSize := by
    change (parser.buffer.1.take parser.index).take parser.expectedSize = _
    rw [List.take_take, Nat.min_eq_left complete]
  unfold finish parserFinish
  rw [whole]
  cases protocolDecode (parser.buffer.1.take parser.expectedSize) with
  | ok frame => exact ⟨rfl, rfl, Nat.zero_le _⟩
  | error result =>
    dsimp only
    by_cases corrupt : result = .errorCrc
    · rw [if_pos corrupt, if_pos corrupt]
      exact ⟨rfl, rfl, Nat.zero_le _⟩
    · rw [if_neg corrupt, if_neg corrupt]
      exact ⟨rfl, rfl, Nat.zero_le _⟩

theorem collect_shows {parser : ParserStorage} (within : parser.index ≤ maxFrameSize) :
    Shows (parserContinue parser.view) parser.collect := by
  have length : parser.view.buffer.length = parser.index := by
    change (parser.buffer.1.take parser.index).length = _
    rw [List.length_take, parser.buffer.2, Nat.min_eq_left within]
  unfold collect parserContinue
  rw [length]
  change Shows (if parser.expectedSize = 0 ∨ parser.index < parser.expectedSize then _ else _) _
  by_cases waiting : parser.expectedSize = 0 ∨ parser.index < parser.expectedSize
  · rw [if_pos waiting, if_pos waiting]
    exact ⟨rfl, rfl, within⟩
  · rw [if_neg waiting, if_neg waiting]
    exact finish_shows (by omega)

theorem pushByte_shows {parser : ParserStorage} {candidate : List U8} (holds : parser.view.Holds candidate)
    (within : parser.index ≤ maxFrameSize) (byte : U8) :
    ∃ result, parser.pushByte byte = some result ∧ Shows (parserPushByte parser.view byte) result := by
  have size := parser.buffer.2
  have room := holds.bounds.1
  have length : parser.view.buffer.length = parser.index := by
    change (parser.buffer.1.take parser.index).length = _
    rw [List.length_take, parser.buffer.2, Nat.min_eq_left within]
  rw [length] at room
  cases state : parser.state with
  | waitMagic0 =>
    have shown : parser.view.state = .waitMagic0 := state
    rw [pushByte, state, parserPushByte, shown]
    dsimp only
    by_cases first : byte = magic0
    · obtain ⟨cells, stored, taken⟩ := parser.storeByte_some byte (by decide : 0 < maxFrameSize)
      rw [if_pos first, if_pos first, stored]
      refine ⟨_, rfl, rfl, ?_, (by decide : 1 ≤ maxFrameSize)⟩
      simp only [view, taken]
      rfl
    · rw [if_neg first, if_neg first]
      exact ⟨_, rfl, rfl, rfl, within⟩
  | waitMagic1 =>
    have shown : parser.view.state = .waitMagic1 := state
    have one : parser.index = 1 := by
      have waiting := holds.state
      rw [shown, ← holds.buffer] at waiting
      cases buffer : parser.view.buffer with
      | nil =>
        rw [buffer] at waiting
        cases waiting
      | cons head tail =>
        rw [buffer] at waiting length
        cases tail with
        | nil => exact length.symm
        | cons second tail => cases waiting
    rw [pushByte, state, parserPushByte, shown]
    dsimp only
    by_cases second : byte = magic1
    · obtain ⟨cells, stored, taken⟩ := parser.storeByte_some byte (by decide : 1 < maxFrameSize)
      rw [if_pos second, if_pos second, stored]
      refine ⟨_, rfl, rfl, ?_, (by decide : 2 ≤ maxFrameSize)⟩
      simp only [view, taken, one]
    · rw [if_neg second, if_neg second]
      by_cases first : byte = magic0
      · obtain ⟨cells, stored, taken⟩ := parser.storeByte_some byte (by decide : 0 < maxFrameSize)
        rw [if_pos first, if_pos first, stored]
        refine ⟨_, rfl, rfl, ?_, (by decide : 1 ≤ maxFrameSize)⟩
        simp only [view, taken, state]
        rfl
      · rw [if_neg first, if_neg first]
        exact ⟨_, rfl, rfl, rfl, Nat.zero_le _⟩
  | readFrame =>
    have shown : parser.view.state = .readFrame := state
    obtain ⟨cells, stored, taken⟩ := parser.storeByte_some byte room
    rw [pushByte, state, parserPushByte, shown]
    dsimp only
    rw [length, if_neg (by omega), if_neg (by omega), stored]
    refine ⟨_, rfl, ?_⟩
    dsimp only
    have grown : (parser.view.buffer ++ [byte]).length = parser.index + 1 := by
      rw [List.length_append, length, List.length_singleton]
    have field (long : parser.index + 1 = headerSize) :
        getU16Be ((parser.view.buffer ++ [byte]).drop 10) = getU16Be (cells.1.drop 10) := by
      change getU16Be ((parser.buffer.1.take parser.index ++ [byte]).drop 10) = _
      rw [← taken, long, headerSize, List.drop_take]
      exact getU16Be_take _
    -- Both parsers go on from the same bytes.
    have continued (expected : Nat) :
        Shows (parserContinue { parser.view with
            state := .readFrame, buffer := parser.view.buffer ++ [byte], expectedSize := expected })
          (collect { parser with buffer := cells, index := parser.index + 1, expectedSize := expected }) := by
      have shows := @collect_shows { parser with buffer := cells, index := parser.index + 1, expectedSize := expected } room
      simp only [view, taken] at shows
      rw [← state]
      exact shows
    rw [grown]
    by_cases header : parser.index + 1 = headerSize
    · rw [if_pos header, if_pos header, field header]
      by_cases large : (getU16Be (cells.1.drop 10)).toNat > maxPayloadSize
      · rw [if_pos large, if_pos large]
        exact ⟨rfl, rfl, Nat.zero_le _⟩
      · rw [if_neg large, if_neg large]
        exact continued _
    · rw [if_neg header, if_neg header]
      exact continued parser.expectedSize

theorem after_shows {parser : ParserStorage} {candidate : List U8} (holds : parser.view.Holds candidate)
    (within : parser.index ≤ maxFrameSize) (stream : List U8) :
    ∃ final, parser.after stream = some final ∧ final.view = parser.view.after stream ∧ final.index ≤ maxFrameSize := by
  induction stream generalizing parser candidate with
  | nil => exact ⟨parser, rfl, rfl, within⟩
  | cons byte stream ih =>
    obtain ⟨result, pushed, same, shown, bounded⟩ := pushByte_shows holds within byte
    obtain ⟨next, moved, left⟩ := parserPushByte_pushed holds byte
    rw [← shown] at left
    obtain ⟨final, run, view, index⟩ := ih left bounded
    refine ⟨final, ?_, ?_, index⟩
    · rw [after, pushed]
      exact run
    · rw [view, shown]
      rfl

end ParserStorage

/-- Sequences of frames are delivered exactly, every delivery is the end of its stream, and no byte leaves the array. -/
theorem parser_exact :
    (∀ frames : List Frame, (∀ frame ∈ frames, frame.Encodable) →
      parserInit.results (wires frames) = frames.flatMap Frame.results) ∧
    ∀ (buffer : Bytes maxFrameSize) (stream : List U8),
      ∃ parser, (ParserStorage.init buffer).after stream = some parser ∧
        parser.view = parserInit.after stream ∧ parser.index ≤ 272 ∧
        (parser.expectedSize = 0 ∨ 16 ≤ parser.expectedSize ∧ parser.expectedSize ≤ 272) ∧
        ∀ byte, ∃ result next, parser.pushByte byte = some (result, next) ∧
          ∀ frame, result = .frameReady frame → frame.Encodable ∧ frame.wire <:+ stream ++ [byte] := by
  refine ⟨?_, ?_⟩
  · intro frames encodable
    exact (Parser.results_wires encodable parserInit_holds).1
  · intro buffer stream
    obtain ⟨parser, run, view, index⟩ := @ParserStorage.after_shows (.init buffer) [] parserInit_holds (Nat.zero_le _) stream
    change parser.view = parserInit.after stream at view
    obtain ⟨candidate, holds, fed⟩ := Parser.holds_suffix stream
    rw [← view] at holds
    refine ⟨parser, run, view, index, holds.bounds.2, ?_⟩
    intro byte
    obtain ⟨⟨result, next⟩, pushed, same, shown, bounded⟩ := ParserStorage.pushByte_shows holds index byte
    refine ⟨result, next, pushed, ?_⟩
    rintro frame rfl
    rw [view] at same
    exact Parser.delivers_suffix same.symm

end Guardian.Protocol
