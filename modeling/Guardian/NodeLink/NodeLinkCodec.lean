import Guardian.Lib.Layout
import Guardian.Protocol.CrcBurst
import Guardian.Lib.ByteString

namespace Guardian.NodeLink

open Word

def nodeLinkVersion : U8 := 0x01
def nodeLinkMaxPayload : Nat := 64
def nodeLinkSupportedFlags : U8 := 0x00

def nodeLinkMessageHello : U8 := 0x01
def nodeLinkMessageChallenge : U8 := 0x02
def nodeLinkMessageResponse : U8 := 0x03
def nodeLinkMessageHeartbeat : U8 := 0x04
def nodeLinkMessageHealth : U8 := 0x05
def nodeLinkMessageSupervisionState : U8 := 0x06
def nodeLinkMessageError : U8 := 0x7F

def nodeStateFault : U8 := 0x05

structure NodeLinkFrame where
  messageType : U8
  flags : U8
  nodeState : U8
  payloadLength : U16
  sequence : U32
  senderEpoch : U32
  senderNodeId : U32
  payload : Bytes 64
  deriving DecidableEq

def NodeLinkFrame.body (frame : NodeLinkFrame) : List U8 := frame.payload.1.take frame.payloadLength.toNat

theorem NodeLinkFrame.body_length {frame : NodeLinkFrame} (fits : frame.payloadLength.toNat ≤ nodeLinkMaxPayload) :
    frame.body.length = frame.payloadLength.toNat := by
  rw [NodeLinkFrame.body, List.length_take_of_le]
  rw [frame.payload.2]
  exact fits

open ByteString

def nodeLinkMagic0 : U8 := 0x47
def nodeLinkMagic1 : U8 := 0x4E
def nodeLinkHeaderSize : Nat := 20
def nodeLinkCrcSize : Nat := 4
def nodeLinkMaxFrame : Nat := nodeLinkHeaderSize + nodeLinkMaxPayload + nodeLinkCrcSize

inductive NodeLinkResult
  | ok
  | errorOutputTooSmall
  | errorFrameTooShort
  | errorMagic
  | errorVersion
  | errorMessageType
  | errorFlags
  | errorState
  | errorSequenceZero
  | errorPayloadTooLarge
  | errorLengthMismatch
  | errorCrc
  deriving DecidableEq, Repr

def nodeLinkValidMessageType (value : U8) : Prop :=
  value = nodeLinkMessageHello ∨ value = nodeLinkMessageChallenge ∨ value = nodeLinkMessageResponse ∨
    value = nodeLinkMessageHeartbeat ∨ value = nodeLinkMessageHealth ∨ value = nodeLinkMessageSupervisionState ∨
    value = nodeLinkMessageError

instance (value : U8) : Decidable (nodeLinkValidMessageType value) := inferInstanceAs (Decidable (_ ∨ _))

def nodeLinkValidState (value : U8) : Prop := value ≤ nodeStateFault

instance (value : U8) : Decidable (nodeLinkValidState value) := inferInstanceAs (Decidable (_ ≤ _))

def nodeLinkCrc32Bit (crc : U32) : U32 := (crc >>> 1) ^^^ (0xEDB88320 &&& (0 - (crc &&& 1)))

def nodeLinkCrc32Byte (crc : U32) (byte : U8) : U32 := nodeLinkCrc32Bit^[8] (crc ^^^ byte.setWidth 32)

def nodeLinkCrc32 (data : List U8) : U32 := ~~~data.foldl nodeLinkCrc32Byte 0xFFFFFFFF

def NodeLinkFrame.covered (frame : NodeLinkFrame) : List U8 :=
  [nodeLinkMagic0, nodeLinkMagic1, nodeLinkVersion, frame.messageType, frame.flags, frame.nodeState] ++
    putU16Be frame.payloadLength ++ putU32Be frame.sequence ++ putU32Be frame.senderEpoch ++
    putU32Be frame.senderNodeId ++ frame.body

def NodeLinkFrame.wire (frame : NodeLinkFrame) : List U8 := frame.covered ++ putU32Be (nodeLinkCrc32 frame.covered)

/-- The two enumerations are bytes in the frame, so the encoder's casts change nothing. -/
def nodeLinkEncode (frame : NodeLinkFrame) (capacity : Nat) : Except NodeLinkResult (List U8) :=
  if ¬ nodeLinkValidMessageType frame.messageType then .error .errorMessageType
  else if frame.flags ≠ nodeLinkSupportedFlags then .error .errorFlags
  else if ¬ nodeLinkValidState frame.nodeState then .error .errorState
  else if frame.sequence = 0 then .error .errorSequenceZero
  else if frame.payloadLength.toNat > nodeLinkMaxPayload then .error .errorPayloadTooLarge
  else if capacity < nodeLinkHeaderSize + frame.payloadLength.toNat + nodeLinkCrcSize then .error .errorOutputTooSmall
  else .ok frame.wire

/-- `frame` is what the output frame held before. -/
def nodeLinkDecode (input : List U8) (frame : NodeLinkFrame) : NodeLinkResult × NodeLinkFrame :=
  if input.length < nodeLinkHeaderSize + nodeLinkCrcSize then (.errorFrameTooShort, frame)
  else if input.getD 0 0 ≠ nodeLinkMagic0 ∨ input.getD 1 0 ≠ nodeLinkMagic1 then (.errorMagic, frame)
  else if input.getD 2 0 ≠ nodeLinkVersion then (.errorVersion, frame)
  else if ¬ nodeLinkValidMessageType (input.getD 3 0) then (.errorMessageType, frame)
  else if input.getD 4 0 ≠ nodeLinkSupportedFlags then (.errorFlags, frame)
  else if ¬ nodeLinkValidState (input.getD 5 0) then (.errorState, frame)
  else
    let payloadLength := getU16Be (input.drop 6)
    if payloadLength.toNat > nodeLinkMaxPayload then (.errorPayloadTooLarge, frame)
    else if input.length ≠ nodeLinkHeaderSize + payloadLength.toNat + nodeLinkCrcSize then (.errorLengthMismatch, frame)
    else if getU32Be (input.drop 8) = 0 then (.errorSequenceZero, frame)
    else if getU32Be (input.drop (nodeLinkHeaderSize + payloadLength.toNat)) ≠
        nodeLinkCrc32 (input.take (nodeLinkHeaderSize + payloadLength.toNat)) then (.errorCrc, frame)
    else
      (.ok,
        { messageType := input.getD 3 0
          flags := input.getD 4 0
          nodeState := input.getD 5 0
          payloadLength
          sequence := getU32Be (input.drop 8)
          senderEpoch := getU32Be (input.drop 12)
          senderNodeId := getU32Be (input.drop 16)
          payload := padded 64 (slice nodeLinkHeaderSize payloadLength.toNat input) })

section Checksum

theorem nodeLinkCrc32Bit_step (crc : U32) : nodeLinkCrc32Bit crc = Protocol.crc32Bit crc := by
  have low : crc &&& 1 = (BitVec.ofBool (crc.getLsbD 0)).setWidth 32 := BitVec.and_one_eq_setWidth_ofBool_getLsbD
  rw [nodeLinkCrc32Bit, Protocol.crc32Bit, low]
  cases crc.getLsbD 0 <;> simp

theorem nodeLinkCrc32_eq (data : List U8) : nodeLinkCrc32 data = Protocol.crc32 data := by
  have bits : nodeLinkCrc32Bit = Protocol.crc32Bit := by
    funext crc
    exact nodeLinkCrc32Bit_step crc
  have bytes : nodeLinkCrc32Byte = Protocol.crc32Byte := by
    funext crc byte
    rw [nodeLinkCrc32Byte, bits]
    rfl
  rw [nodeLinkCrc32, Protocol.crc32, bytes, ← BitVec.xor_allOnes]
  rfl

end Checksum

structure NodeLinkFrame.Encodable (frame : NodeLinkFrame) : Prop where
  type : nodeLinkValidMessageType frame.messageType
  flags : frame.flags = nodeLinkSupportedFlags
  state : nodeLinkValidState frame.nodeState
  sequence : frame.sequence ≠ 0
  fits : frame.payloadLength.toNat ≤ nodeLinkMaxPayload

theorem NodeLinkFrame.covered_length {frame : NodeLinkFrame} (fits : frame.payloadLength.toNat ≤ nodeLinkMaxPayload) :
    frame.covered.length = nodeLinkHeaderSize + frame.payloadLength.toNat := by
  simp only [NodeLinkFrame.covered, List.length_append, List.length_cons, List.length_nil, putU16Be_length,
    putU32Be_length, NodeLinkFrame.body_length fits, nodeLinkHeaderSize]

theorem NodeLinkFrame.wire_length {frame : NodeLinkFrame} (fits : frame.payloadLength.toNat ≤ nodeLinkMaxPayload) :
    frame.wire.length = nodeLinkHeaderSize + frame.payloadLength.toNat + nodeLinkCrcSize := by
  rw [NodeLinkFrame.wire, List.length_append, NodeLinkFrame.covered_length fits, putU32Be_length, nodeLinkCrcSize]

theorem nodeLinkEncode_ok {frame : NodeLinkFrame} {capacity : Nat} {bytes : List U8} :
    nodeLinkEncode frame capacity = .ok bytes ↔
      frame.Encodable ∧ frame.wire.length ≤ capacity ∧ frame.wire = bytes := by
  constructor
  · intro encoded
    unfold nodeLinkEncode at encoded
    split_ifs at encoded with type flags state sequence large small
    cases encoded
    have fits : frame.payloadLength.toNat ≤ nodeLinkMaxPayload := by omega
    refine ⟨⟨type, not_not.mp flags, state, sequence, fits⟩, ?_, rfl⟩
    rw [NodeLinkFrame.wire_length fits]
    omega
  · rintro ⟨encodable, room, rfl⟩
    have fits := encodable.fits
    rw [NodeLinkFrame.wire_length fits] at room
    rw [nodeLinkEncode, if_neg (not_not.mpr encodable.type), if_neg (not_not.mpr encodable.flags),
      if_neg (not_not.mpr encodable.state), if_neg encodable.sequence, if_neg (by omega), if_neg (by omega)]

theorem nodeLinkDecode_wire {frame : NodeLinkFrame} (encodable : frame.Encodable) (previous : NodeLinkFrame) :
    nodeLinkDecode frame.wire previous = (.ok, { frame with payload := padded 64 frame.body }) := by
  have fits := encodable.fits
  have length := NodeLinkFrame.wire_length fits
  have covered := NodeLinkFrame.covered_length fits
  have size : getU16Be (frame.wire.drop 6) = frame.payloadLength := by
    rw [NodeLinkFrame.wire, NodeLinkFrame.covered]
    simp only [List.append_assoc]
    rw [List.drop_left' (by rfl), getU16Be_put]
  have words : getU32Be (frame.wire.drop 8) = frame.sequence ∧ getU32Be (frame.wire.drop 12) = frame.senderEpoch ∧
      getU32Be (frame.wire.drop 16) = frame.senderNodeId := by
    simp only [NodeLinkFrame.wire, NodeLinkFrame.covered, List.append_assoc]
    refine ⟨?_, ?_, ?_⟩
    · exact getU32Be_put frame.sequence _
    · exact getU32Be_put frame.senderEpoch _
    · exact getU32Be_put frame.senderNodeId _
  have payload : slice nodeLinkHeaderSize frame.payloadLength.toNat frame.wire = frame.body := by
    have cut : frame.wire.drop nodeLinkHeaderSize = frame.body ++ putU32Be (nodeLinkCrc32 frame.covered) := rfl
    rw [slice, cut, List.take_left' (NodeLinkFrame.body_length fits)]
  have checksum : getU32Be (frame.wire.drop (nodeLinkHeaderSize + frame.payloadLength.toNat)) =
      nodeLinkCrc32 (frame.wire.take (nodeLinkHeaderSize + frame.payloadLength.toNat)) := by
    rw [NodeLinkFrame.wire, List.drop_left' covered, List.take_left' covered]
    exact getU32Be_put _ []
  have header : frame.wire.getD 3 0 = frame.messageType ∧ frame.wire.getD 4 0 = frame.flags ∧
      frame.wire.getD 5 0 = frame.nodeState := ⟨rfl, rfl, rfl⟩
  simp only [nodeLinkDecode, size, words, payload, header]
  rw [if_neg (by omega), if_neg (by exact not_or.mpr ⟨not_not.mpr rfl, not_not.mpr rfl⟩), if_neg (by exact not_not.mpr rfl),
    if_neg (not_not.mpr encodable.type), if_neg (not_not.mpr encodable.flags), if_neg (not_not.mpr encodable.state),
    if_neg (by omega), if_neg (not_not.mpr length), if_neg encodable.sequence, if_neg (not_not.mpr checksum)]

structure NodeLinkAccepts (input : List U8) : Prop where
  long : ¬ input.length < nodeLinkHeaderSize + nodeLinkCrcSize
  magic : input.getD 0 0 = nodeLinkMagic0 ∧ input.getD 1 0 = nodeLinkMagic1
  version : input.getD 2 0 = nodeLinkVersion
  type : nodeLinkValidMessageType (input.getD 3 0)
  flags : input.getD 4 0 = nodeLinkSupportedFlags
  state : nodeLinkValidState (input.getD 5 0)
  fits : ¬ (getU16Be (input.drop 6)).toNat > nodeLinkMaxPayload
  length : input.length = nodeLinkHeaderSize + (getU16Be (input.drop 6)).toNat + nodeLinkCrcSize
  sequence : getU32Be (input.drop 8) ≠ 0
  checksum : getU32Be (input.drop (nodeLinkHeaderSize + (getU16Be (input.drop 6)).toNat)) =
    nodeLinkCrc32 (input.take (nodeLinkHeaderSize + (getU16Be (input.drop 6)).toNat))

theorem nodeLinkDecode_cases (input : List U8) (previous : NodeLinkFrame) :
    ((nodeLinkDecode input previous).1 ≠ .ok ∧ (nodeLinkDecode input previous).2 = previous) ∨
    (NodeLinkAccepts input ∧ nodeLinkDecode input previous =
      (.ok, ⟨input.getD 3 0, input.getD 4 0, input.getD 5 0, getU16Be (input.drop 6), getU32Be (input.drop 8),
        getU32Be (input.drop 12), getU32Be (input.drop 16),
        padded 64 (slice nodeLinkHeaderSize (getU16Be (input.drop 6)).toNat input)⟩)) := by
  have refused {error : NodeLinkResult} (failure : error ≠ .ok) (rest : Prop) :
      ((error, previous).1 ≠ .ok ∧ (error, previous).2 = previous) ∨ rest := Or.inl ⟨failure, rfl⟩
  unfold nodeLinkDecode
  by_cases short : input.length < nodeLinkHeaderSize + nodeLinkCrcSize
  · rw [if_pos short]
    exact refused (by decide) _
  rw [if_neg short]
  by_cases magic : input.getD 0 0 ≠ nodeLinkMagic0 ∨ input.getD 1 0 ≠ nodeLinkMagic1
  · rw [if_pos magic]
    exact refused (by decide) _
  rw [if_neg magic]
  by_cases version : input.getD 2 0 ≠ nodeLinkVersion
  · rw [if_pos version]
    exact refused (by decide) _
  rw [if_neg version]
  by_cases type : ¬ nodeLinkValidMessageType (input.getD 3 0)
  · rw [if_pos type]
    exact refused (by decide) _
  rw [if_neg type]
  by_cases flags : input.getD 4 0 ≠ nodeLinkSupportedFlags
  · rw [if_pos flags]
    exact refused (by decide) _
  rw [if_neg flags]
  by_cases state : ¬ nodeLinkValidState (input.getD 5 0)
  · rw [if_pos state]
    exact refused (by decide) _
  rw [if_neg state]
  dsimp only
  by_cases large : (getU16Be (input.drop 6)).toNat > nodeLinkMaxPayload
  · rw [if_pos large]
    exact refused (by decide) _
  rw [if_neg large]
  by_cases mismatch : input.length ≠ nodeLinkHeaderSize + (getU16Be (input.drop 6)).toNat + nodeLinkCrcSize
  · rw [if_pos mismatch]
    exact refused (by decide) _
  rw [if_neg mismatch]
  by_cases sequence : getU32Be (input.drop 8) = 0
  · rw [if_pos sequence]
    exact refused (by decide) _
  rw [if_neg sequence]
  by_cases checksum : getU32Be (input.drop (nodeLinkHeaderSize + (getU16Be (input.drop 6)).toNat)) ≠
      nodeLinkCrc32 (input.take (nodeLinkHeaderSize + (getU16Be (input.drop 6)).toNat))
  · rw [if_pos checksum]
    exact refused (by decide) _
  rw [if_neg checksum]
  simp only [not_or, not_not] at magic version type flags state mismatch checksum
  exact Or.inr ⟨⟨short, magic, version, type, flags, state, large, mismatch, sequence, checksum⟩, rfl⟩

theorem nodeLinkDecode_ok {input : List U8} {previous frame : NodeLinkFrame}
    (decoded : nodeLinkDecode input previous = (.ok, frame)) : frame.Encodable ∧ frame.wire = input := by
  rcases nodeLinkDecode_cases input previous with ⟨refused, -⟩ | ⟨accepts, read⟩
  · exact absurd (congrArg Prod.fst decoded) refused
  rw [read] at decoded
  replace decoded := (Prod.mk.inj decoded).2
  obtain ⟨short, magic, version, type, flags, state, large, mismatch, sequence, checksum⟩ := accepts
  rw [nodeLinkHeaderSize, nodeLinkCrcSize] at mismatch
  have size : frame.payloadLength = getU16Be (input.drop 6) := by rw [← decoded]
  rw [← size] at large mismatch checksum
  have fits : frame.payloadLength.toNat ≤ nodeLinkMaxPayload := by omega
  have body : frame.body = (input.drop 20).take frame.payloadLength.toNat := by
    have length : (slice nodeLinkHeaderSize frame.payloadLength.toNat input).length = frame.payloadLength.toNat :=
      slice_length _ _ _ (by rw [nodeLinkHeaderSize]; omega)
    have cells : frame.payload = padded 64 (slice nodeLinkHeaderSize frame.payloadLength.toNat input) := by
      rw [size, ← decoded]
    rw [NodeLinkFrame.body, cells, padded_short (by rw [length]; exact fits), List.take_left' length]
    rfl
  have start : [nodeLinkMagic0, nodeLinkMagic1, nodeLinkVersion, frame.messageType, frame.flags, frame.nodeState] =
      input.take 6 := by
    rw [take_getD 0 (by omega), ← magic.1, ← magic.2, ← version, ← decoded]
    rfl
  have words : putU32Be frame.sequence = (input.drop 8).take 4 ∧ putU32Be frame.senderEpoch = (input.drop 12).take 4 ∧
      putU32Be frame.senderNodeId = (input.drop 16).take 4 := by
    rw [← decoded]
    refine ⟨putU32Be_getU32Be ?_, putU32Be_getU32Be ?_, putU32Be_getU32Be ?_⟩
    all_goals
      rw [List.length_drop]
      omega
  have length : putU16Be frame.payloadLength = (input.drop 6).take 2 := by
    rw [size, putU16Be_getU16Be (by rw [List.length_drop]; omega)]
  have covered : frame.covered = input.take (20 + frame.payloadLength.toNat) := by
    rw [NodeLinkFrame.covered, start, length, words.1, words.2.1, words.2.2, body, ← List.take_add, ← List.take_add,
      ← List.take_add, ← List.take_add, ← List.take_add]
  have trailer : putU32Be (nodeLinkCrc32 frame.covered) = input.drop (20 + frame.payloadLength.toNat) := by
    rw [covered, ← nodeLinkHeaderSize, ← checksum, putU32Be_getU32Be, List.take_of_length_le]
    all_goals
      rw [List.length_drop, nodeLinkHeaderSize]
      omega
  constructor
  · rw [← decoded]
    exact ⟨type, flags, state, sequence, by rw [← size]; exact fits⟩
  · rw [NodeLinkFrame.wire, trailer, covered, List.take_append_drop]

theorem nodeLink_codec :
    (∀ frame capacity bytes previous, nodeLinkEncode frame capacity = .ok bytes →
      nodeLinkDecode bytes previous = (.ok, { frame with payload := padded 64 frame.body })) ∧
    (∀ bytes previous frame capacity, nodeLinkDecode bytes previous = (.ok, frame) → bytes.length ≤ capacity →
      nodeLinkEncode frame capacity = .ok bytes) ∧
    (∀ bytes previous, (nodeLinkDecode bytes previous).1 ≠ .ok → (nodeLinkDecode bytes previous).2 = previous) ∧
    ∀ data, nodeLinkCrc32 data = Protocol.crc32 data := by
  refine ⟨?_, ?_, ?_, nodeLinkCrc32_eq⟩
  · intro frame capacity bytes previous encoded
    obtain ⟨encodable, _, rfl⟩ := nodeLinkEncode_ok.mp encoded
    exact nodeLinkDecode_wire encodable previous
  · intro bytes previous frame capacity decoded room
    obtain ⟨encodable, rfl⟩ := nodeLinkDecode_ok decoded
    exact nodeLinkEncode_ok.mpr ⟨encodable, room, rfl⟩
  · intro bytes previous refused
    rcases nodeLinkDecode_cases bytes previous with ⟨-, kept⟩ | ⟨-, read⟩
    · exact kept
    · exact absurd (congrArg Prod.fst read) refused

/-- A heartbeat with one byte of payload. -/
theorem nodeLink_codec_example :
    let frame : NodeLinkFrame := ⟨nodeLinkMessageHeartbeat, 0, 0x02, 1, 7, 1, 0x0401, padded 64 [0xA5, 0xFF]⟩
    nodeLinkDecode frame.wire frame = (.ok, { frame with payload := padded 64 [0xA5] }) := by
  intro frame
  exact nodeLink_codec.1 frame nodeLinkMaxFrame frame.wire frame (nodeLinkEncode_ok.mpr
    ⟨⟨by decide, rfl, by decide, by decide, by decide⟩, by decide, rfl⟩)

end Guardian.NodeLink
