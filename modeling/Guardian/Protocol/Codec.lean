import Guardian.Protocol.Frame

namespace Guardian.Protocol

open Word ByteString

inductive WireGrammar : List U8 → Prop
  | frame (type command : U8) (sequence : Bytes 4) (high low : U8) (payload : List U8) (crc : Bytes 4)
      (published : 0x01 ≤ type ∧ type ≤ 0x05) (bounded : payload.length ≤ 256)
      (declared : high.toNat * 256 + low.toNat = payload.length)
      (checked : crc.1 =
        putU32Be (crc32 ([0x47, 0x46, 0x01, type, command, 0x00] ++ sequence.1 ++ [high, low] ++ payload))) :
      WireGrammar ([0x47, 0x46, 0x01, type, command, 0x00] ++ sequence.1 ++ [high, low] ++ payload ++ crc.1)

theorem header_split {input : List U8} (long : headerSize ≤ input.length) :
    ∃ m0 m1 version type command flags s0 s1 s2 s3 high low rest,
      input = m0 :: m1 :: version :: type :: command :: flags :: s0 :: s1 :: s2 :: s3 :: high :: low :: rest := by
  match input, long with
  | m0 :: m1 :: version :: type :: command :: flags :: s0 :: s1 :: s2 :: s3 :: high :: low :: rest, _ =>
    exact ⟨m0, m1, version, type, command, flags, s0, s1, s2, s3, high, low, rest, rfl⟩

theorem crc_split {crc : List U8} (size : crc.length = 4) : ∃ c0 c1 c2 c3, crc = [c0, c1, c2, c3] := by
  match crc, size with
  | [c0, c1, c2, c3], _ => exact ⟨c0, c1, c2, c3, rfl⟩

theorem getU16Be_toNat (high low : U8) (rest : List U8) :
    (getU16Be (high :: low :: rest)).toNat = high.toNat * 256 + low.toNat := by
  have top := high.isLt
  have bottom : low.toNat < 2 ^ 8 := low.isLt
  have joined := Nat.shiftLeft_add_eq_or_of_lt bottom high.toNat
  simp only [getU16Be, BitVec.toNat_or, BitVec.toNat_shiftLeft, BitVec.toNat_setWidth]
  rw [Nat.mod_eq_of_lt (by omega : high.toNat < 2 ^ 16), Nat.mod_eq_of_lt (by omega : low.toNat < 2 ^ 16),
    Nat.mod_eq_of_lt (by rw [Nat.shiftLeft_eq]; omega), ← joined, Nat.shiftLeft_eq]

theorem MessageType.code_ofCode {code : U8} {type : MessageType} (known : MessageType.ofCode code = some type) :
    type.code = code := by
  unfold MessageType.ofCode at known
  split_ifs at known with request response event error telemetry
  all_goals
    cases known
    symm
    assumption

theorem protocolDecode_ok {input : List U8} {frame : Frame} (decoded : protocolDecode input = .ok frame) :
    frame.Encodable ∧ frame.wire = input := by
  unfold protocolDecode at decoded
  by_cases short : input.length < headerSize + crcSize
  · rw [if_pos short] at decoded
    cases decoded
  rw [if_neg short] at decoded
  have long : headerSize ≤ input.length := by omega
  obtain ⟨m0, m1, version, type, command, flags, s0, s1, s2, s3, high, low, rest, rfl⟩ := header_split long
  simp only [List.getD_cons_zero, List.getD_cons_succ] at decoded
  by_cases first : m0 ≠ magic0
  · rw [if_pos first] at decoded
    cases decoded
  rw [if_neg first] at decoded
  by_cases second : m1 ≠ magic1
  · rw [if_pos second] at decoded
    cases decoded
  rw [if_neg second] at decoded
  by_cases other : version ≠ protocolVersion
  · rw [if_pos other] at decoded
    cases decoded
  rw [if_neg other] at decoded
  cases known : MessageType.ofCode type with
  | none =>
    rw [known] at decoded
    cases decoded
  | some messageType =>
    rw [known] at decoded
    simp only [List.drop_succ_cons, List.drop_zero] at decoded
    split_ifs at decoded with reserved large mismatch corrupt
    cases decoded
    rw [not_not] at first second other reserved mismatch corrupt
    subst first second other reserved
    generalize counted : (getU16Be (high :: low :: rest)).toNat = size at *
    have total : rest.length = size + 4 := by
      simp only [List.length_cons, headerSize, crcSize] at mismatch
      omega
    obtain ⟨payload, trailer, rfl, length⟩ : ∃ payload trailer, rest = payload ++ trailer ∧ payload.length = size :=
      ⟨rest.take size, rest.drop size, (List.take_append_drop size rest).symm, by rw [List.length_take]; omega⟩
    have four : trailer.length = 4 := by
      rw [List.length_append] at total
      omega
    obtain ⟨c0, c1, c2, c3, rfl⟩ := crc_split four
    generalize shaped : magic0 :: magic1 :: protocolVersion :: type :: command :: supportedFlags :: s0 :: s1 :: s2 :: s3 ::
      high :: low :: payload = body at *
    have joined : magic0 :: magic1 :: protocolVersion :: type :: command :: supportedFlags :: s0 :: s1 :: s2 :: s3 ::
        high :: low :: (payload ++ [c0, c1, c2, c3]) = body ++ [c0, c1, c2, c3] := by
      rw [← shaped]
      rfl
    have size_body : body.length = headerSize + size := by
      rw [← shaped, ← length, headerSize]
      simp only [List.length_cons]
      omega
    have taken : slice headerSize size (body ++ [c0, c1, c2, c3]) = payload := by
      rw [← joined]
      exact List.take_left' length
    rw [joined] at corrupt ⊢
    rw [List.drop_left' size_body, List.take_left' size_body] at corrupt
    rw [taken]
    have small : payload.length ≤ maxPayloadSize := by omega
    have counter : BitVec.ofNat 16 payload.length = getU16Be (high :: low :: (payload ++ [c0, c1, c2, c3])) := by
      apply BitVec.eq_of_toNat_eq
      rw [counted, length, BitVec.toNat_ofNat]
      unfold maxPayloadSize at small
      omega
    have code := MessageType.code_ofCode known
    subst shaped
    refine ⟨⟨rfl, small⟩, ?_⟩
    have same : Frame.body ⟨messageType, command, supportedFlags,
        getU32Be (s0 :: s1 :: s2 :: s3 :: high :: low :: (payload ++ [c0, c1, c2, c3])), payload⟩ =
        magic0 :: magic1 :: protocolVersion :: type :: command :: supportedFlags :: s0 :: s1 :: s2 :: s3 ::
          high :: low :: payload := by
      rw [Frame.body, putU32Be_get, Frame.payloadLength, counter, putU16Be_get, code]
      rfl
    change Frame.body _ ++ putU32Be (crc32 (Frame.body _)) = _
    rw [same, ← corrupt, putU32Be_get]

theorem protocolDecode_error (input : List U8) : protocolDecode input ≠ .error .ok := by
  have refused : ∀ {condition : Prop} [Decidable condition] {result : ProtocolResult} {rest : Except ProtocolResult Frame},
      result ≠ .ok → rest ≠ .error .ok → (if condition then .error result else rest) ≠ .error .ok := by
    intro condition _ result rest failure remaining
    by_cases holds : condition
    · rw [if_pos holds]
      intro same
      exact failure (Except.error.inj same)
    · rw [if_neg holds]
      exact remaining
  unfold protocolDecode
  apply refused (by decide)
  apply refused (by decide)
  apply refused (by decide)
  apply refused (by decide)
  cases MessageType.ofCode (input.getD 3 0) with
  | none =>
    intro same
    cases same
  | some type =>
    apply refused (by decide)
    apply refused (by decide)
    apply refused (by decide)
    apply refused (by decide)
    intro same
    cases same

theorem MessageType.ofCode_isSome (code : U8) :
    (∃ type, MessageType.ofCode code = some type) ↔ 0x01 ≤ code ∧ code ≤ 0x05 := by
  have all : ∀ code : U8, (MessageType.ofCode code).isSome = true ↔ 0x01 ≤ code ∧ code ≤ 0x05 := by decide
  rw [← all, Option.isSome_iff_exists]

theorem putU16Be_eq {high low : U8} {size : Nat} (declared : high.toNat * 256 + low.toNat = size) :
    putU16Be (BitVec.ofNat 16 size) = [high, low] := by
  have same : BitVec.ofNat 16 size = getU16Be [high, low] := by
    apply BitVec.eq_of_toNat_eq
    rw [getU16Be_toNat, declared, BitVec.toNat_ofNat]
    have top := high.isLt
    have bottom := low.isLt
    omega
  rw [same, putU16Be_get]

theorem wireGrammar_iff (input : List U8) :
    WireGrammar input ↔ ∃ frame : Frame, frame.Encodable ∧ frame.wire = input := by
  constructor
  · intro grammar
    cases grammar with
    | frame type command sequence high low payload crc published bounded declared checked =>
      obtain ⟨messageType, known⟩ := (MessageType.ofCode_isSome type).mpr published
      obtain ⟨s0, s1, s2, s3, four⟩ := crc_split sequence.2
      refine ⟨⟨messageType, command, supportedFlags, getU32Be sequence.1, payload⟩, ⟨rfl, bounded⟩, ?_⟩
      have same : Frame.body ⟨messageType, command, supportedFlags, getU32Be sequence.1, payload⟩ =
          [0x47, 0x46, 0x01, type, command, 0x00] ++ sequence.1 ++ [high, low] ++ payload := by
        rw [Frame.body, Frame.payloadLength, putU16Be_eq declared, four, putU32Be_get, MessageType.code_ofCode known]
        rfl
      rw [Frame.wire, same, checked]
  · rintro ⟨frame, ⟨flags, bounded⟩, rfl⟩
    have declared : ((frame.payloadLength >>> 8).setWidth 8 : U8).toNat * 256 +
        (frame.payloadLength.setWidth 8 : U8).toNat = frame.payload.length := by
      have value : getU16Be [(frame.payloadLength >>> 8).setWidth 8, frame.payloadLength.setWidth 8] =
          frame.payloadLength := getU16Be_put frame.payloadLength []
      rw [← getU16Be_toNat _ _ [], value, Frame.payloadLength, BitVec.toNat_ofNat]
      unfold maxPayloadSize at bounded
      omega
    have published := (MessageType.ofCode_isSome frame.messageType.code).mp ⟨_, MessageType.ofCode_code _⟩
    have grammar := WireGrammar.frame frame.messageType.code frame.command ⟨putU32Be frame.sequence, rfl⟩ _ _
      frame.payload ⟨_, putU32Be_length _⟩ published bounded declared rfl
    have same : frame.body = [0x47, 0x46, 0x01, frame.messageType.code, frame.command, 0x00] ++
        putU32Be frame.sequence ++ [(frame.payloadLength >>> 8).setWidth 8, frame.payloadLength.setWidth 8] ++
          frame.payload := by
      rw [Frame.body, flags]
      rfl
    rw [Frame.wire, same]
    exact grammar

theorem protocolDecode_iff (input : List U8) :
    (∃ frame, protocolDecode input = .ok frame) ↔ WireGrammar input := by
  rw [wireGrammar_iff]
  constructor
  · rintro ⟨frame, decoded⟩
    exact ⟨frame, protocolDecode_ok decoded⟩
  · rintro ⟨frame, encodable, rfl⟩
    exact ⟨frame, protocolDecode_wire encodable⟩

/-- A frame as it is stored, with its type in one byte and with its whole payload array. -/
structure FrameBuffer where
  messageType : U8
  command : U8
  flags : U8
  sequence : U32
  payloadLength : U16
  payload : Bytes 256
  deriving DecidableEq

def messageTypeIsValid (messageType : U8) : Bool :=
  if messageType < 0x01 then false else if messageType > 0x05 then false else true

theorem messageTypeIsValid_iff (code : U8) :
    messageTypeIsValid code = true ↔ ∃ type, MessageType.ofCode code = some type := by
  have all : ∀ code : U8, messageTypeIsValid code = true ↔ 0x01 ≤ code ∧ code ≤ 0x05 := by decide
  rw [all, MessageType.ofCode_isSome]

namespace FrameBuffer

/-- The first `payload_length` bytes of the payload array. -/
def meaningful (frame : FrameBuffer) : List U8 := frame.payload.1.take frame.payloadLength.toNat

def header (frame : FrameBuffer) : List U8 :=
  [magic0, magic1, protocolVersion, frame.messageType, frame.command, frame.flags] ++ putU32Be frame.sequence ++
    putU16Be frame.payloadLength

def encode (frame : FrameBuffer) (capacity : Nat) : Except ProtocolResult (List U8) :=
  if !messageTypeIsValid frame.messageType then .error .errorMessageType
  else if frame.flags ≠ supportedFlags then .error .errorFlags
  else if frame.payloadLength.toNat > maxPayloadSize then .error .errorPayloadTooLarge
  else if capacity < headerSize + frame.payloadLength.toNat + crcSize then .error .errorOutputTooSmall
  else .ok (frame.header ++ frame.meaningful ++ putU32Be (crc32 (frame.header ++ frame.meaningful)))

/-- `output` is the frame that the caller passes for the result. -/
def decode (input : List U8) (output : FrameBuffer) : ProtocolResult × FrameBuffer :=
  if input.length < headerSize + crcSize then (.errorFrameTooShort, output)
  else if input.getD 0 0 ≠ magic0 then (.errorMagic, output)
  else if input.getD 1 0 ≠ magic1 then (.errorMagic, output)
  else if input.getD 2 0 ≠ protocolVersion then (.errorVersion, output)
  else if !messageTypeIsValid (input.getD 3 0) then (.errorMessageType, output)
  else if input.getD 5 0 ≠ supportedFlags then (.errorFlags, output)
  else
    let payloadLength := getU16Be (input.drop 10)
    if payloadLength.toNat > maxPayloadSize then (.errorPayloadTooLarge, output)
    else if input.length ≠ headerSize + payloadLength.toNat + crcSize then (.errorLengthMismatch, output)
    else if getU32Be (input.drop (headerSize + payloadLength.toNat)) ≠
        crc32 (input.take (headerSize + payloadLength.toNat)) then (.errorCrc, output)
    else
      (.ok,
        { messageType := input.getD 3 0
          command := input.getD 4 0
          flags := input.getD 5 0
          sequence := getU32Be (input.drop 6)
          payloadLength
          payload := ⟨copied (slice headerSize payloadLength.toNat input) output.payload.1, by
            rw [copied_length, output.payload.2]⟩ })

def view (frame : FrameBuffer) (messageType : MessageType) : Frame :=
  ⟨messageType, frame.command, frame.flags, frame.sequence, frame.meaningful⟩

/-- A decoded frame, written over `output`. -/
def store (output : FrameBuffer) (frame : Frame) : FrameBuffer where
  messageType := frame.messageType.code
  command := frame.command
  flags := frame.flags
  sequence := frame.sequence
  payloadLength := frame.payloadLength
  payload := ⟨copied frame.payload output.payload.1, by rw [copied_length, output.payload.2]⟩

/-- Every header field and every meaningful payload byte is the same. -/
structure Agrees (left right : FrameBuffer) : Prop where
  messageType : left.messageType = right.messageType
  command : left.command = right.command
  flags : left.flags = right.flags
  sequence : left.sequence = right.sequence
  payloadLength : left.payloadLength = right.payloadLength
  payload : left.meaningful = right.meaningful

theorem decode_eq (input : List U8) (output : FrameBuffer) :
    decode input output = match protocolDecode input with
      | .ok frame => (.ok, output.store frame)
      | .error result => (result, output) := by
  unfold decode protocolDecode
  by_cases short : input.length < headerSize + crcSize
  · rw [if_pos short, if_pos short]
  rw [if_neg short, if_neg short]
  by_cases first : input.getD 0 0 ≠ magic0
  · rw [if_pos first, if_pos first]
  rw [if_neg first, if_neg first]
  by_cases second : input.getD 1 0 ≠ magic1
  · rw [if_pos second, if_pos second]
  rw [if_neg second, if_neg second]
  by_cases version : input.getD 2 0 ≠ protocolVersion
  · rw [if_pos version, if_pos version]
  rw [if_neg version, if_neg version]
  have valid := messageTypeIsValid_iff (input.getD 3 0)
  cases known : MessageType.ofCode (input.getD 3 0) with
  | none =>
    have refused : (!messageTypeIsValid (input.getD 3 0)) = true := by
      rw [Bool.not_eq_true', Bool.eq_false_iff, Ne, valid, known]
      rintro ⟨type, impossible⟩
      cases impossible
    rw [if_pos refused]
  | some type =>
    have accepted : ¬ (!messageTypeIsValid (input.getD 3 0)) = true := by
      rw [valid.mpr ⟨type, known⟩]
      decide
    rw [if_neg accepted]
    dsimp only
    by_cases flags : input.getD 5 0 ≠ supportedFlags
    · rw [if_pos flags, if_pos flags]
    rw [if_neg flags, if_neg flags]
    by_cases large : (getU16Be (input.drop 10)).toNat > maxPayloadSize
    · rw [if_pos large, if_pos large]
    rw [if_neg large, if_neg large]
    by_cases mismatch : input.length ≠ headerSize + (getU16Be (input.drop 10)).toNat + crcSize
    · rw [if_pos mismatch, if_pos mismatch]
    rw [if_neg mismatch, if_neg mismatch]
    by_cases corrupt : getU32Be (input.drop (headerSize + (getU16Be (input.drop 10)).toNat)) ≠
        crc32 (input.take (headerSize + (getU16Be (input.drop 10)).toNat))
    · rw [if_pos corrupt, if_pos corrupt]
    rw [if_neg corrupt, if_neg corrupt]
    have size : (slice headerSize (getU16Be (input.drop 10)).toNat input).length = (getU16Be (input.drop 10)).toNat := by
      apply slice_length
      omega
    simp only [store, Frame.payloadLength, size, MessageType.code_ofCode known, BitVec.ofNat_toNat, BitVec.setWidth_eq]

theorem decode_rejected {input : List U8} {output : FrameBuffer} (rejected : (decode input output).1 ≠ .ok) :
    (decode input output).2 = output := by
  rw [decode_eq] at rejected ⊢
  cases parsed : protocolDecode input with
  | error result => rfl
  | ok frame =>
    rw [parsed] at rejected
    exact absurd rfl rejected

theorem decode_accepts (input : List U8) (output : FrameBuffer) :
    (decode input output).1 = .ok ↔ ∃ frame, protocolDecode input = .ok frame := by
  constructor
  · intro accepted
    cases parsed : protocolDecode input with
    | ok frame => exact ⟨frame, rfl⟩
    | error result =>
      rw [decode_eq, parsed] at accepted
      change result = .ok at accepted
      rw [accepted] at parsed
      exact absurd parsed (protocolDecode_error input)
  · rintro ⟨frame, parsed⟩
    rw [decode_eq, parsed]

theorem meaningful_length {frame : FrameBuffer} (bounded : frame.payloadLength.toNat ≤ maxPayloadSize) :
    frame.meaningful.length = frame.payloadLength.toNat := by
  have size := frame.payload.2
  rw [meaningful, List.length_take, size]
  unfold maxPayloadSize at bounded
  omega

theorem view_body {frame : FrameBuffer} {type : MessageType} (known : type.code = frame.messageType)
    (bounded : frame.payloadLength.toNat ≤ maxPayloadSize) :
    (frame.view type).body = frame.header ++ frame.meaningful := by
  have length : (frame.view type).payloadLength = frame.payloadLength := by
    rw [Frame.payloadLength, view, meaningful_length bounded, BitVec.ofNat_toNat, BitVec.setWidth_eq]
  rw [Frame.body, length, header, ← known]
  rfl

theorem encode_ok {frame : FrameBuffer} {capacity : Nat} {bytes : List U8} (encoded : frame.encode capacity = .ok bytes) :
    ∃ type, type.code = frame.messageType ∧ (frame.view type).Encodable ∧ bytes = (frame.view type).wire := by
  unfold encode at encoded
  split_ifs at encoded with invalid flags large room
  cases encoded
  rw [Bool.not_eq_true', Bool.not_eq_false, messageTypeIsValid_iff] at invalid
  obtain ⟨type, known⟩ := invalid
  have code := MessageType.code_ofCode known
  have bounded : frame.payloadLength.toNat ≤ maxPayloadSize := by omega
  rw [not_not] at flags
  refine ⟨type, code, ⟨flags, ?_⟩, ?_⟩
  · show frame.meaningful.length ≤ maxPayloadSize
    rw [meaningful_length bounded]
    exact bounded
  · rw [Frame.wire, view_body code bounded]

theorem encode_view {frame : FrameBuffer} {type : MessageType} {capacity : Nat} (code : type.code = frame.messageType)
    (flags : frame.flags = supportedFlags) (bounded : frame.payloadLength.toNat ≤ maxPayloadSize)
    (room : headerSize + frame.payloadLength.toNat + crcSize ≤ capacity) :
    frame.encode capacity = .ok (frame.view type).wire := by
  have valid : messageTypeIsValid frame.messageType = true := by
    rw [messageTypeIsValid_iff, ← code]
    exact ⟨type, MessageType.ofCode_code type⟩
  rw [encode, valid, if_neg (by decide), if_neg (not_not.mpr flags), if_neg (by omega), if_neg (by omega), Frame.wire,
    view_body code bounded]

theorem payloadLength_toNat {frame : Frame} (encodable : frame.Encodable) :
    frame.payloadLength.toNat = frame.payload.length := by
  have bounded := encodable.2
  rw [Frame.payloadLength, BitVec.toNat_ofNat]
  unfold maxPayloadSize at bounded
  omega

theorem store_meaningful {frame : Frame} (output : FrameBuffer) (encodable : frame.Encodable) :
    (output.store frame).meaningful = frame.payload := by
  have bounded := encodable.2
  have size := output.payload.2
  rw [meaningful, store, payloadLength_toNat encodable]
  apply copied_take
  unfold maxPayloadSize at bounded
  omega

theorem store_view {frame : Frame} (output : FrameBuffer) (encodable : frame.Encodable) :
    (output.store frame).view frame.messageType = frame := by
  rw [view, store_meaningful output encodable]
  rfl

theorem decode_encode {frame : FrameBuffer} {capacity : Nat} {bytes : List U8} (output : FrameBuffer)
    (encoded : frame.encode capacity = .ok bytes) :
    ∃ decoded, decode bytes output = (.ok, decoded) ∧ decoded.Agrees frame := by
  obtain ⟨type, code, encodable, rfl⟩ := encode_ok encoded
  have bounded : frame.payloadLength.toNat ≤ maxPayloadSize := by
    unfold encode at encoded
    split_ifs at encoded with invalid flags large
    omega
  refine ⟨output.store (frame.view type), ?_, code, rfl, rfl, rfl, ?_, store_meaningful output encodable⟩
  · rw [decode_eq, protocolDecode_wire encodable]
  · show (frame.view type).payloadLength = frame.payloadLength
    rw [Frame.payloadLength, view, meaningful_length bounded, BitVec.ofNat_toNat, BitVec.setWidth_eq]

theorem encode_decode {input : List U8} {output decoded : FrameBuffer} {capacity : Nat}
    (accepted : decode input output = (.ok, decoded)) (room : input.length ≤ capacity) :
    decoded.encode capacity = .ok input := by
  obtain ⟨frame, parsed⟩ := (decode_accepts input output).mp (by rw [accepted])
  rw [decode_eq, parsed] at accepted
  cases accepted
  obtain ⟨encodable, rfl⟩ := protocolDecode_ok parsed
  have length := payloadLength_toNat encodable
  have size := frame.wire_length
  have bounded : (output.store frame).payloadLength.toNat ≤ maxPayloadSize := by
    show frame.payloadLength.toNat ≤ maxPayloadSize
    rw [length]
    exact encodable.2
  have fits : headerSize + (output.store frame).payloadLength.toNat + crcSize ≤ capacity := by
    show headerSize + frame.payloadLength.toNat + crcSize ≤ capacity
    omega
  have code : frame.messageType.code = (output.store frame).messageType := rfl
  rw [encode_view code encodable.1 bounded fits, store_view output encodable]

end FrameBuffer

/-- The two directions of the codec, its grammar and its rejections. -/
theorem protocol_codec_exact :
    (∀ (frame output : FrameBuffer) (capacity : Nat) (bytes : List U8), frame.encode capacity = .ok bytes →
      ∃ decoded, FrameBuffer.decode bytes output = (.ok, decoded) ∧ decoded.Agrees frame) ∧
    (∀ (input : List U8) (output decoded : FrameBuffer), FrameBuffer.decode input output = (.ok, decoded) →
      ∀ capacity, input.length ≤ capacity → decoded.encode capacity = .ok input) ∧
    (∀ (input : List U8) (output : FrameBuffer), (FrameBuffer.decode input output).1 = .ok ↔ WireGrammar input) ∧
    ∀ (input : List U8) (output : FrameBuffer), (FrameBuffer.decode input output).1 ≠ .ok →
      (FrameBuffer.decode input output).2 = output := by
  refine ⟨?_, ?_, ?_, ?_⟩
  · intro frame output capacity bytes encoded
    exact FrameBuffer.decode_encode output encoded
  · intro input output decoded accepted capacity room
    exact FrameBuffer.encode_decode accepted room
  · intro input output
    rw [FrameBuffer.decode_accepts, protocolDecode_iff]
  · intro input output rejected
    exact FrameBuffer.decode_rejected rejected

end Guardian.Protocol
