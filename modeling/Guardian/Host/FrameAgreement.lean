import Guardian.Host.FrameCodec

namespace Guardian.Host

open Word ByteString Guardian.Protocol

structure FrameFields where
  messageType : Int
  command : Int
  sequence : Int
  payload : List U8
  flags : Int

inductive FrameError
  | messageType (value : Int)
  | command
  | sequence
  | flags
  | payload
  deriving DecidableEq, Repr

def messageTypeOf (value : Int) : Option MessageType :=
  if value = 0x01 then some .request
  else if value = 0x02 then some .response
  else if value = 0x03 then some .event
  else if value = 0x04 then some .error
  else if value = 0x05 then some .telemetry
  else none

/-- The construction of a frame, with its checks in their order. -/
def FrameFields.frame (fields : FrameFields) : Except FrameError Frame :=
  match messageTypeOf fields.messageType with
  | none => .error (.messageType fields.messageType)
  | some messageType =>
    if ¬ (0 ≤ fields.command ∧ fields.command ≤ 0xFF) then .error .command
    else if ¬ (0 ≤ fields.sequence ∧ fields.sequence ≤ 0xFFFFFFFF) then .error .sequence
    else if fields.flags ≠ supportedFlags.toNat then .error .flags
    else if fields.payload.length > maxPayloadSize then .error .payload
    else
      .ok
        { messageType
          command := BitVec.ofInt 8 fields.command
          flags := supportedFlags
          sequence := BitVec.ofInt 32 fields.sequence
          payload := fields.payload }

def FrameFields.encode (fields : FrameFields) : Except FrameError (List U8) := fields.frame.map encodeFrame

def frameFields (frame : Frame) : FrameFields :=
  ⟨frame.messageType.code.toNat, frame.command.toNat, frame.sequence.toNat, frame.payload, frame.flags.toNat⟩

/-- The same frame at both ends. Of a payload longer than the device's array only its length is on the device. -/
structure SameFrame (fields : FrameFields) (frame : FrameBuffer) : Prop where
  messageType : fields.messageType = frame.messageType.toNat
  command : fields.command = frame.command.toNat
  sequence : fields.sequence = frame.sequence.toNat
  flags : fields.flags = frame.flags.toNat
  payloadLength : fields.payload.length = frame.payloadLength.toNat
  payload : fields.payload.take maxPayloadSize = frame.meaningful

theorem messageTypeOf_code (code : U8) : messageTypeOf code.toNat = MessageType.ofCode code := by
  revert code
  decide

theorem ofInt_toNat {width : Nat} (value : BitVec width) : BitVec.ofInt width (value.toNat : Int) = value := by
  rw [BitVec.ofInt_natCast, BitVec.ofNat_toNat, BitVec.setWidth_eq]

/-- A frame with the device's values is built, or refused for its type, its flags or its payload. -/
theorem SameFrame.frame {fields : FrameFields} {frame : FrameBuffer} (same : SameFrame fields frame) :
    fields.frame =
      match MessageType.ofCode frame.messageType with
      | none => .error (.messageType frame.messageType.toNat)
      | some messageType =>
        if frame.flags ≠ supportedFlags then .error .flags
        else if frame.payloadLength.toNat > maxPayloadSize then .error .payload
        else .ok (frame.view messageType) := by
  have command := frame.command.isLt
  have sequence := frame.sequence.isLt
  unfold FrameFields.frame
  rw [same.messageType, messageTypeOf_code]
  cases MessageType.ofCode frame.messageType with
  | none => rfl
  | some messageType =>
    dsimp only
    rw [if_neg (by rw [same.command]; omega), if_neg (by rw [same.sequence]; omega), same.flags, same.payloadLength]
    by_cases flags : frame.flags = supportedFlags
    · rw [if_neg (by rw [flags]; simp), if_neg (not_not.mpr flags)]
      by_cases large : frame.payloadLength.toNat > maxPayloadSize
      · rw [if_pos large, if_pos large]
      · have whole : fields.payload = frame.meaningful := by
          rw [← same.payload, List.take_of_length_le]
          rw [same.payloadLength]
          omega
        rw [if_neg large, if_neg large, same.command, same.sequence, ofInt_toNat, ofInt_toNat, whole, ← flags]
        rfl
    · have reserved : (frame.flags.toNat : Int) ≠ supportedFlags.toNat := by
        intro equal
        exact flags (BitVec.eq_of_toNat_eq (Int.ofNat.inj equal))
      rw [if_pos reserved, if_pos flags]

theorem SameFrame.encode {fields : FrameFields} {frame : FrameBuffer} (same : SameFrame fields frame) {capacity : Nat}
    (room : headerSize + frame.payloadLength.toNat + crcSize ≤ capacity) :
    fields.encode.toOption = (frame.encode capacity).toOption := by
  unfold FrameFields.encode
  rw [same.frame]
  have valid := messageTypeIsValid_iff frame.messageType
  cases known : MessageType.ofCode frame.messageType with
  | none =>
    have refused : (!messageTypeIsValid frame.messageType) = true := by
      rw [Bool.not_eq_true', Bool.eq_false_iff, Ne, valid, known]
      rintro ⟨type, impossible⟩
      cases impossible
    rw [FrameBuffer.encode, if_pos refused]
    rfl
  | some type =>
    have accepted : ¬ (!messageTypeIsValid frame.messageType) = true := by
      rw [valid.mpr ⟨type, known⟩]
      decide
    dsimp only
    by_cases flags : frame.flags ≠ supportedFlags
    · rw [if_pos flags, FrameBuffer.encode, if_neg accepted, if_pos flags]
      rfl
    rw [if_neg flags]
    by_cases large : frame.payloadLength.toNat > maxPayloadSize
    · rw [if_pos large, FrameBuffer.encode, if_neg accepted, if_neg flags, if_pos large]
      rfl
    rw [if_neg large, FrameBuffer.encode_view (MessageType.code_ofCode known) (not_not.mp flags) (Nat.not_lt.mp large) room]
    rfl

theorem sameFrame_fields (frame : FrameBuffer) : ∃ fields, SameFrame fields frame := by
  have size := frame.payload.2
  refine ⟨⟨frame.messageType.toNat, frame.command.toNat, frame.sequence.toNat,
    (padded frame.payloadLength.toNat frame.payload.1).1, frame.flags.toNat⟩, rfl, rfl, rfl, rfl,
    (padded frame.payloadLength.toNat frame.payload.1).2, ?_⟩
  show ((frame.payload.1 ++ List.replicate frame.payloadLength.toNat 0).take frame.payloadLength.toNat).take
    maxPayloadSize = frame.payload.1.take frame.payloadLength.toNat
  rw [List.take_take, List.take_append_of_le_length]
  · rw [List.take_eq_take_iff, size, maxPayloadSize]
    omega
  · rw [size, maxPayloadSize]
    omega

theorem toNat_ofInt {width : Nat} {value : Int} (low : 0 ≤ value) (high : value < ((2 ^ width : Nat) : Int)) :
    ((BitVec.ofInt width value).toNat : Int) = value := by
  rw [BitVec.toNat_ofInt, Int.emod_eq_of_lt low high, Int.toNat_of_nonneg low]

theorem messageTypeOf_some {value : Int} {messageType : MessageType} (known : messageTypeOf value = some messageType) :
    value = messageType.code.toNat := by
  unfold messageTypeOf at known
  split_ifs at known with request response event error telemetry
  all_goals
    cases known
    assumption

theorem encode_sameFrame {fields : FrameFields} {bytes : List U8} (encoded : fields.encode = .ok bytes) :
    ∃ frame, SameFrame fields frame := by
  unfold FrameFields.encode FrameFields.frame at encoded
  cases known : messageTypeOf fields.messageType with
  | none =>
    rw [known] at encoded
    cases encoded
  | some messageType =>
    rw [known] at encoded
    dsimp only at encoded
    split_ifs at encoded with command sequence flags large
    all_goals try cases encoded
    rw [not_not] at flags
    have size : fields.payload.length ≤ 256 := Nat.not_lt.mp large
    refine ⟨⟨messageType.code, BitVec.ofInt 8 fields.command, supportedFlags, BitVec.ofInt 32 fields.sequence,
      BitVec.ofNat 16 fields.payload.length, padded 256 fields.payload⟩, messageTypeOf_some known,
      (toNat_ofInt command.1 (by omega)).symm, (toNat_ofInt sequence.1 (by omega)).symm, flags, ?_, ?_⟩
    · rw [BitVec.toNat_ofNat, Nat.mod_eq_of_lt (by omega)]
    · unfold FrameBuffer.meaningful
      dsimp only
      rw [BitVec.toNat_ofNat, Nat.mod_eq_of_lt (by omega), padded_short size, List.take_left' rfl]
      exact List.take_of_length_le size

theorem frameFields_frame {frame : Frame} (encodable : frame.Encodable) : (frameFields frame).frame = .ok frame := by
  have command := frame.command.isLt
  have sequence := frame.sequence.isLt
  have size := encodable.2
  unfold FrameFields.frame frameFields
  dsimp only
  rw [messageTypeOf_code, MessageType.ofCode_code]
  dsimp only
  rw [if_neg (by omega), if_neg (by omega), if_neg (by rw [encodable.1]; simp), if_neg (by omega), ofInt_toNat,
    ofInt_toNat, ← encodable.1]

theorem store_sameFrame {frame : Frame} (encodable : frame.Encodable) (output : FrameBuffer) :
    SameFrame (frameFields frame) (output.store frame) where
  messageType := rfl
  command := rfl
  sequence := rfl
  flags := rfl
  payloadLength := (FrameBuffer.payloadLength_toNat encodable).symm
  payload := by
    rw [FrameBuffer.store_meaningful output encodable]
    exact List.take_of_length_le encodable.2

/-- A byte string is accepted by both ends as the same frame, or refused by both for the same reason. -/
def DecodesAlike (input : List U8) (output : FrameBuffer) : Prop :=
  match decodeFrame input with
  | .ok frame => ∃ decoded, FrameBuffer.decode input output = (.ok, decoded) ∧ SameFrame (frameFields frame) decoded ∧
      (frameFields frame).frame = .ok frame
  | .error failure => failure.device ≠ .ok ∧ FrameBuffer.decode input output = (failure.device, output)

theorem decodesAlike (input : List U8) (output : FrameBuffer) : DecodesAlike input output := by
  have agreed := decodeFrame_device input
  unfold DecodesAlike
  rw [FrameBuffer.decode_eq, ← agreed]
  cases decoded : decodeFrame input with
  | error failure =>
    refine ⟨?_, rfl⟩
    cases failure <;> simp [ProtocolDecodeError.device]
  | ok frame =>
    rw [decoded] at agreed
    obtain ⟨encodable, -⟩ := protocolDecode_ok agreed.symm
    exact ⟨output.store frame, rfl, store_sameFrame encodable output, frameFields_frame encodable⟩

/-- The codecs of both ends agree, on every frame and on every byte string. -/
theorem frame_codecs_agree :
    (∀ (fields : FrameFields) (frame : FrameBuffer) (capacity : Nat), SameFrame fields frame →
      headerSize + frame.payloadLength.toNat + crcSize ≤ capacity →
      fields.encode.toOption = (frame.encode capacity).toOption) ∧
    (∀ frame : FrameBuffer, ∃ fields, SameFrame fields frame) ∧
    (∀ (fields : FrameFields) (bytes : List U8), fields.encode = .ok bytes → ∃ frame, SameFrame fields frame) ∧
    ∀ (input : List U8) (output : FrameBuffer), DecodesAlike input output := by
  refine ⟨?_, sameFrame_fields, ?_, decodesAlike⟩
  · intro fields frame capacity same room
    exact same.encode room
  · intro fields bytes encoded
    exact encode_sameFrame encoded

end Guardian.Host
