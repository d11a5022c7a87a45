import Guardian.Lib.ByteString

namespace Guardian.Protocol

open Word ByteString

def magic0 : U8 := 0x47
def magic1 : U8 := 0x46
def protocolVersion : U8 := 0x01
def headerSize : Nat := 12
def crcSize : Nat := 4
def maxPayloadSize : Nat := 256
def maxFrameSize : Nat := headerSize + maxPayloadSize + crcSize
def supportedFlags : U8 := 0x00

inductive MessageType
  | request
  | response
  | event
  | error
  | telemetry
  deriving DecidableEq, Repr

def MessageType.code : MessageType → U8
  | .request => 0x01
  | .response => 0x02
  | .event => 0x03
  | .error => 0x04
  | .telemetry => 0x05

def MessageType.ofCode (code : U8) : Option MessageType :=
  if code = 0x01 then some .request
  else if code = 0x02 then some .response
  else if code = 0x03 then some .event
  else if code = 0x04 then some .error
  else if code = 0x05 then some .telemetry
  else none

@[simp] theorem MessageType.ofCode_code (type : MessageType) : MessageType.ofCode type.code = some type := by
  cases type <;> rfl

def commandPing : U8 := 0x01
def commandDeviceInfo : U8 := 0x02
def commandGetStatus : U8 := 0x10
def commandGetDspFeatures : U8 := 0x11
def commandGetHealthStatus : U8 := 0x12
def commandBaselineControl : U8 := 0x13
def commandGetControlStatus : U8 := 0x14
def commandControlCommand : U8 := 0x15
def commandSetTelemetry : U8 := 0x20
def commandMachineTelemetry : U8 := 0x21
def commandAuthBegin : U8 := 0x30
def commandAuthFinish : U8 := 0x31
def commandGetSecurityStatus : U8 := 0x32
def commandSecureCommand : U8 := 0x33
def commandGetFirmwareStatus : U8 := 0x40
def commandFirmwareBegin : U8 := 0x41
def commandFirmwareChunk : U8 := 0x42
def commandFirmwareFinalize : U8 := 0x43
def commandFirmwareActivate : U8 := 0x44

inductive ErrorCode
  | malformedFrame
  | unsupportedVersion
  | unsupportedMessageType
  | unsupportedFlags
  | unknownCommand
  | invalidPayload
  | internal
  | busy
  | unauthorized
  | replayDetected
  | signatureInvalid
  | rollbackBlocked
  | updateFailed
  deriving DecidableEq, Repr

def ErrorCode.code : ErrorCode → U8
  | .malformedFrame => 0x01
  | .unsupportedVersion => 0x02
  | .unsupportedMessageType => 0x03
  | .unsupportedFlags => 0x04
  | .unknownCommand => 0x05
  | .invalidPayload => 0x06
  | .internal => 0x07
  | .busy => 0x08
  | .unauthorized => 0x09
  | .replayDetected => 0x0A
  | .signatureInvalid => 0x0B
  | .rollbackBlocked => 0x0C
  | .updateFailed => 0x0D

theorem ErrorCode.code_injective {left right : ErrorCode} (same : left.code = right.code) : left = right := by
  revert same
  cases left <;> cases right <;> decide

inductive ProtocolResult
  | ok
  | errorNullArgument
  | errorOutputTooSmall
  | errorFrameTooShort
  | errorMagic
  | errorVersion
  | errorMessageType
  | errorFlags
  | errorPayloadTooLarge
  | errorLengthMismatch
  | errorCrc
  deriving DecidableEq, Repr

/-- `payload` is the first `payload_length` bytes of the payload array. -/
structure Frame where
  messageType : MessageType
  command : U8
  flags : U8
  sequence : U32
  payload : List U8
  deriving DecidableEq, Repr

def Frame.payloadLength (frame : Frame) : U16 := BitVec.ofNat 16 frame.payload.length

def crc32Bit (crc : U32) : U32 := if crc &&& 1 ≠ 0 then (crc >>> 1) ^^^ 0xEDB88320 else crc >>> 1

def crc32Byte (crc : U32) (byte : U8) : U32 :=
  crc32Bit (crc32Bit (crc32Bit (crc32Bit (crc32Bit (crc32Bit (crc32Bit (crc32Bit (crc ^^^ byte.setWidth 32))))))))

def crc32 (data : List U8) : U32 := data.foldl crc32Byte 0xFFFFFFFF ^^^ 0xFFFFFFFF

def Frame.body (frame : Frame) : List U8 :=
  [magic0, magic1, protocolVersion, frame.messageType.code, frame.command, frame.flags] ++
    putU32Be frame.sequence ++ putU16Be frame.payloadLength ++ frame.payload

def Frame.wire (frame : Frame) : List U8 := frame.body ++ putU32Be (crc32 frame.body)

def protocolEncode (frame : Frame) (capacity : Nat) : Except ProtocolResult (List U8) :=
  if MessageType.ofCode frame.messageType.code = none then .error .errorMessageType
  else if frame.flags ≠ supportedFlags then .error .errorFlags
  else if frame.payload.length > maxPayloadSize then .error .errorPayloadTooLarge
  else if capacity < headerSize + frame.payload.length + crcSize then .error .errorOutputTooSmall
  else .ok frame.wire

def protocolDecode (input : List U8) : Except ProtocolResult Frame :=
  if input.length < headerSize + crcSize then .error .errorFrameTooShort
  else if input.getD 0 0 ≠ magic0 then .error .errorMagic
  else if input.getD 1 0 ≠ magic1 then .error .errorMagic
  else if input.getD 2 0 ≠ protocolVersion then .error .errorVersion
  else match MessageType.ofCode (input.getD 3 0) with
    | none => .error .errorMessageType
    | some messageType =>
      if input.getD 5 0 ≠ supportedFlags then .error .errorFlags
      else
        let payloadLength := (getU16Be (input.drop 10)).toNat
        if payloadLength > maxPayloadSize then .error .errorPayloadTooLarge
        else if input.length ≠ headerSize + payloadLength + crcSize then .error .errorLengthMismatch
        else if getU32Be (input.drop (headerSize + payloadLength)) ≠ crc32 (input.take (headerSize + payloadLength)) then
          .error .errorCrc
        else
          .ok
            { messageType
              command := input.getD 4 0
              flags := input.getD 5 0
              sequence := getU32Be (input.drop 6)
              payload := slice headerSize payloadLength input }

def Frame.Encodable (frame : Frame) : Prop := frame.flags = supportedFlags ∧ frame.payload.length ≤ maxPayloadSize

/-- An answer to `request`, with its command and sequence. -/
def Frame.answer (request : Frame) (messageType : MessageType) (payload : List U8) : Frame :=
  { messageType, command := request.command, flags := supportedFlags, sequence := request.sequence, payload }

/-- The error answer, which every service makes in the same way. -/
def makeError (request : Frame) (error : ErrorCode) : Frame := request.answer .error [error.code]

def Frame.Answers (answer request : Frame) : Prop :=
  (answer.messageType = .response ∨ answer.messageType = .error) ∧ answer.command = request.command ∧
    answer.sequence = request.sequence ∧ answer.Encodable

theorem Frame.answer_answers (request : Frame) {payload : List U8} (size : payload.length ≤ maxPayloadSize) :
    (request.answer .response payload).Answers request := ⟨Or.inl rfl, rfl, rfl, rfl, size⟩

theorem makeError_answers (request : Frame) (error : ErrorCode) : (makeError request error).Answers request :=
  ⟨Or.inr rfl, rfl, rfl, rfl, (by decide : 1 ≤ maxPayloadSize)⟩

/-- A service has answered, with a payload of at most `limit` bytes. -/
def Frame.Replied {σ : Type} (request : Frame) (limit : Nat) (handled : Except ProtocolResult Frame × σ) : Prop :=
  ∃ answer, handled.1 = .ok answer ∧ answer.Answers request ∧ answer.payload.length ≤ limit

theorem Frame.replied_error {σ : Type} (request : Frame) (error : ErrorCode) {limit : Nat} (room : 1 ≤ limit) (after : σ) :
    request.Replied limit (.ok (makeError request error), after) :=
  ⟨_, rfl, makeError_answers request error, room⟩

theorem Frame.replied_response {σ : Type} (request : Frame) {payload : List U8} {limit : Nat}
    (fits : payload.length ≤ limit) (bounded : limit ≤ maxPayloadSize) (after : σ) :
    request.Replied limit (.ok (request.answer .response payload), after) :=
  ⟨_, rfl, Frame.answer_answers request (Nat.le_trans fits bounded), fits⟩

def ChangedByResponse {σ : Type} (before : σ) (handled : Except ProtocolResult Frame × σ) : Prop :=
  ∀ answer, handled.1 = .ok answer → answer.messageType ≠ .response → handled.2 = before

theorem changedByResponse_kept {σ : Type} (before : σ) (result : Except ProtocolResult Frame) :
    ChangedByResponse before (result, before) := fun _ _ _ => rfl

theorem changedByResponse_answer {σ : Type} (before after : σ) (request : Frame) (payload : List U8) :
    ChangedByResponse before (.ok (request.answer .response payload), after) := by
  intro answer given refused
  cases given
  exact absurd rfl refused

theorem Frame.body_length (frame : Frame) : frame.body.length = headerSize + frame.payload.length := by
  simp only [Frame.body, headerSize, List.length_append, List.length_cons, List.length_nil, putU32Be_length,
    putU16Be_length]

theorem Frame.wire_length (frame : Frame) : frame.wire.length = headerSize + frame.payload.length + crcSize := by
  rw [Frame.wire, List.length_append, frame.body_length, putU32Be_length, crcSize]

theorem protocolEncode_ok {frame : Frame} (encodable : frame.Encodable) :
    protocolEncode frame maxFrameSize = .ok frame.wire := by
  have type : ¬ MessageType.ofCode frame.messageType.code = none := by
    rw [MessageType.ofCode_code]
    exact Option.some_ne_none _
  have size := encodable.2
  rw [protocolEncode, if_neg type, if_neg (not_not.mpr encodable.1), if_neg (by omega)]
  unfold maxFrameSize
  rw [if_neg (by omega)]

theorem Frame.wire_payloadLength {frame : Frame} (encodable : frame.Encodable) :
    (getU16Be (frame.wire.drop 10)).toNat = frame.payload.length := by
  have field : frame.wire.drop 10 = putU16Be frame.payloadLength ++ (frame.payload ++ putU32Be (crc32 frame.body)) := by
    rw [Frame.wire, Frame.body, List.append_assoc, List.append_assoc, List.drop_left' (by rfl)]
  have size := encodable.2
  rw [field, getU16Be_put, Frame.payloadLength, BitVec.toNat_ofNat]
  unfold maxPayloadSize at size
  omega

theorem Frame.wire_sequence (frame : Frame) : getU32Be (frame.wire.drop 6) = frame.sequence := by
  have field : frame.wire.drop 6 = putU32Be frame.sequence ++
      (putU16Be frame.payloadLength ++ (frame.payload ++ putU32Be (crc32 frame.body))) := by
    rw [Frame.wire, Frame.body, List.append_assoc, List.append_assoc, List.append_assoc, List.drop_left' (by rfl)]
  rw [field, getU32Be_put]

theorem Frame.wire_payload (frame : Frame) : slice headerSize frame.payload.length frame.wire = frame.payload := by
  rw [Frame.wire, Frame.body, List.append_assoc, slice, List.drop_left' (by rfl), List.take_left' rfl]

theorem Frame.wire_checksum (frame : Frame) : getU32Be (frame.wire.drop (headerSize + frame.payload.length)) =
    crc32 (frame.wire.take (headerSize + frame.payload.length)) := by
  rw [Frame.wire, List.drop_left' frame.body_length, List.take_left' frame.body_length]
  exact getU32Be_put _ []

theorem protocolDecode_wire {frame : Frame} (encodable : frame.Encodable) : protocolDecode frame.wire = .ok frame := by
  have length := frame.wire_length
  have size := encodable.2
  have type : frame.wire.getD 3 0 = frame.messageType.code := rfl
  rw [protocolDecode, if_neg (by omega), if_neg (by exact not_not.mpr rfl), if_neg (by exact not_not.mpr rfl),
    if_neg (by exact not_not.mpr rfl), type, MessageType.ofCode_code]
  simp only [frame.wire_payloadLength encodable]
  rw [if_neg (by exact not_not.mpr encodable.1), if_neg (by omega), if_neg (not_not.mpr length),
    if_neg (not_not.mpr frame.wire_checksum), frame.wire_sequence, frame.wire_payload]
  rfl

theorem Frame.wire_injective {left right : Frame} (leftSent : left.Encodable) (rightSent : right.Encodable)
    (same : left.wire = right.wire) : left = right := by
  have decoded := protocolDecode_wire leftSent
  rw [same, protocolDecode_wire rightSent] at decoded
  cases decoded
  rfl

end Guardian.Protocol
