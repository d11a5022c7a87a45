import Guardian.Protocol.Codec

namespace Guardian.Host

open Word ByteString Guardian.Protocol

inductive ProtocolDecodeError
  | frameTooShort
  | invalidMagic
  | unsupportedVersion (version : U8)
  | unsupportedMessageType (messageType : U8)
  | unsupportedFlags (flags : U8)
  | payloadTooLarge
  | lengthMismatch (expected received : Nat)
  | crcMismatch (received calculated : U32)
  deriving DecidableEq, Repr

def crc32IeeeBit (crc : U32) : U32 := if crc &&& 1 ≠ 0 then (crc >>> 1) ^^^ 0xEDB88320 else crc >>> 1

def crc32Ieee (data : List U8) : U32 :=
  data.foldl (fun crc byte => (List.range 8).foldl (fun crc _ => crc32IeeeBit crc) (crc ^^^ byte.setWidth 32))
    0xFFFFFFFF ^^^ 0xFFFFFFFF

def encodeFrame (frame : Frame) : List U8 :=
  let header := [magic0, magic1, protocolVersion, frame.messageType.code, frame.command, frame.flags] ++
    putU32Be frame.sequence ++ putU16Be (BitVec.ofNat 16 frame.payload.length)
  let protectedBytes := header ++ frame.payload
  protectedBytes ++ putU32Be (crc32Ieee protectedBytes)

def decodeFrame (encoded : List U8) : Except ProtocolDecodeError Frame :=
  if encoded.length < headerSize + crcSize then .error .frameTooShort
  else if encoded.take 2 ≠ [magic0, magic1] then .error .invalidMagic
  else
    let version := encoded.getD 2 0
    if version ≠ protocolVersion then .error (.unsupportedVersion version)
    else match MessageType.ofCode (encoded.getD 3 0) with
      | none => .error (.unsupportedMessageType (encoded.getD 3 0))
      | some messageType =>
        let flags := encoded.getD 5 0
        if flags ≠ supportedFlags then .error (.unsupportedFlags flags)
        else
          let payloadLength := (getU16Be (encoded.drop 10)).toNat
          if payloadLength > maxPayloadSize then .error .payloadTooLarge
          else
            let expectedSize := headerSize + payloadLength + crcSize
            if encoded.length ≠ expectedSize then .error (.lengthMismatch expectedSize encoded.length)
            else
              let crcOffset := headerSize + payloadLength
              let receivedCrc := getU32Be (encoded.drop crcOffset)
              let calculatedCrc := crc32Ieee (encoded.take crcOffset)
              if receivedCrc ≠ calculatedCrc then .error (.crcMismatch receivedCrc calculatedCrc)
              else
                .ok
                  { messageType
                    command := encoded.getD 4 0
                    flags
                    sequence := getU32Be (encoded.drop 6)
                    payload := slice headerSize payloadLength encoded }

theorem crc32Ieee_device (data : List U8) : crc32Ieee data = crc32 data := rfl

def ProtocolDecodeError.device : ProtocolDecodeError → ProtocolResult
  | .frameTooShort => .errorFrameTooShort
  | .invalidMagic => .errorMagic
  | .unsupportedVersion _ => .errorVersion
  | .unsupportedMessageType _ => .errorMessageType
  | .unsupportedFlags _ => .errorFlags
  | .payloadTooLarge => .errorPayloadTooLarge
  | .lengthMismatch _ _ => .errorLengthMismatch
  | .crcMismatch _ _ => .errorCrc

theorem take_two {bytes : List U8} (long : 2 ≤ bytes.length) :
    bytes.take 2 = [magic0, magic1] ↔ bytes.getD 0 0 = magic0 ∧ bytes.getD 1 0 = magic1 := by
  match bytes, long with
  | first :: second :: rest, _ =>
    simp only [List.take_succ_cons, List.take_zero, List.cons.injEq, and_true, List.getD_cons_zero, List.getD_cons_succ]

theorem decodeFrame_device (encoded : List U8) :
    (decodeFrame encoded).mapError ProtocolDecodeError.device = protocolDecode encoded := by
  unfold decodeFrame protocolDecode
  dsimp only
  by_cases short : encoded.length < headerSize + crcSize
  · rw [if_pos short, if_pos short]
    rfl
  have long : 2 ≤ encoded.length := by
    unfold headerSize crcSize at short
    omega
  rw [if_neg short, if_neg short]
  by_cases magic : encoded.take 2 = [magic0, magic1]
  · have both := (take_two long).mp magic
    rw [if_neg (not_not.mpr magic), if_neg (not_not.mpr both.1), if_neg (not_not.mpr both.2)]
    by_cases version : encoded.getD 2 0 = protocolVersion
    · rw [if_neg (not_not.mpr version), if_neg (not_not.mpr version)]
      cases MessageType.ofCode (encoded.getD 3 0) with
      | none => rfl
      | some messageType =>
        dsimp only
        rw [crc32Ieee_device]
        split_ifs <;> rfl
    · rw [if_pos version, if_pos version]
      rfl
  · rw [if_pos magic]
    by_cases first : encoded.getD 0 0 = magic0
    · have second : encoded.getD 1 0 ≠ magic1 := fun second => magic ((take_two long).mpr ⟨first, second⟩)
      rw [if_neg (not_not.mpr first), if_pos second]
      rfl
    · rw [if_pos first]
      rfl

theorem decodeFrame_ok {encoded : List U8} {frame : Frame} (decoded : protocolDecode encoded = .ok frame) :
    decodeFrame encoded = .ok frame := by
  rw [← decodeFrame_device] at decoded
  cases host : decodeFrame encoded with
  | ok received =>
    rw [host] at decoded
    cases decoded
    rfl
  | error failure =>
    rw [host] at decoded
    cases decoded

theorem decodeFrame_error {encoded : List U8} {result : ProtocolResult}
    (refused : protocolDecode encoded = .error result) : ∃ failure, decodeFrame encoded = .error failure := by
  rw [← decodeFrame_device] at refused
  cases host : decodeFrame encoded with
  | ok received =>
    rw [host] at refused
    cases refused
  | error failure => exact ⟨failure, rfl⟩

theorem decodeFrame_wire {frame : Frame} (encodable : frame.Encodable) : decodeFrame frame.wire = .ok frame :=
  decodeFrame_ok (protocolDecode_wire encodable)

end Guardian.Host
