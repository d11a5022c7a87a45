import Guardian.Lib.Layout
import Guardian.Lib.ShiftRegister
import Guardian.Protocol.Codec

namespace Guardian.Protocol

open Word ByteString

theorem crc32Bit_step (crc : U32) : crc32Bit crc = ShiftRegister.step 0xEDB88320 crc := by
  have low : crc &&& 1 ≠ 0 ↔ crc.getLsbD 0 = true := by
    rw [show (1 : U32) = 1#32 from rfl, BitVec.and_one_eq_setWidth_ofBool_getLsbD]
    cases crc.getLsbD 0 <;> decide
  simp only [crc32Bit, ShiftRegister.step, low]

theorem crc32Byte_absorb (crc : U32) (byte : U8) : crc32Byte crc byte = ShiftRegister.absorb 0xEDB88320 crc byte := by
  simp only [crc32Byte, crc32Bit_step]
  rfl

theorem crc32_register (data : List U8) :
    crc32 data = data.foldl (ShiftRegister.absorb 0xEDB88320) 0xFFFFFFFF ^^^ 0xFFFFFFFF := by
  have bytes : crc32Byte = ShiftRegister.absorb 0xEDB88320 := by
    funext crc byte
    exact crc32Byte_absorb crc byte
  rw [crc32, bytes]

theorem crc32_separates {left right : List U8} (front back : List U8) (same : left.length = right.length)
    (burst : left.length ≤ 4) (equal : crc32 (front ++ left ++ back) = crc32 (front ++ right ++ back)) :
    left = right := by
  have top : (0xEDB88320 : U32).getLsbD (32 - 1) = true := by decide
  rw [crc32_register, crc32_register, BitVec.xor_left_inj, List.foldl_append, List.foldl_append, List.foldl_append,
    List.foldl_append] at equal
  have registers := ShiftRegister.foldl_absorb_injective _ top back equal
  exact ShiftRegister.foldl_absorb_separates _ top same (by omega) _ registers

/-- The bytes of `corrupted` are those of `original` except for at most four from `first` on, before the checksum. -/
structure Burst (original corrupted : List U8) (first : Nat) : Prop where
  length : corrupted.length = original.length
  outside : ∀ i, i < first ∨ first + 4 ≤ i ∨ original.length - crcSize ≤ i → corrupted[i]? = original[i]?

section Windows

variable {left right : List U8}

theorem take_agree {first : Nat} (outside : ∀ i, i < first → right[i]? = left[i]?) : right.take first = left.take first := by
  apply List.ext_getElem?
  intro i
  simp only [List.getElem?_take]
  split
  · next within => exact outside i within
  · rfl

theorem drop_agree {first : Nat} (outside : ∀ i, first ≤ i → right[i]? = left[i]?) : right.drop first = left.drop first := by
  apply List.ext_getElem?
  intro i
  simp only [List.getElem?_drop]
  exact outside (first + i) (by omega)

theorem window_split (bytes : List U8) (first : Nat) :
    bytes = bytes.take first ++ (bytes.drop first).take 4 ++ bytes.drop (first + 4) := by
  rw [List.append_assoc, ← List.drop_drop, List.take_append_drop, List.take_append_drop]

theorem crc32_window (first : Nat) (same : right.length = left.length)
    (outside : ∀ i, i < first ∨ first + 4 ≤ i → right[i]? = left[i]?) (equal : crc32 right = crc32 left) :
    right = left := by
  have front : right.take first = left.take first := take_agree fun i before => outside i (Or.inl before)
  have back : right.drop (first + 4) = left.drop (first + 4) := drop_agree fun i after => outside i (Or.inr after)
  have size : ((right.drop first).take 4).length = ((left.drop first).take 4).length := by
    simp only [List.length_take, List.length_drop, same]
  rw [window_split right first, window_split left first, front, back] at equal
  have window := crc32_separates _ _ size (by simp only [List.length_take]; omega) equal
  rw [window_split right first, window_split left first, front, window, back]

end Windows

theorem protocolDecode_checksum {input : List U8} {frame : Frame} (decoded : protocolDecode input = .ok frame) :
    input = input.take (input.length - crcSize) ++ putU32Be (crc32 (input.take (input.length - crcSize))) := by
  obtain ⟨_, rfl⟩ := protocolDecode_ok decoded
  have body : frame.wire.take (frame.wire.length - crcSize) = frame.body := by
    rw [frame.wire_length, Nat.add_sub_cancel, Frame.wire, List.take_left' frame.body_length]
  rw [body, Frame.wire]

/-- A burst of at most four bytes in header or payload is always noticed. -/
theorem burst_rejected {original corrupted : List U8} {frame : Frame} {first : Nat}
    (valid : protocolDecode original = .ok frame) (burst : Burst original corrupted first)
    (different : corrupted ≠ original) : ∃ error, protocolDecode corrupted = .error error := by
  cases outcome : protocolDecode corrupted with
  | error error => exact ⟨error, rfl⟩
  | ok other =>
    exfalso
    have sent := protocolDecode_checksum valid
    have received := protocolDecode_checksum outcome
    rw [burst.length] at received
    set size := original.length - crcSize with covered
    have trailer : corrupted.drop size = original.drop size :=
      drop_agree fun i after => burst.outside i (Or.inr (Or.inr after))
    have taken (bytes : List U8) (length : bytes.length = original.length) : (bytes.take size).length = size := by
      rw [List.length_take]
      omega
    have checksums : crc32 (corrupted.take size) = crc32 (original.take size) := by
      rw [sent, received, List.drop_left' (taken _ burst.length), List.drop_left' (taken _ rfl)] at trailer
      exact putU32Be_injective trailer
    have bodies : corrupted.take size = original.take size := by
      apply crc32_window first
      · rw [taken _ burst.length, taken _ rfl]
      · intro i apart
        simp only [List.getElem?_take]
        rw [burst.outside i (by omega)]
      · exact checksums
    rw [sent, received, bodies] at different
    exact different rfl

/-- The command and the next three bytes of a ping are hit. -/
theorem burst_rejected_example : ∃ error, protocolDecode
    [0x47, 0x46, 0x01, 0x01, 0x21, 0x00, 0x07, 0xFF, 0x00, 0x01, 0x00, 0x00, 0x34, 0x02, 0x5E, 0x68] =
      .error error := by
  let ping : Frame := ⟨.request, commandPing, 0, 1, []⟩
  have wire : ping.wire =
      [0x47, 0x46, 0x01, 0x01, 0x01, 0x00, 0x00, 0x00, 0x00, 0x01, 0x00, 0x00, 0x34, 0x02, 0x5E, 0x68] := by
    decide +kernel
  have burst : Burst ping.wire
      [0x47, 0x46, 0x01, 0x01, 0x21, 0x00, 0x07, 0xFF, 0x00, 0x01, 0x00, 0x00, 0x34, 0x02, 0x5E, 0x68] 4 := by
    rw [wire]
    refine ⟨rfl, ?_⟩
    intro i apart
    by_cases within : i < 16
    · revert apart
      revert i
      decide
    · rw [List.getElem?_eq_none (by simpa using within), List.getElem?_eq_none (by simpa using within)]
  apply burst_rejected (protocolDecode_wire (show ping.Encodable from ⟨rfl, by decide⟩)) burst
  rw [wire]
  decide

end Guardian.Protocol
