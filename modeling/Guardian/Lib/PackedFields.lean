import Guardian.Lib.Word

namespace PackedFields

open Word

inductive Field
  | u8
  | u16
  | u32
  | u64
  deriving DecidableEq, Repr

namespace Field

abbrev Value : Field → Type
  | u8 => U8
  | u16 => U16
  | u32 => U32
  | u64 => U64

def size : Field → Nat
  | u8 => 1
  | u16 => 2
  | u32 => 4
  | u64 => 8

def put : (field : Field) → field.Value → List U8
  | u8, value => [value]
  | u16, value => putU16Be value
  | u32, value => putU32Be value
  | u64, value => putU64Be value

def get : (field : Field) → List U8 → field.Value
  | u8, bytes => bytes.getD 0 0
  | u16, bytes => getU16Be bytes
  | u32, bytes => getU32Be bytes
  | u64, bytes => getU64Be bytes

theorem put_length (field : Field) (value : field.Value) : (field.put value).length = field.size := by
  cases field <;> rfl

theorem get_put (field : Field) (value : field.Value) (rest : List U8) : field.get (field.put value ++ rest) = value := by
  cases field with
  | u8 => rfl
  | u16 => exact getU16Be_put value rest
  | u32 => exact getU32Be_put value rest
  | u64 => exact getU64Be_put value rest

end Field

abbrev Values : List Field → Type
  | [] => Unit
  | field :: format => field.Value × Values format

def pack : (format : List Field) → Values format → List U8
  | [], _ => []
  | field :: format, (value, values) => field.put value ++ pack format values

def unpack : (format : List Field) → List U8 → Values format
  | [], _ => ()
  | field :: format, bytes => (field.get bytes, unpack format (bytes.drop field.size))

def packedSize (format : List Field) : Nat := (format.map Field.size).sum

theorem pack_length (format : List Field) (values : Values format) : (pack format values).length = packedSize format := by
  induction format with
  | nil => rfl
  | cons field format ih =>
    unfold pack
    rw [List.length_append, field.put_length, ih]
    rfl

theorem unpack_pack (format : List Field) (values : Values format) (rest : List U8) :
    unpack format (pack format values ++ rest) = values := by
  induction format with
  | nil => rfl
  | cons field format ih =>
    obtain ⟨value, values⟩ := values
    unfold pack unpack
    rw [List.append_assoc, field.get_put, ← field.put_length value, List.drop_left, ih]

@[simp] theorem unpack_pack_self (format : List Field) (values : Values format) :
    unpack format (pack format values) = values := by
  have read := unpack_pack format values []
  rwa [List.append_nil] at read

end PackedFields
