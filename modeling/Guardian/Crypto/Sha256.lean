import Guardian.Lib.Word

namespace Guardian.Crypto

open Word

structure Sha256State where
  a : U32
  b : U32
  c : U32
  d : U32
  e : U32
  f : U32
  g : U32
  h : U32
  deriving DecidableEq, Repr

/-- `buffer` holds the `buffer_length` bytes not yet transformed. -/
structure Sha256Context where
  state : Sha256State
  buffer : List U8
  totalLength : U64
  deriving DecidableEq, Repr

def sha256K : List U32 :=
  [0x428A2F98, 0x71374491, 0xB5C0FBCF, 0xE9B5DBA5, 0x3956C25B, 0x59F111F1, 0x923F82A4, 0xAB1C5ED5,
   0xD807AA98, 0x12835B01, 0x243185BE, 0x550C7DC3, 0x72BE5D74, 0x80DEB1FE, 0x9BDC06A7, 0xC19BF174,
   0xE49B69C1, 0xEFBE4786, 0x0FC19DC6, 0x240CA1CC, 0x2DE92C6F, 0x4A7484AA, 0x5CB0A9DC, 0x76F988DA,
   0x983E5152, 0xA831C66D, 0xB00327C8, 0xBF597FC7, 0xC6E00BF3, 0xD5A79147, 0x06CA6351, 0x14292967,
   0x27B70A85, 0x2E1B2138, 0x4D2C6DFC, 0x53380D13, 0x650A7354, 0x766A0ABB, 0x81C2C92E, 0x92722C85,
   0xA2BFE8A1, 0xA81A664B, 0xC24B8B70, 0xC76C51A3, 0xD192E819, 0xD6990624, 0xF40E3585, 0x106AA070,
   0x19A4C116, 0x1E376C08, 0x2748774C, 0x34B0BCB5, 0x391C0CB3, 0x4ED8AA4A, 0x5B9CCA4F, 0x682E6FF3,
   0x748F82EE, 0x78A5636F, 0x84C87814, 0x8CC70208, 0x90BEFFFA, 0xA4506CEB, 0xBEF9A3F7, 0xC67178F2]

def sha256Rotr (value : U32) (count : Nat) : U32 := (value >>> count) ||| (value <<< (32 - count))

def sha256Init : Sha256Context where
  state := ⟨0x6A09E667, 0xBB67AE85, 0x3C6EF372, 0xA54FF53A, 0x510E527F, 0x9B05688C, 0x1F83D9AB, 0x5BE0CD19⟩
  buffer := []
  totalLength := 0

/-- The first sixteen words of the schedule, read from the block. -/
def sha256Load : Nat → List U8 → List U32
  | 0, _ => []
  | count + 1, block => getU32Be block :: sha256Load count (block.drop 4)

/-- The schedule word after `schedule`. -/
def sha256Next (schedule : List U32) : U32 :=
  let at_ (back : Nat) : U32 := schedule.getD (schedule.length - back) 0
  let s0 := sha256Rotr (at_ 15) 7 ^^^ sha256Rotr (at_ 15) 18 ^^^ (at_ 15 >>> 3)
  let s1 := sha256Rotr (at_ 2) 17 ^^^ sha256Rotr (at_ 2) 19 ^^^ (at_ 2 >>> 10)
  at_ 16 + s0 + at_ 7 + s1

def sha256Extend : Nat → List U32 → List U32
  | 0, schedule => schedule
  | count + 1, schedule => sha256Extend count (schedule ++ [sha256Next schedule])

def sha256Round (s : Sha256State) (input : U32 × U32) : Sha256State :=
  let sigma1 := sha256Rotr s.e 6 ^^^ sha256Rotr s.e 11 ^^^ sha256Rotr s.e 25
  let choose := (s.e &&& s.f) ^^^ (~~~s.e &&& s.g)
  let temp1 := s.h + sigma1 + choose + input.1 + input.2
  let sigma0 := sha256Rotr s.a 2 ^^^ sha256Rotr s.a 13 ^^^ sha256Rotr s.a 22
  let majority := (s.a &&& s.b) ^^^ (s.a &&& s.c) ^^^ (s.b &&& s.c)
  let temp2 := sigma0 + majority
  { a := temp1 + temp2, b := s.a, c := s.b, d := s.c, e := s.d + temp1, f := s.e, g := s.f, h := s.g }

def sha256Transform (s : Sha256State) (block : List U8) : Sha256State :=
  let schedule := sha256Extend 48 (sha256Load 16 block)
  let r := (sha256K.zip schedule).foldl sha256Round s
  ⟨s.a + r.a, s.b + r.b, s.c + r.c, s.d + r.d, s.e + r.e, s.f + r.f, s.g + r.g, s.h + r.h⟩

/-- The copy loop of `update`. Each turn takes at least one byte, so `data.length` turns are enough. -/
def sha256Copy : Nat → Sha256Context → List U8 → Sha256Context
  | 0, context, _ => context
  | _ + 1, context, [] => context
  | turns + 1, context, data =>
    let available := 64 - context.buffer.length
    let buffer := context.buffer ++ data.take available
    if buffer.length = 64 then
      sha256Copy turns { context with state := sha256Transform context.state buffer, buffer := [] }
        (data.drop available)
    else sha256Copy turns { context with buffer := buffer } (data.drop available)

def sha256Update (context : Sha256Context) (data : List U8) : Sha256Context :=
  sha256Copy data.length { context with totalLength := context.totalLength + BitVec.ofNat 64 data.length } data

def sha256Pad (length : Nat) (buffer : List U8) : List U8 := buffer ++ List.replicate (length - buffer.length) 0

def sha256Digest (s : Sha256State) : List U8 :=
  putU32Be s.a ++ putU32Be s.b ++ putU32Be s.c ++ putU32Be s.d ++
    putU32Be s.e ++ putU32Be s.f ++ putU32Be s.g ++ putU32Be s.h

def sha256Final (context : Sha256Context) : List U8 :=
  let bitLength := context.totalLength * 8
  let marked := context.buffer ++ [0x80]
  let state := if marked.length > 56 then sha256Transform context.state (sha256Pad 64 marked) else context.state
  let buffer := if marked.length > 56 then [] else marked
  let block := sha256Pad 56 buffer ++ putU32Be ((bitLength >>> 32).setWidth 32) ++ putU32Be (bitLength.setWidth 32)
  sha256Digest (sha256Transform state block)

def sha256 (data : List U8) : List U8 := sha256Final (sha256Update sha256Init data)

@[simp] theorem sha256_length (data : List U8) : (sha256 data).length = 32 := rfl

example : sha256 [0x61, 0x62, 0x63] =
    [0xBA, 0x78, 0x16, 0xBF, 0x8F, 0x01, 0xCF, 0xEA, 0x41, 0x41, 0x40, 0xDE, 0x5D, 0xAE, 0x22, 0x23,
     0xB0, 0x03, 0x61, 0xA3, 0x96, 0x17, 0x7A, 0x9C, 0xB4, 0x10, 0xFF, 0x61, 0xF2, 0x00, 0x15, 0xAD] := by
  decide +kernel

/-- The zero-padded key block; a key longer than a block is hashed first. -/
def hmacKeyBlock (key : List U8) : Bytes 64 := padded 64 (if key.length > 64 then sha256 key else key)

def hmacSha256 (key data : List U8) : List U8 :=
  let innerPad := (hmacKeyBlock key).1.map (· ^^^ 0x36)
  let outerPad := (hmacKeyBlock key).1.map (· ^^^ 0x5C)
  let innerDigest := sha256Final (sha256Update (sha256Update sha256Init innerPad) data)
  sha256Final (sha256Update (sha256Update sha256Init outerPad) innerDigest)

@[simp] theorem hmacSha256_length (key data : List U8) : (hmacSha256 key data).length = 32 := rfl

example : hmacSha256 [0x6B, 0x65, 0x79] [0x6D, 0x73, 0x67] =
    [0x2D, 0x93, 0xCB, 0xC1, 0xBE, 0x16, 0x7B, 0xCB, 0x16, 0x37, 0xA4, 0xA2, 0x3C, 0xBF, 0xF0, 0x1A,
     0x78, 0x78, 0xF0, 0xC5, 0x0E, 0xE8, 0x33, 0x95, 0x4E, 0xA5, 0x22, 0x1B, 0xB1, 0xB8, 0xC6, 0x28] := by
  decide +kernel

def cryptoDifference : List U8 → List U8 → U8
  | a :: left, b :: right => (a ^^^ b) ||| cryptoDifference left right
  | _, _ => 0

/-- The comparison of the first `length` bytes. -/
def cryptoConstantTimeEqual (left right : List U8) (length : Nat) : Bool :=
  if length = 0 then false else cryptoDifference (left.take length) (right.take length) = 0

theorem cryptoDifference_zero {left right : List U8} (same : left.length = right.length) :
    cryptoDifference left right = 0 ↔ left = right := by
  induction left generalizing right with
  | nil =>
    have empty : right = [] := List.length_eq_zero_iff.mp same.symm
    simp [empty, cryptoDifference]
  | cons a left ih =>
    cases right with
    | nil => simp at same
    | cons b right =>
      have tail : left.length = right.length := by simpa using same
      have equal : a ^^^ b = 0 ↔ a = b := BitVec.xor_eq_zero_iff
      rw [cryptoDifference, List.cons.injEq, ← ih tail, ← equal]
      exact BitVec.or_eq_zero_iff

theorem cryptoConstantTimeEqual_iff {left right : List U8} {length : Nat} (positive : 0 < length)
    (left_bound : length ≤ left.length) (right_bound : length ≤ right.length) :
    cryptoConstantTimeEqual left right length = true ↔ left.take length = right.take length := by
  have same : (left.take length).length = (right.take length).length := by
    simp only [List.length_take]
    omega
  rw [cryptoConstantTimeEqual, if_neg (by omega), decide_eq_true_iff]
  exact cryptoDifference_zero same

end Guardian.Crypto
