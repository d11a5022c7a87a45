import Guardian.Lib.Word

namespace Guardian.Crypto

open Word

/-- `input` holds the `input_idx` bytes not yet compressed, `inputOffset` the two words of the byte count. -/
structure Blake2bContext where
  hash : List U64
  inputOffset : U64 × U64
  input : List U8
  hashSize : Nat
  deriving DecidableEq, Repr

structure Blake2bWork where
  v0 : U64
  v1 : U64
  v2 : U64
  v3 : U64
  v4 : U64
  v5 : U64
  v6 : U64
  v7 : U64
  v8 : U64
  v9 : U64
  v10 : U64
  v11 : U64
  v12 : U64
  v13 : U64
  v14 : U64
  v15 : U64

def blake2bIv : List U64 :=
  [0x6A09E667F3BCC908, 0xBB67AE8584CAA73B, 0x3C6EF372FE94F82B, 0xA54FF53A5F1D36F1,
   0x510E527FADE682D1, 0x9B05688C2B3E6C1F, 0x1F83D9ABFB41BD6B, 0x5BE0CD19137E2179]

def blake2bSigma : List (List Nat) :=
  [[0, 1, 2, 3, 4, 5, 6, 7, 8, 9, 10, 11, 12, 13, 14, 15],
   [14, 10, 4, 8, 9, 15, 13, 6, 1, 12, 0, 2, 11, 7, 5, 3],
   [11, 8, 12, 0, 5, 2, 15, 13, 10, 14, 3, 6, 7, 1, 9, 4],
   [7, 9, 3, 1, 13, 12, 11, 14, 2, 6, 5, 10, 4, 0, 15, 8],
   [9, 0, 5, 7, 2, 4, 10, 15, 14, 1, 11, 12, 6, 8, 3, 13],
   [2, 12, 6, 10, 0, 11, 8, 3, 4, 13, 7, 5, 15, 14, 1, 9],
   [12, 5, 1, 15, 14, 13, 4, 10, 0, 7, 6, 3, 9, 2, 8, 11],
   [13, 11, 7, 14, 12, 1, 3, 9, 5, 0, 15, 4, 8, 6, 2, 10],
   [6, 15, 14, 9, 11, 3, 0, 8, 12, 2, 13, 7, 1, 4, 10, 5],
   [10, 2, 8, 4, 7, 6, 1, 5, 15, 11, 9, 14, 3, 12, 13, 0],
   [0, 1, 2, 3, 4, 5, 6, 7, 8, 9, 10, 11, 12, 13, 14, 15],
   [14, 10, 4, 8, 9, 15, 13, 6, 1, 12, 0, 2, 11, 7, 5, 3]]

def rotr64 (value : U64) (count : Nat) : U64 := (value >>> count) ^^^ (value <<< (64 - count))

def blake2G (a b c d x y : U64) : U64 × U64 × U64 × U64 :=
  let a := a + (b + x)
  let d := rotr64 (d ^^^ a) 32
  let c := c + d
  let b := rotr64 (b ^^^ c) 24
  let a := a + (b + y)
  let d := rotr64 (d ^^^ a) 16
  let c := c + d
  let b := rotr64 (b ^^^ c) 63
  (a, b, c, d)

def blake2Round (input : List U64) (v : Blake2bWork) (sigma : List Nat) : Blake2bWork :=
  let word (index : Nat) : U64 := input.getD (sigma.getD index 0) 0
  let (v0, v4, v8, v12) := blake2G v.v0 v.v4 v.v8 v.v12 (word 0) (word 1)
  let (v1, v5, v9, v13) := blake2G v.v1 v.v5 v.v9 v.v13 (word 2) (word 3)
  let (v2, v6, v10, v14) := blake2G v.v2 v.v6 v.v10 v.v14 (word 4) (word 5)
  let (v3, v7, v11, v15) := blake2G v.v3 v.v7 v.v11 v.v15 (word 6) (word 7)
  let (v0, v5, v10, v15) := blake2G v0 v5 v10 v15 (word 8) (word 9)
  let (v1, v6, v11, v12) := blake2G v1 v6 v11 v12 (word 10) (word 11)
  let (v2, v7, v8, v13) := blake2G v2 v7 v8 v13 (word 12) (word 13)
  let (v3, v4, v9, v14) := blake2G v3 v4 v9 v14 (word 14) (word 15)
  ⟨v0, v1, v2, v3, v4, v5, v6, v7, v8, v9, v10, v11, v12, v13, v14, v15⟩

/-- The sixteen words of a block, which is zero after `input`. -/
def blake2bLoad : Nat → List U8 → List U64
  | 0, _ => []
  | count + 1, input => getU64Le ((input.take 8) ++ List.replicate (8 - input.length) 0) ::
      blake2bLoad count (input.drop 8)

def blake2bCompress (context : Blake2bContext) (isLastBlock : Bool) : Blake2bContext :=
  let taken := BitVec.ofNat 64 context.input.length
  let offset0 := context.inputOffset.1 + taken
  let offset1 := if offset0 < taken then context.inputOffset.2 + 1 else context.inputOffset.2
  let hash (index : Nat) : U64 := context.hash.getD index 0
  let iv (index : Nat) : U64 := blake2bIv.getD index 0
  let start : Blake2bWork :=
    { v0 := hash 0, v1 := hash 1, v2 := hash 2, v3 := hash 3, v4 := hash 4, v5 := hash 5, v6 := hash 6, v7 := hash 7
      v8 := iv 0, v9 := iv 1, v10 := iv 2, v11 := iv 3, v12 := iv 4 ^^^ offset0, v13 := iv 5 ^^^ offset1
      v14 := iv 6 ^^^ (if isLastBlock then BitVec.allOnes 64 else 0), v15 := iv 7 }
  let v := blake2bSigma.foldl (blake2Round (blake2bLoad 16 context.input)) start
  { context with
    inputOffset := (offset0, offset1)
    hash := [hash 0 ^^^ (v.v0 ^^^ v.v8), hash 1 ^^^ (v.v1 ^^^ v.v9), hash 2 ^^^ (v.v2 ^^^ v.v10),
      hash 3 ^^^ (v.v3 ^^^ v.v11), hash 4 ^^^ (v.v4 ^^^ v.v12), hash 5 ^^^ (v.v5 ^^^ v.v13),
      hash 6 ^^^ (v.v6 ^^^ v.v14), hash 7 ^^^ (v.v7 ^^^ v.v15)] }

def blake2bInit (hashSize : Nat) : Blake2bContext where
  hash := (blake2bIv.getD 0 0 ^^^ (0x01010000 ^^^ BitVec.ofNat 64 hashSize)) :: blake2bIv.drop 1
  inputOffset := (0, 0)
  input := []
  hashSize

/-- The copy loop of `update`. Each turn takes at least one byte, so `message.length` turns are enough. A full block
    is kept until more of the message follows it. -/
def blake2bCopy : Nat → Blake2bContext → List U8 → Blake2bContext
  | 0, context, _ => context
  | _ + 1, context, [] => context
  | turns + 1, context, message =>
    let context := if context.input.length = 128 then { blake2bCompress context false with input := [] } else context
    let available := 128 - context.input.length
    blake2bCopy turns { context with input := context.input ++ message.take available } (message.drop available)

def blake2bUpdate (context : Blake2bContext) (message : List U8) : Blake2bContext :=
  blake2bCopy message.length context message

def blake2bFinal (context : Blake2bContext) : List U8 :=
  ((blake2bCompress context true).hash.flatMap putU64Le).take (min context.hashSize 64)

def blake2b (hashSize : Nat) (message : List U8) : List U8 := blake2bFinal (blake2bUpdate (blake2bInit hashSize) message)

theorem blake2bCopy_hashSize (turns : Nat) (context : Blake2bContext) (message : List U8) :
    (blake2bCopy turns context message).hashSize = context.hashSize := by
  induction turns generalizing context message with
  | zero => rfl
  | succ turns ih =>
    cases message with
    | nil => rfl
    | cons byte message =>
      rw [blake2bCopy, ih]
      · split_ifs <;> rfl
      · simp

theorem blake2b_length {hashSize : Nat} (bound : hashSize ≤ 64) (message : List U8) :
    (blake2b hashSize message).length = hashSize := by
  have size : (blake2bUpdate (blake2bInit hashSize) message).hashSize = hashSize := blake2bCopy_hashSize _ _ message
  rw [blake2b, blake2bFinal, size, Nat.min_eq_left bound, List.length_take_of_le]
  exact bound

example : blake2b 32 [0x61, 0x62, 0x63] =
    [0xBD, 0xDD, 0x81, 0x3C, 0x63, 0x42, 0x39, 0x72, 0x31, 0x71, 0xEF, 0x3F, 0xEE, 0x98, 0x57, 0x9B,
     0x94, 0x96, 0x4E, 0x3B, 0xB1, 0xCB, 0x3E, 0x42, 0x72, 0x62, 0xC8, 0xC0, 0x68, 0xD5, 0x23, 0x19] := by
  decide +kernel

end Guardian.Crypto
