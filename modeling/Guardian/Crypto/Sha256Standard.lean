import Guardian.Crypto.Sha256
import Guardian.Lib.IteratedHash
import Mathlib.Analysis.SpecialFunctions.Pow.Real
import Mathlib.Data.Nat.Prime.Basic

namespace Guardian.Crypto

open Word IteratedHash

def fipsPrimes : List Nat := (List.range 312).filter Nat.Prime

local instance fipsTwo : Nat.AtLeastTwo 2 := ⟨by decide⟩

/-- The first thirty-two bits of the fractional part of the root of `value`. -/
noncomputable def fipsFraction (degree value : Nat) : U32 :=
  BitVec.ofNat 32 ⌊(value : ℝ) ^ ((degree : ℝ)⁻¹) * 2 ^ 32⌋₊

noncomputable def fipsK (t : Nat) : U32 := fipsFraction 3 (fipsPrimes.getD t 0)

noncomputable def fipsInitial : Sha256State :=
  let word (i : Nat) : U32 := fipsFraction 2 (fipsPrimes.getD i 0)
  ⟨word 0, word 1, word 2, word 3, word 4, word 5, word 6, word 7⟩

def fipsCh (x y z : U32) : U32 := (x &&& y) ^^^ (~~~x &&& z)
def fipsMaj (x y z : U32) : U32 := (x &&& y) ^^^ (x &&& z) ^^^ (y &&& z)
def fipsBigSigma0 (x : U32) : U32 := x.rotateRight 2 ^^^ x.rotateRight 13 ^^^ x.rotateRight 22
def fipsBigSigma1 (x : U32) : U32 := x.rotateRight 6 ^^^ x.rotateRight 11 ^^^ x.rotateRight 25
def fipsSmallSigma0 (x : U32) : U32 := x.rotateRight 7 ^^^ x.rotateRight 18 ^^^ (x >>> 3)
def fipsSmallSigma1 (x : U32) : U32 := x.rotateRight 17 ^^^ x.rotateRight 19 ^^^ (x >>> 10)

/-- Word `t` of the message schedule of a block. -/
def fipsW (block : List U8) (t : Nat) : U32 :=
  if t < 16 then getU32Be (block.drop (4 * t))
  else fipsSmallSigma1 (fipsW block (t - 2)) + fipsW block (t - 7) +
    fipsSmallSigma0 (fipsW block (t - 15)) + fipsW block (t - 16)

noncomputable def fipsRound (block : List U8) (v : Sha256State) (t : Nat) : Sha256State :=
  let t1 := v.h + fipsBigSigma1 v.e + fipsCh v.e v.f v.g + fipsK t + fipsW block t
  let t2 := fipsBigSigma0 v.a + fipsMaj v.a v.b v.c
  ⟨t1 + t2, v.a, v.b, v.c, v.d + t1, v.e, v.f, v.g⟩

noncomputable def fipsCompress (h : Sha256State) (block : List U8) : Sha256State :=
  let v := (List.range 64).foldl (fipsRound block) h
  ⟨v.a + h.a, v.b + h.b, v.c + h.c, v.d + h.d, v.e + h.e, v.f + h.f, v.g + h.g, v.h + h.h⟩

/-- The zero bytes after the one that holds the `1` bit. -/
def fipsZeros (length : Nat) : Nat := (119 - length % 64) % 64

def fipsPadded (message : List U8) : List U8 :=
  message ++ [0x80] ++ List.replicate (fipsZeros message.length) 0 ++ putU64Be (BitVec.ofNat 64 (8 * message.length))

noncomputable def fipsSha256 (message : List U8) : List U8 :=
  let h := chained fipsCompress 64 fipsInitial (fipsPadded message)
  [h.a, h.b, h.c, h.d, h.e, h.f, h.g, h.h].flatMap putU32Be

/-- The keyed hash of RFC 2104 over a hash with blocks of `blockSize` bytes. -/
def rfc2104 (hash : List U8 → List U8) (blockSize : Nat) (key text : List U8) : List U8 :=
  let short := if blockSize < key.length then hash key else key
  let extended := short ++ List.replicate (blockSize - short.length) 0
  hash (extended.map (· ^^^ 0x5C) ++ hash (extended.map (· ^^^ 0x36) ++ text))

/-- With the seven zero bits behind the `1` bit, these are the fewest that leave sixty-four bits of the last block. -/
theorem fipsZeros_least (length : Nat) :
    (8 * length + 1 + (7 + 8 * fipsZeros length)) % 512 = 448 ∧
      ∀ k, (8 * length + 1 + k) % 512 = 448 → 7 + 8 * fipsZeros length ≤ k := by
  unfold fipsZeros
  constructor
  · omega
  · intro k enough
    omega

theorem fipsPrimes_eq : fipsPrimes =
    [2, 3, 5, 7, 11, 13, 17, 19, 23, 29, 31, 37, 41, 43, 47, 53, 59, 61, 67, 71, 73, 79,
     83, 89, 97, 101, 103, 107, 109, 113, 127, 131, 137, 139, 149, 151, 157, 163, 167, 173, 179, 181, 191, 193,
     197, 199, 211, 223, 227, 229, 233, 239, 241, 251, 257, 263, 269, 271, 277, 281, 283, 293, 307, 311] := by
  decide +kernel

section Constants

theorem fipsFraction_eq {degree value root : Nat} (positive : degree ≠ 0)
    (low : root ^ degree ≤ value * (2 ^ 32) ^ degree) (high : value * (2 ^ 32) ^ degree < (root + 1) ^ degree) :
    fipsFraction degree value = BitVec.ofNat 32 root := by
  have power : ((value : ℝ) ^ ((degree : ℝ)⁻¹) * 2 ^ 32) ^ degree = (value * (2 ^ 32) ^ degree : ℕ) := by
    rw [mul_pow, Real.rpow_inv_natCast_pow (Nat.cast_nonneg value) positive]
    push_cast
    ring
  have nonneg : 0 ≤ (value : ℝ) ^ ((degree : ℝ)⁻¹) * 2 ^ 32 := by positivity
  have floor : ⌊(value : ℝ) ^ ((degree : ℝ)⁻¹) * 2 ^ 32⌋₊ = root := by
    rw [Nat.floor_eq_iff nonneg]
    constructor
    · apply le_of_pow_le_pow_left₀ positive nonneg
      rw [power]
      exact_mod_cast low
    · apply lt_of_pow_lt_pow_left₀ degree (by positivity)
      rw [power]
      exact_mod_cast high
  rw [fipsFraction, floor]

/-- The integer root whose low thirty-two bits are `word`. -/
def rootOf (degree value : Nat) (word : U32) : Nat :=
  ((List.range 20).filter fun whole => 0 < whole ∧ whole ^ degree ≤ value).length * 2 ^ 32 + word.toNat

def FractionWord (degree value : Nat) (word : U32) : Prop :=
  rootOf degree value word ^ degree ≤ value * (2 ^ 32) ^ degree ∧
    value * (2 ^ 32) ^ degree < (rootOf degree value word + 1) ^ degree

instance (degree value : Nat) (word : U32) : Decidable (FractionWord degree value word) :=
  inferInstanceAs (Decidable (_ ∧ _))

theorem FractionWord.eq {degree value : Nat} {word : U32} (fraction : FractionWord degree value word)
    (positive : degree ≠ 0) : fipsFraction degree value = word := by
  rw [fipsFraction_eq positive fraction.1 fraction.2]
  apply BitVec.eq_of_toNat_eq
  rw [BitVec.toNat_ofNat, rootOf, Nat.mul_add_mod_self_right, Nat.mod_eq_of_lt word.isLt]

theorem sha256K_fractions : ∀ t < 64, FractionWord 3 (fipsPrimes.getD t 0) (sha256K.getD t 0) := by
  rw [fipsPrimes_eq]
  decide +kernel

theorem sha256K_standard : sha256K = (List.range 64).map fipsK := by
  have table : sha256K = (List.range 64).map fun t => sha256K.getD t 0 := by decide +kernel
  rw [table]
  apply List.map_congr_left
  intro t within
  exact ((sha256K_fractions t (List.mem_range.mp within)).eq (by decide)).symm

theorem sha256Init_standard : sha256Init.state = fipsInitial := by
  have word (i : Nat) (value : U32) (fraction : FractionWord 2 (fipsPrimes.getD i 0) value) :=
    fraction.eq (by decide)
  simp only [fipsInitial]
  rw [fipsPrimes_eq] at word ⊢
  rw [word 0 0x6A09E667 (by decide +kernel), word 1 0xBB67AE85 (by decide +kernel),
    word 2 0x3C6EF372 (by decide +kernel), word 3 0xA54FF53A (by decide +kernel),
    word 4 0x510E527F (by decide +kernel), word 5 0x9B05688C (by decide +kernel),
    word 6 0x1F83D9AB (by decide +kernel), word 7 0x5BE0CD19 (by decide +kernel)]
  rfl

end Constants

section Compression

theorem sha256Rotr_eq (value : U32) {count : Nat} (within : count < 32) :
    sha256Rotr value count = value.rotateRight count := by
  rw [sha256Rotr, BitVec.rotateRight_def, Nat.mod_eq_of_lt within]

theorem sha256Load_eq (count : Nat) (block : List U8) :
    sha256Load count block = (List.range count).map fun t => getU32Be (block.drop (4 * t)) := by
  induction count generalizing block with
  | zero => rfl
  | succ count ih =>
    rw [sha256Load, ih, List.range_succ_eq_map, List.map_cons, List.map_map]
    simp only [List.drop_drop, Function.comp_def, Nat.mul_succ, Nat.mul_zero, List.drop_zero, Nat.add_comm]

theorem schedule_getD (block : List U8) {count t : Nat} (within : t < count) :
    ((List.range count).map (fipsW block)).getD t 0 = fipsW block t := by
  simp [List.getD_eq_getElem?_getD, within]

theorem sha256Next_eq (block : List U8) {count : Nat} (loaded : 16 ≤ count) :
    sha256Next ((List.range count).map (fipsW block)) = fipsW block count := by
  have words (back : Nat) (before : 0 < back) (within : back ≤ count) :
      ((List.range count).map (fipsW block)).getD (count - back) 0 = fipsW block (count - back) :=
    schedule_getD block (by omega)
  simp only [sha256Next, List.length_map, List.length_range]
  rw [words 16 (by decide) (by omega), words 15 (by decide) (by omega), words 7 (by decide) (by omega),
    words 2 (by decide) (by omega)]
  conv_rhs => rw [fipsW, if_neg (by omega)]
  simp only [fipsSmallSigma0, fipsSmallSigma1, ← sha256Rotr_eq _ (show 17 < 32 by decide),
    ← sha256Rotr_eq _ (show 19 < 32 by decide), ← sha256Rotr_eq _ (show 7 < 32 by decide),
    ← sha256Rotr_eq _ (show 18 < 32 by decide)]
  ac_rfl

theorem sha256Extend_eq (block : List U8) (turns : Nat) {count : Nat} (loaded : 16 ≤ count) :
    sha256Extend turns ((List.range count).map (fipsW block)) = (List.range (count + turns)).map (fipsW block) := by
  induction turns generalizing count with
  | zero => rfl
  | succ turns ih =>
    have next : (List.range count).map (fipsW block) ++ [sha256Next ((List.range count).map (fipsW block))] =
        (List.range (count + 1)).map (fipsW block) := by
      rw [sha256Next_eq block loaded, List.range_succ, List.map_append, List.map_singleton]
    rw [sha256Extend, next, ih (by omega), Nat.add_assoc, Nat.add_comm 1]

theorem sha256Schedule_eq (block : List U8) : sha256Extend 48 (sha256Load 16 block) = (List.range 64).map (fipsW block) := by
  have loaded : sha256Load 16 block = (List.range 16).map (fipsW block) := by
    rw [sha256Load_eq]
    apply List.map_congr_left
    intro t within
    rw [fipsW, if_pos (List.mem_range.mp within)]
  rw [loaded, sha256Extend_eq block 48 le_rfl]

theorem sha256Round_eq (block : List U8) (s : Sha256State) (t : Nat) :
    sha256Round s (fipsK t, fipsW block t) = fipsRound block s t := by
  have rotated (value : U32) (count : Nat) (within : count < 32) := (sha256Rotr_eq value within).symm
  simp only [sha256Round, fipsRound, fipsBigSigma0, fipsBigSigma1, fipsCh, fipsMaj, rotated _ 6 (by decide),
    rotated _ 11 (by decide), rotated _ 25 (by decide), rotated _ 2 (by decide), rotated _ 13 (by decide),
    rotated _ 22 (by decide)]

theorem sha256Transform_standard : sha256Transform = fipsCompress := by
  funext s block
  have rounds : (sha256K.zip (sha256Extend 48 (sha256Load 16 block))).foldl sha256Round s =
      (List.range 64).foldl (fipsRound block) s := by
    rw [sha256K_standard, sha256Schedule_eq, List.zip_map', List.foldl_map]
    simp only [sha256Round_eq]
  simp only [sha256Transform, fipsCompress, rounds, BitVec.add_comm]

end Compression

section Streaming

/-- The context has been fed `message`. -/
structure Sha256Absorbed (context : Sha256Context) (message : List U8) : Prop where
  absorbed : Absorbed sha256Transform 64 sha256Init.state context.state context.buffer message
  total : context.totalLength = BitVec.ofNat 64 message.length

theorem sha256Init_absorbed : Sha256Absorbed sha256Init [] := ⟨Absorbed.nothing (by decide), rfl⟩

theorem sha256Copy_absorbed {turns : Nat} {context : Sha256Context} {data message : List U8}
    (enough : data.length ≤ turns)
    (absorbed : Absorbed sha256Transform 64 sha256Init.state context.state context.buffer message) :
    Absorbed sha256Transform 64 sha256Init.state (sha256Copy turns context data).state
      (sha256Copy turns context data).buffer (message ++ data) := by
  induction turns generalizing context data message with
  | zero =>
    have empty : data = [] := List.length_eq_zero_iff.mp (by omega)
    simpa [empty, sha256Copy] using absorbed
  | succ turns ih =>
    cases data with
    | nil => simpa [sha256Copy] using absorbed
    | cons first rest =>
      have pending := absorbed.pending
      simp only [sha256Copy]
      set data := first :: rest with fed
      set available := 64 - context.buffer.length with space
      have shorter : (data.drop available).length ≤ turns := by
        simp only [List.length_drop, fed, List.length_cons] at enough ⊢
        omega
      have taken : (data.take available).length = min available data.length := List.length_take
      rw [← List.take_append_drop available data, ← List.append_assoc, List.take_append_drop]
      split
      · next full => exact ih shorter (absorbed.compressed full)
      · next open_ =>
        apply ih shorter
        apply absorbed.buffered
        rw [List.length_append] at open_ ⊢
        omega

theorem sha256Copy_totalLength (turns : Nat) (context : Sha256Context) (data : List U8) :
    (sha256Copy turns context data).totalLength = context.totalLength := by
  induction turns generalizing context data with
  | zero => rfl
  | succ turns ih =>
    cases data with
    | nil => rfl
    | cons first rest =>
      simp only [sha256Copy]
      split <;> rw [ih]

theorem sha256Update_absorbed {context : Sha256Context} {message : List U8}
    (absorbed : Sha256Absorbed context message) (data : List U8) :
    Sha256Absorbed (sha256Update context data) (message ++ data) := by
  constructor
  · exact sha256Copy_absorbed le_rfl absorbed.absorbed
  · rw [sha256Update, sha256Copy_totalLength, absorbed.total, List.length_append, BitVec.ofNat_add]

theorem sha256Updates_absorbed (chunks : List (List U8)) {context : Sha256Context} {message : List U8}
    (absorbed : Sha256Absorbed context message) :
    Sha256Absorbed (chunks.foldl sha256Update context) (message ++ chunks.flatten) := by
  induction chunks generalizing context message with
  | nil => simpa using absorbed
  | cons chunk chunks ih =>
    rw [List.foldl_cons, List.flatten_cons, ← List.append_assoc]
    exact ih (sha256Update_absorbed absorbed chunk)

theorem sha256Final_blocks (context : Sha256Context) (pending : context.buffer.length < 64) :
    sha256Final context = sha256Digest (chained sha256Transform 64 context.state (context.buffer ++
      ([0x80] ++ (List.replicate (fipsZeros context.buffer.length) 0 ++ putU64Be (context.totalLength * 8))))) := by
  have low := Nat.mod_eq_of_lt pending
  by_cases late : 55 < context.buffer.length
  · have zeros : fipsZeros context.buffer.length = (63 - context.buffer.length) + 56 := by
      rw [fipsZeros, low]
      omega
    have split : context.buffer ++ ([0x80] ++ (List.replicate (fipsZeros context.buffer.length) 0 ++
        putU64Be (context.totalLength * 8))) =
        sha256Pad 64 (context.buffer ++ [0x80]) ++ (sha256Pad 56 [] ++ putU64Be (context.totalLength * 8)) := by
      rw [zeros, List.replicate_add]
      simp [sha256Pad, show 64 - (context.buffer.length + 1) = 63 - context.buffer.length by omega]
    have first : (sha256Pad 64 (context.buffer ++ [0x80])).length = 64 := by simp [sha256Pad]; omega
    have second : (sha256Pad 56 [] ++ putU64Be (context.totalLength * 8)).length = 64 := by simp [sha256Pad]
    rw [split, chained_append (by decide) (by rw [first]), chained_block (by decide) first,
      chained_block (by decide) second]
    simp [sha256Final, putU64Be, List.append_assoc, show 56 < context.buffer.length + 1 by omega]
  · have zeros : fipsZeros context.buffer.length = 56 - (context.buffer.length + 1) := by
      rw [fipsZeros, low]
      omega
    have split : context.buffer ++ ([0x80] ++ (List.replicate (fipsZeros context.buffer.length) 0 ++
        putU64Be (context.totalLength * 8))) =
        sha256Pad 56 (context.buffer ++ [0x80]) ++ putU64Be (context.totalLength * 8) := by
      rw [zeros]
      simp [sha256Pad]
    have only : (sha256Pad 56 (context.buffer ++ [0x80]) ++ putU64Be (context.totalLength * 8)).length = 64 := by
      simp [sha256Pad]
      omega
    rw [split, chained_block (by decide) only]
    simp [sha256Final, putU64Be, List.append_assoc, show ¬ 56 < context.buffer.length + 1 by omega]

theorem sha256Final_standard {context : Sha256Context} {message : List U8}
    (absorbed : Sha256Absorbed context message) : sha256Final context = fipsSha256 message := by
  have zeros : fipsZeros context.buffer.length = fipsZeros message.length := by
    rw [fipsZeros, fipsZeros, ← absorbed.absorbed.pending_length, Nat.mod_mod]
  have bits : context.totalLength * 8 = BitVec.ofNat 64 (8 * message.length) := by
    rw [absorbed.total, Nat.mul_comm, BitVec.ofNat_mul]
    rfl
  have rest : fipsPadded message = message ++ ([0x80] ++ (List.replicate (fipsZeros message.length) 0 ++
      putU64Be (BitVec.ofNat 64 (8 * message.length)))) := by
    simp only [fipsPadded, List.append_assoc]
  rw [sha256Final_blocks context absorbed.absorbed.pending, zeros, bits, ← absorbed.absorbed.chained_rest, ← rest,
    sha256Transform_standard, sha256Init_standard]
  simp [fipsSha256, sha256Digest]

end Streaming

theorem sha256_standard (data : List U8) : sha256 data = fipsSha256 data :=
  sha256Final_standard (sha256Update_absorbed sha256Init_absorbed data)

theorem sha256_twoUpdates (first second : List U8) :
    sha256Final (sha256Update (sha256Update sha256Init first) second) = fipsSha256 (first ++ second) :=
  sha256Final_standard (sha256Update_absorbed (sha256Update_absorbed sha256Init_absorbed first) second)

theorem hmacKeyBlock_standard (key : List U8) :
    let short := if 64 < key.length then fipsSha256 key else key
    (hmacKeyBlock key).1 = short ++ List.replicate (64 - short.length) 0 := by
  simp only [hmacKeyBlock, gt_iff_lt, sha256_standard]
  apply padded_short
  split
  · rw [← sha256_standard, sha256_length]
    decide
  · omega

theorem digests_are_standard :
    (∀ chunks : List (List U8), sha256Final (chunks.foldl sha256Update sha256Init) = fipsSha256 chunks.flatten) ∧
      (∀ data, sha256 data = fipsSha256 data) ∧
      ∀ key data, hmacSha256 key data = rfc2104 fipsSha256 64 key data := by
  refine ⟨?_, sha256_standard, ?_⟩
  · intro chunks
    exact sha256Final_standard (sha256Updates_absorbed chunks sha256Init_absorbed)
  · intro key data
    simp only [hmacSha256, rfc2104, sha256_twoUpdates, hmacKeyBlock_standard]

end Guardian.Crypto
