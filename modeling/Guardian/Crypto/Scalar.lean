import Guardian.Lib.LittleEndian
import Mathlib.Data.Nat.ModEq
import Mathlib.Tactic.Ring
import Mathlib.Tactic.NormNum

namespace Guardian.Crypto

open Word LittleEndian

def wordsNumber (words : List ℕ) : ℕ := Nat.ofDigits (2 ^ 32) words

@[simp] theorem wordsNumber_nil : wordsNumber [] = 0 := rfl

@[simp] theorem wordsNumber_cons (word : ℕ) (words : List ℕ) :
    wordsNumber (word :: words) = word + 2 ^ 32 * wordsNumber words := by
  simp [wordsNumber, Nat.ofDigits_cons]

def Words (words : List ℕ) : Prop := ∀ word ∈ words, word < 2 ^ 32

def load32LeBuf (src : List U8) : (size : ℕ) → List ℕ
  | 0 => []
  | size + 1 => (getU32Le src).toNat :: load32LeBuf (src.drop 4) size

def store32LeBuf (src : List ℕ) : List U8 := src.flatMap fun word => putU32Le (BitVec.ofNat 32 word)

def orderL : List ℕ :=
  [0x5cf5d3ed, 0x5812631a, 0xa2f79cd6, 0x14def9de, 0x00000000, 0x00000000, 0x00000000, 0x10000000]

def groupOrder : ℕ := 2 ^ 252 + 27742317777372353535851937790883648493

/-- `carry += p[j] + a * b[j]` along a row, with the words left and the last carry. -/
def multiplyRow (a : ℕ) : (carry : ℕ) → (p b : List ℕ) → List ℕ × ℕ
  | carry, p :: ps, b :: bs =>
    let sum := (carry + (p + a * b) % 2 ^ 64) % 2 ^ 64
    let next := multiplyRow a (sum / 2 ^ 32) ps bs
    (sum % 2 ^ 32 :: next.1, next.2)
  | carry, _, _ => ([], carry)

/-- `p` are the words from `p[i]` on that row `i` adds to; its carry goes to the word above them. -/
def multiply (p : List ℕ) : (a b : List ℕ) → List ℕ
  | [], _ => p
  | a :: as, b =>
    let row := multiplyRow a 0 p b
    match row.1 ++ [row.2 % 2 ^ 32] with
    | [] => []
    | first :: rest => first :: multiply rest as b

/-- As `multiply`, but no word above `p` is kept. -/
def multiplyLow (p : List ℕ) : (a b : List ℕ) → List ℕ
  | [], _ => p
  | a :: as, b =>
    match (multiplyRow a 0 p b).1 with
    | [] => []
    | first :: rest => first :: multiplyLow rest as b

/-- `x + (~l & mask) + carry`. -/
def addComplement (mask : U32) : (carry : ℕ) → (x l : List ℕ) → List ℕ × ℕ
  | carry, x :: xs, l :: ls =>
    let sum := carry + (x + (~~~(BitVec.ofNat 32 l) &&& mask).toNat)
    let next := addComplement mask (sum / 2 ^ 32) xs ls
    (sum % 2 ^ 32 :: next.1, next.2)
  | carry, _, _ => ([], carry)

def isAboveL (x : List ℕ) : ℕ := (addComplement 0xFFFFFFFF 1 x orderL).2

def removeL (x : List ℕ) : List ℕ :=
  let carry := isAboveL x
  (addComplement (~~~(BitVec.ofNat 32 carry) + 1) carry x orderL).1

def barrettR : List ℕ :=
  [0x0a2c131b, 0xed9ce5a3, 0x086329a7, 0x2106215d, 0xffffffeb, 0xffffffff, 0xffffffff, 0xffffffff, 0xf]

def modL (x : List ℕ) : List U8 :=
  let xr := multiply (List.replicate 16 0) barrettR x
  let xr := multiplyLow (List.replicate 8 0) ((xr.drop 16).take 8) orderL
  let xr := (addComplement 0xFFFFFFFF 1 (x.take 8) xr).1
  store32LeBuf (removeL xr)

def cryptoEddsaReduce (expanded : Bytes 64) : List U8 := modL (load32LeBuf expanded.1 16)

def cryptoEddsaMulAdd (a b c : Bytes 32) : List U8 :=
  modL (multiply (load32LeBuf c.1 8) (load32LeBuf a.1 8) (load32LeBuf b.1 8))

theorem wordsNumber_lt {words : List ℕ} (small : Words words) : wordsNumber words < 2 ^ (32 * words.length) := by
  rw [pow_mul]
  exact Nat.ofDigits_lt_base_pow_length (by norm_num) small

theorem wordsNumber_append (left right : List ℕ) :
    wordsNumber (left ++ right) = wordsNumber left + 2 ^ (32 * left.length) * wordsNumber right := by
  rw [wordsNumber, Nat.ofDigits_append, ← pow_mul]
  rfl

theorem load32LeBuf_number {src : List U8} {size : ℕ} (enough : 4 * size ≤ src.length) :
    wordsNumber (load32LeBuf src size) = number (src.take (4 * size)) ∧ (load32LeBuf src size).length = size ∧
      Words (load32LeBuf src size) := by
  induction size generalizing src with
  | zero => simp [load32LeBuf, Words]
  | succ size ih =>
    rcases @ih (src.drop 4) (by rw [List.length_drop]; omega) with ⟨value, length, small⟩
    have first := getU32Le_number src (by omega)
    have split := number_append (src.take 4) ((src.drop 4).take (4 * size))
    rw [← List.take_add, List.length_take, Nat.min_eq_left (by omega)] at split
    refine ⟨?_, by rw [load32LeBuf, List.length_cons, length], ?_⟩
    · rw [load32LeBuf, wordsNumber_cons, first, value, show 4 * (size + 1) = 4 + 4 * size by ring, split]
      norm_num
    · intro word member
      rcases List.mem_cons.mp member with rfl | member
      · exact (getU32Le src).isLt
      · exact small word member

theorem store32LeBuf_number {src : List ℕ} (small : Words src) :
    number (store32LeBuf src) = wordsNumber src ∧ (store32LeBuf src).length = 4 * src.length := by
  induction src with
  | nil => simp [store32LeBuf]
  | cons word src ih =>
    rcases ih fun other member => small other (List.mem_cons_of_mem _ member) with ⟨value, length⟩
    have first := small word List.mem_cons_self
    simp only [store32LeBuf, List.flatMap_cons] at value length ⊢
    rw [number_append, putU32Le_number, value, putU32Le_length, BitVec.toNat_ofNat, Nat.mod_eq_of_lt first,
      wordsNumber_cons, List.length_append, length, putU32Le_length, List.length_cons]
    exact ⟨by norm_num, by ring⟩

theorem multiplyRow_number {a carry : ℕ} {p b : List ℕ} (factor : a < 2 ^ 32) (carried : carry < 2 ^ 32) (left : Words p)
    (right : Words b) (size : p.length = b.length) :
    let row := multiplyRow a carry p b
    wordsNumber row.1 + 2 ^ (32 * p.length) * row.2 = carry + wordsNumber p + a * wordsNumber b ∧
      row.1.length = p.length ∧ Words row.1 ∧ row.2 < 2 ^ 32 := by
  induction p generalizing carry b with
  | nil =>
    rw [List.length_nil, eq_comm, List.length_eq_zero_iff] at size
    rw [size]
    simpa [multiplyRow, Words] using carried
  | cons word p ih =>
    rcases b with _ | ⟨other, b⟩
    · simp at size
    have first := left word List.mem_cons_self
    have second := right other List.mem_cons_self
    have product : a * other ≤ (2 ^ 32 - 1) * (2 ^ 32 - 1) := Nat.mul_le_mul (by omega) (by omega)
    obtain ⟨sum, whole⟩ : ∃ sum, sum = carry + (word + a * other) := ⟨_, rfl⟩
    have exact : (carry + (word + a * other) % 2 ^ 64) % 2 ^ 64 = sum := by
      generalize a * other = product at *
      omega
    have next := @ih (sum / 2 ^ 32) b (by generalize a * other = product at *; omega)
      (fun other member => left other (List.mem_cons_of_mem _ member))
      (fun other member => right other (List.mem_cons_of_mem _ member)) (by simpa using size)
    simp only [multiplyRow, exact]
    rcases next with ⟨value, length, small, last⟩
    refine ⟨?_, by rw [List.length_cons, length, List.length_cons], ?_, last⟩
    · have parts := Nat.div_add_mod sum (2 ^ 32)
      rw [wordsNumber_cons, wordsNumber_cons, wordsNumber_cons, List.length_cons, Nat.mul_succ, pow_add]
      calc sum % 2 ^ 32 + 2 ^ 32 * wordsNumber (multiplyRow a (sum / 2 ^ 32) p b).1 +
            2 ^ (32 * p.length) * 2 ^ 32 * (multiplyRow a (sum / 2 ^ 32) p b).2
          = sum % 2 ^ 32 + 2 ^ 32 * (wordsNumber (multiplyRow a (sum / 2 ^ 32) p b).1 +
            2 ^ (32 * p.length) * (multiplyRow a (sum / 2 ^ 32) p b).2) := by ring
        _ = (2 ^ 32 * (sum / 2 ^ 32) + sum % 2 ^ 32) + 2 ^ 32 * (wordsNumber p + a * wordsNumber b) := by
            rw [value]; ring
        _ = carry + (word + 2 ^ 32 * wordsNumber p) + a * (other + 2 ^ 32 * wordsNumber b) := by
            rw [parts, whole]; ring
    · intro word member
      rcases List.mem_cons.mp member with rfl | member
      · exact Nat.mod_lt _ (by norm_num)
      · exact small word member

theorem multiply_number {p a b : List ℕ} (first : Words p) (second : Words a) (third : Words b)
    (size : p.length = b.length) :
    wordsNumber (multiply p a b) = wordsNumber p + wordsNumber a * wordsNumber b ∧
      (multiply p a b).length = a.length + b.length ∧ Words (multiply p a b) := by
  induction a generalizing p with
  | nil => exact ⟨by simp [multiply], by simpa [multiply] using size, first⟩
  | cons word a ih =>
    rcases @multiplyRow_number word 0 p b (second word List.mem_cons_self) (by norm_num) first third size with
      ⟨value, length, small, last⟩
    have kept := Nat.mod_eq_of_lt last
    have all : Words ((multiplyRow word 0 p b).1 ++ [(multiplyRow word 0 p b).2 % 2 ^ 32]) := by
      rw [kept]
      intro other member
      rcases List.mem_append.mp member with member | member
      · exact small other member
      · rw [List.mem_singleton.mp member]
        exact last
    have whole : wordsNumber ((multiplyRow word 0 p b).1 ++ [(multiplyRow word 0 p b).2 % 2 ^ 32]) =
        wordsNumber p + word * wordsNumber b := by
      rw [wordsNumber_append, kept, length, wordsNumber_cons, wordsNumber_nil, mul_zero, add_zero, value, zero_add]
    have total : ((multiplyRow word 0 p b).1 ++ [(multiplyRow word 0 p b).2 % 2 ^ 32]).length = p.length + 1 := by
      rw [List.length_append, length, List.length_singleton]
    simp only [multiply]
    generalize (multiplyRow word 0 p b).1 ++ [(multiplyRow word 0 p b).2 % 2 ^ 32] = window at *
    rcases window with _ | ⟨low, rest⟩
    · simp at total
    · rcases @ih rest (fun other member => all other (List.mem_cons_of_mem _ member))
        (fun other member => second other (List.mem_cons_of_mem _ member)) (by simp at total; omega) with
        ⟨value', length', small'⟩
      rw [wordsNumber_cons] at whole
      refine ⟨?_, by rw [List.length_cons, length', List.length_cons]; ring, ?_⟩
      · rw [wordsNumber_cons, value', wordsNumber_cons]
        linarith
      · intro other member
        rcases List.mem_cons.mp member with rfl | member
        · exact all other List.mem_cons_self
        · exact small' other member

theorem multiplyRow_take (a carry : ℕ) (p b : List ℕ) :
    multiplyRow a carry p b = multiplyRow a carry p (b.take p.length) := by
  induction p generalizing carry b with
  | nil => cases b <;> rfl
  | cons word p ih =>
    cases b with
    | nil => rfl
    | cons other b => rw [multiplyRow, ih, List.length_cons, List.take_succ_cons, multiplyRow]

theorem wordsNumber_take (words : List ℕ) (count : ℕ) (enough : count ≤ words.length) :
    wordsNumber words ≡ wordsNumber (words.take count) [MOD 2 ^ (32 * count)] := by
  have split := wordsNumber_append (words.take count) (words.drop count)
  rw [List.take_append_drop, List.length_take, Nat.min_eq_left enough] at split
  rw [split]
  exact (Nat.add_modEq_left_iff.mpr (Nat.dvd_mul_right _ _))

theorem multiplyLow_number {p a b : List ℕ} (first : Words p) (second : Words a) (third : Words b)
    (same : a.length = p.length) (size : p.length ≤ b.length) :
    wordsNumber (multiplyLow p a b) = (wordsNumber p + wordsNumber a * wordsNumber b) % 2 ^ (32 * p.length) ∧
      (multiplyLow p a b).length = p.length ∧ Words (multiplyLow p a b) := by
  induction a generalizing p with
  | nil =>
    rw [List.length_nil, eq_comm, List.length_eq_zero_iff] at same
    simp [same, multiplyLow, Words]
  | cons word a ih =>
    have row := @multiplyRow_number word 0 p (b.take p.length) (second word List.mem_cons_self) (by norm_num) first
      (fun other member => third other (List.mem_of_mem_take member)) (by rw [List.length_take]; omega)
    have cut := wordsNumber_take b p.length size
    rw [← multiplyRow_take] at row
    rcases row with ⟨value, length, small, -⟩
    simp only [multiplyLow]
    generalize (multiplyRow word 0 p b).2 = carry at value
    generalize (multiplyRow word 0 p b).1 = window at *
    rcases window with _ | ⟨low, rest⟩
    · simp at length
      simp [← length] at same
    rcases p with _ | ⟨head, p⟩
    · simp at length
    simp only [List.length_cons, Nat.add_right_cancel_iff] at same length size
    rcases @ih rest (fun other member => small other (List.mem_cons_of_mem _ member))
      (fun other member => second other (List.mem_cons_of_mem _ member)) (by omega) (by omega) with
      ⟨value', length', small'⟩
    have lowSmall := small low List.mem_cons_self
    refine ⟨?_, by simp [length', length], ?_⟩
    · rw [wordsNumber_cons, value', length, wordsNumber_cons, List.length_cons]
      have narrow : low + 2 ^ 32 * ((wordsNumber rest + wordsNumber a * wordsNumber b) % 2 ^ (32 * p.length)) =
          (low + 2 ^ 32 * (wordsNumber rest + wordsNumber a * wordsNumber b)) % 2 ^ (32 * (p.length + 1)) := by
        rw [Nat.mul_succ, pow_add, Nat.mul_comm (2 ^ (32 * p.length)), Nat.mod_mul, Nat.add_mul_mod_self_left,
          Nat.mod_eq_of_lt lowSmall, Nat.add_mul_div_left _ _ (by norm_num), Nat.div_eq_of_lt lowSmall, Nat.zero_add]
      rw [narrow]
      simp only [wordsNumber_cons, List.length_cons] at value cut ⊢
      generalize 2 ^ (32 * (p.length + 1)) = modulus at *
      have whole : low + 2 ^ 32 * (wordsNumber rest + wordsNumber a * wordsNumber b) + modulus * carry =
          head + 2 ^ 32 * wordsNumber p + word * wordsNumber (b.take (p.length + 1)) +
            2 ^ 32 * wordsNumber a * wordsNumber b := by
        linarith
      calc low + 2 ^ 32 * (wordsNumber rest + wordsNumber a * wordsNumber b)
          ≡ low + 2 ^ 32 * (wordsNumber rest + wordsNumber a * wordsNumber b) + modulus * carry [MOD modulus] :=
            (Nat.add_modEq_left_iff.mpr (Nat.dvd_mul_right _ _)).symm
        _ = head + 2 ^ 32 * wordsNumber p + word * wordsNumber (b.take (p.length + 1)) +
            2 ^ 32 * wordsNumber a * wordsNumber b := whole
        _ ≡ head + 2 ^ 32 * wordsNumber p + word * wordsNumber b + 2 ^ 32 * wordsNumber a * wordsNumber b
            [MOD modulus] := ((cut.symm.mul_left _).add_left _).add_right _
        _ = head + 2 ^ 32 * wordsNumber p + (word + 2 ^ 32 * wordsNumber a) * wordsNumber b := by ring
    · intro other member
      rcases List.mem_cons.mp member with rfl | member
      · exact lowSmall
      · exact small' other member

theorem addComplement_number {carry : ℕ} {x l : List ℕ} (carried : carry ≤ 1) (left : Words x) (right : Words l)
    (size : x.length = l.length) :
    let sum := addComplement 0xFFFFFFFF carry x l
    wordsNumber sum.1 + 2 ^ (32 * x.length) * sum.2 + wordsNumber l + 1 =
        carry + wordsNumber x + 2 ^ (32 * x.length) ∧
      sum.1.length = x.length ∧ Words sum.1 ∧ sum.2 ≤ 1 := by
  induction x generalizing carry l with
  | nil =>
    rw [List.length_nil, eq_comm, List.length_eq_zero_iff] at size
    rw [size]
    simpa [addComplement, Words] using carried
  | cons word x ih =>
    rcases l with _ | ⟨other, l⟩
    · simp at size
    have first := left word List.mem_cons_self
    have second := right other List.mem_cons_self
    have flipped : (~~~(BitVec.ofNat 32 other) &&& (0xFFFFFFFF : U32)).toNat = 2 ^ 32 - 1 - other := by
      have mask : (0xFFFFFFFF : U32) = BitVec.allOnes 32 := rfl
      rw [mask, BitVec.and_allOnes, BitVec.toNat_not, BitVec.toNat_ofNat, Nat.mod_eq_of_lt second]
    obtain ⟨sum, whole⟩ : ∃ sum, sum = carry + (word + (2 ^ 32 - 1 - other)) := ⟨_, rfl⟩
    rcases @ih (sum / 2 ^ 32) l (by omega) (fun other member => left other (List.mem_cons_of_mem _ member))
      (fun other member => right other (List.mem_cons_of_mem _ member)) (by simpa using size) with
      ⟨value, length, small, last⟩
    simp only [addComplement, flipped, ← whole]
    refine ⟨?_, by rw [List.length_cons, length, List.length_cons], ?_, last⟩
    · rw [wordsNumber_cons, wordsNumber_cons, wordsNumber_cons, List.length_cons, Nat.mul_succ, pow_add, mul_assoc,
        mul_left_comm]
      generalize 2 ^ (32 * x.length) * (addComplement 0xFFFFFFFF (sum / 2 ^ 32) x l).2 = above at *
      omega
    · intro word member
      rcases List.mem_cons.mp member with rfl | member
      · exact Nat.mod_lt _ (by norm_num)
      · exact small word member

theorem addComplement_none {x l : List ℕ} (small : Words x) (size : x.length = l.length) :
    addComplement 0 0 x l = (x, 0) := by
  induction x generalizing l with
  | nil => rfl
  | cons word x ih =>
    rcases l with _ | ⟨other, l⟩
    · simp at size
    have first := small word List.mem_cons_self
    have rest := @ih l (fun other member => small other (List.mem_cons_of_mem _ member)) (by simpa using size)
    have masked : (~~~(BitVec.ofNat 32 other) &&& (0 : U32)).toNat = 0 := by simp
    simp only [addComplement, masked, Nat.zero_add, Nat.add_zero, Nat.mod_eq_of_lt first, Nat.div_eq_of_lt first, rest]

theorem orderL_number : wordsNumber orderL = groupOrder ∧ Words orderL := by
  constructor
  · decide +kernel
  · simp [Words, orderL]

theorem isAboveL_eq {x : List ℕ} (small : Words x) (size : x.length = 8) :
    isAboveL x = if groupOrder ≤ wordsNumber x then 1 else 0 := by
  rcases addComplement_number le_rfl small orderL_number.2 size with ⟨value, -, bound, last⟩
  have below := wordsNumber_lt bound
  have lengthy : (addComplement 0xFFFFFFFF 1 x orderL).1.length = 8 := by
    have := (addComplement_number le_rfl small orderL_number.2 size).2.1
    omega
  rw [lengthy] at below
  rw [orderL_number.1, size] at value
  simp only [isAboveL]
  split <;> omega

theorem removeL_number {x : List ℕ} (small : Words x) (size : x.length = 8) (below : wordsNumber x < 2 * groupOrder) :
    wordsNumber (removeL x) = wordsNumber x % groupOrder ∧ (removeL x).length = 8 ∧ Words (removeL x) := by
  rw [removeL, isAboveL_eq small size]
  split
  · rename_i above
    have mask : ~~~(BitVec.ofNat 32 1) + 1 = (0xFFFFFFFF : U32) := rfl
    rcases addComplement_number le_rfl small orderL_number.2 size with ⟨value, length, bound, last⟩
    have room := wordsNumber_lt bound
    simp only [mask]
    rw [orderL_number.1, size] at value
    rw [length, size] at room
    refine ⟨?_, length.trans size, bound⟩
    rw [Nat.mod_eq_sub_mod above, Nat.mod_eq_of_lt (by omega)]
    omega
  · rename_i under
    have mask : ~~~(BitVec.ofNat 32 0) + 1 = (0 : U32) := rfl
    have same : addComplement 0 0 x orderL = (x, 0) := addComplement_none small (by simpa [orderL] using size)
    simp only [mask, same]
    exact ⟨(Nat.mod_eq_of_lt (by omega)).symm, size, small⟩

theorem barrett_quotient {x : ℕ} (fits : x < 2 ^ 512) :
    let quotient := x * (2 ^ 512 / groupOrder) / 2 ^ 512
    quotient * groupOrder ≤ x ∧ x < (quotient + 2) * groupOrder := by
  intro quotient
  have positive : 0 < groupOrder := by decide
  have low := Nat.div_mul_le_self (2 ^ 512) groupOrder
  have high : 2 ^ 512 < (2 ^ 512 / groupOrder + 1) * groupOrder := by
    rw [Nat.add_mul, one_mul]
    exact Nat.lt_div_mul_add positive
  have below := Nat.div_mul_le_self (x * (2 ^ 512 / groupOrder)) (2 ^ 512)
  have above : x * (2 ^ 512 / groupOrder) < (quotient + 1) * 2 ^ 512 := by
    rw [Nat.add_mul, one_mul]
    exact Nat.lt_div_mul_add (by norm_num)
  change quotient * 2 ^ 512 ≤ _ at below
  generalize quotient = quotient at *
  generalize 2 ^ 512 / groupOrder = ratio at *
  generalize groupOrder = order at *
  generalize 2 ^ 512 = power at *
  constructor
  · refine Nat.le_of_mul_le_mul_right ?_ (Nat.zero_lt_of_lt fits)
    calc quotient * order * power = quotient * power * order := by ring
      _ ≤ x * ratio * order := Nat.mul_le_mul_right _ below
      _ = x * (ratio * order) := by ring
      _ ≤ x * power := Nat.mul_le_mul_left _ low
  · refine lt_of_mul_lt_mul_right (?_ : x * power < (quotient + 2) * order * power) (Nat.zero_le _)
    calc x * power ≤ x * ((ratio + 1) * order) := Nat.mul_le_mul_left _ high.le
      _ = x * ratio * order + x * order := by ring
      _ < (quotient + 1) * power * order + power * order :=
          Nat.add_lt_add (Nat.mul_lt_mul_of_pos_right above positive) (Nat.mul_lt_mul_of_pos_right fits positive)
      _ = (quotient + 2) * order * power := by ring

theorem wordsNumber_drop {words : List ℕ} (small : Words words) {count : ℕ} (enough : count ≤ words.length) :
    wordsNumber (words.drop count) = wordsNumber words / 2 ^ (32 * count) ∧
      wordsNumber (words.take count) = wordsNumber words % 2 ^ (32 * count) := by
  have split := wordsNumber_append (words.take count) (words.drop count)
  have below := @wordsNumber_lt (words.take count) fun word member => small word (List.mem_of_mem_take member)
  rw [List.length_take, Nat.min_eq_left enough] at below
  rw [List.take_append_drop, List.length_take, Nat.min_eq_left enough] at split
  rw [split]
  exact ⟨by rw [Nat.add_mul_div_left _ _ (by positivity), Nat.div_eq_of_lt below, Nat.zero_add],
    by rw [Nat.add_mul_mod_self_left, Nat.mod_eq_of_lt below]⟩

/-- The Barrett reduction is exact for every number of sixteen words. -/
theorem modL_number {x : List ℕ} (small : Words x) (size : x.length = 16) :
    number (modL x) = wordsNumber x % groupOrder ∧ (modL x).length = 32 := by
  have zeros (count : ℕ) : wordsNumber (List.replicate count 0) = 0 ∧ Words (List.replicate count 0) :=
    ⟨by simp [wordsNumber, Nat.ofDigits_replicate_zero], fun word member => by simp [List.eq_of_mem_replicate member]⟩
  have ratio : wordsNumber barrettR = 2 ^ 512 / groupOrder ∧ Words barrettR :=
    ⟨by decide +kernel, by simp [Words, barrettR]⟩
  have fits := wordsNumber_lt small
  rw [size] at fits
  rcases multiply_number (zeros 16).2 ratio.2 small (by simp [size]) with ⟨product, length, bound⟩
  rw [(zeros 16).1, Nat.zero_add, ratio.1, Nat.mul_comm] at product
  rw [size] at length
  have large : (multiply (List.replicate 16 0) barrettR x).length = 25 := length
  have rest : Words ((multiply (List.replicate 16 0) barrettR x).drop 16) :=
    fun word member => bound word (List.mem_of_mem_drop member)
  have upper := (wordsNumber_drop bound (show 16 ≤ _ by omega)).1
  have middle := (wordsNumber_drop rest (show 8 ≤ _ by rw [List.length_drop]; omega)).2
  rw [upper, product] at middle
  rcases @multiplyLow_number (List.replicate 8 0) (((multiply (List.replicate 16 0) barrettR x).drop 16).take 8) orderL
    (zeros 8).2 (fun word member => rest word (List.mem_of_mem_take member)) orderL_number.2
    (by rw [List.length_take, List.length_drop, List.length_replicate]; omega) (by simp [orderL]) with
    ⟨low, lowLength, lowBound⟩
  rw [(zeros 8).1, middle, Nat.zero_add, List.length_replicate, Nat.mod_mul_mod, orderL_number.1] at low
  have head := (wordsNumber_drop small (show 8 ≤ x.length by omega)).2
  rcases @addComplement_number 1 (x.take 8) _ le_rfl (fun word member => small word (List.mem_of_mem_take member)) lowBound
    (by rw [lowLength, List.length_take, List.length_replicate]; omega) with ⟨value, sumLength, sumBound, last⟩
  have eight : (x.take 8).length = 8 := by rw [List.length_take]; omega
  have room := wordsNumber_lt sumBound
  rw [sumLength, eight] at room
  rw [eight, low, head] at value
  rcases barrett_quotient fits with ⟨under, reached⟩
  have double : 2 * groupOrder < 2 ^ 256 := by decide
  have exact : wordsNumber (addComplement 0xFFFFFFFF 1 (x.take 8) (multiplyLow (List.replicate 8 0)
      (((multiply (List.replicate 16 0) barrettR x).drop 16).take 8) orderL)).1 =
        wordsNumber x - wordsNumber x * (2 ^ 512 / groupOrder) / 2 ^ 512 * groupOrder := by
    rw [Nat.add_mul] at reached
    simp only [Nat.reduceMul] at value room
    generalize wordsNumber x * (2 ^ 512 / groupOrder) / 2 ^ 512 * groupOrder = multiple at *
    omega
  simp only [modL]
  rcases removeL_number sumBound (sumLength.trans eight) (by
    rw [exact]
    rw [Nat.add_mul] at reached
    omega) with ⟨reduced, reducedLength, reducedBound⟩
  rcases store32LeBuf_number reducedBound with ⟨stored, storedLength⟩
  refine ⟨?_, by rw [storedLength, reducedLength]⟩
  rw [stored, reduced, exact, ← Nat.add_mul_mod_self_right _ (wordsNumber x * (2 ^ 512 / groupOrder) / 2 ^ 512),
    Nat.sub_add_cancel under]

theorem cryptoEddsaReduce_number (expanded : Bytes 64) :
    number (cryptoEddsaReduce expanded) = number expanded.1 % groupOrder ∧ (cryptoEddsaReduce expanded).length = 32 := by
  rcases @load32LeBuf_number expanded.1 16 (by rw [expanded.2]) with ⟨value, length, small⟩
  rw [cryptoEddsaReduce]
  rcases modL_number small length with ⟨reduced, size⟩
  rw [List.take_of_length_le (by rw [expanded.2])] at value
  exact ⟨by rw [reduced, value], size⟩

theorem cryptoEddsaMulAdd_number (a b c : Bytes 32) :
    number (cryptoEddsaMulAdd a b c) = (number a.1 * number b.1 + number c.1) % groupOrder ∧
      (cryptoEddsaMulAdd a b c).length = 32 := by
  have load (bytes : Bytes 32) : wordsNumber (load32LeBuf bytes.1 8) = number bytes.1 ∧
      (load32LeBuf bytes.1 8).length = 8 ∧ Words (load32LeBuf bytes.1 8) := by
    have loaded := @load32LeBuf_number bytes.1 8 (by rw [bytes.2])
    rwa [List.take_of_length_le (by rw [bytes.2])] at loaded
  rcases load a with ⟨a', lengthA, smallA⟩
  rcases load b with ⟨b', lengthB, smallB⟩
  rcases load c with ⟨c', lengthC, smallC⟩
  rcases multiply_number smallC smallA smallB (lengthC.trans lengthB.symm) with ⟨product, length, small⟩
  rw [cryptoEddsaMulAdd]
  rcases modL_number small (by rw [length, lengthA, lengthB]) with ⟨reduced, size⟩
  exact ⟨by rw [reduced, product, a', b', c', Nat.add_comm], size⟩

end Guardian.Crypto
