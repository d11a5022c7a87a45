import Mathlib.Data.List.Basic

namespace IteratedHash

variable {α σ : Type*}

/-- The whole blocks of `size` elements at the front of `message`. -/
def blocks (size : Nat) (message : List α) : List (List α) :=
  (List.range (message.length / size)).map fun index => (message.drop (index * size)).take size

/-- The chaining value after the whole blocks of `message`. -/
def chained (compress : σ → List α → σ) (size : Nat) (start : σ) (message : List α) : σ :=
  (blocks size message).foldl compress start

variable {compress : σ → List α → σ} {size : Nat} {start : σ}

@[simp] theorem blocks_short {message : List α} (short : message.length < size) : blocks size message = [] := by
  simp [blocks, Nat.div_eq_of_lt short]

theorem blocks_block {block : List α} (full : block.length = size) (positive : 0 < size) (rest : List α) :
    blocks size (block ++ rest) = block :: blocks size rest := by
  have count : (block ++ rest).length / size = rest.length / size + 1 := by
    rw [List.length_append, full, Nat.add_comm, Nat.add_div_right _ positive]
  rw [blocks, count, List.range_succ_eq_map, List.map_cons, List.map_map]
  congr 1
  · simp [← full]
  · apply List.map_congr_left
    intro index _
    simp only [Function.comp_apply]
    rw [Nat.succ_mul, List.drop_append, List.drop_eq_nil_of_le (by omega), full, Nat.add_sub_cancel, List.nil_append]

theorem blocks_append {whole : List α} (positive : 0 < size) (aligned : size ∣ whole.length) (rest : List α) :
    blocks size (whole ++ rest) = blocks size whole ++ blocks size rest := by
  obtain ⟨count, total⟩ := aligned
  induction count generalizing whole with
  | zero =>
    have empty : whole = [] := List.length_eq_zero_iff.mp (by simpa using total)
    have none : blocks size ([] : List α) = [] := blocks_short positive
    simp [empty, none]
  | succ count ih =>
    rw [Nat.mul_succ] at total
    have front : (whole.take size).length = size := by simp; omega
    have back : (whole.drop size).length = size * count := by simp; omega
    rw [← List.take_append_drop size whole, List.append_assoc, blocks_block front positive,
      blocks_block front positive, ih back, List.cons_append]

theorem chained_short {message : List α} (short : message.length < size) :
    chained compress size start message = start := by
  simp [chained, short]

theorem chained_append {whole : List α} (positive : 0 < size) (aligned : size ∣ whole.length) (rest : List α) :
    chained compress size start (whole ++ rest) =
      chained compress size (chained compress size start whole) rest := by
  simp only [chained, blocks_append positive aligned, List.foldl_append]

theorem chained_block {block : List α} (positive : 0 < size) (full : block.length = size) :
    chained compress size start block = compress start block := by
  have split : blocks size (block ++ []) = [block] := by
    rw [blocks_block full positive, blocks_short (by simpa using positive)]
  rw [List.append_nil] at split
  simp [chained, split]

/-- The chaining value and the pending elements of a hash that has been fed `message`. -/
structure Absorbed (compress : σ → List α → σ) (size : Nat) (start value : σ) (buffer message : List α) : Prop where
  pending : buffer.length < size
  split : ∃ whole, message = whole ++ buffer ∧ size ∣ whole.length ∧ value = chained compress size start whole

variable {value : σ} {buffer message : List α}

theorem Absorbed.nothing (positive : 0 < size) : Absorbed compress size start start [] [] :=
  ⟨by simpa using positive, [], rfl, by simp, (chained_short (by simpa using positive)).symm⟩

theorem Absorbed.buffered (absorbed : Absorbed compress size start value buffer message) {data : List α}
    (fits : (buffer ++ data).length < size) :
    Absorbed compress size start value (buffer ++ data) (message ++ data) := by
  obtain ⟨whole, rfl, aligned, chain⟩ := absorbed.split
  exact ⟨fits, whole, List.append_assoc whole buffer data, aligned, chain⟩

theorem Absorbed.compressed (absorbed : Absorbed compress size start value buffer message) {data : List α}
    (full : (buffer ++ data).length = size) :
    Absorbed compress size start (compress value (buffer ++ data)) [] (message ++ data) := by
  have positive : 0 < size := Nat.zero_lt_of_lt absorbed.pending
  obtain ⟨whole, rfl, aligned, chain⟩ := absorbed.split
  refine ⟨by simpa using positive, whole ++ (buffer ++ data), by simp, ?_, ?_⟩
  · rw [List.length_append, full]
    exact Nat.dvd_add aligned (Nat.dvd_refl size)
  · rw [chained_append positive aligned, chained_block positive full, chain]

/-- What is still to be compressed of `message ++ rest` is the buffer and `rest`. -/
theorem Absorbed.chained_rest (absorbed : Absorbed compress size start value buffer message) (rest : List α) :
    chained compress size start (message ++ rest) = chained compress size value (buffer ++ rest) := by
  have positive : 0 < size := Nat.zero_lt_of_lt absorbed.pending
  obtain ⟨whole, rfl, aligned, chain⟩ := absorbed.split
  rw [List.append_assoc, chained_append positive aligned, chain]

theorem Absorbed.pending_length (absorbed : Absorbed compress size start value buffer message) :
    message.length % size = buffer.length := by
  obtain ⟨whole, rfl, ⟨count, aligned⟩, _⟩ := absorbed.split
  rw [List.length_append, aligned, Nat.mul_add_mod, Nat.mod_eq_of_lt absorbed.pending]

end IteratedHash
