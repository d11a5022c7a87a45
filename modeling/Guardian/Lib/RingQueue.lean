import Mathlib.Data.List.Basic

namespace RingQueue

variable {α : Type*} {cells stream : List α} {taken capacity : Nat}

def next (capacity index : Nat) : Nat := if index + 1 ≥ capacity then 0 else index + 1

/-- The free cells between the producer's index and the consumer's, less the one that tells full from empty. -/
def freeSlots (capacity head tail : Nat) : Nat :=
  if head ≥ tail then capacity - (head - tail) - 1 else tail - head - 1

theorem next_mod (positive : 0 < capacity) (count : Nat) : next capacity (count % capacity) = (count + 1) % capacity := by
  have within := Nat.mod_lt count positive
  have step : (count + 1) % capacity = (count % capacity + 1) % capacity := (Nat.mod_add_mod count capacity 1).symm
  rw [step]
  generalize count % capacity = place at within
  unfold next
  by_cases wraps : place + 1 = capacity
  · rw [if_pos (by omega), wraps, Nat.mod_self]
  · rw [if_neg (by omega), Nat.mod_eq_of_lt (by omega)]

/-- How two counts less than a capacity apart stand to each other in the ring. -/
theorem add_mod_cases (taken : Nat) {apart : Nat} (near : apart < capacity) :
    (taken + apart) % capacity = taken % capacity + apart ∨
      (taken + apart) % capacity + capacity = taken % capacity + apart := by
  have within := Nat.mod_lt taken (Nat.zero_lt_of_lt near)
  rw [Nat.add_mod, Nat.mod_eq_of_lt near]
  by_cases wraps : taken % capacity + apart < capacity
  · exact Or.inl (Nat.mod_eq_of_lt wraps)
  · right
    rw [Nat.mod_eq_sub_mod (by omega), Nat.mod_eq_of_lt (by omega)]
    omega

theorem mod_eq_iff {count : Nat} (after : taken ≤ count) (near : count < taken + capacity) :
    count % capacity = taken % capacity ↔ count = taken := by
  obtain ⟨apart, rfl⟩ := Nat.exists_eq_add_of_le after
  have within := Nat.mod_lt taken (show 0 < capacity by omega)
  rcases add_mod_cases taken (show apart < capacity by omega) with place | place <;> omega

theorem freeSlots_mod {count : Nat} (after : taken ≤ count) (near : count < taken + capacity) :
    freeSlots capacity (count % capacity) (taken % capacity) = taken + capacity - 1 - count := by
  obtain ⟨apart, rfl⟩ := Nat.exists_eq_add_of_le after
  have within := Nat.mod_lt (taken + apart) (show 0 < capacity by omega)
  unfold freeSlots
  rcases add_mod_cases taken (show apart < capacity by omega) with place | place <;> split <;> omega

structure Ring (cells stream : List α) (taken : Nat) : Prop where
  after : taken ≤ stream.length
  near : stream.length < taken + cells.length
  held : ∀ count, taken ≤ count → count < stream.length → cells[count % cells.length]? = stream[count]?

theorem Ring.empty (positive : 0 < cells.length) : Ring cells [] 0 :=
  ⟨Nat.le_refl 0, by simpa using positive, fun _ _ below => absurd below (Nat.not_lt_zero _)⟩

theorem Ring.put (ring : Ring cells stream taken) (space : stream.length + 1 < taken + cells.length) (item : α) :
    Ring (cells.set (stream.length % cells.length) item) (stream ++ [item]) taken := by
  have after := ring.after
  refine ⟨?_, ?_, ?_⟩
  · rw [List.length_append]
    omega
  · rw [List.length_append, List.length_set, List.length_singleton]
    omega
  · intro count from_ below
    rw [List.length_append, List.length_singleton] at below
    rw [List.length_set]
    by_cases last : count = stream.length
    · rw [last, List.getElem?_set_self (Nat.mod_lt _ (by omega)), List.getElem?_concat_length]
    · have apart : stream.length % cells.length ≠ count % cells.length := by
        intro same
        exact last ((mod_eq_iff (show count ≤ stream.length by omega) (by omega)).mp same).symm
      rw [List.getElem?_set_ne apart, List.getElem?_append_left (by omega)]
      exact ring.held count from_ (by omega)

theorem Ring.take (ring : Ring cells stream taken) (more : taken < stream.length) : Ring cells stream (taken + 1) := by
  have near := ring.near
  exact ⟨more, by omega, fun count from_ below => ring.held count (by omega) below⟩

theorem Ring.front (ring : Ring cells stream taken) (more : taken < stream.length) :
    cells[taken % cells.length]? = stream[taken]? := ring.held taken (Nat.le_refl taken) more

theorem Ring.empty_iff (ring : Ring cells stream taken) :
    stream.length % cells.length = taken % cells.length ↔ stream.length = taken := mod_eq_iff ring.after ring.near

theorem Ring.full_iff (ring : Ring cells stream taken) :
    (stream.length + 1) % cells.length = taken % cells.length ↔ stream.length + 1 = taken + cells.length := by
  have after := ring.after
  have near := ring.near
  by_cases full : stream.length + 1 = taken + cells.length
  · rw [full, Nat.add_mod_right]
    exact ⟨fun _ => rfl, fun _ => rfl⟩
  · rw [mod_eq_iff (by omega) (by omega)]
    constructor
    · intro same
      omega
    · intro same
      exact absurd same full

theorem start_snoc {got : List α} {item : α} (start : got <+: stream) (front : stream[got.length]? = some item) :
    got ++ [item] <+: stream := by
  obtain ⟨rest, rfl⟩ := start
  rw [List.getElem?_append_right (Nat.le_refl _), Nat.sub_self] at front
  cases rest with
  | nil => cases front
  | cons first rest =>
    cases front
    exact ⟨rest, by simp⟩

end RingQueue
