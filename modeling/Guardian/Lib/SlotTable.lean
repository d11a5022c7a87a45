import Mathlib.Data.List.Perm.Basic

namespace SlotTable

variable {α κ : Type} (key : α → Option κ)

def keys (slots : List α) : List κ := slots.filterMap key

section Search

variable [DecidableEq κ]

/-- The search loop: the index of the slot held under the key, and the first free slot before it. -/
def search (wanted : κ) : List α → Nat → Option Nat → Option Nat × Option Nat
  | [], _, free => (none, free)
  | slot :: slots, index, free =>
    if key slot = some wanted then (some index, free)
    else search wanted slots (index + 1) (if free = none ∧ key slot = none then some index else free)

def find (wanted : κ) (slots : List α) : Option α := slots.find? fun slot => key slot = some wanted

/-- `after` is `slots` with the key's own slot, or else a free one, replaced by `entry`. -/
structure Puts (wanted : κ) (entry : α) (slots after : List α) : Prop where
  length : after.length = slots.length
  found : find key wanted after = some entry
  others : ∀ other, other ≠ wanted → find key other after = find key other slots
  held : wanted ∈ keys key slots ∧ keys key after = keys key slots ∨
    wanted ∉ keys key slots ∧ (keys key after).Perm (wanted :: keys key slots)

end Search

variable {key} {wanted : κ}

theorem mem_keys {slots : List α} : wanted ∈ keys key slots ↔ ∃ slot ∈ slots, key slot = some wanted := by
  simp only [keys, List.mem_filterMap]

theorem keys_length_le (slots : List α) : (keys key slots).length ≤ slots.length := List.length_filterMap_le _ _

theorem keys_length_full {slots : List α} (full : ∀ slot ∈ slots, key slot ≠ none) :
    (keys key slots).length = slots.length := by
  induction slots with
  | nil => rfl
  | cons slot slots ih =>
    obtain ⟨held, some⟩ := Option.ne_none_iff_exists'.mp (full slot List.mem_cons_self)
    have rest := ih fun other member => full other (List.mem_cons_of_mem _ member)
    rw [keys, List.filterMap_cons, some, List.length_cons, List.length_cons, ← rest]
    rfl

theorem keys_append (left right : List α) : keys key (left ++ right) = keys key left ++ keys key right :=
  List.filterMap_append

theorem keys_cons_some {slot : α} {held : κ} (holds : key slot = some held) (slots : List α) :
    keys key (slot :: slots) = held :: keys key slots := by
  rw [keys, List.filterMap_cons, holds]
  rfl

theorem keys_cons_none {slot : α} (free : key slot = none) (slots : List α) :
    keys key (slot :: slots) = keys key slots := by
  rw [keys, List.filterMap_cons, free]
  rfl

variable [DecidableEq κ]

theorem find_none {slots : List α} : find key wanted slots = none ↔ wanted ∉ keys key slots := by
  simp only [find, List.find?_eq_none, decide_eq_true_eq, mem_keys, not_exists, not_and]

theorem find_key {slots : List α} {slot : α} (found : find key wanted slots = some slot) : key slot = some wanted := by
  have holds := List.find?_some found
  exact of_decide_eq_true holds

theorem search_hit {slots : List α} {index found : Nat} {free first : Option Nat}
    (hit : search key wanted slots index free = (some found, first)) :
    ∃ before slot after, slots = before ++ slot :: after ∧ found = index + before.length ∧ key slot = some wanted ∧
      wanted ∉ keys key before := by
  induction slots generalizing index free with
  | nil => cases hit
  | cons slot slots ih =>
    rw [search] at hit
    by_cases same : key slot = some wanted
    · rw [if_pos same] at hit
      cases hit
      exact ⟨[], slot, slots, rfl, rfl, same, List.not_mem_nil⟩
    · rw [if_neg same] at hit
      obtain ⟨before, other, after, rfl, place, holds, absent⟩ := ih hit
      refine ⟨slot :: before, other, after, rfl, ?_, holds, ?_⟩
      · rw [place, List.length_cons]
        omega
      · rw [mem_keys] at absent ⊢
        rintro ⟨held, member, key⟩
        rcases List.mem_cons.mp member with rfl | member
        · exact same key
        · exact absent ⟨held, member, key⟩

/-- A search that misses goes on past the first slot, which it notes if it is the first free one. -/
theorem search_cons_miss {slot : α} {slots : List α} {index : Nat} {free first : Option Nat}
    (miss : search key wanted (slot :: slots) index free = (none, first)) :
    key slot ≠ some wanted ∧
      search key wanted slots (index + 1) (if free = none ∧ key slot = none then some index else free) =
        (none, first) := by
  rw [search] at miss
  by_cases same : key slot = some wanted
  · rw [if_pos same] at miss
    cases miss
  · rw [if_neg same] at miss
    exact ⟨same, miss⟩

theorem search_miss {slots : List α} {index : Nat} {free first : Option Nat}
    (miss : search key wanted slots index free = (none, first)) : wanted ∉ keys key slots := by
  induction slots generalizing index free with
  | nil => exact List.not_mem_nil
  | cons slot slots ih =>
    obtain ⟨other, miss⟩ := search_cons_miss miss
    have absent := ih miss
    rw [mem_keys] at absent ⊢
    rintro ⟨held, member, key⟩
    rcases List.mem_cons.mp member with rfl | member
    · exact other key
    · exact absent ⟨held, member, key⟩

theorem search_kept {slots : List α} {index place : Nat} {first : Option Nat}
    (miss : search key wanted slots index (some place) = (none, first)) : first = some place := by
  induction slots generalizing index with
  | nil =>
    cases miss
    rfl
  | cons slot slots ih =>
    obtain ⟨-, miss⟩ := search_cons_miss miss
    rw [if_neg (fun both => Option.some_ne_none place both.1)] at miss
    exact ih miss

theorem search_free {slots : List α} {index place : Nat}
    (miss : search key wanted slots index none = (none, some place)) :
    ∃ before slot after, slots = before ++ slot :: after ∧ place = index + before.length ∧ key slot = none := by
  induction slots generalizing index with
  | nil => cases miss
  | cons slot slots ih =>
    obtain ⟨-, miss⟩ := search_cons_miss miss
    by_cases free : key slot = none
    · rw [if_pos ⟨rfl, free⟩] at miss
      cases search_kept miss
      exact ⟨[], slot, slots, rfl, rfl, free⟩
    · rw [if_neg (fun both => free both.2)] at miss
      obtain ⟨before, other, after, rfl, found, none⟩ := ih miss
      refine ⟨slot :: before, other, after, rfl, ?_, none⟩
      rw [found, List.length_cons]
      omega

theorem search_full {slots : List α} {index : Nat} (miss : search key wanted slots index none = (none, none)) :
    ∀ slot ∈ slots, key slot ≠ none := by
  induction slots generalizing index with
  | nil => exact fun slot member => absurd member List.not_mem_nil
  | cons slot slots ih =>
    obtain ⟨-, miss⟩ := search_cons_miss miss
    by_cases free : key slot = none
    · rw [if_pos ⟨rfl, free⟩] at miss
      cases search_kept miss
    · rw [if_neg (fun both => free both.2)] at miss
      intro other member
      rcases List.mem_cons.mp member with rfl | member
      · exact free
      · exact ih miss other member

theorem find_replace {before after : List α} {entry : α} (holds : key entry = some wanted)
    (absent : wanted ∉ keys key before) : find key wanted (before ++ entry :: after) = some entry := by
  have none : find key wanted before = none := find_none.mpr absent
  unfold find at none ⊢
  rw [List.find?_append, none, Option.none_or, List.find?_cons, decide_eq_true holds]

theorem find_replace_other {before after : List α} {entry slot : α} {other : κ} (entered : key entry ≠ some other)
    (left : key slot ≠ some other) :
    find key other (before ++ entry :: after) = find key other (before ++ slot :: after) := by
  simp only [find, List.find?_append, List.find?_cons, decide_eq_false entered, decide_eq_false left]

theorem set_middle (before after : List α) (slot entry : α) :
    (before ++ slot :: after).set before.length entry = before ++ entry :: after := by
  rw [List.set_append_right _ _ (Nat.le_refl _), Nat.sub_self, List.set_cons_zero]

theorem puts_hit {slots : List α} {found : Nat} {first : Option Nat} {entry : α}
    (hit : search key wanted slots 0 none = (some found, first)) (holds : key entry = some wanted) :
    Puts key wanted entry slots (slots.set found entry) := by
  obtain ⟨before, slot, after, rfl, place, same, absent⟩ := search_hit hit
  rw [Nat.zero_add] at place
  rw [place, set_middle]
  refine ⟨?_, find_replace holds absent, ?_, Or.inl ⟨?_, ?_⟩⟩
  · rw [List.length_append, List.length_append, List.length_cons, List.length_cons]
  · intro other different
    apply find_replace_other
    · rw [holds]
      exact fun equal => different (Option.some.inj equal).symm
    · rw [same]
      exact fun equal => different (Option.some.inj equal).symm
  · rw [mem_keys]
    exact ⟨slot, List.mem_append_right _ List.mem_cons_self, same⟩
  · rw [keys_append, keys_append, keys_cons_some holds, keys_cons_some same]

theorem puts_free {slots : List α} {place : Nat} {entry : α}
    (miss : search key wanted slots 0 none = (none, some place)) (holds : key entry = some wanted) :
    Puts key wanted entry slots (slots.set place entry) := by
  have absent := search_miss miss
  obtain ⟨before, slot, after, rfl, place, free⟩ := search_free miss
  rw [Nat.zero_add] at place
  rw [place, set_middle]
  have without := absent
  rw [keys_append, keys_cons_none free, List.mem_append, not_or] at without
  refine ⟨?_, find_replace holds without.1, ?_, Or.inr ⟨absent, ?_⟩⟩
  · rw [List.length_append, List.length_append, List.length_cons, List.length_cons]
  · intro other different
    apply find_replace_other
    · rw [holds]
      exact fun equal => different (Option.some.inj equal).symm
    · rw [free]
      exact Option.some_ne_none _ ∘ Eq.symm
  · rw [keys_append, keys_append, keys_cons_some holds, keys_cons_none free]
    exact List.perm_middle

theorem find_hit {slots : List α} {found : Nat} {first : Option Nat}
    (hit : search key wanted slots 0 none = (some found, first)) :
    ∃ slot, slots[found]? = some slot ∧ find key wanted slots = some slot := by
  obtain ⟨before, slot, after, rfl, place, same, absent⟩ := search_hit hit
  rw [Nat.zero_add] at place
  refine ⟨slot, ?_, find_replace same absent⟩
  rw [place, List.getElem?_append_right (Nat.le_refl _), Nat.sub_self, List.getElem?_cons_zero]

theorem free_slot {slots : List α} {place : Nat} (miss : search key wanted slots 0 none = (none, some place)) :
    ∃ slot, slots[place]? = some slot ∧ key slot = none := by
  obtain ⟨before, slot, after, rfl, place, free⟩ := search_free miss
  rw [Nat.zero_add] at place
  refine ⟨slot, ?_, free⟩
  rw [place, List.getElem?_append_right (Nat.le_refl _), Nat.sub_self, List.getElem?_cons_zero]

theorem find_miss {slots : List α} {first : Option Nat} (miss : search key wanted slots 0 none = (none, first)) :
    find key wanted slots = none := find_none.mpr (search_miss miss)

theorem Puts.nodup {entry : α} {slots after : List α} (puts : Puts key wanted entry slots after)
    (unique : (keys key slots).Nodup) : (keys key after).Nodup := by
  rcases puts.held with ⟨held, same⟩ | ⟨absent, perm⟩
  · rw [same]
    exact unique
  · exact perm.nodup_iff.mpr (List.nodup_cons.mpr ⟨absent, unique⟩)

theorem Puts.mem_keys {entry : α} {slots after : List α} (puts : Puts key wanted entry slots after) (other : κ) :
    other ∈ keys key after ↔ other = wanted ∨ other ∈ keys key slots := by
  rcases puts.held with ⟨held, same⟩ | ⟨absent, perm⟩
  · rw [same]
    constructor
    · exact Or.inr
    · rintro (rfl | member)
      · exact held
      · exact member
  · rw [perm.mem_iff, List.mem_cons]

end SlotTable
