import Mathlib.Logic.Basic

namespace Device

/-- A computation on a device. It has no value when power is lost; what the device stored remains. -/
def Dev (σ α : Type) := σ → Option α × σ

namespace Dev

variable {σ τ α β : Type}

instance : Monad (Dev σ) where
  pure value := fun state => (some value, state)
  bind first next := fun state =>
    match first state with
    | (some value, reached) => next value reached
    | (none, reached) => (none, reached)

def get : Dev σ σ := fun state => (some state, state)

def modify (change : σ → σ) : Dev σ Unit := fun state => (some (), change state)

def zoom (part : τ → σ) (replace : τ → σ → τ) (program : Dev σ α) : Dev τ α := fun state =>
  ((program (part state)).1, replace state (program (part state)).2)

theorem bind_value {first : Dev σ α} {next : α → Dev σ β} {state reached : σ} {value : α}
    (run : first state = (some value, reached)) : (first >>= next) state = next value reached := by
  change (match first state with | (some value, reached) => next value reached | (none, reached) => (none, reached)) = _
  rw [run]

theorem bind_lost {first : Dev σ α} {next : α → Dev σ β} {state reached : σ}
    (run : first state = (none, reached)) : (first >>= next) state = (none, reached) := by
  change (match first state with | (some value, reached) => next value reached | (none, reached) => (none, reached)) = _
  rw [run]

theorem bind_returns {first : Dev σ α} {next : α → Dev σ β} {state reached : σ} {result : β}
    (run : (first >>= next) state = (some result, reached)) :
    ∃ value between, first state = (some value, between) ∧ next value between = (some result, reached) := by
  rcases started : first state with ⟨_ | value, between⟩
  · rw [bind_lost started] at run
    cases run
  · rw [bind_value started] at run
    exact ⟨value, between, rfl, run⟩

theorem pure_returns {value result : α} {state reached : σ}
    (run : (pure value : Dev σ α) state = (some result, reached)) : value = result ∧ state = reached := by
  cases run
  exact ⟨rfl, rfl⟩

theorem pure_value {value result : α} {state : σ} (run : ((pure value : Dev σ α) state).1 = some result) :
    value = result := Option.some.inj run

theorem bind_pure (first : Dev σ α) (value : α → β) (state : σ) :
    (first >>= fun result => pure (value result)) state = ((first state).1.map value, (first state).2) := by
  rcases run : first state with ⟨_ | result, reached⟩
  · exact bind_lost run
  · exact bind_value run

theorem modify_bind (change : σ → σ) (next : Unit → Dev σ α) (state : σ) :
    (Dev.modify change >>= next) state = next () (change state) := rfl

theorem get_bind (next : σ → Dev σ α) (state : σ) : (Dev.get >>= next) state = next state state := rfl

/-- The computation leaves what `view` shows of the state as it was, also when power is lost. -/
def Keeps {ν : Type} (view : σ → ν) (program : Dev σ α) : Prop := ∀ state, view (program state).2 = view state

section Keeps

variable {ν : Type} {view : σ → ν}

theorem Keeps.pure (value : α) : Keeps view (Pure.pure value : Dev σ α) := fun _ => rfl

theorem Keeps.bind {first : Dev σ α} {next : α → Dev σ β} (start : Keeps view first)
    (rest : ∀ value, Keeps view (next value)) : Keeps view (first >>= next) := by
  intro state
  have started := start state
  rcases run : first state with ⟨_ | value, reached⟩ <;> rw [run] at started
  · rw [bind_lost run]
    exact started
  · rw [bind_value run, rest value reached]
    exact started

theorem Keeps.ite {condition : Prop} [Decidable condition] {yes no : Dev σ α} (left : Keeps view yes)
    (right : Keeps view no) : Keeps view (if condition then yes else no) := by
  by_cases holds : condition
  · rwa [if_pos holds]
  · rwa [if_neg holds]

end Keeps

def Returns (holds : α → Prop) (program : Dev σ α) : Prop :=
  ∀ state value, (program state).1 = some value → holds value

section Returns

variable {holds : α → Prop}

theorem Returns.pure {value : α} (held : holds value) : Returns holds (Pure.pure value : Dev σ α) := by
  intro state result returned
  rw [← pure_value returned]
  exact held

/-- Whatever the first computation returns, what follows it decides. -/
theorem Returns.bind {first : Dev σ β} {next : β → Dev σ α} (rest : ∀ value, Returns holds (next value)) :
    Returns holds (first >>= next) := by
  intro state result returned
  rcases run : first state with ⟨_ | value, reached⟩
  · rw [bind_lost run] at returned
    cases returned
  · rw [bind_value run] at returned
    exact rest value reached result returned

theorem Returns.ite {condition : Prop} [Decidable condition] {yes no : Dev σ α} (left : Returns holds yes)
    (right : Returns holds no) : Returns holds (if condition then yes else no) := by
  by_cases given : condition
  · rwa [if_pos given]
  · rwa [if_neg given]

end Returns

/-- Where the program can end from `state`: with a value as `after` says, or without power as `lost` says. -/
def Ends (program : Dev σ α) (after : α → σ → Prop) (lost : σ → Prop) (state : σ) : Prop :=
  match program state with
  | (some value, reached) => after value reached
  | (none, reached) => lost reached

section Ends

variable {after : α → σ → Prop} {lost : σ → Prop} {state : σ}

theorem Ends.value {program : Dev σ α} (ends : Ends program after lost state) {value : α} {reached : σ}
    (run : program state = (some value, reached)) : after value reached := by
  rwa [Ends, run] at ends

theorem Ends.cut {program : Dev σ α} (ends : Ends program after lost state) {reached : σ}
    (run : program state = (none, reached)) : lost reached := by
  rwa [Ends, run] at ends

theorem Ends.weaken {program : Dev σ α} {weaker : α → σ → Prop} {gone : σ → Prop}
    (ends : Ends program after lost state) (values : ∀ value reached, after value reached → weaker value reached)
    (losses : ∀ reached, lost reached → gone reached) : Ends program weaker gone state := by
  rcases run : program state with ⟨_ | value, reached⟩
  · simpa only [Ends, run] using losses _ (ends.cut run)
  · simpa only [Ends, run] using values _ _ (ends.value run)

@[simp] theorem ends_pure (value : α) :
    Ends (Pure.pure value : Dev σ α) after lost state ↔ after value state := Iff.rfl

@[simp] theorem ends_bind {first : Dev σ β} {next : β → Dev σ α} :
    Ends (first >>= next) after lost state ↔ Ends first (fun value => Ends (next value) after lost) lost state := by
  unfold Ends
  rcases run : first state with ⟨_ | value, reached⟩
  · simp only [bind_lost run]
  · simp only [bind_value run]

@[simp] theorem ends_get {after : σ → σ → Prop} : Ends (Dev.get : Dev σ σ) after lost state ↔ after state state := Iff.rfl

@[simp] theorem ends_modify {after : Unit → σ → Prop} (change : σ → σ) :
    Ends (Dev.modify change) after lost state ↔ after () (change state) := Iff.rfl

end Ends

/-- How a device with operations of its own is seen as one whose operations draw their faults from a stream: what
    holds of the device between operations, when nothing fails on it, what is seen of either, the faults to come, and
    the one that stands for success. -/
structure Abstraction (σ τ ν φ : Type) where
  ready : σ → Prop
  works : σ → Prop
  view : σ → ν
  shown : τ → ν
  faults : τ → Nat → φ
  harmless : φ

/-- `stream` begins with the faults `drawn`. -/
def Begins {φ : Type} (drawn : List φ) (stream : Nat → φ) : Prop :=
  ∀ index (inside : index < drawn.length), stream index = drawn[index]

theorem begins_getD {φ : Type} (drawn : List φ) (other : φ) : Begins drawn fun index => drawn.getD index other := by
  intro index inside
  simp [List.getD, List.getElem?_eq_getElem inside]

theorem begins_append {φ : Type} {front back : List φ} {stream : Nat → φ} (begins : Begins (front ++ back) stream) :
    Begins front stream ∧ Begins back fun index => stream (front.length + index) := by
  constructor
  · intro index inside
    rw [begins index (by simp; omega), List.getElem_append_left inside]
  · intro index inside
    simp [begins (front.length + index) (by simp; omega)]

namespace Abstraction

variable {ν φ : Type}

/-- From `state`, the abstract program ends as the concrete one does once it meets the faults `drawn`. -/
structure Matches (seen : Abstraction σ τ ν φ) (concrete : Dev σ α) (abstract : Dev τ α) (state : σ) (drawn : List φ) :
    Prop where
  ready : seen.ready (concrete state).2
  works : seen.works state → seen.works (concrete state).2 ∧ ∀ fault ∈ drawn, fault = seen.harmless
  ends : ∀ model, seen.shown model = seen.view state → Begins drawn (seen.faults model) →
    (abstract model).1 = (concrete state).1 ∧ seen.shown (abstract model).2 = seen.view (concrete state).2 ∧
      seen.faults (abstract model).2 = fun index => seen.faults model (drawn.length + index)

/-- Whatever the concrete program does, the abstract one does under some faults. -/
def Follows (seen : Abstraction σ τ ν φ) (concrete : Dev σ α) (abstract : Dev τ α) : Prop :=
  ∀ state, seen.ready state → ∃ drawn, seen.Matches concrete abstract state drawn

variable {seen : Abstraction σ τ ν φ}

theorem Follows.pure (value : α) : seen.Follows (Pure.pure value) (Pure.pure value) := by
  intro state ready
  exact ⟨[], ready, fun works => ⟨works, by simp⟩, fun model same _ => ⟨rfl, same, by simp [Pure.pure]⟩⟩

theorem Follows.bind {first : Dev σ β} {next : β → Dev σ α} {model : Dev τ β} {rest : β → Dev τ α}
    (start : seen.Follows first model) (follow : ∀ value, seen.Follows (next value) (rest value)) :
    seen.Follows (first >>= next) (model >>= rest) := by
  intro state ready
  obtain ⟨drawn, stays, works, ends⟩ := start state ready
  rcases run : first state with ⟨_ | value, between⟩ <;> rw [run] at stays works ends
  · refine ⟨drawn, by rwa [bind_lost run], by rwa [bind_lost run], fun reached same begins => ?_⟩
    obtain ⟨result, shown, faults⟩ := ends reached same begins
    rcases drive : model reached with ⟨_ | found, passed⟩ <;> rw [drive] at result shown faults
    · rw [bind_lost run, bind_lost drive]
      exact ⟨rfl, shown, faults⟩
    · cases result
  · obtain ⟨later, kept, working, finishes⟩ := follow value between stays
    refine ⟨drawn ++ later, by rwa [bind_value run], fun worked => ?_, fun reached same begins => ?_⟩
    · rw [bind_value run]
      obtain ⟨calm, front⟩ := works worked
      obtain ⟨quiet, back⟩ := working calm
      exact ⟨quiet, fun fault member => (List.mem_append.mp member).elim (front fault) (back fault)⟩
    · obtain ⟨front, back⟩ := begins_append begins
      obtain ⟨result, shown, faults⟩ := ends reached same front
      rcases drive : model reached with ⟨_ | found, passed⟩ <;> rw [drive] at result shown faults
      · cases result
      · obtain rfl : found = value := Option.some.inj result
        obtain ⟨finished, sight, streams⟩ := finishes passed shown (by simpa only [faults] using back)
        rw [bind_value run, bind_value drive]
        refine ⟨finished, sight, ?_⟩
        funext index
        simp only [streams, faults, List.length_append, Nat.add_assoc]

theorem Follows.ite {condition : Prop} [Decidable condition] {yes no : Dev σ α} {left right : Dev τ α}
    (first : seen.Follows yes left) (second : seen.Follows no right) :
    seen.Follows (if condition then yes else no) (if condition then left else right) := by
  by_cases holds : condition
  · simpa only [if_pos holds] using first
  · simpa only [if_neg holds] using second

theorem Follows.get {concrete : σ → Dev σ α} {abstract : τ → Dev τ α}
    (represented : ∀ state, ∃ model, seen.shown model = seen.view state)
    (seenOnly : ∀ left right, seen.shown left = seen.shown right → abstract left = abstract right)
    (follow : ∀ state model, seen.shown model = seen.view state → seen.Follows (concrete state) (abstract model)) :
    seen.Follows (Dev.get >>= concrete) (Dev.get >>= abstract) := by
  intro state ready
  obtain ⟨model, shown⟩ := represented state
  obtain ⟨drawn, stays, works, ends⟩ := follow state model shown state ready
  refine ⟨drawn, stays, works, fun other same begins => ?_⟩
  rw [get_bind, get_bind, seenOnly other model (same.trans shown.symm)]
  exact ends other same begins

theorem Follows.modify {change : σ → σ} {alter : τ → τ}
    (stays : ∀ state, seen.ready state → seen.ready (change state))
    (works : ∀ state, seen.works state → seen.works (change state))
    (agree : ∀ state model, seen.shown model = seen.view state → seen.shown (alter model) = seen.view (change state))
    (quiet : ∀ model, seen.faults (alter model) = seen.faults model) :
    seen.Follows (Dev.modify change) (Dev.modify alter) := by
  intro state ready
  refine ⟨[], stays state ready, fun worked => ⟨works state worked, by simp⟩, fun model same _ =>
    ⟨rfl, agree state model same, ?_⟩⟩
  simp [Dev.modify, quiet model]

end Abstraction

/-- Go on after a program that may have lost power, with its value if it has one. -/
def attempt (program : Dev σ α) : Dev σ (Option α) := fun state => (some (program state).1, (program state).2)

theorem Abstraction.Follows.attempt {ν φ : Type} {seen : Abstraction σ τ ν φ} {concrete : Dev σ α} {abstract : Dev τ α}
    (follow : seen.Follows concrete abstract) : seen.Follows concrete.attempt abstract.attempt := by
  intro state ready
  obtain ⟨drawn, stays, works, ends⟩ := follow state ready
  refine ⟨drawn, stays, works, fun model same begins => ?_⟩
  obtain ⟨result, shown, faults⟩ := ends model same begins
  exact ⟨congrArg some result, shown, faults⟩

end Dev

end Device
