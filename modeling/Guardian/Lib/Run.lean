import Mathlib.Data.List.Basic

namespace Run

variable {σ Operation : Type} (step : σ → Operation → σ)

def after (operations : List Operation) (state : σ) : σ := operations.foldl step state

@[simp] theorem after_nil (state : σ) : after step [] state = state := rfl

@[simp] theorem after_cons (operation : Operation) (operations : List Operation) (state : σ) :
    after step (operation :: operations) state = after step operations (step state operation) := rfl

theorem after_append (left right : List Operation) (state : σ) :
    after step (left ++ right) state = after step right (after step left state) := List.foldl_append

theorem after_snoc (operations : List Operation) (operation : Operation) (state : σ) :
    after step (operations ++ [operation]) state = step (after step operations state) operation := by
  rw [after_append, after_cons, after_nil]

variable {step}

theorem after_invariant {invariant : σ → Prop} (preserved : ∀ state operation, invariant state →
    invariant (step state operation)) {state : σ} (initial : invariant state) (operations : List Operation) :
    invariant (after step operations state) := by
  induction operations generalizing state with
  | nil => exact initial
  | cons operation operations ih => exact ih (preserved _ _ initial)

theorem after_guarded {invariant : σ → Prop} {meets : σ → Operation → Prop}
    (preserved : ∀ state operation, invariant state → meets state operation → invariant (step state operation))
    {state : σ} (initial : invariant state) {operations : List Operation}
    (kept : ∀ earlier operation later, operations = earlier ++ operation :: later →
      meets (after step earlier state) operation) : invariant (after step operations state) := by
  induction operations generalizing state with
  | nil => exact initial
  | cons operation operations ih =>
    apply ih (preserved _ _ initial (kept [] operation operations rfl))
    intro earlier next later split
    exact kept (operation :: earlier) next later (by rw [split, List.cons_append])

/-- Every operation of a run meets a condition in the state it finds. -/
def Kept (step : σ → Operation → σ) (meets : σ → Operation → Prop) : List Operation → σ → Prop
  | [], _ => True
  | operation :: operations, state => meets state operation ∧ Kept step meets operations (step state operation)

instance Kept.decidable {meets : σ → Operation → Prop} [decides : ∀ state operation, Decidable (meets state operation)] :
    ∀ (operations : List Operation) (state : σ), Decidable (Kept step meets operations state)
  | [], _ => .isTrue True.intro
  | operation :: operations, state =>
    @instDecidableAnd _ _ (decides state operation) (Kept.decidable operations (step state operation))

theorem Kept.meets {meets : σ → Operation → Prop} {operations : List Operation} {state : σ}
    (kept : Kept step meets operations state) {earlier : List Operation} {operation : Operation}
    {later : List Operation} (split : operations = earlier ++ operation :: later) :
    meets (after step earlier state) operation := by
  subst split
  induction earlier generalizing state with
  | nil => exact kept.1
  | cons first earlier ih => exact ih kept.2

/-- A property false at the start of a run and true at its end becomes true at one of its operations. -/
theorem exists_change (property : σ → Prop) {state : σ} {operations : List Operation}
    (start : ¬ property state) (finish : property (after step operations state)) :
    ∃ before operation rest, operations = before ++ operation :: rest ∧
      ¬ property (after step before state) ∧ property (step (after step before state) operation) := by
  induction operations generalizing state with
  | nil => exact absurd finish start
  | cons operation operations ih =>
    by_cases now : property (step state operation)
    · exact ⟨[], operation, operations, rfl, start, now⟩
    · obtain ⟨before, changing, rest, split, low, high⟩ := ih now finish
      exact ⟨operation :: before, changing, rest, by rw [split, List.cons_append], low, high⟩

/-- Operations that commute up to an equivalence the step respects may be reordered. -/
theorem after_perm {fits : σ → List Operation → Prop} {related : σ → σ → Prop} (same : Equivalence related)
    (respects : ∀ left right operation, related left right → related (step left operation) (step right operation))
    (keeps : ∀ state operation rest, fits state (operation :: rest) → fits (step state operation) rest)
    (reorders : ∀ state left right, left.Perm right → fits state left → fits state right)
    (commutes : ∀ state first second rest, fits state (first :: second :: rest) →
      related (step (step state first) second) (step (step state second) first))
    {left right : List Operation} (perm : left.Perm right) {state : σ} (fit : fits state left) :
    related (after step left state) (after step right state) := by
  have run : ∀ (operations : List Operation) (one other : σ), related one other →
      related (after step operations one) (after step operations other) := by
    intro operations
    induction operations with
    | nil => exact fun one other close => close
    | cons operation operations ih => exact fun one other close => ih _ _ (respects one other operation close)
  induction perm generalizing state with
  | nil => exact same.refl _
  | cons operation perm ih => exact ih (keeps _ _ _ fit)
  | swap first second rest => exact run rest _ _ (commutes state second first rest fit)
  | trans perm _ one two => exact same.trans (one fit) (two (reorders _ _ _ perm fit))

end Run
