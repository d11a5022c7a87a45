import Guardian.Lib.Check

namespace Raising

inductive Raised (ε : Type)
  | own (error : ε)
  | typeError
  | valueError
  | keyError
  | unicodeEncodeError
  deriving DecidableEq

abbrev Raises (ε α : Type) := Except (Raised ε) α

variable {ε ε' α β : Type}

def Raised.Foreign : Raised ε → Prop
  | .own _ => False
  | _ => True

/-- An exception that is not of the function's own class comes out of a call. -/
def Escapes (call : Raises ε α) : Prop := ∃ raised, call = .error raised ∧ raised.Foreign

/-- A call returns or raises an error of the function's own class. -/
def Contained (call : Raises ε α) : Prop :=
  (∃ value, call = .ok value) ∨ ∃ error, call = .error (.own error)

def raise (error : ε) : Raises ε α := .error (.own error)

def require (condition : Prop) [Decidable condition] (error : ε) : Raises ε Unit :=
  if condition then .ok () else raise error

/-- `try` around a call, whose own errors become others. -/
def rewrap (label : ε → ε') (call : Raises ε α) : Raises ε' α :=
  match call with
  | .ok value => .ok value
  | .error (.own error) => raise (label error)
  | .error .typeError => .error .typeError
  | .error .valueError => .error .valueError
  | .error .keyError => .error .keyError
  | .error .unicodeEncodeError => .error .unicodeEncodeError

/-- `try` around a call, with an error for a `ValueError` that is of no class of the program. -/
def onValueError (error : ε) (call : Raises ε α) : Raises ε α :=
  match call with
  | .error .valueError => raise error
  | other => other

/-- `try` around a call, whose own errors are looked at. -/
def attempt (call : Raises ε α) : Raises ε' (Except ε α) :=
  match call with
  | .ok value => .ok (.ok value)
  | .error (.own error) => .ok (.error error)
  | .error .typeError => .error .typeError
  | .error .valueError => .error .valueError
  | .error .keyError => .error .keyError
  | .error .unicodeEncodeError => .error .unicodeEncodeError

theorem contained_iff {call : Raises ε α} : Contained call ↔ ¬ Escapes call := by
  rcases call with (error | _ | _ | _ | _) | value
  · exact ⟨fun _ ⟨_, is, foreign⟩ => by cases is; exact foreign, fun _ => .inr ⟨error, rfl⟩⟩
  all_goals simp [Contained, Escapes, Raised.Foreign]

@[simp]
theorem not_escapes_ok (value : α) : ¬ Escapes (.ok value : Raises ε α) := fun ⟨_, is, _⟩ => nomatch is

@[simp]
theorem not_escapes_pure (value : α) : ¬ Escapes (pure value : Raises ε α) := not_escapes_ok value

@[simp]
theorem not_escapes_raise (error : ε) : ¬ Escapes (raise error : Raises ε α) := by
  rintro ⟨_, is, foreign⟩
  cases is
  exact foreign

@[simp]
theorem not_escapes_require (condition : Prop) [Decidable condition] (error : ε) :
    ¬ Escapes (require condition error) := by
  unfold require
  split <;> simp

theorem require_ok {condition : Prop} [Decidable condition] {error : ε} {value : Unit} :
    require condition error = .ok value ↔ condition := by
  unfold require
  split <;> simp_all [raise]

theorem escapes_bind {call : Raises ε α} {follows : α → Raises ε β} :
    Escapes (call >>= follows) ↔ Escapes call ∨ ∃ value, call = .ok value ∧ Escapes (follows value) := by
  cases call with
  | error raised =>
    constructor
    · rintro ⟨other, is, foreign⟩
      cases is
      exact .inl ⟨raised, rfl, foreign⟩
    · rintro (⟨other, is, foreign⟩ | ⟨value, is, -⟩)
      · cases is
        exact ⟨raised, rfl, foreign⟩
      · cases is
  | ok value =>
    constructor
    · exact fun escapes => .inr ⟨value, rfl, escapes⟩
    · rintro (escapes | ⟨other, is, escapes⟩)
      · exact absurd escapes (not_escapes_ok value)
      · cases is
        exact escapes

theorem escapes_bind_of_not {call : Raises ε α} {follows : α → Raises ε β} (contained : ¬ Escapes call) :
    Escapes (call >>= follows) ↔ ∃ value, call = .ok value ∧ Escapes (follows value) := by
  rw [escapes_bind, or_iff_right contained]

@[simp]
theorem escapes_require_bind {condition : Prop} [Decidable condition] {error : ε} {follows : Unit → Raises ε α} :
    Escapes (require condition error >>= follows) ↔ condition ∧ Escapes (follows ()) := by
  rw [escapes_bind_of_not (not_escapes_require condition error)]
  exact ⟨fun ⟨_, passed, escapes⟩ => ⟨require_ok.mp passed, escapes⟩,
    fun ⟨holds, escapes⟩ => ⟨(), require_ok.mpr holds, escapes⟩⟩

@[simp]
theorem escapes_map {change : α → β} {call : Raises ε α} : Escapes (change <$> call) ↔ Escapes call := by
  cases call <;> simp [Functor.map, Except.map, Escapes]

@[simp]
theorem escapes_rewrap {label : ε → ε'} {call : Raises ε α} : Escapes (rewrap label call) ↔ Escapes call := by
  rcases call with (error | _ | _ | _ | _) | value
  all_goals simp [rewrap, Escapes, Raised.Foreign, raise]

@[simp]
theorem escapes_attempt {call : Raises ε α} : Escapes (attempt call : Raises ε' _) ↔ Escapes call := by
  rcases call with (error | _ | _ | _ | _) | value
  all_goals simp [attempt, Escapes, Raised.Foreign]

theorem attempt_ok {call : Raises ε α} {value : α} :
    (attempt call : Raises ε' _) = .ok (.ok value) ↔ call = .ok value := by
  rcases call with (error | _ | _ | _ | _) | other
  all_goals simp [attempt]

theorem rewrap_ok {label : ε → ε'} {call : Raises ε α} {value : α} :
    rewrap label call = .ok value ↔ call = .ok value := by
  rcases call with (error | _ | _ | _ | _) | other
  all_goals simp [rewrap, raise]

theorem onValueError_ok {error : ε} {call : Raises ε α} {value : α} :
    onValueError error call = .ok value ↔ call = .ok value := by
  rcases call with (own | _ | _ | _ | _) | other
  all_goals simp [onValueError, raise]

theorem not_escapes_onValueError {error : ε} {call : Raises ε α}
    (only : ∀ raised, call = .error raised → raised.Foreign → raised = .valueError) :
    ¬ Escapes (onValueError error call) := by
  rintro ⟨raised, is, foreign⟩
  rcases call with (own | _ | _ | _ | _) | value
  · cases is
    exact foreign
  · cases only _ rfl trivial
  · cases is
    exact foreign
  · cases only _ rfl trivial
  · cases only _ rfl trivial
  · cases is

theorem not_escapes_bind {call : Raises ε α} {follows : α → Raises ε β} (first : ¬ Escapes call)
    (rest : ∀ value, call = .ok value → ¬ Escapes (follows value)) : ¬ Escapes (call >>= follows) := by
  rw [escapes_bind_of_not first]
  rintro ⟨value, is, escapes⟩
  exact rest value is escapes

theorem not_escapes_require_bind {condition : Prop} [Decidable condition] {error : ε} {follows : Unit → Raises ε α}
    (rest : condition → ¬ Escapes (follows ())) : ¬ Escapes (require condition error >>= follows) := by
  rw [escapes_require_bind]
  exact fun ⟨holds, escapes⟩ => rest holds escapes

/-- What escapes from a list of calls escapes from one of them, after others that return. -/
theorem escapes_mapM {call : β → Raises ε α} {items : List β} : Escapes (items.mapM call) ↔
    ∃ before item after, items = before ++ item :: after ∧ (∀ other ∈ before, ∃ value, call other = .ok value) ∧
      Escapes (call item) := by
  induction items with
  | nil => simp
  | cons first items ih =>
    rw [List.mapM_cons, escapes_bind]
    constructor
    · rintro (here | ⟨value, is, rest⟩)
      · exact ⟨[], first, items, rfl, nofun, here⟩
      · rw [escapes_bind] at rest
        rcases rest with later | ⟨values, -, done⟩
        · obtain ⟨before, item, after, rfl, returned, escapes⟩ := ih.mp later
          exact ⟨first :: before, item, after, rfl, List.forall_mem_cons.mpr ⟨⟨value, is⟩, returned⟩, escapes⟩
        · exact absurd done (not_escapes_pure _)
    · rintro ⟨before, item, after, same, returned, escapes⟩
      cases before with
      | nil =>
        rw [List.nil_append, List.cons.injEq] at same
        rw [same.1]
        exact .inl escapes
      | cons other before =>
        rw [List.cons_append, List.cons.injEq] at same
        obtain ⟨rfl, rfl⟩ := same
        obtain ⟨⟨value, is⟩, others⟩ := List.forall_mem_cons.mp returned
        refine .inr ⟨value, is, ?_⟩
        rw [escapes_bind]
        exact .inl (ih.mpr ⟨before, item, after, rfl, others, escapes⟩)

theorem escapes_foldlM {step : α → β → Raises ε α} {state : α} {items : List β} : Escapes (items.foldlM step state) ↔
    ∃ before item after reached, items = before ++ item :: after ∧ before.foldlM step state = .ok reached ∧
      Escapes (step reached item) := by
  induction items generalizing state with
  | nil => simp
  | cons first items ih =>
    rw [List.foldlM_cons, escapes_bind]
    constructor
    · rintro (here | ⟨next, is, rest⟩)
      · exact ⟨[], first, items, state, rfl, rfl, here⟩
      · obtain ⟨before, item, after, reached, rfl, done, escapes⟩ := ih.mp rest
        refine ⟨first :: before, item, after, reached, rfl, ?_, escapes⟩
        rw [List.foldlM_cons, is]
        exact done
    · rintro ⟨before, item, after, reached, same, done, escapes⟩
      cases before with
      | nil =>
        rw [List.nil_append, List.cons.injEq] at same
        cases done
        rw [same.1]
        exact .inl escapes
      | cons other before =>
        rw [List.cons_append, List.cons.injEq] at same
        obtain ⟨rfl, rfl⟩ := same
        rw [List.foldlM_cons, Check.bound] at done
        obtain ⟨next, is, done⟩ := done
        exact .inr ⟨next, is, ih.mpr ⟨before, item, after, reached, rfl, done, escapes⟩⟩

end Raising
