import Mathlib.Logic.Basic

namespace Check

variable {β : Type} {condition : Prop} [Decidable condition] {failure rest value : β}

/-- An answer that a check does not give comes from what follows the check. -/
theorem passed (given : (if condition then failure else rest) = value) (other : failure ≠ value) :
    ¬ condition ∧ rest = value := by
  by_cases holds : condition
  · rw [if_pos holds] at given
    exact absurd given other
  · rw [if_neg holds] at given
    exact ⟨holds, given⟩

theorem accepted {ε : Type} {failure : ε} {rest : Except ε β}
    (given : (if condition then .error failure else rest) = .ok value) : ¬ condition ∧ rest = .ok value :=
  passed given (fun same => nomatch same)

theorem succeeded {σ ε : Type} {failure : ε} {after : σ} {rest : Except ε β × σ}
    (given : (if condition then (.error failure, after) else rest).1 = .ok value) : ¬ condition ∧ rest.1 = .ok value := by
  by_cases holds : condition
  · rw [if_pos holds] at given
    cases given
  · rw [if_neg holds] at given
    exact ⟨holds, given⟩

theorem cases {property : β → Prop} (failed : condition → property failure) (follows : ¬ condition → property rest) :
    property (if condition then failure else rest) := by
  by_cases holds : condition
  · rw [if_pos holds]
    exact failed holds
  · rw [if_neg holds]
    exact follows holds

theorem either {property : β → Prop} (failed : property failure) (follows : property rest) :
    property (if condition then failure else rest) := cases (fun _ => failed) (fun _ => follows)

section binding

variable {α ε : Type} {step : Except ε α} {follows : α → Except ε β}

theorem bound : step >>= follows = .ok value ↔ ∃ given, step = .ok given ∧ follows given = .ok value := by
  cases step with
  | error failure => exact ⟨fun given => (nomatch given), fun ⟨_, given, _⟩ => (nomatch given)⟩
  | ok given => exact ⟨fun rest => ⟨given, rfl, rest⟩, fun ⟨_, rfl, rest⟩ => rest⟩

theorem mapped {change : α → β} : step.map change = .ok value ↔ ∃ given, step = .ok given ∧ change given = value := by
  cases step with
  | error failure => exact ⟨fun given => (nomatch given), fun ⟨_, given, _⟩ => (nomatch given)⟩
  | ok given => exact ⟨fun rest => ⟨given, rfl, Except.ok.inj rest⟩, fun ⟨_, rfl, rest⟩ => congrArg Except.ok rest⟩

theorem relabelled {ε' : Type} {label : ε → ε'} {given : α} : step.mapError label = .ok given ↔ step = .ok given := by
  cases step with
  | error failure => exact ⟨fun given => (nomatch given), fun given => (nomatch given)⟩
  | ok other => exact ⟨fun rest => congrArg Except.ok (Except.ok.inj rest), fun rest =>
      congrArg Except.ok (Except.ok.inj rest)⟩

end binding

end Check
