import Mathlib.Logic.Function.Basic
import Mathlib.Data.List.Basic

namespace FileProgram

abbrev Files (κ ν : Type) := κ → Option ν

/-- A program that works on files. Each operation hands its answer to the rest, `none` or `false` for an error of the
operating system. A replacement carries a mark that says what it is made for. -/
inductive Program (κ ν π α : Type) : Type
  | done (result : α)
  | present (path : κ) (next : Option Bool → Program κ ν π α)
  | read (path : κ) (next : Option ν → Program κ ν π α)
  | write (path : κ) (content : ν) (next : Bool → Program κ ν π α)
  | replace (source target : κ) (mark : π) (next : Bool → Program κ ν π α)
  | attempt (next : Bool → Program κ ν π α)

/-- How an operation goes. A write that fails leaves anything behind. -/
inductive Fate (ν : Type)
  | succeeds
  | fails (left : Option ν)
  deriving DecidableEq

namespace Program

variable {κ ν π α β : Type}

def bind : Program κ ν π α → (α → Program κ ν π β) → Program κ ν π β
  | .done result, rest => rest result
  | .present path next, rest => .present path fun answer => (next answer).bind rest
  | .read path next, rest => .read path fun answer => (next answer).bind rest
  | .write path content next, rest => .write path content fun answer => (next answer).bind rest
  | .replace source target mark next, rest => .replace source target mark fun answer => (next answer).bind rest
  | .attempt next, rest => .attempt fun answer => (next answer).bind rest

instance : Monad (Program κ ν π) where
  pure := .done
  bind := .bind

@[simp] theorem pure_eq (result : α) : (pure result : Program κ ν π α) = .done result := rfl

@[simp] theorem bind_eq (program : Program κ ν π α) (rest : α → Program κ ν π β) :
    (program >>= rest) = program.bind rest := rfl

def returned : Program κ ν π α → Option α
  | .done result => some result
  | _ => none

theorem returned_eq {program : Program κ ν π α} {result : α} (ends : program.returned = some result) :
    program = .done result := by
  cases program with
  | done other => rw [Option.some.inj ends]
  | _ => cases ends

section Running

variable [DecidableEq κ]

def moved (files : Files κ ν) (source target : κ) : Files κ ν :=
  Function.update (Function.update files target (files source)) source none

/-- One operation of a program: what is left of it, the files, the paths it changed and the mark it made. -/
structure Stepped (κ ν π α : Type) where
  program : Program κ ν π α
  files : Files κ ν
  changed : List κ
  mark : Option π

def step (files : Files κ ν) (fate : Fate ν) : Program κ ν π α → Stepped κ ν π α
  | .done result => ⟨.done result, files, [], none⟩
  | .present path next => match fate with
    | .succeeds => ⟨next (some (files path).isSome), files, [], none⟩
    | .fails _ => ⟨next none, files, [], none⟩
  | .read path next => match fate with
    | .succeeds => ⟨next (files path), files, [], none⟩
    | .fails _ => ⟨next none, files, [], none⟩
  | .write path content next => match fate with
    | .succeeds => ⟨next true, Function.update files path (some content), [path], none⟩
    | .fails left => ⟨next false, Function.update files path left, [path], none⟩
  | .replace source target mark next => match fate with
    | .succeeds =>
      if (files source).isSome then ⟨next true, moved files source target, [source, target], some mark⟩
      else ⟨next false, files, [], none⟩
    | .fails _ => ⟨next false, files, [], none⟩
  | .attempt next => match fate with
    | .succeeds => ⟨next true, files, [], none⟩
    | .fails _ => ⟨next false, files, [], none⟩

def run : Program κ ν π α → Files κ ν → α × Files κ ν
  | .done result, files => (result, files)
  | .present path next, files => (next (some (files path).isSome)).run files
  | .read path next, files => (next (files path)).run files
  | .write path content next, files => (next true).run (Function.update files path (some content))
  | .replace source target _ next, files =>
    if (files source).isSome then (next true).run (moved files source target) else (next false).run files
  | .attempt next, files => (next true).run files

theorem run_bind (program : Program κ ν π α) (rest : α → Program κ ν π β) (files : Files κ ν) :
    (program.bind rest).run files = (rest (program.run files).1).run (program.run files).2 := by
  induction program generalizing files with
  | done result => rfl
  | present path next ih => exact ih _ _
  | read path next ih => exact ih _ _
  | write path content next ih => exact ih _ _
  | replace source target mark next ih =>
    simp only [bind, run]
    split
    · exact ih _ _
    · exact ih _ _
  | attempt next ih => exact ih _ _

def runWith : Program κ ν π α → (ℕ → Fate ν) → Files κ ν → α × Files κ ν
  | .done result, _, files => (result, files)
  | .present path next, fates, files => match fates 0 with
    | .succeeds => (next (some (files path).isSome)).runWith (fates ∘ Nat.succ) files
    | .fails _ => (next none).runWith (fates ∘ Nat.succ) files
  | .read path next, fates, files => match fates 0 with
    | .succeeds => (next (files path)).runWith (fates ∘ Nat.succ) files
    | .fails _ => (next none).runWith (fates ∘ Nat.succ) files
  | .write path content next, fates, files => match fates 0 with
    | .succeeds => (next true).runWith (fates ∘ Nat.succ) (Function.update files path (some content))
    | .fails left => (next false).runWith (fates ∘ Nat.succ) (Function.update files path left)
  | .replace source target _ next, fates, files => match fates 0 with
    | .succeeds =>
      if (files source).isSome then (next true).runWith (fates ∘ Nat.succ) (moved files source target)
      else (next false).runWith (fates ∘ Nat.succ) files
    | .fails _ => (next false).runWith (fates ∘ Nat.succ) files
  | .attempt next, fates, files => match fates 0 with
    | .succeeds => (next true).runWith (fates ∘ Nat.succ) files
    | .fails _ => (next false).runWith (fates ∘ Nat.succ) files

end Running

end Program

/-- What calls promise each other. A call that looks at a file again may count as undisturbed from there on; faults and
disturbances are to be expected where the marks made so far leave the call exposed; a replacement is made only where the
marks made so far and the content it takes the place of allow its mark. -/
structure Contract (κ ν π : Type) where
  renews : Bool
  exposed : List π → Prop
  scratch : κ → Prop
  target : π → κ
  content : π → ν
  allows : List π → Option ν → π → Prop

variable {κ ν π α β : Type}

abbrev View (κ ν : Type) := Option (Files κ ν)

def Contract.Renewed (contract : Contract κ ν π) (old view : View κ ν) : Prop :=
  view = old ∨ contract.renews = true ∧ old = none ∧ view.isSome

theorem Contract.Renewed.known {contract : Contract κ ν π} {old view : View κ ν} {files : Files κ ν}
    (renewed : contract.Renewed old view) (was : old = some files) : view = some files := by
  rcases renewed with same | ⟨-, blank, -⟩
  · rw [same, was]
  · rw [blank] at was
    cases was

variable [DecidableEq κ]

/-- The rest of a call respects the contract on the paths it owns and ends as `post` says, whatever its operations
answer within its view. -/
def Safe (contract : Contract κ ν π) (own : κ → Bool) (post : View κ ν → List π → α → Prop) :
    Program κ ν π α → View κ ν → List π → Prop
  | .done result, view, made => post view made result
  | .present path next, old, made => own path = true ∧ ∀ view, contract.Renewed old view →
      (∀ found : Bool, (∀ files, view = some files → (files path).isSome = found) →
        Safe contract own post (next (some found)) view made) ∧
      (contract.exposed made → Safe contract own post (next none) view made)
  | .read path next, view, made => own path = true ∧
      (∀ content, (∀ files, view = some files → files path = content) →
        Safe contract own post (next content) view made) ∧
      (contract.exposed made → Safe contract own post (next none) view made)
  | .write path content next, view, made => own path = true ∧ contract.scratch path ∧
      Safe contract own post (next true) (view.map fun files => Function.update files path (some content)) made ∧
      (contract.exposed made → ∀ left,
        Safe contract own post (next false) (view.map fun files => Function.update files path left) made)
  | .replace source target mark next, view, made => own source = true ∧ own target = true ∧
      contract.scratch source ∧ ¬ contract.scratch target ∧ contract.target mark = target ∧
      ((contract.exposed made ∨ ∀ files, view = some files → files source = none) →
        Safe contract own post (next false) view made) ∧
      ∀ files, view = some files → (files source).isSome →
        files source = some (contract.content mark) ∧ contract.allows made (files target) mark ∧
        Safe contract own post (next true) (some (Program.moved files source target)) (made ++ [mark]) ∧
        (contract.exposed (made ++ [mark]) → Safe contract own post (next true) none (made ++ [mark]))
  | .attempt next, view, made => Safe contract own post (next true) view made ∧
      (contract.exposed made → Safe contract own post (next false) view made)

namespace Safe

variable {contract : Contract κ ν π} {own : κ → Bool}

theorem bind (post : View κ ν → List π → α → Prop) {final : View κ ν → List π → β → Prop}
    {rest : α → Program κ ν π β} (resumes : ∀ view made result, post view made result →
      Safe contract own final (rest result) view made)
    {program : Program κ ν π α} {view : View κ ν} {made : List π} (safe : Safe contract own post program view made) :
    Safe contract own final (program.bind rest) view made := by
  induction program generalizing view made with
  | done result => exact resumes _ _ _ safe
  | present path next ih =>
    refine ⟨safe.1, fun later renewed => ?_⟩
    have answers := safe.2 later renewed
    exact ⟨fun found agrees => ih _ (answers.1 found agrees), fun exposed => ih _ (answers.2 exposed)⟩
  | read path next ih =>
    exact ⟨safe.1, fun content agrees => ih _ (safe.2.1 content agrees), fun exposed => ih _ (safe.2.2 exposed)⟩
  | write path content next ih =>
    exact ⟨safe.1, safe.2.1, ih _ safe.2.2.1, fun exposed left => ih _ (safe.2.2.2 exposed left)⟩
  | replace source target mark next ih =>
    obtain ⟨ownSource, ownTarget, scratch, kept, aims, failing, succeeding⟩ := safe
    refine ⟨ownSource, ownTarget, scratch, kept, aims, fun fails => ih _ (failing fails), ?_⟩
    intro files known found
    obtain ⟨content, allowed, calm, disturbed⟩ := succeeding files known found
    exact ⟨content, allowed, ih _ calm, fun exposed => ih _ (disturbed exposed)⟩
  | attempt next ih => exact ⟨ih _ safe.1, fun exposed => ih _ (safe.2 exposed)⟩

theorem choose {post : View κ ν → List π → α → Prop} {condition : Prop} [Decidable condition]
    {yes : condition → Program κ ν π α} {no : ¬ condition → Program κ ν π α} {view : View κ ν} {made : List π}
    (holds : ∀ fact, Safe contract own post (yes fact) view made)
    (fails : ∀ fact, Safe contract own post (no fact) view made) :
    Safe contract own post (if fact : condition then yes fact else no fact) view made := by
  by_cases fact : condition
  · rw [dif_pos fact]
    exact holds fact
  · rw [dif_neg fact]
    exact fails fact

theorem update_agree {files others : Files κ ν}
    (agree : ∀ path, own path = true → others path = files path) (path : κ) (content : Option ν) (other : κ)
    (owned : own other = true) :
    Function.update others path content other = Function.update files path content other := by
  by_cases same : other = path
  · rw [same, Function.update_self, Function.update_self]
  · rw [Function.update_of_ne same, Function.update_of_ne same, agree other owned]

theorem congr {post : List π → α → Prop} {program : Program κ ν π α} {files others : Files κ ν} {made : List π}
    (agree : ∀ path, own path = true → others path = files path)
    (safe : Safe contract own (fun _ => post) program (some files) made) :
    Safe contract own (fun _ => post) program (some others) made := by
  induction program generalizing files others made with
  | done result => exact safe
  | present path next ih =>
    refine ⟨safe.1, fun later renewed => ?_⟩
    have same : later = some others := by
      rcases renewed with same | ⟨_, unknown, _⟩
      · exact same
      · cases unknown
    subst same
    have answers := safe.2 (some files) (.inl rfl)
    refine ⟨fun found agrees => ih _ agree (answers.1 found ?_), fun exposed => ih _ agree (answers.2 exposed)⟩
    rintro _ ⟨⟩
    rw [← agree path safe.1]
    exact agrees others rfl
  | read path next ih =>
    refine ⟨safe.1, fun content agrees => ih _ agree (safe.2.1 content ?_), fun exposed =>
      ih _ agree (safe.2.2 exposed)⟩
    rintro _ ⟨⟩
    rw [← agree path safe.1]
    exact agrees others rfl
  | write path content next ih =>
    exact ⟨safe.1, safe.2.1, ih _ (update_agree agree path _) safe.2.2.1,
      fun exposed left => ih _ (update_agree agree path _) (safe.2.2.2 exposed left)⟩
  | replace source target mark next ih =>
    obtain ⟨ownSource, ownTarget, scratch, kept, aims, failing, succeeding⟩ := safe
    refine ⟨ownSource, ownTarget, scratch, kept, aims, fun fails => ih _ agree (failing ?_), ?_⟩
    · refine fails.imp_right fun absent known => ?_
      rintro ⟨⟩
      rw [← agree source ownSource]
      exact absent others rfl
    · rintro _ ⟨⟩ found
      rw [agree source ownSource] at found
      obtain ⟨content, allowed, calm, disturbed⟩ := succeeding files rfl found
      rw [agree source ownSource, agree target ownTarget]
      refine ⟨content, allowed, ih _ ?_ calm, disturbed⟩
      unfold Program.moved
      rw [agree source ownSource]
      exact update_agree (update_agree agree target _) source _
  | attempt next ih => exact ⟨ih _ agree safe.1, fun exposed => ih _ agree (safe.2 exposed)⟩

end Safe

end FileProgram
