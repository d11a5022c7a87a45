import Mathlib.Data.List.Chain
import Mathlib.Data.List.Induction
import Guardian.Lib.FileProgram
import Guardian.Lib.Run

namespace FileProgram

variable {κ ν π α Op : Type} [DecidableEq κ]

/-- One call: what is left of it, whether another call has changed a file it owns, and the marks it has made. -/
structure Call (κ ν π α Op : Type) where
  operation : Op
  program : Program κ ν π α
  disturbed : Bool
  made : List π

structure System (κ ν π α Op : Type) where
  files : Files κ ν
  calls : List (Call κ ν π α Op)
  log : List (ℕ × π)

/-- A call begins, or takes one operation. A call that is never taken up again has crashed. -/
inductive Event (Op ν : Type)
  | begin (operation : Op)
  | step (call : ℕ) (fate : Fate ν)

def System.start (files : Files κ ν) : System κ ν π α Op := ⟨files, [], []⟩

/-- Whether the next operation looks at whether a file is there. -/
def Program.looks : Program κ ν π α → Bool
  | .present _ _ => true
  | _ => false

def Call.beside (own : Op → κ → Bool) (changed : List κ) (call : Call κ ν π α Op) : Call κ ν π α Op :=
  { call with disturbed := call.disturbed || changed.any (own call.operation) }

def Call.advance (renews : Bool) (call : Call κ ν π α Op) (stepped : Program.Stepped κ ν π α) : Call κ ν π α Op :=
  { call with
    program := stepped.program
    disturbed := call.disturbed && !(renews && call.program.looks)
    made := call.made ++ stepped.mark.toList }

def System.next (program : Op → Program κ ν π α) (own : Op → κ → Bool) (renews : Bool)
    (system : System κ ν π α Op) : Event Op ν → System κ ν π α Op
  | .begin operation => { system with calls := system.calls ++ [⟨operation, program operation, false, []⟩] }
  | .step index fate => match system.calls[index]? with
    | none => system
    | some call =>
      let stepped := call.program.step system.files fate
      { files := stepped.files
        calls := (system.calls.map (Call.beside own stepped.changed)).set index (call.advance renews stepped)
        log := system.log ++ stepped.mark.toList.map fun mark => (index, mark) }

def System.answered (system : System κ ν π α Op) (index : ℕ) : Option (Op × α) :=
  system.calls[index]?.bind fun call => call.program.returned.map fun result => (call.operation, result)

/-- The files as the replacements of a log leave them, other writes left out. -/
def durable (target : π → κ) (content : π → ν) (initial : Files κ ν) (log : List (ℕ × π)) : Files κ ν :=
  log.foldl (fun files entry => Function.update files (target entry.2) (some (content entry.2))) initial

theorem durable_snoc (target : π → κ) (content : π → ν) (initial : Files κ ν) (log : List (ℕ × π)) (index : ℕ)
    (mark : π) : durable target content initial (log ++ [(index, mark)]) =
      Function.update (durable target content initial log) (target mark) (some (content mark)) := by
  rw [durable, List.foldl_append]
  rfl

namespace Safe

variable {contract : Contract κ ν π} {own : κ → Bool} {post : View κ ν → List π → α → Prop}

theorem step_known {program : Program κ ν π α} {files : Files κ ν} {made : List π}
    (safe : Safe contract own post program (some files) made) {fate : Fate ν}
    (goes : contract.exposed made ∨ fate = .succeeds) :
    Safe contract own post (program.step files fate).program (some (program.step files fate).files)
        (made ++ (program.step files fate).mark.toList) ∧
      ∀ mark, (program.step files fate).mark = some mark → ¬ contract.scratch (contract.target mark) ∧
        contract.allows made (files (contract.target mark)) mark ∧
        (contract.exposed (made ++ [mark]) →
          Safe contract own post (program.step files fate).program none (made ++ [mark])) := by
  have unmarked : made ++ (none : Option π).toList = made := List.append_nil made
  cases program with
  | done result => exact ⟨by simpa [Program.step] using safe, by rintro _ ⟨⟩⟩
  | present path next =>
    have answers := safe.2 (some files) (.inl rfl)
    cases fate with
    | succeeds =>
      refine ⟨?_, by rintro _ ⟨⟩⟩
      simp only [Program.step, unmarked]
      exact answers.1 _ fun _ known => by rw [Option.some.inj known]
    | fails left =>
      refine ⟨?_, by rintro _ ⟨⟩⟩
      simp only [Program.step, unmarked]
      exact answers.2 (goes.resolve_right (by simp))
  | read path next =>
    cases fate with
    | succeeds =>
      refine ⟨?_, by rintro _ ⟨⟩⟩
      simp only [Program.step, unmarked]
      exact safe.2.1 _ fun _ known => by rw [Option.some.inj known]
    | fails left =>
      refine ⟨?_, by rintro _ ⟨⟩⟩
      simp only [Program.step, unmarked]
      exact safe.2.2 (goes.resolve_right (by simp))
  | write path content next =>
    cases fate with
    | succeeds =>
      refine ⟨?_, by rintro _ ⟨⟩⟩
      simp only [Program.step, unmarked]
      exact safe.2.2.1
    | fails left =>
      refine ⟨?_, by rintro _ ⟨⟩⟩
      simp only [Program.step, unmarked]
      exact safe.2.2.2 (goes.resolve_right (by simp)) left
  | replace source target mark next =>
    obtain ⟨-, -, -, kept, aims, failing, succeeding⟩ := safe
    cases fate with
    | succeeds =>
      by_cases found : (files source).isSome
      · obtain ⟨-, allowed, calm, disturbed⟩ := succeeding files rfl found
        simp only [Program.step, if_pos found, Option.toList_some]
        refine ⟨calm, ?_⟩
        rintro _ ⟨⟩
        rw [aims]
        exact ⟨kept, allowed, disturbed⟩
      · simp only [Program.step, if_neg found, unmarked]
        refine ⟨failing (.inr ?_), by rintro _ ⟨⟩⟩
        rintro _ ⟨⟩
        exact Option.not_isSome_iff_eq_none.mp found
    | fails left =>
      refine ⟨?_, by rintro _ ⟨⟩⟩
      simp only [Program.step, unmarked]
      exact failing (.inl (goes.resolve_right (by simp)))
  | attempt next =>
    cases fate with
    | succeeds =>
      refine ⟨?_, by rintro _ ⟨⟩⟩
      simp only [Program.step, unmarked]
      exact safe.1
    | fails left =>
      refine ⟨?_, by rintro _ ⟨⟩⟩
      simp only [Program.step, unmarked]
      exact safe.2 (goes.resolve_right (by simp))

/-- An operation of a call that has been disturbed, short of a replacement. -/
theorem step_unknown {program : Program κ ν π α} {files : Files κ ν} {made : List π}
    (safe : Safe contract own post program none made) (exposed : contract.exposed made) {fate : Fate ν}
    (unmarked : (program.step files fate).mark = none) :
    Safe contract own post (program.step files fate).program none made ∧
      (contract.renews = true → program.looks = true →
        Safe contract own post (program.step files fate).program (some (program.step files fate).files) made) := by
  cases program with
  | done result => exact ⟨safe, by rintro _ ⟨⟩⟩
  | present path next =>
    have answers := safe.2 none (.inl rfl)
    cases fate with
    | succeeds =>
      refine ⟨answers.1 _ (by simp), fun renews _ => ?_⟩
      exact (safe.2 (some files) (.inr ⟨renews, rfl, rfl⟩)).1 _ fun _ known => by rw [Option.some.inj known]
    | fails left => exact ⟨answers.2 exposed, fun renews _ => (safe.2 (some files) (.inr ⟨renews, rfl, rfl⟩)).2 exposed⟩
  | read path next =>
    cases fate with
    | succeeds => exact ⟨safe.2.1 _ (by simp), by rintro _ ⟨⟩⟩
    | fails left => exact ⟨safe.2.2 exposed, by rintro _ ⟨⟩⟩
  | write path content next =>
    cases fate with
    | succeeds => exact ⟨safe.2.2.1, by rintro _ ⟨⟩⟩
    | fails left => exact ⟨safe.2.2.2 exposed left, by rintro _ ⟨⟩⟩
  | replace source target mark next =>
    have failing := safe.2.2.2.2.2.1 (.inl exposed)
    cases fate with
    | succeeds =>
      by_cases found : (files source).isSome
      · simp only [Program.step, if_pos found] at unmarked
        cases unmarked
      · simp only [Program.step, if_neg found]
        exact ⟨failing, by rintro _ ⟨⟩⟩
    | fails left => exact ⟨failing, by rintro _ ⟨⟩⟩
  | attempt next =>
    cases fate with
    | succeeds => exact ⟨safe.1, by rintro _ ⟨⟩⟩
    | fails left => exact ⟨safe.2 exposed, by rintro _ ⟨⟩⟩

theorem step_durable {program : Program κ ν π α} {view : View κ ν} {made : List π}
    (safe : Safe contract own post program view made) {files : Files κ ν} {fate : Fate ν}
    (known : (program.step files fate).mark.isSome → view = some files) {path : κ}
    (lasting : ¬ contract.scratch path) :
    (program.step files fate).files path = ((program.step files fate).mark.elim files fun mark =>
      Function.update files (contract.target mark) (some (contract.content mark))) path := by
  cases program with
  | done result => rfl
  | present other next => cases fate <;> rfl
  | read other next => cases fate <;> rfl
  | write other content next =>
    have apart : path ≠ other := fun same => lasting (same ▸ safe.2.1)
    cases fate <;> exact Function.update_of_ne apart _ _
  | replace source target mark next =>
    obtain ⟨-, -, scratch, -, aims, -, succeeding⟩ := safe
    cases fate with
    | succeeds =>
      by_cases found : (files source).isSome
      · simp only [Program.step, if_pos found] at known ⊢
        have content := (succeeding files (known rfl) found).1
        have apart : path ≠ source := fun same => lasting (same ▸ scratch)
        rw [Program.moved, Function.update_of_ne apart, content, Option.elim_some, aims]
      · simp only [Program.step, if_neg found, Option.elim_none]
    | fails left => rfl
  | attempt next => cases fate <;> rfl

end Safe

/-- Marks made one after another, each allowed where it is made, and the files that last as they leave them. -/
def Contract.Leads (contract : Contract κ ν π) : List π → Files κ ν → List π → Files κ ν → Prop
  | _, files, [], after => ∀ path, ¬ contract.scratch path → after path = files path
  | made, files, mark :: marks, after => ¬ contract.scratch (contract.target mark) ∧
      contract.allows made (files (contract.target mark)) mark ∧
      contract.Leads (made ++ [mark]) (Function.update files (contract.target mark) (some (contract.content mark)))
        marks after

theorem Contract.Leads.congr {contract : Contract κ ν π} {made marks : List π} {files others after : Files κ ν}
    (leads : contract.Leads made files marks after)
    (agree : ∀ path, ¬ contract.scratch path → files path = others path) :
    contract.Leads made others marks after := by
  induction marks generalizing made files others with
  | nil => exact fun path lasts => (leads path lasts).trans (agree path lasts)
  | cons mark marks ih =>
    obtain ⟨lasts, allowed, rest⟩ := leads
    refine ⟨lasts, agree _ lasts ▸ allowed, ih rest fun path stays => ?_⟩
    by_cases same : path = contract.target mark
    · rw [same, Function.update_self, Function.update_self]
    · rw [Function.update_of_ne same, Function.update_of_ne same, agree path stays]

theorem Safe.run {contract : Contract κ ν π} {own : κ → Bool} {post : View κ ν → List π → α → Prop}
    {program : Program κ ν π α} {files : Files κ ν} {made : List π}
    (safe : Safe contract own post program (some files) made) :
    ∃ marks, post (some (program.run files).2) (made ++ marks) (program.run files).1 ∧
      contract.Leads made files marks (program.run files).2 := by
  induction program generalizing files made with
  | done result => exact ⟨[], by rwa [List.append_nil], fun _ _ => rfl⟩
  | present path next ih => exact ih _ ((safe.2 (some files) (.inl rfl)).1 _ fun _ known => by rw [Option.some.inj known])
  | read path next ih => exact ih _ (safe.2.1 _ fun _ known => by rw [Option.some.inj known])
  | write path content next ih =>
    obtain ⟨marks, ends, leads⟩ := ih _ safe.2.2.1
    refine ⟨marks, ends, leads.congr fun other lasts => Function.update_of_ne ?_ _ _⟩
    rintro rfl
    exact lasts safe.2.1
  | replace source target mark next ih =>
    obtain ⟨-, -, scratch, kept, aims, failing, succeeding⟩ := safe
    by_cases found : (files source).isSome
    · obtain ⟨content, allowed, calm, -⟩ := succeeding files rfl found
      obtain ⟨marks, ends, leads⟩ := ih _ calm
      simp only [Program.run, if_pos found]
      refine ⟨mark :: marks, by rwa [List.append_cons], aims ▸ kept, aims ▸ allowed, leads.congr fun path lasts => ?_⟩
      have apart : path ≠ source := fun same => lasts (same ▸ scratch)
      rw [Program.moved, Function.update_of_ne apart, content, aims]
    · simp only [Program.run, if_neg found]
      refine ih _ (failing (.inr ?_))
      rintro _ ⟨⟩
      exact Option.not_isSome_iff_eq_none.mp found
  | attempt next ih => exact ih _ safe.1

theorem Program.step_unchanged {program : Program κ ν π α} {files : Files κ ν} {fate : Fate ν} {path : κ}
    (free : path ∉ (program.step files fate).changed) : (program.step files fate).files path = files path := by
  cases program with
  | done result => rfl
  | present other next => cases fate <;> rfl
  | read other next => cases fate <;> rfl
  | write other content next =>
    cases fate <;> exact Function.update_of_ne (fun same => free (List.mem_singleton.mpr same)) _ _
  | replace source target mark next =>
    cases fate with
    | succeeds =>
      by_cases found : (files source).isSome
      · simp only [Program.step, if_pos found, List.mem_cons, List.not_mem_nil, or_false, not_or] at free ⊢
        rw [Program.moved, Function.update_of_ne free.1, Function.update_of_ne free.2]
      · simp only [Program.step, if_neg found]
    | fails left => rfl
  | attempt next => cases fate <;> rfl

/-- What the contract asks of an event: a call that replaces a file is undisturbed, and a call that is not exposed goes
on without a fault and is left alone. -/
def System.Respects (contract : Contract κ ν π) (own : Op → κ → Bool) (system : System κ ν π α Op) :
    Event Op ν → Prop
  | .begin _ => True
  | .step index fate => ∀ call, system.calls[index]? = some call →
      ((call.program.step system.files fate).mark.isSome → call.disturbed = false) ∧
      ∀ (other : ℕ) (entry : Call κ ν π α Op), system.calls[other]? = some entry → ¬ contract.exposed entry.made →
        if other = index then fate = .succeeds
        else ∀ path ∈ (call.program.step system.files fate).changed, own entry.operation path = false

/-- Every call is safe from where it stands, with the files it knows and, where it is exposed, with any. -/
structure Call.Sound (contract : Contract κ ν π) (own : Op → κ → Bool) (ends : Op → List π → α → Prop)
    (files : Files κ ν) (call : Call κ ν π α Op) : Prop where
  known : call.disturbed = false →
    Safe contract (own call.operation) (fun _ => ends call.operation) call.program (some files) call.made
  unknown : contract.exposed call.made →
    Safe contract (own call.operation) (fun _ => ends call.operation) call.program none call.made
  covered : ¬ contract.exposed call.made → call.disturbed = false

structure System.Sound (contract : Contract κ ν π) (own : Op → κ → Bool) (ends : Op → List π → α → Prop)
    (initial : Files κ ν) (system : System κ ν π α Op) : Prop where
  calls : ∀ (index : ℕ) call, system.calls[index]? = some call → call.Sound contract own ends system.files
  lasting : ∀ path, ¬ contract.scratch path →
    system.files path = durable contract.target contract.content initial system.log path
  allowed : ∀ earlier entry later, system.log = earlier ++ entry :: later →
    contract.allows ((earlier.filter fun other => other.1 = entry.1).map Prod.snd)
      (durable contract.target contract.content initial earlier (contract.target entry.2)) entry.2
  made : ∀ (index : ℕ) call, system.calls[index]? = some call →
    call.made = (system.log.filter fun entry => entry.1 = index).map Prod.snd
  indexed : ∀ entry ∈ system.log, entry.1 < system.calls.length

section Keeping

variable {contract : Contract κ ν π} {own : Op → κ → Bool} {ends : Op → List π → α → Prop} {files : Files κ ν}

theorem Call.Sound.exposed_of_disturbed {call : Call κ ν π α Op} (sound : call.Sound contract own ends files)
    (disturbed : call.disturbed = true) : contract.exposed call.made := by
  by_contra covered
  rw [sound.covered covered] at disturbed
  cases disturbed

theorem Call.Sound.beside {call : Call κ ν π α Op} (sound : call.Sound contract own ends files)
    {changed : List κ} {later : Files κ ν} (unchanged : ∀ path, path ∉ changed → later path = files path)
    (alone : ¬ contract.exposed call.made → ∀ path ∈ changed, own call.operation path = false) :
    (call.beside own changed).Sound contract own ends later where
  known calm := by
    simp only [Call.beside, Bool.or_eq_false_iff, List.any_eq_false] at calm
    exact Safe.congr (fun path owned => unchanged path fun member => calm.2 path member owned) (sound.known calm.1)
  unknown exposed := sound.unknown exposed
  covered hidden := by
    simp only [Call.beside, Bool.or_eq_false_iff, List.any_eq_false]
    exact ⟨sound.covered hidden, fun path member => by simp [alone hidden path member]⟩

theorem Call.Sound.advance {call : Call κ ν π α Op} (sound : call.Sound contract own ends files) {fate : Fate ν}
    (undisturbed : (call.program.step files fate).mark.isSome → call.disturbed = false)
    (goes : ¬ contract.exposed call.made → fate = .succeeds) :
    (call.advance contract.renews (call.program.step files fate)).Sound contract own ends
      (call.program.step files fate).files := by
  cases disturbed : call.disturbed with
  | false =>
    have goes : contract.exposed call.made ∨ fate = .succeeds := or_iff_not_imp_left.mpr goes
    have stepped := (sound.known disturbed).step_known goes
    refine ⟨fun _ => stepped.1, fun exposed => ?_, fun _ => ?_⟩
    · cases marked : (call.program.step files fate).mark with
      | none =>
        simp only [Call.advance, marked, Option.toList_none, List.append_nil] at exposed ⊢
        exact ((sound.unknown exposed).step_unknown exposed marked).1
      | some mark =>
        simp only [Call.advance, marked, Option.toList_some] at exposed ⊢
        exact (stepped.2 mark marked).2.2 exposed
    · simp [Call.advance, disturbed]
  | true =>
    have exposed := sound.exposed_of_disturbed disturbed
    have unmarked : (call.program.step files fate).mark = none := by
      cases marked : (call.program.step files fate).mark with
      | none => rfl
      | some mark =>
        have calm := undisturbed (by rw [marked]; rfl)
        rw [disturbed] at calm
        cases calm
    have stepped := (sound.unknown exposed).step_unknown exposed unmarked
    refine ⟨fun calm => ?_, fun _ => ?_, fun hidden => ?_⟩
    · simp only [Call.advance, disturbed, Bool.true_and, Bool.not_eq_false', Bool.and_eq_true] at calm
      simpa only [Call.advance, unmarked, Option.toList_none, List.append_nil] using stepped.2 calm.1 calm.2
    · simpa only [Call.advance, unmarked, Option.toList_none, List.append_nil] using stepped.1
    · simp only [Call.advance, unmarked, Option.toList_none, List.append_nil] at hidden
      exact absurd exposed hidden

theorem Call.Sound.lasting {call : Call κ ν π α Op} (sound : call.Sound contract own ends files) {fate : Fate ν}
    (undisturbed : (call.program.step files fate).mark.isSome → call.disturbed = false) {path : κ}
    (lasting : ¬ contract.scratch path) : (call.program.step files fate).files path =
      ((call.program.step files fate).mark.elim files fun mark =>
        Function.update files (contract.target mark) (some (contract.content mark))) path := by
  cases disturbed : call.disturbed with
  | false => exact (sound.known disturbed).step_durable (fun _ => rfl) lasting
  | true =>
    have exposed := sound.exposed_of_disturbed disturbed
    refine (sound.unknown exposed).step_durable (fun marked => ?_) lasting
    rw [undisturbed marked] at disturbed
    cases disturbed

theorem Call.Sound.allowed {call : Call κ ν π α Op} (sound : call.Sound contract own ends files) {fate : Fate ν}
    (undisturbed : (call.program.step files fate).mark.isSome → call.disturbed = false)
    (goes : ¬ contract.exposed call.made → fate = .succeeds) {mark : π}
    (marked : (call.program.step files fate).mark = some mark) :
    ¬ contract.scratch (contract.target mark) ∧
      contract.allows call.made (files (contract.target mark)) mark := by
  have calm := undisturbed (by rw [marked]; rfl)
  have stepped := ((sound.known calm).step_known (or_iff_not_imp_left.mpr goes)).2 mark marked
  exact ⟨stepped.1, stepped.2.1⟩

end Keeping

section Runs

variable {contract : Contract κ ν π} {own : Op → κ → Bool} {ends : Op → List π → α → Prop}
  {program : Op → Program κ ν π α} {initial : Files κ ν} {system : System κ ν π α Op}

theorem System.Sound.start : (System.start initial : System κ ν π α Op).Sound contract own ends initial where
  calls _ _ found := by simp [System.start] at found
  lasting _ _ := rfl
  allowed earlier entry later split := by simp [System.start] at split
  made _ _ found := by simp [System.start] at found
  indexed _ member := by simp [System.start] at member

theorem System.Sound.begin (sound : system.Sound contract own ends initial) {operation : Op}
    (known : Safe contract (own operation) (fun _ => ends operation) (program operation) (some system.files) [])
    (unknown : Safe contract (own operation) (fun _ => ends operation) (program operation) none [])
    (exposed : contract.exposed []) :
    (system.next program own contract.renews (.begin operation)).Sound contract own ends initial where
  calls index call found := by
    rcases lt_trichotomy index system.calls.length with before | here | beyond
    · exact sound.calls index call (by rwa [System.next, List.getElem?_append_left before] at found)
    · rw [System.next, here, List.getElem?_concat_length] at found
      obtain rfl := Option.some.inj found
      exact ⟨fun _ => known, fun _ => unknown, fun hidden => absurd exposed hidden⟩
    · rw [System.next, List.getElem?_eq_none (by simp; omega)] at found
      cases found
  lasting := sound.lasting
  allowed := sound.allowed
  made index call found := by
    rcases lt_trichotomy index system.calls.length with before | here | beyond
    · exact sound.made index call (by rwa [System.next, List.getElem?_append_left before] at found)
    · rw [System.next, here, List.getElem?_concat_length] at found
      obtain rfl := Option.some.inj found
      have none : (system.log.filter fun entry => entry.1 = index) = [] := by
        rw [List.filter_eq_nil_iff]
        intro entry member same
        have low := sound.indexed entry member
        simp only [decide_eq_true_eq] at same
        omega
      rw [System.next, none]
      rfl
    · rw [System.next, List.getElem?_eq_none (by simp; omega)] at found
      cases found
  indexed entry member := by
    have low := sound.indexed entry member
    simp only [System.next, List.length_append, List.length_singleton]
    omega

theorem System.next_step {index : ℕ} {fate : Fate ν} {call : Call κ ν π α Op}
    (found : system.calls[index]? = some call) : system.next program own contract.renews (.step index fate) =
      { files := (call.program.step system.files fate).files
        calls := (system.calls.map (Call.beside own (call.program.step system.files fate).changed)).set index
          (call.advance contract.renews (call.program.step system.files fate))
        log := system.log ++ (call.program.step system.files fate).mark.toList.map fun mark => (index, mark) } := by
  simp only [System.next, found]

omit [DecidableEq κ] in
/-- The call at an index after another, or the same, has taken an operation. -/
theorem System.next_step_call {index other : ℕ} {changed : List κ} {call advanced after : Call κ ν π α Op}
    (found : system.calls[index]? = some call)
    (later : ((system.calls.map (Call.beside own changed)).set index advanced)[other]? = some after) :
    other = index ∧ after = advanced ∨
      other ≠ index ∧ ∃ entry, system.calls[other]? = some entry ∧ after = entry.beside own changed := by
  by_cases same : other = index
  · subst same
    have inside : other < system.calls.length := (List.getElem?_eq_some_iff.mp found).1
    rw [List.getElem?_set_self (by rwa [List.length_map])] at later
    exact .inl ⟨rfl, (Option.some.inj later).symm⟩
  · rw [List.getElem?_set_ne (Ne.symm same), List.getElem?_map, Option.map_eq_some_iff] at later
    obtain ⟨entry, present, rfl⟩ := later
    exact .inr ⟨same, entry, present, rfl⟩

theorem append_cons_eq_concat {τ : Type} {list earlier later : List τ} {last entry : τ}
    (split : list ++ [last] = earlier ++ entry :: later) :
    (later = [] ∧ earlier = list ∧ entry = last) ∨ ∃ shorter, later = shorter ++ [last] ∧
      list = earlier ++ entry :: shorter := by
  rcases List.eq_nil_or_concat later with rfl | ⟨shorter, final, rfl⟩
  · obtain ⟨same, ends⟩ := List.append_inj' split rfl
    exact .inl ⟨rfl, same.symm, (List.cons.inj ends).1.symm⟩
  · rw [List.concat_eq_append, ← List.cons_append, ← List.append_assoc] at split
    obtain ⟨same, ends⟩ := List.append_inj' split rfl
    rw [List.concat_eq_append, (List.cons.inj ends).1]
    exact .inr ⟨shorter, rfl, same⟩

theorem System.Sound.step (sound : system.Sound contract own ends initial) {index : ℕ} {fate : Fate ν}
    (respects : system.Respects contract own (.step index fate)) :
    (system.next program own contract.renews (.step index fate)).Sound contract own ends initial := by
  cases found : system.calls[index]? with
  | none => simpa only [System.next, found] using sound
  | some call =>
    obtain ⟨undisturbed, alone⟩ := respects call found
    have calling := sound.calls index call found
    have goes : ¬ contract.exposed call.made → fate = .succeeds := fun hidden => by
      simpa using alone index call found hidden
    rw [System.next_step found]
    refine ⟨fun other after later => ?_, fun path lasts => ?_, fun earlier entry later split => ?_,
      fun other after later => ?_, fun entry member => ?_⟩
    · rcases System.next_step_call found later with ⟨rfl, rfl⟩ | ⟨apart, entry, present, rfl⟩
      · exact calling.advance undisturbed goes
      · refine (sound.calls other entry present).beside (fun path => Program.step_unchanged) fun hidden => ?_
        simpa [apart] using alone other entry present hidden
    · have moved := calling.lasting undisturbed lasts
      dsimp only
      rw [moved]
      cases marked : (call.program.step system.files fate).mark with
      | none => simpa using sound.lasting path lasts
      | some mark =>
        simp only [Option.elim_some, Option.toList_some, List.map_cons, List.map_nil, durable_snoc]
        by_cases same : path = contract.target mark
        · rw [same, Function.update_self, Function.update_self]
        · rw [Function.update_of_ne same, Function.update_of_ne same, sound.lasting path lasts]
    · cases marked : (call.program.step system.files fate).mark with
      | none =>
        simp only [marked, Option.toList_none, List.map_nil, List.append_nil] at split
        exact sound.allowed earlier entry later split
      | some mark =>
        simp only [marked, Option.toList_some, List.map_cons, List.map_nil] at split
        rcases append_cons_eq_concat split with ⟨-, rfl, rfl⟩ | ⟨shorter, -, inside⟩
        · obtain ⟨lasts, allowed⟩ := calling.allowed undisturbed goes marked
          rwa [← sound.lasting _ lasts, ← sound.made _ call found]
        · exact sound.allowed earlier entry shorter inside
    · rcases System.next_step_call found later with ⟨rfl, rfl⟩ | ⟨apart, entry, present, rfl⟩
      · rw [List.filter_append, List.map_append, ← sound.made other call found, Call.advance]
        cases (call.program.step system.files fate).mark <;> simp
      · rw [List.filter_append, List.map_append, ← sound.made other entry present, Call.beside]
        cases (call.program.step system.files fate).mark <;> simp [Ne.symm apart]
    · have inside : index < system.calls.length := (List.getElem?_eq_some_iff.mp found).1
      simp only [List.length_set, List.length_map]
      rcases List.mem_append.mp member with old | new
      · exact sound.indexed entry old
      · obtain ⟨mark, -, rfl⟩ := List.mem_map.mp new
        exact inside

/-- An event that respects the contract, a call being safe where it begins. -/
def System.Admits (program : Op → Program κ ν π α) (contract : Contract κ ν π) (own : Op → κ → Bool)
    (ends : Op → List π → α → Prop) (system : System κ ν π α Op) (event : Event Op ν) : Prop :=
  system.Respects contract own event ∧ ∀ operation, event = .begin operation → ∀ view : View κ ν,
    (∀ files, view = some files → files = system.files) →
    Safe contract (own operation) (fun _ => ends operation) (program operation) view []

theorem System.Sound.after (exposed : contract.exposed []) {events : List (Event Op ν)}
    (kept : ∀ earlier event later, events = earlier ++ event :: later →
      (Run.after (System.next program own contract.renews) earlier (System.start initial)).Admits
        program contract own ends event) :
    (Run.after (System.next program own contract.renews) events (System.start initial)).Sound
      contract own ends initial := by
  refine Run.after_guarded (fun system event sound (admits : system.Admits program contract own ends event) => ?_)
    .start kept
  cases event with
  | begin operation =>
    have safe := admits.2 operation rfl
    exact sound.begin (safe (some system.files) fun _ known => (Option.some.inj known).symm) (safe none nofun) exposed
  | step index fate => exact sound.step admits.1

theorem System.Sound.answers (sound : system.Sound contract own ends initial) {index : ℕ} {operation : Op} {result : α}
    (answered : system.answered index = some (operation, result)) :
    ends operation ((system.log.filter fun entry => entry.1 = index).map Prod.snd) result := by
  obtain ⟨call, found, mapped⟩ := Option.bind_eq_some_iff.mp answered
  obtain ⟨last, returned, same⟩ := Option.map_eq_some_iff.mp mapped
  obtain ⟨rfl, rfl⟩ := Prod.mk.inj same
  have done := Program.returned_eq returned
  rw [← sound.made index call found]
  have calling := sound.calls index call found
  by_cases exposed : contract.exposed call.made
  · have safe := calling.unknown exposed
    rwa [done] at safe
  · have safe := calling.known (calling.covered exposed)
    rwa [done] at safe

end Runs

section Turns

variable {program : Op → Program κ ν π α} {own : Op → κ → Bool} {renews : Bool}

/-- One call from its beginning to its end, or to where it is cut. -/
def System.turn (program : Op → Program κ ν π α) (own : Op → κ → Bool) (renews : Bool) (system : System κ ν π α Op)
    (turn : Op × List (Fate ν)) : System κ ν π α Op :=
  turn.2.foldl (fun current fate => current.next program own renews (.step system.calls.length fate))
    (system.next program own renews (.begin turn.1))

/-- The latest call is alone, and the replacements stand in the order of the calls. -/
structure System.Ordered (system : System κ ν π α Op) : Prop where
  undisturbed : ∀ (index : ℕ) call, system.calls[index]? = some call → index + 1 = system.calls.length →
    call.disturbed = false
  sorted : (system.log.map Prod.fst).Pairwise (· ≤ ·)
  indexed : ∀ entry ∈ system.log, entry.1 < system.calls.length

omit [DecidableEq κ] in
theorem System.Ordered.start {initial : Files κ ν} : (System.start initial : System κ ν π α Op).Ordered :=
  ⟨fun _ _ found => by simp [System.start] at found, by simp [System.start], fun _ member => by
    simp [System.start] at member⟩

theorem System.Ordered.begin {system : System κ ν π α Op} (ordered : system.Ordered) (operation : Op) :
    (system.next program own renews (.begin operation)).Ordered := by
  refine ⟨fun index call found latest => ?_, ordered.sorted, fun entry member => ?_⟩
  · simp only [System.next, List.length_append, List.length_singleton] at latest found
    have here : index = system.calls.length := by omega
    rw [here, List.getElem?_concat_length] at found
    rw [← Option.some.inj found]
  · have low := ordered.indexed entry member
    simp only [System.next, List.length_append, List.length_singleton]
    omega

theorem System.Ordered.step {system : System κ ν π α Op} (ordered : system.Ordered) {index : ℕ}
    (latest : index + 1 = system.calls.length) (fate : Fate ν) :
    (system.next program own renews (.step index fate)).Ordered := by
  cases found : system.calls[index]? with
  | none => simpa only [System.next, found] using ordered
  | some call =>
    simp only [System.next, found]
    refine ⟨fun other after later top => ?_, ?_, fun entry member => ?_⟩
    · simp only [List.length_set, List.length_map] at top
      obtain rfl : other = index := by omega
      rcases System.next_step_call found later with ⟨-, rfl⟩ | ⟨apart, -⟩
      · rw [Call.advance, ordered.undisturbed other call found latest, Bool.false_and]
      · exact absurd rfl apart
    · rw [List.map_append, List.pairwise_append]
      refine ⟨ordered.sorted, ?_, ?_⟩
      · cases (call.program.step system.files fate).mark <;> simp
      · intro low lowMember high highMember
        obtain ⟨entry, member, rfl⟩ := List.mem_map.mp lowMember
        have inside := ordered.indexed entry member
        have same : high = index := by
          obtain ⟨added, addedMember, rfl⟩ := List.mem_map.mp highMember
          obtain ⟨mark, -, rfl⟩ := List.mem_map.mp addedMember
          rfl
        omega
    · simp only [List.length_set, List.length_map]
      rcases List.mem_append.mp member with old | new
      · exact ordered.indexed entry old
      · obtain ⟨mark, -, rfl⟩ := List.mem_map.mp new
        simp only
        omega

theorem System.next_step_length (system : System κ ν π α Op) (index : ℕ) (fate : Fate ν) :
    (system.next program own renews (.step index fate)).calls.length = system.calls.length := by
  cases found : system.calls[index]? <;> simp [System.next, found]

/-- One after another, no call is ever disturbed in time to matter. -/
theorem System.Ordered.respects {contract : Contract κ ν π} {system : System κ ν π α Op} (ordered : system.Ordered)
    (exposed : ∀ made, contract.exposed made) {index : ℕ} (latest : index + 1 = system.calls.length) (fate : Fate ν) :
    system.Respects contract own (.step index fate) :=
  fun call found => ⟨fun _ => ordered.undisturbed index call found latest, fun _ entry _ hidden =>
    absurd (exposed entry.made) hidden⟩

theorem System.Sound.turn {contract : Contract κ ν π} {ends : Op → List π → α → Prop} {initial : Files κ ν}
    {system : System κ ν π α Op} (sound : system.Sound contract own ends initial) (ordered : system.Ordered)
    (exposed : ∀ made, contract.exposed made) {operation : Op}
    (safe : ∀ view : View κ ν, (∀ files, view = some files → files = system.files) →
      Safe contract (own operation) (fun _ => ends operation) (program operation) view [])
    (fates : List (Fate ν)) :
    (system.turn program own contract.renews (operation, fates)).Sound contract own ends initial ∧
      (system.turn program own contract.renews (operation, fates)).Ordered := by
  have steps : ∀ (fates : List (Fate ν)) (current : System κ ν π α Op), current.Sound contract own ends initial →
      current.Ordered → system.calls.length + 1 = current.calls.length →
      (fates.foldl (fun current fate => current.next program own contract.renews (.step system.calls.length fate))
        current).Sound contract own ends initial ∧
      (fates.foldl (fun current fate => current.next program own contract.renews (.step system.calls.length fate))
        current).Ordered := by
    intro fates
    induction fates with
    | nil => exact fun current sound ordered _ => ⟨sound, ordered⟩
    | cons fate fates ih =>
      intro current sound ordered latest
      exact ih _ (sound.step (ordered.respects exposed latest fate)) (ordered.step latest fate)
        (latest.trans (System.next_step_length current _ fate).symm)
  refine steps fates _ (sound.begin (safe (some system.files) fun _ known => (Option.some.inj known).symm)
    (safe none nofun) (exposed [])) (ordered.begin operation) ?_
  simp [System.next]

end Turns

/-- Two entries of a list whose entries stand in a relation, one way or the other. -/
theorem pairwise_or {τ : Type} {related : τ → τ → Prop} {list : List τ} (pairwise : list.Pairwise related)
    {one other : τ} (member : one ∈ list) (memberOther : other ∈ list) (apart : one ≠ other) :
    related one other ∨ related other one := by
  obtain ⟨first, inside, rfl⟩ := List.mem_iff_getElem.mp member
  obtain ⟨second, insideOther, rfl⟩ := List.mem_iff_getElem.mp memberOther
  rw [List.pairwise_iff_getElem] at pairwise
  rcases lt_trichotomy first second with before | same | after
  · exact .inl (pairwise first second inside insideOther before)
  · subst same
    exact absurd rfl apart
  · exact .inr (pairwise second first insideOther inside after)

section History

variable {δ : Type} {target : π → κ} {content : π → ν} {decode : ν → Option δ} {initial : Files κ ν} {path : κ}

def history (target : π → κ) (content : π → ν) (decode : ν → Option δ) (initial : Files κ ν) (log : List (ℕ × π))
    (path : κ) : List δ :=
  ((initial path).bind decode).toList ++
    (log.filter fun entry => target entry.2 = path).filterMap fun entry => decode (content entry.2)

theorem history_snoc (log : List (ℕ × π)) (entry : ℕ × π) :
    history target content decode initial (log ++ [entry]) path = history target content decode initial log path ++
      if target entry.2 = path then (decode (content entry.2)).toList else [] := by
  rw [history, history, List.filter_append, List.filterMap_append, ← List.append_assoc]
  congr 1
  by_cases here : target entry.2 = path
  · cases decoded : decode (content entry.2) <;> simp [here, decoded]
  · simp [here]

theorem history_getLast? (decodes : ∀ mark, target mark = path → (decode (content mark)).isSome)
    (log : List (ℕ × π)) : (history target content decode initial log path).getLast? =
      (durable target content initial log path).bind decode := by
  induction log using List.reverseRecOn with
  | nil => cases found : (initial path).bind decode <;> simp [history, durable, found]
  | append_singleton log entry ih =>
    rw [history_snoc, durable_snoc]
    by_cases here : target entry.2 = path
    · obtain ⟨after, decoded⟩ := Option.isSome_iff_exists.mp (decodes entry.2 here)
      simp [here, decoded]
    · rw [if_neg here, List.append_nil, Function.update_of_ne (Ne.symm here), ih]

theorem history_isChain {follows : δ → δ → Prop}
    (decodes : ∀ mark, target mark = path → (decode (content mark)).isSome) {log : List (ℕ × π)}
    (allowed : ∀ earlier entry later, log = earlier ++ entry :: later → target entry.2 = path → ∀ before after,
      (durable target content initial earlier path).bind decode = some before →
      decode (content entry.2) = some after → follows before after) :
    (history target content decode initial log path).IsChain follows := by
  induction log using List.reverseRecOn with
  | nil => cases found : (initial path).bind decode <;> simp [history, found]
  | append_singleton log entry ih =>
    have chain := ih fun earlier other later split => allowed earlier other (later ++ [entry]) (by rw [split]; simp)
    rw [history_snoc]
    by_cases here : target entry.2 = path
    · obtain ⟨after, decoded⟩ := Option.isSome_iff_exists.mp (decodes entry.2 here)
      rw [if_pos here, decoded, Option.toList_some]
      refine chain.append (List.isChain_singleton _) fun before last next first => ?_
      rw [history_getLast? decodes] at last
      simp only [List.head?_cons, Option.mem_def, Option.some.injEq] at first
      exact allowed log entry [] rfl here before next last (decoded.trans (congrArg some first))
    · rwa [if_neg here, List.append_nil]

/-- What holds between the contents in order holds between the entries of the log. -/
theorem history_log {related : δ → δ → Prop} {log : List (ℕ × π)}
    (pairwise : (history target content decode initial log path).Pairwise related) :
    log.Pairwise fun one other => target one.2 = path → target other.2 = path → ∀ before after,
      decode (content one.2) = some before → decode (content other.2) = some after → related before after := by
  have logged := (List.pairwise_append.mp pairwise).2.1
  rw [List.pairwise_filterMap, List.pairwise_filter] at logged
  refine logged.imp fun ordered here there before after first second => ?_
  exact ordered (by simpa using here) (by simpa using there) before first after second

end History

end FileProgram
