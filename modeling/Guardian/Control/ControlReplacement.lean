import Mathlib.Data.List.Induction
import Guardian.Control.ControlSafety

namespace Guardian.Supervision

open Word Health

variable {α : Type} (outcome : Nat → Bool) {control : Control α}

/-- `after` commands the adapter of `before`, and no other. -/
structure Control.Issues (before after : Control α) : Prop where
  output : after.output = before.output
  commands : ∃ issued, after.commands = issued ++ before.commands ∧
    ∀ command ∈ issued, before.output = some command.adapter

/-- The current adapter was commanded last, and was commanded off unless the permit is given. -/
def Control.Tracked (control : Control α) : Prop :=
  ∀ adapter, control.output = some adapter → ∃ command older, control.commands = command :: older ∧
    command.adapter = adapter ∧ (command.runPermit = 0 ∨ control.status.runPermit = 1)

theorem Control.Issues.silent {before after : Control α} (output : after.output = before.output)
    (commands : after.commands = before.commands) : before.Issues after :=
  ⟨output, [], commands, fun command member => absurd member (by simp)⟩

theorem Control.Issues.trans {first second third : Control α} (earlier : first.Issues second)
    (later : second.Issues third) : first.Issues third := by
  obtain ⟨output, issued, commands, current⟩ := earlier
  obtain ⟨stillOutput, further, followed, stillCurrent⟩ := later
  refine ⟨stillOutput.trans output, further ++ issued, ?_, ?_⟩
  · rw [followed, commands, List.append_assoc]
  · intro command member
    rcases List.mem_append.mp member with recent | old
    · rw [← output]
      exact stillCurrent command recent
    · exact current command old

theorem Control.Issues.single {before after : Control α} {adapter : α} {runPermit : U8} {applied : Bool}
    (installed : before.output = some adapter) (output : after.output = before.output)
    (commands : after.commands = ⟨adapter, runPermit, applied⟩ :: before.commands) : before.Issues after := by
  refine ⟨output, [⟨adapter, runPermit, applied⟩], commands, ?_⟩
  intro command member
  rw [List.mem_singleton.mp member]
  exact installed

theorem drive_issues {adapter : α} (installed : control.output = some adapter) (runPermit : U8) :
    control.Issues (drive outcome control adapter runPermit).2 := .single installed rfl rfl

theorem Control.Tracked.missing (missing : control.output = none) : control.Tracked := by
  intro adapter installed
  cases missing.symm.trans installed

theorem Control.Tracked.congr {before after : Control α} (tracked : before.Tracked)
    (output : after.output = before.output) (commands : after.commands = before.commands)
    (permit : before.status.runPermit = 1 → after.status.runPermit = 1) : after.Tracked := by
  intro adapter installed
  obtain ⟨command, older, issued, same, off⟩ := tracked adapter (output.symm.trans installed)
  exact ⟨command, older, commands.trans issued, same, off.imp_right permit⟩

theorem Control.Tracked.commanded {adapter : α} {runPermit : U8} {applied : Bool} {older : List (Command α)}
    (installed : control.output = some adapter) (commands : control.commands = ⟨adapter, runPermit, applied⟩ :: older)
    (off : runPermit = 0 ∨ control.status.runPermit = 1) : control.Tracked := by
  intro current same
  cases installed.symm.trans same
  exact ⟨_, older, commands, rfl, off⟩

theorem controlLatchFault_commands {adapter : α} (installed : control.output = some adapter) (faults : U16)
    (reason : U8) : (controlLatchFault outcome control faults reason).output = some adapter ∧
      (controlLatchFault outcome control faults reason).commands =
        ⟨adapter, 0, outcome control.commands.length⟩ :: control.commands := by
  cases answer : outcome control.commands.length with
  | false => simp [controlLatchFault, installed, drive, answer]
  | true => simp [controlLatchFault, installed, drive, answer]

theorem controlLatchFault_issues (control : Control α) (faults : U16) (reason : U8) :
    control.Issues (controlLatchFault outcome control faults reason) := by
  cases installed : control.output with
  | none =>
    apply Control.Issues.silent
    · simp [controlLatchFault, installed]
    · simp [controlLatchFault, installed]
  | some adapter =>
    obtain ⟨output, commands⟩ := controlLatchFault_commands outcome installed faults reason
    exact .single installed (output.trans installed.symm) commands

theorem controlLatchFault_tracked (control : Control α) (faults : U16) (reason : U8) :
    (controlLatchFault outcome control faults reason).Tracked := by
  cases installed : control.output with
  | none =>
    apply Control.Tracked.missing
    simp [controlLatchFault, installed]
  | some adapter =>
    obtain ⟨output, commands⟩ := controlLatchFault_commands outcome installed faults reason
    exact .commanded output commands (Or.inl rfl)

theorem controlApplyOutput_issues (control : Control α) (runPermit : U8) :
    control.Issues (controlApplyOutput outcome control runPermit).2 := by
  cases installed : control.output with
  | none =>
    rw [controlApplyOutput_none outcome installed]
    exact .silent rfl rfl
  | some adapter =>
    cases answer : outcome control.commands.length with
    | false =>
      rw [controlApplyOutput_failed outcome installed answer]
      have commanded := drive_issues outcome installed (if runPermit ≠ 0 then 1 else 0)
      rw [drive, answer] at commanded
      exact commanded.trans (controlLatchFault_issues outcome _ _ _)
    | true =>
      rw [controlApplyOutput_applied outcome installed answer]
      exact .single installed rfl rfl

theorem controlApplyOutput_tracked (control : Control α) (runPermit : U8) :
    (controlApplyOutput outcome control runPermit).2.Tracked := by
  cases installed : control.output with
  | none =>
    rw [controlApplyOutput_none outcome installed]
    exact .missing installed
  | some adapter =>
    cases answer : outcome control.commands.length with
    | false =>
      rw [controlApplyOutput_failed outcome installed answer]
      exact controlLatchFault_tracked outcome _ _ _
    | true =>
      rw [controlApplyOutput_applied outcome installed answer]
      intro current same
      cases installed.symm.trans same
      refine ⟨_, _, rfl, rfl, ?_⟩
      by_cases off : runPermit = 0
      · exact Or.inl (if_neg (not_not.mpr off))
      · exact Or.inr (if_pos off)

/-- Only the current adapter is commanded, and it is tracked at the end. -/
def Control.Conducts (control after : Control α) : Prop := control.Issues after ∧ after.Tracked

theorem controlLatchFault_conducts (control : Control α) (faults : U16) (reason : U8) :
    control.Conducts (controlLatchFault outcome control faults reason) :=
  ⟨controlLatchFault_issues outcome control faults reason, controlLatchFault_tracked outcome control faults reason⟩

theorem controlApplyOutput_conducts (control : Control α) (runPermit : U8) :
    control.Conducts (controlApplyOutput outcome control runPermit).2 :=
  ⟨controlApplyOutput_issues outcome control runPermit, controlApplyOutput_tracked outcome control runPermit⟩

theorem Control.Conducts.transition {control after : Control α} (conducts : control.Conducts after)
    (state : ControlState) (reason : U8) :
    control.Conducts { after with status := after.status.transition state reason } := by
  refine ⟨conducts.1.trans (.silent rfl rfl), conducts.2.congr rfl rfl ?_⟩
  rw [transition_runPermit]
  exact id

theorem controlStayDisabled_conducts (control : Control α) (commanded : control.output ≠ none →
    ∃ adapter applied older, control.output = some adapter ∧ control.commands = ⟨adapter, 0, applied⟩ :: older) :
    control.Conducts (controlStayDisabled control) := by
  refine ⟨.silent rfl rfl, ?_⟩
  cases installed : control.output with
  | none => exact .missing installed
  | some adapter =>
    obtain ⟨current, applied, older, same, commands⟩ := commanded (by simp [installed])
    exact .commanded same commands (Or.inl rfl)

theorem controlEvaluateRefreshed_conducts (control : Control α) :
    control.Conducts (controlEvaluateRefreshed outcome control) := by
  have off := controlApplyOutput_conducts outcome control 0
  have on := controlApplyOutput_conducts outcome control 1
  rw [controlEvaluateRefreshed]
  apply iteInduction
  · intro latched
    have unsupervised : control.Conducts
        { (controlApplyOutput outcome control 0).2 with
          status := { (controlApplyOutput outcome control 0).2.status with supervisionEnabled := 0 } } :=
      ⟨off.1.trans (.silent rfl rfl), off.2.congr rfl rfl id⟩
    exact unsupervised.transition .faultLatched _
  intro unlatched
  apply iteInduction
  · intro disabled
    cases installed : control.output with
    | none => exact controlStayDisabled_conducts control (fun some => absurd installed some)
    | some adapter =>
      have commanded := drive_issues outcome installed 0
      dsimp only
      apply iteInduction
      · intro refused
        have latched := controlLatchFault_conducts outcome (drive outcome control adapter 0).2
        exact ⟨commanded.trans (latched _ _).1, (latched _ _).2⟩
      · intro accepted
        have stays := controlStayDisabled_conducts (drive outcome control adapter 0).2
          (fun _ => ⟨adapter, _, _, installed, rfl⟩)
        exact ⟨commanded.trans stays.1, stays.2⟩
  intro supervised
  apply iteInduction
  · exact fun _ => controlLatchFault_conducts outcome _ _ _
  intro closed
  apply iteInduction
  · exact fun _ => controlLatchFault_conducts outcome _ _ _
  intro trained
  apply iteInduction
  · exact fun _ => controlLatchFault_conducts outcome _ _ _
  intro calm
  apply iteInduction
  · intro stopped
    apply iteInduction
    · exact fun _ => off
    · exact fun _ => off.transition .armed _
  intro requested
  apply iteInduction
  · exact fun _ => on
  intro accepted
  apply iteInduction
  · exact fun _ => on.transition .degraded _
  · exact fun _ => on.transition .active _

theorem controlEvaluate_conducts (control : Control α) (status : ControlStatus) :
    control.Issues (controlEvaluate outcome { control with status }) ∧
      (controlEvaluate outcome { control with status }).Tracked := by
  have refreshed : control.Issues { control with status := status.refresh } := .silent rfl rfl
  have evaluated := controlEvaluateRefreshed_conducts outcome { control with status := status.refresh }
  exact ⟨refreshed.trans evaluated.1, evaluated.2⟩

theorem controlFinishDisarm_tracked {adapter : α} {applied : Bool} {older : List (Command α)}
    (action : ControlAction) (commanded : control.output ≠ none →
      control.output = some adapter ∧ control.commands = ⟨adapter, 0, applied⟩ :: older) :
    (controlFinishDisarm control action).2.Tracked := by
  intro current installed
  obtain ⟨same, commands⟩ := commanded (fun missing => by cases missing.symm.trans installed)
  exact ⟨_, older, commands, Option.some.inj (same.symm.trans installed), Or.inl rfl⟩

theorem controlDisarm_conducts (control : Control α) (action : ControlAction) :
    control.Issues (controlDisarm outcome control action).2 ∧ (controlDisarm outcome control action).2.Tracked := by
  have disables : control.Issues { control with status := { control.status with supervisionEnabled := 0 } } :=
    .silent rfl rfl
  rw [controlDisarm]
  generalize ({ control with status := { control.status with supervisionEnabled := 0 } } : Control α) = disabled
    at disables ⊢
  dsimp only
  cases installed : disabled.output with
  | none => exact ⟨disables.trans (.silent rfl rfl), .missing installed⟩
  | some adapter =>
    have commanded := drive_issues outcome installed 0
    dsimp only
    split_ifs
    · exact ⟨(disables.trans commanded).trans (controlLatchFault_issues outcome _ _ _),
        controlLatchFault_tracked outcome _ _ _⟩
    · exact ⟨(disables.trans commanded).trans (.silent rfl rfl),
        controlFinishDisarm_tracked action fun _ => ⟨installed, rfl⟩⟩

theorem controlClearFault_conducts (action : ControlAction) :
    control.Issues (controlClearFault outcome control action).2 ∧
      (control.Tracked → (controlClearFault outcome control action).2.Tracked) := by
  have unchanged : control.Issues control ∧ (control.Tracked → control.Tracked) := ⟨.silent rfl rfl, id⟩
  rw [controlClearFault]
  split_ifs
  · exact unchanged
  · exact unchanged
  · exact unchanged
  · exact unchanged
  · cases installed : control.output with
    | none => exact unchanged
    | some adapter =>
      have commanded := drive_issues outcome installed 0
      dsimp only
      split_ifs
      · exact ⟨commanded.trans (controlLatchFault_issues outcome _ _ _),
          fun _ => controlLatchFault_tracked outcome _ _ _⟩
      · refine ⟨commanded.trans (.silent rfl rfl), fun _ current same => ?_⟩
        exact ⟨_, _, rfl, Option.some.inj (installed.symm.trans same), Or.inl rfl⟩

theorem controlArm_conducts (action : ControlAction) :
    control.Issues (controlArm outcome control action).2 ∧
      (control.Tracked → (controlArm outcome control action).2.Tracked) := by
  have unchanged : control.Issues control ∧ (control.Tracked → control.Tracked) := ⟨.silent rfl rfl, id⟩
  have off := controlApplyOutput_issues outcome control 0
  have offTracked := controlApplyOutput_tracked outcome control 0
  rw [controlArm]
  split_ifs
  · exact unchanged
  · exact unchanged
  · exact unchanged
  · exact unchanged
  · exact unchanged
  · dsimp only
    split_ifs
    · exact ⟨off, fun _ => offTracked⟩
    · refine ⟨off.trans (.silent rfl rfl), fun _ => offTracked.congr rfl rfl ?_⟩
      simp [ControlStatus.refresh]

/-- Every operation but a configuration commands the current adapter only, and keeps track of it. -/
theorem step_conducts (control : Control α) {operation : Operation α} (other : ∀ output, operation ≠ .configureOutput output) :
    control.Issues (control.step outcome operation) ∧
      (control.Tracked → (control.step outcome operation).Tracked) := by
  cases operation with
  | configureOutput output => exact absurd rfl (other output)
  | setLocalRunRequest requested =>
    have evaluated := controlEvaluate_conducts outcome control
    exact ⟨(evaluated _).1, fun _ => (evaluated _).2⟩
  | setInterlock closed =>
    have evaluated := controlEvaluate_conducts outcome control
    exact ⟨(evaluated _).1, fun _ => (evaluated _).2⟩
  | updateHealth health =>
    have evaluated := controlEvaluate_conducts outcome control
    exact ⟨(evaluated _).1, fun _ => (evaluated _).2⟩
  | action action =>
    simp only [Control.step, Control.perform, controlAction]
    split_ifs
    · exact ⟨(controlDisarm_conducts outcome control action).1, fun _ => (controlDisarm_conducts outcome control action).2⟩
    · exact controlClearFault_conducts outcome action
    · exact controlArm_conducts outcome action
    · exact ⟨.silent rfl rfl, id⟩

theorem controlConfigureOutput_commands (control : Control α) (output : α) :
    let configured := (controlConfigureOutput outcome control output).2
    configured.output = some output ∧ ∃ applied older, configured.commands = ⟨output, 0, applied⟩ :: older ∧
      ∃ issued, configured.commands = issued ++ control.commands ∧ ∀ command ∈ issued, command.adapter = output := by
  cases answer : outcome control.commands.length with
  | false =>
    let refused : Control α := { control with
      output := some output
      status := { control.status with outputAvailable := 1 }
      commands := ⟨output, 0, false⟩ :: control.commands }
    have current : refused.output = some output := rfl
    have latched := controlLatchFault_commands outcome current faultOutputFailure reasonOutputFailure
    simp only [controlConfigureOutput, drive, answer]
    refine ⟨latched.1, _, _, latched.2, [⟨output, 0, _⟩, ⟨output, 0, false⟩], latched.2, ?_⟩
    simp
  | true =>
    simp only [controlConfigureOutput, drive, answer]
    exact ⟨rfl, true, control.commands, rfl, [⟨output, 0, true⟩], rfl, by simp⟩

section Replacement

variable [DecidableEq α]

/-- What `adapter` was last commanded. -/
def Control.lastCommanded (control : Control α) (adapter : α) : Option U8 :=
  (control.commands.find? fun command => command.adapter = adapter).map Command.runPermit

theorem lastCommanded_others {before after : Control α} {adapter : α} {issued : List (Command α)}
    (commands : after.commands = issued ++ before.commands) (others : ∀ command ∈ issued, command.adapter ≠ adapter) :
    after.lastCommanded adapter = before.lastCommanded adapter := by
  have none : issued.find? (fun command => command.adapter = adapter) = none := by
    rw [List.find?_eq_none]
    intro command member
    simpa using others command member
  rw [Control.lastCommanded, commands, List.find?_append, none, Option.none_or, Control.lastCommanded]

/-- Of the adapters installed so far, those that are not current were last commanded off. -/
structure Control.Settled (control : Control α) (installed : α → Prop) : Prop where
  tracked : control.Tracked
  current : ∀ adapter, control.output = some adapter → installed adapter
  stale : ∀ adapter, installed adapter → control.output ≠ some adapter → control.lastCommanded adapter = some 0

/-- A configuration that leaves no adapter on, and the state in step with the permit. -/
def Control.AdmitsOutput (control : Control α) (output : α) : Prop :=
  if outcome control.commands.length then control.status.state ≠ .active ∧ control.status.state ≠ .degraded
  else control.status.runPermit = 1 → control.output = some output

instance (control : Control α) (output : α) : Decidable (control.AdmitsOutput outcome output) :=
  inferInstanceAs (Decidable (if outcome control.commands.length then
    control.status.state ≠ .active ∧ control.status.state ≠ .degraded
    else control.status.runPermit = 1 → control.output = some output))

variable {outcome}

omit [DecidableEq α] in
theorem Control.AdmitsOutput.permit {output : α} (admits : control.AdmitsOutput outcome output) (safe : control.Safe)
    (permit : control.status.runPermit = 1) : control.output = some output := by
  rw [Control.AdmitsOutput] at admits
  split_ifs at admits
  · rcases (safe.energised permit).state with active | degraded
    · exact absurd active admits.1
    · exact absurd degraded admits.2
  · exact admits permit

theorem Control.Settled.step (outcome : Nat → Bool) {installed : α → Prop} (settled : control.Settled installed)
    {operation : Operation α} (other : ∀ output, operation ≠ .configureOutput output) : (control.step outcome operation).Settled installed := by
  obtain ⟨⟨output, issued, commands, current⟩, tracked⟩ := step_conducts outcome control other
  refine ⟨tracked settled.tracked, ?_, ?_⟩
  · rw [output]
    exact settled.current
  · intro adapter was replaced
    rw [output] at replaced
    rw [lastCommanded_others commands]
    · exact settled.stale adapter was replaced
    · intro command member same
      apply replaced
      rw [current command member, same]

/-- The adapter that a configuration replaces was last commanded off, unless the permit is given. -/
theorem Control.Settled.last {installed : α → Prop} (settled : control.Settled installed) {adapter : α}
    (was : installed adapter) (withdrawn : control.output = some adapter → control.status.runPermit ≠ 1) :
    control.lastCommanded adapter = some 0 := by
  by_cases current : control.output = some adapter
  · obtain ⟨command, older, commands, same, off | permit⟩ := settled.tracked adapter current
    · rw [Control.lastCommanded, commands, List.find?_cons_of_pos (by simpa using same), Option.map_some, off]
    · exact absurd permit (withdrawn current)
  · exact settled.stale adapter was current

theorem Control.Settled.configure (outcome : Nat → Bool) {installed : α → Prop} (settled : control.Settled installed)
    (output : α)
    (replaced : ∀ adapter, control.output = some adapter → adapter ≠ output → control.status.runPermit ≠ 1) :
    (controlConfigureOutput outcome control output).2.Settled fun adapter => installed adapter ∨ adapter = output := by
  obtain ⟨current, applied, older, commands, issued, extended, others⟩ :=
    controlConfigureOutput_commands outcome control output
  refine ⟨.commanded current commands (Or.inl rfl), ?_, ?_⟩
  · intro adapter same
    exact Or.inr (Option.some.inj (same.symm.trans current))
  · intro adapter was stale
    rw [current] at stale
    have different : adapter ≠ output := fun same => stale (congrArg some same.symm)
    rw [lastCommanded_others extended fun command member same => different (same.symm.trans (others command member))]
    exact settled.last (was.resolve_right different) fun current => replaced adapter current different

def Admitted (outcome : Nat → Bool) (operations : List (Operation α)) : Prop :=
  ∀ before output rest, operations = before ++ .configureOutput output :: rest →
    ((controlInit : Control α).after outcome before).AdmitsOutput outcome output

theorem after_settled (operations : List (Operation α)) (admitted : Admitted outcome operations) :
    ((controlInit : Control α).after outcome operations).Settled fun adapter => .configureOutput adapter ∈ operations := by
  induction operations using List.reverseRecOn with
  | nil =>
    refine ⟨.missing rfl, ?_, ?_⟩
    · intro adapter installed
      cases installed
    · intro adapter installed
      cases installed
  | append_singleton operations operation ih =>
    have earlier : Admitted outcome operations := by
      intro before output rest split
      apply admitted before output (rest ++ [operation])
      rw [split, List.append_assoc, List.cons_append]
    have settled := ih earlier
    have safe := after_safe outcome (controlInit_safe (α := α)) operations
    rw [Control.after, Run.after_snoc]
    rw [Control.after] at settled safe
    by_cases configures : ∃ output, operation = .configureOutput output
    · obtain ⟨output, rfl⟩ := configures
      have admits := admitted operations output [] rfl
      have configured := settled.configure outcome output
        fun adapter current different permit => different (Option.some.inj (current.symm.trans (admits.permit safe permit)))
      have grows (adapter : α) : Operation.configureOutput adapter ∈ operations ++ [.configureOutput output] ↔
          .configureOutput adapter ∈ operations ∨ adapter = output := by simp
      refine ⟨configured.tracked, ?_, ?_⟩
      · intro adapter same
        exact (grows adapter).mpr (configured.current adapter same)
      · intro adapter was
        exact configured.stale adapter ((grows adapter).mp was)
    · rw [not_exists] at configures
      have kept := settled.step outcome configures
      have same (adapter : α) : Operation.configureOutput adapter ∈ operations ++ [operation] ↔
          .configureOutput adapter ∈ operations := by
        simp [Ne.symm (configures adapter)]
      refine ⟨kept.tracked, ?_, ?_⟩
      · intro adapter current
        exact (same adapter).mpr (kept.current adapter current)
      · intro adapter was
        exact kept.stale adapter ((same adapter).mp was)

omit [DecidableEq α] in
theorem controlLatchFault_state (control : Control α) (faults : U16) (reason : U8) :
    (controlLatchFault outcome control faults reason).status.state = .faultLatched := by
  obtain ⟨latchedFaults, count, commands, same, clear⟩ := controlLatchFault_eq outcome control faults reason
  simp [same, ControlStatus.refresh]

omit [DecidableEq α] in
/-- The state that a configuration leaves is in step with the permit unless the machine was running. -/
theorem controlConfigureOutput_state (outcome : Nat → Bool) (control : Control α) (output : α) :
    let configured := (controlConfigureOutput outcome control output).2
    ((configured.status.state = .active ∨ configured.status.state = .degraded) ↔ configured.status.runPermit = 1) ↔
      (outcome control.commands.length = true → control.status.state ≠ .active ∧ control.status.state ≠ .degraded) := by
  have withdrawn : ¬ (0 : U8) = 1 := by decide
  cases answer : outcome control.commands.length with
  | false =>
    simp only [controlConfigureOutput, drive, answer, Bool.not_false, if_true, controlLatchFault_state,
      controlLatchFault_withdrawn]
    simp
  | true =>
    simp only [controlConfigureOutput, drive, answer, Bool.not_true, Bool.false_eq_true, if_false,
      ControlStatus.refresh, withdrawn, iff_false, not_or, forall_const]

theorem output_replacement_safety (outcome : Nat → Bool) (operations : List (Operation α))
    (admitted : Admitted outcome operations) (output : α) :
    let control := (controlInit : Control α).after outcome operations
    let replaced := (controlConfigureOutput outcome control output).2
    ((∀ adapter, .configureOutput adapter ∈ operations ++ [.configureOutput output] →
        replaced.output ≠ some adapter → replaced.lastCommanded adapter = some 0) ∧
      ((replaced.status.state = .active ∨ replaced.status.state = .degraded) ↔ replaced.status.runPermit = 1)) ↔
      control.AdmitsOutput outcome output := by
  intro control replaced
  have safe : control.Safe := after_safe outcome controlInit_safe operations
  have settled := after_settled operations admitted
  have state := controlConfigureOutput_state outcome control output
  obtain ⟨current, applied, older, commands, issued, extended, others⟩ :=
    controlConfigureOutput_commands outcome control output
  constructor
  · rintro ⟨stale, inStep⟩
    rw [Control.AdmitsOutput]
    split_ifs with answer
    · exact state.mp inStep answer
    · intro permit
      obtain ⟨adapter, driven, commanded⟩ := (safe.energised permit).driven
      by_contra replacing
      have different : adapter ≠ output := fun same => replacing (by rw [driven, same])
      have off := stale adapter (List.mem_append_left _ (settled.current adapter driven))
        fun same => different (Option.some.inj (same.symm.trans current))
      obtain ⟨before, issuedOn⟩ := List.head?_eq_some_iff.mp commanded
      rw [lastCommanded_others extended fun command member same => different (same.symm.trans (others command member)),
        Control.lastCommanded, issuedOn] at off
      simp at off
  · intro admits
    have configured := settled.configure outcome output
      fun adapter current different permit => different (Option.some.inj (current.symm.trans (admits.permit safe permit)))
    refine ⟨fun adapter was => configured.stale adapter (by simpa using was), state.mpr ?_⟩
    intro answer
    rw [Control.AdmitsOutput, if_pos answer] at admits
    exact admits

end Replacement

theorem single_configuration_admitted : Admitted (fun _ => true) [Operation.configureOutput false] := by
  intro before output rest split
  cases before with
  | nil =>
    cases split
    decide
  | cons operation before => cases before <;> cases split

theorem output_replacement_while_disabled :
    let control := (controlInit : Control Bool).after (fun _ => true) [.configureOutput false]
    let replaced := (controlConfigureOutput (fun _ => true) control true).2
    ((∀ adapter, .configureOutput adapter ∈ [Operation.configureOutput false] ++ [.configureOutput true] →
        replaced.output ≠ some adapter → replaced.lastCommanded adapter = some 0) ∧
      ((replaced.status.state = .active ∨ replaced.status.state = .degraded) ↔ replaced.status.runPermit = 1)) :=
  (output_replacement_safety (fun _ => true) [.configureOutput false] single_configuration_admitted true).mpr (by decide)

/-- A machine that runs on the adapter `false`. -/
def runningOperations : List (Operation Bool) :=
  [.configureOutput false, .updateHealth trainedHealth, .setInterlock 1, .action actionArm, .setLocalRunRequest 1]

/-- The replaced adapter stays commanded on, and the state stays active without a permit. -/
theorem output_replacement_while_running :
    let control := (controlInit : Control Bool).after (fun _ => true) runningOperations
    let replaced := (controlConfigureOutput (fun _ => true) control true).2
    ¬ (∀ adapter, .configureOutput adapter ∈ runningOperations ++ [.configureOutput true] →
        replaced.output ≠ some adapter → replaced.lastCommanded adapter = some 0) ∧
      ¬ ((replaced.status.state = .active ∨ replaced.status.state = .degraded) ↔ replaced.status.runPermit = 1) := by
  refine ⟨fun stale => ?_, by decide⟩
  have off := stale false (by simp [runningOperations]) (by decide)
  exact absurd off (by decide)

end Guardian.Supervision
