import Guardian.Assurance.AssuranceTurns

namespace Guardian.Assurance

open FileProgram

variable {ι : Type} [DecidableEq ι]

/-- The files of a producer's freshness state and of a replay scope. -/
def transactionFiles (producerId : ι) (scope : AuthorizationReplayScope ι) (path : HostPath ι) : Bool :=
  path = .freshnessState producerId || path = .freshnessCandidate producerId ||
    path = .authorizationState scope || path = .authorizationCandidate scope

def AssuranceOperation.owns : AssuranceOperation ι → HostPath ι → Bool
  | .establish producerId _ _, path => path = .freshnessState producerId || path = .freshnessCandidate producerId
  | .bootstrap _ _ authentication _ _, path =>
    match authentication.authorizationObject, deriveAuthorizationReplayScope authentication with
    | some (.bootstrap authorization), .ok scope => transactionFiles authorization.producerId scope path
    | _, _ => false
  | .epochTransition _ _ authentication _ _ previous _, path =>
    match deriveAuthorizationReplayScope authentication with
    | .ok scope => transactionFiles previous.producerId scope path
    | .error _ => false

def AssuranceSystem.next (system : AssuranceSystem ι) (event : AssuranceEvent ι) : AssuranceSystem ι :=
  System.next AssuranceOperation.program AssuranceOperation.owns false system event

def afterOperations (initial : HostFiles ι) (events : List (AssuranceEvent ι)) : AssuranceSystem ι :=
  Run.after AssuranceSystem.next events (System.start initial)

/-- An authorization has been consumed, and nothing has been made of it yet. -/
def consumedAlone : List (HostReplacement ι) → Bool
  | [.authorization _] => true
  | _ => false

/-- An operation is begun with the freshness state that is stored. A call that replaces a file has been left alone since
it began. A call that has consumed an authorization goes on without a failure, and its files are left alone, until it
has put the freshness state in place. -/
def AssuranceSystem.Carries (system : AssuranceSystem ι) : AssuranceEvent ι → Prop
  | .begin operation => operation.Current system.files
  | .step index fate => ∀ call ∈ system.calls[index]?,
      ((call.program.step system.files fate).mark.isSome = true → call.disturbed = false) ∧
      ∀ other < system.calls.length, ∀ entry ∈ system.calls[other]?, consumedAlone entry.made = true →
        if other = index then fate = .succeeds
        else ∀ path ∈ (call.program.step system.files fate).changed, entry.operation.owns path = false

instance (files : HostFiles ι) : (operation : AssuranceOperation ι) → Decidable (operation.Current files)
  | .establish _ _ _ => .isTrue True.intro
  | .bootstrap _ freshness _ _ _ =>
    inferInstanceAs (Decidable (freshness.code = .firstSeen → files (.freshnessState freshness.producerId) = none))
  | .epochTransition _ _ _ _ _ previous _ =>
    inferInstanceAs (Decidable (files (.freshnessState previous.producerId) = some (.freshness previous)))

instance (system : AssuranceSystem ι) : (event : AssuranceEvent ι) → Decidable (system.Carries event)
  | .begin operation => inferInstanceAs (Decidable (operation.Current system.files))
  | .step index fate => inferInstanceAs (Decidable (∀ call ∈ system.calls[index]?,
      ((call.program.step system.files fate).mark.isSome = true → call.disturbed = false) ∧
      ∀ other < system.calls.length, ∀ entry ∈ system.calls[other]?, consumedAlone entry.made = true →
        if other = index then fate = .succeeds
        else ∀ path ∈ (call.program.step system.files fate).changed, entry.operation.owns path = false))

/-- A call is under way, and puts a freshness state in place when it goes on. -/
def AssuranceSystem.Completes (system : AssuranceSystem ι) (index : ℕ) (target : FreshnessState ι) : Prop :=
  ∃ call, system.calls[index]? = some call ∧ call.program.returned = none ∧
    freshnessFound (call.program.run system.files).2 target.producerId = .stateValid target

/-- What holds between consumed authorizations and freshness states. -/
structure ConsumedTogether (initial : HostFiles ι) (system : AssuranceSystem ι) : Prop where
  stored : ∀ producerId, (freshnessHistory initial system.log producerId).getLast? =
    (system.files (.freshnessState producerId)).bind HostDocument.freshness?
  advances : ∀ producerId, (freshnessHistory initial system.log producerId).IsChain FreshnessState.Advances
  authoritative : ∀ index transaction, (index, .authorization transaction) ∈ system.log →
    transaction.candidate.resultingFreshnessState ∈
      freshnessHistory initial system.log transaction.candidate.resultingFreshnessState.producerId ∨
    system.Completes index transaction.candidate.resultingFreshnessState
  refused : ∀ index transaction, (index, .authorization transaction) ∈ system.log → ∃ record,
    authorizationFound system.files transaction.candidate.replayScope = .stateValid record ∧
    ∀ (authentication : AuthorizationAuthenticationResult ι) establishedScopeCount,
      authentication.authorizationSequence = some transaction.candidate.authorizationSequence →
      (evaluateAuthorizationReplay authentication (some record.replayState) establishedScopeCount).code ≠
        .authorizationCandidate

/-- The marks of a call that is not between its two replacements. -/
def Whole (made : List (HostReplacement ι)) : Prop := consumedAlone made = false

omit [DecidableEq ι] in
theorem whole_exposure : Exposure (Whole (ι := ι)) := ⟨rfl, fun _ => rfl, fun _ _ => rfl⟩

abbrev lifecycleContract (ι : Type) [DecidableEq ι] : Contract (HostPath ι) (HostDocument ι) (HostReplacement ι) :=
  hostContract false Whole Lawful

theorem transactionFiles_owned (producerId : ι) (scope : AuthorizationReplayScope ι) :
    OwnsFiles (transactionFiles producerId scope) producerId scope := by
  constructor <;> simp [transactionFiles]

theorem AssuranceOperation.owns_files (operation : AssuranceOperation ι) : operation.Owns operation.owns := by
  cases operation with
  | establish producerId producerEpoch logicalTime => constructor <;> simp [AssuranceOperation.owns]
  | bootstrap ordinary freshness authentication replay count =>
    intro authorization scope object derived
    have files : AssuranceOperation.owns (.bootstrap ordinary freshness authentication replay count) =
        transactionFiles authorization.producerId scope := by
      funext path
      simp [AssuranceOperation.owns, object, derived]
    rw [files]
    exact transactionFiles_owned ..
  | epochTransition ordinary freshness authentication replay count previous generation =>
    intro scope derived
    have files : AssuranceOperation.owns
        (.epochTransition ordinary freshness authentication replay count previous generation) =
        transactionFiles previous.producerId scope := by
      funext path
      simp [AssuranceOperation.owns, derived]
    rw [files]
    exact transactionFiles_owned ..

abbrev AssuranceSystem.Whole (initial : HostFiles ι) (system : AssuranceSystem ι) : Prop :=
  System.Sound (lifecycleContract ι) AssuranceOperation.owns (AssuranceOperation.Ends Guardian.Assurance.Whole) initial
    system

theorem AssuranceSystem.Carries.admits {system : AssuranceSystem ι} {event : AssuranceEvent ι}
    (carries : system.Carries event) : system.Admits AssuranceOperation.program (lifecycleContract ι)
      AssuranceOperation.owns (AssuranceOperation.Ends Guardian.Assurance.Whole) event := by
  cases event with
  | begin operation =>
    refine ⟨True.intro, ?_⟩
    rintro _ ⟨⟩ view known
    have current : ∀ files, view = some files → operation.Current files := fun files is => known files is ▸ carries
    exact operation.safe whole_exposure operation.owns_files (fun files is => (current files is).remembers)
      (.inr current)
  | step index fate =>
    refine ⟨fun call found => ?_, fun operation same => nomatch same⟩
    obtain ⟨calm, alone⟩ := carries call found
    refine ⟨calm, fun other entry present hidden => ?_⟩
    exact alone other (List.getElem?_eq_some_iff.mp present).1 entry present (eq_true_of_ne_false hidden)

theorem afterOperations_whole {initial : HostFiles ι} {events : List (AssuranceEvent ι)}
    (carries : ∀ earlier event later, events = earlier ++ event :: later →
      (afterOperations initial earlier).Carries event) : (afterOperations initial events).Whole initial :=
  System.Sound.after rfl fun earlier event later split => (carries earlier event later split).admits

omit [DecidableEq ι] in
theorem madeBy_append (earlier later : List (ℕ × HostReplacement ι)) (index : ℕ) :
    madeBy (earlier ++ later) index = madeBy earlier index ++ madeBy later index := by
  simp [madeBy]

omit [DecidableEq ι] in
theorem madeBy_cons (index : ℕ) (mark : HostReplacement ι) (later : List (ℕ × HostReplacement ι)) :
    madeBy ((index, mark) :: later) index = mark :: madeBy later index := by
  simp [madeBy]

/-- The call that has consumed an authorization has done no more, or has put the freshness state in place. -/
theorem LawfulLog.consumed {initial : HostFiles ι} {log : List (ℕ × HostReplacement ι)} {index : ℕ}
    {transaction : AuthorizationPreparedTransaction ι} (lawful : LawfulLog initial log)
    (member : (index, .authorization transaction) ∈ log) : madeBy log index = [.authorization transaction] ∨
      ∃ prepared, (index, .freshness prepared) ∈ log ∧
        prepared.candidateState = transaction.candidate.resultingFreshnessState := by
  obtain ⟨earlier, later, rfl⟩ := List.append_of_mem member
  have first : madeBy earlier index = [] := (lawful earlier _ later rfl).2.1
  cases rest : later.filter fun entry => entry.1 = index with
  | nil =>
    have none : madeBy later index = [] := by rw [madeBy, rest, List.map_nil]
    exact .inl (by rw [madeBy_append, madeBy_cons, first, none, List.nil_append])
  | cons entry others =>
    obtain ⟨before, after, rfl, none, same, -⟩ := List.filter_eq_cons_iff.mp rest
    obtain ⟨place, mark⟩ := entry
    obtain rfl : place = index := of_decide_eq_true same
    have others : madeBy before place = [] := by
      rw [madeBy, List.filter_eq_nil_iff.mpr none, List.map_nil]
    have lawfully := (lawful (earlier ++ (place, .authorization transaction) :: before) (place, mark) after
      (by simp)).2
    rw [madeBy_append, madeBy_cons, first, others, List.nil_append] at lawfully
    cases mark with
    | authorization other => exact absurd lawfully.1 (List.cons_ne_nil _ _)
    | freshness prepared => exact .inr ⟨prepared, by simp, lawfully.1⟩

theorem lastingFiles_record {initial : HostFiles ι} {log : List (ℕ × HostReplacement ι)} {index : ℕ}
    {transaction : AuthorizationPreparedTransaction ι} (logged : (index, .authorization transaction) ∈ log) :
    ∃ record, lastingFiles initial log (.authorizationState transaction.candidate.replayScope) =
      some (.authorization record) ∧ record.replayScope = transaction.candidate.replayScope := by
  induction log using List.reverseRecOn with
  | nil => cases logged
  | append_singleton log entry ih =>
    rw [lastingFiles, durable_snoc]
    by_cases aims : entry.2.path = .authorizationState transaction.candidate.replayScope
    · obtain ⟨prepared, is, scope⟩ := authorization_mark aims
      rw [aims, Function.update_self, is]
      exact ⟨prepared.candidate, rfl, scope⟩
    · rw [Function.update_of_ne (Ne.symm aims)]
      refine ih ((List.mem_append.mp logged).resolve_right fun last => aims ?_)
      rw [← List.mem_singleton.mp last]
      rfl

theorem LawfulLog.sequence_le {initial : HostFiles ι} {log : List (ℕ × HostReplacement ι)} {index : ℕ}
    {transaction : AuthorizationPreparedTransaction ι} {record : AuthorizationTransactionState ι}
    (lawful : LawfulLog initial log)
    (latest : (authorizationHistory initial log transaction.candidate.replayScope).getLast? = some record)
    (logged : (index, .authorization transaction) ∈ log) :
    transaction.candidate.authorizationSequence ≤ record.authorizationSequence := by
  obtain ⟨states, split⟩ := List.getLast?_eq_some_iff.mp latest
  have ordered := authorizationHistory_pairwise lawful transaction.candidate.replayScope
  have member : _ ∈ authorizationHistory initial log _ := authorizationHistory_mem logged
  rw [split] at ordered member
  rw [List.pairwise_append] at ordered
  rcases List.mem_append.mp member with old | last
  · exact (ordered.2.2 _ old record (List.mem_singleton_self _)).sequence.le
  · rw [List.mem_singleton.mp last]

section Logged

variable {initial : HostFiles ι} {system : AssuranceSystem ι} (sound : system.Whole initial)

include sound

theorem AssuranceSystem.Whole.lawful : LawfulLog initial system.log :=
  fun earlier entry later split => sound.allowed earlier entry later split

theorem AssuranceSystem.Whole.completes {index : ℕ} {transaction : AuthorizationPreparedTransaction ι}
    (logged : (index, .authorization transaction) ∈ system.log)
    (alone : madeBy system.log index = [.authorization transaction]) :
    system.Completes index transaction.candidate.resultingFreshnessState := by
  have inside := sound.indexed _ logged
  have found : system.calls[index]? = some system.calls[index] := List.getElem?_eq_getElem inside
  have made := (sound.made index _ found).trans alone
  have calling := sound.calls index _ found
  have hidden : ¬ (lifecycleContract ι).exposed system.calls[index].made := by
    rw [made]
    exact Bool.noConfusion
  have safe := calling.known (calling.covered hidden)
  refine ⟨_, found, ?_, ?_⟩
  · cases returned : system.calls[index].program.returned with
    | none => rfl
    | some answer =>
      rw [Program.returned_eq returned] at safe
      exact absurd safe.1 hidden
  · obtain ⟨marks, ends, leads⟩ := safe.run
    rw [made] at ends leads
    rcases marks with _ | ⟨mark, marks⟩
    · exact absurd ends.1 Bool.noConfusion
    · obtain ⟨-, ⟨-, lawful⟩, rest⟩ := leads
      cases mark with
      | authorization other => exact absurd lawful.1 (List.cons_ne_nil _ _)
      | freshness prepared =>
        have target : prepared.candidateState = transaction.candidate.resultingFreshnessState := lawful.1
        rcases marks with _ | ⟨mark, marks⟩
        · rw [← target]
          refine freshnessFound_stateValid.mpr ⟨?_, rfl⟩
          rw [rest _ id]
          exact Function.update_self ..
        · cases mark with
          | authorization other => exact absurd rest.2.1.2.1 (List.cons_ne_nil _ _)
          | freshness other => exact rest.2.1.2.elim

theorem AssuranceSystem.Whole.consumedTogether : ConsumedTogether initial system where
  stored producerId := by
    rw [freshnessHistory_getLast?, sound.lasting _ id]
    rfl
  advances := freshnessHistory_isChain sound.lawful
  authoritative index transaction logged := by
    rcases sound.lawful.consumed logged with alone | ⟨prepared, placed, target⟩
    · exact .inr (sound.completes logged alone)
    · rw [← target]
      exact .inl (freshnessHistory_mem placed)
  refused index transaction logged := by
    obtain ⟨record, stored, scope⟩ : ∃ record, lastingFiles initial system.log _ = some _ ∧ _ :=
      lastingFiles_record logged
    have latest : (authorizationHistory initial system.log transaction.candidate.replayScope).getLast? =
        some record := by
      rw [authorizationHistory_getLast?, stored]
      rfl
    have low := sound.lawful.sequence_le latest logged
    rw [← record.sequenceMatches] at low
    have lasts : system.files (.authorizationState transaction.candidate.replayScope) =
      lastingFiles initial system.log _ := sound.lasting _ id
    refine ⟨record, authorizationFound_stateValid.mpr ⟨lasts.trans stored, scope⟩, fun authentication count known => ?_⟩
    exact evaluateAuthorizationReplay_consumed known low

end Logged

/-- Where every lifecycle is carried from its authorization to its freshness state, neither stands without the other. -/
theorem consumed_together (initial : HostFiles ι) (events : List (AssuranceEvent ι))
    (carries : ∀ earlier event later, events = earlier ++ event :: later →
      (afterOperations initial earlier).Carries event) : ConsumedTogether initial (afterOperations initial events) :=
  (afterOperations_whole carries).consumedTogether

section Example

def operationSteps (index count : ℕ) : List (AssuranceEvent ℕ) := List.replicate count (.step index .succeeds)

/-- A bootstrap and a statement, to their ends, and the beginning of a transition. -/
def transitionEvents : List (AssuranceEvent ℕ) :=
  .begin (.bootstrap true ⟨.firstSeen, 1, 10, 5, none, none⟩ firstAuthorization.authenticated none 0) ::
    operationSteps 0 24 ++ .begin (.establish 1 10 5) :: operationSteps 1 12 ++
    [.begin (.epochTransition true ⟨.epochTransitionRequired, 1, 11, 2, none, none⟩ nextAuthorization.authenticated
      none 1 firstFreshened none)]

def transitionTarget : FreshnessState ℕ := 
  firstFreshened.transitioned nextAuthorization firstFreshened_leaves firstFreshened_left

theorem consumed_together_example :
    ConsumedTogether (fun _ => none) (afterOperations (fun _ => none) (transitionEvents ++ operationSteps 2 24)) ∧
    freshnessFound (afterOperations (fun _ => none) (transitionEvents ++ operationSteps 2 24)).files 1 =
      .stateValid transitionTarget := by
  have kept : Run.Kept AssuranceSystem.next AssuranceSystem.Carries (transitionEvents ++ operationSteps 2 24)
      (System.start fun _ => none) := by decide +kernel
  exact ⟨consumed_together _ _ fun earlier event later split => kept.meets split, by decide +kernel⟩

/-- The transition stops once its authorization is consumed, and another statement comes. -/
def interruptedEvents : List (AssuranceEvent ℕ) :=
  transitionEvents ++ operationSteps 2 5 ++ .begin (.establish 1 10 6) :: operationSteps 3 11

def overtaking : FreshnessState ℕ := firstFreshened.freshened 6 (by decide)

def interruptedFiles : HostFiles ℕ := (afterOperations (fun _ => none) interruptedEvents).files

/-- Whatever operations follow, the freshness state that was authorized is never put in place. -/
theorem transition_lost :
    ((interruptedFiles (.authorizationState nextAuthorization.scope)).bind HostDocument.authorization?).any (fun
      record => record.authorizationSequence = nextAuthorization.authorizationSequence ∧
        record.resultingFreshnessState = transitionTarget) ∧
    transitionTarget ∉ freshnessHistory (fun _ => none) (afterOperations (fun _ => none) interruptedEvents).log 1 ∧
    ∀ turns : List (AssuranceTurn ℕ), (∀ earlier turn later, turns = earlier ++ turn :: later →
      turn.1.Informed interruptedFiles (afterTurns interruptedFiles earlier).log) →
      freshnessFound (afterTurns interruptedFiles turns).files 1 ≠ .stateValid transitionTarget := by
  refine ⟨by decide +kernel, by decide +kernel, fun turns informed reached => ?_⟩
  have undisturbed := afterTurns_undisturbed informed
  have latest := undisturbed.neverReplayed.stored 1
  rw [(freshnessFound_stateValid.mp reached).1] at latest
  obtain ⟨states, split⟩ := List.getLast?_eq_some_iff.mp latest
  have ordered := freshnessHistory_pairwise undisturbed.lawful 1
  have before : (interruptedFiles (.freshnessState 1)).bind HostDocument.freshness? = some overtaking := by
    decide +kernel
  rw [split] at ordered
  rw [freshnessHistory, history, before] at split
  rcases states with _ | ⟨first, states⟩
  · have same : overtaking = transitionTarget := (List.cons.inj split).1
    exact absurd same (by decide)
  · obtain rfl : overtaking = first := (List.cons.inj split).1
    have later := List.rel_of_pairwise_cons ordered (List.mem_append_right states (List.mem_singleton_self _))
    exact absurd later.generation (by decide)

end Example

end Guardian.Assurance
