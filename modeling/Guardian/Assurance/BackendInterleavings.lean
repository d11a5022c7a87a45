import Guardian.Assurance.AssuranceHistory

namespace Guardian.Assurance

open FileProgram

variable {ι : Type} [DecidableEq ι]

/-- `prepare`, `commit` and `verify` of the authorization backend. -/
def commitTransaction (transaction : AuthorizationTransactionResult ι) :
    HostProgram ι (Option (AuthorizationPersistResult ι)) :=
  match transaction with
  | .prepared prepared => match prepareAuthorization prepared with
    | .prepared _ => (commitAuthorization prepared).bind fun committed =>
      if committed ≠ .committed prepared.candidate then .done (some committed)
      else (verifyAuthorization prepared).bind fun verified => .done (some verified)
    | refused => .done (some refused)
  | _ => .done none

/-- A call: a statement to be established, or an authorization transaction to be prepared and committed. -/
inductive BackendOperation (ι : Type)
  | establish (producerId producerEpoch : ι) (logicalTime : LogicalTime)
  | authorize (authentication : AuthorizationAuthenticationResult ι)
      (previousReplayState : Option (AuthorizationReplayState ι)) (establishedScopeCount : Nat)
      (previousFreshnessState : Option (FreshnessState ι)) (resultingFreshnessState : FreshnessState ι)
      (previousGeneration : Option Nat) (operationType : AuthorizationType)

inductive BackendAnswer (ι : Type)
  | established (result : Except String (FreshnessOutcome ι))
  | authorized (result : Option (AuthorizationPersistResult ι))

def BackendOperation.program : BackendOperation ι → HostProgram ι (BackendAnswer ι)
  | .establish producerId producerEpoch logicalTime =>
    (establishFreshness producerId producerEpoch logicalTime).bind fun result => .done (.established result)
  | .authorize authentication previousReplayState establishedScopeCount previousFreshnessState
      resultingFreshnessState previousGeneration operationType =>
    (commitTransaction (prepareAuthorizationTransaction
      (evaluateAuthorizationReplay authentication previousReplayState establishedScopeCount) previousReplayState
      previousFreshnessState resultingFreshnessState previousGeneration operationType)).bind fun result =>
        .done (.authorized result)

def BackendOperation.owns : BackendOperation ι → HostPath ι → Bool
  | .establish producerId _ _, path => path = .freshnessState producerId || path = .freshnessCandidate producerId
  | .authorize authentication _ _ _ _ _ _, path => match deriveAuthorizationReplayScope authentication with
    | .ok scope => path = .authorizationState scope || path = .authorizationCandidate scope
    | .error _ => false

abbrev BackendSystem (ι : Type) :=
  System (HostPath ι) (HostDocument ι) (HostReplacement ι) (BackendAnswer ι) (BackendOperation ι)

abbrev BackendEvent (ι : Type) := Event (BackendOperation ι) (HostDocument ι)

/-- One event. A call counts as disturbed while another has changed one of its files since it last looked whether its
state file is there. -/
def BackendSystem.next (system : BackendSystem ι) (event : BackendEvent ι) : BackendSystem ι :=
  System.next BackendOperation.program BackendOperation.owns true system event

def afterEvents (initial : HostFiles ι) (events : List (BackendEvent ι)) : BackendSystem ι :=
  Run.after BackendSystem.next events (System.start initial)

def BackendSystem.Alone (system : BackendSystem ι) : BackendEvent ι → Prop
  | .begin _ => True
  | .step index fate => ∀ call ∈ system.calls[index]?,
      (call.program.step system.files fate).mark.isSome = true → call.disturbed = false

instance (system : BackendSystem ι) : (event : BackendEvent ι) → Decidable (system.Alone event)
  | .begin _ => .isTrue True.intro
  | .step index fate => inferInstanceAs (Decidable (∀ call ∈ system.calls[index]?,
      (call.program.step system.files fate).mark.isSome = true → call.disturbed = false))

def BackendAnswer.outcome? : BackendAnswer ι → Option (FreshnessOutcome ι)
  | .established (.ok outcome) => some outcome
  | _ => none

def BackendSystem.Fresh (system : BackendSystem ι) (index : ℕ) (outcome : FreshnessOutcome ι) : Prop :=
  outcome.code = .fresh ∧ (system.answered index).bind (fun answer => answer.2.outcome?) = some outcome

/-- A later state of the same epoch, with a higher generation and a higher mark. -/
structure FreshnessState.Rises (before after : FreshnessState ι) : Prop where
  generation : before.generation < after.generation
  epoch : after.currentEpoch = before.currentEpoch
  highWater : ∃ logicalTime, after.highWater = some logicalTime ∧ Above before.highWater logicalTime

structure NoStaleWins (initial : HostFiles ι) (system : BackendSystem ι) : Prop where
  lasting : ∀ path, ¬ path.Candidate → system.files path = lastingFiles initial system.log path
  unchanged : ∀ earlier entry later, system.log = earlier ++ entry :: later →
    entry.2.Unchanged (lastingFiles initial earlier entry.2.path)
  freshness : ∀ producerId, (freshnessHistory initial system.log producerId).Pairwise FreshnessState.Rises
  transactions : ∀ scope, (authorizationHistory initial system.log scope).Pairwise
    AuthorizationTransactionState.Before
  once : ∀ index later before after, system.Fresh index before → system.Fresh later after →
    before.producerId = after.producerId → before.producerEpoch = after.producerEpoch →
    before.logicalTime = after.logicalTime → index = later

def Rising (made : List (HostReplacement ι)) : HostReplacement ι → Prop
  | .freshness prepared => made = [] ∧ ∃ previous, prepared.previousState = some previous ∧
      previous.Freshens prepared.candidateState
  | .authorization prepared => made = [] ∧ prepared.Advances

omit [DecidableEq ι] in
theorem Rising.lawful {made : List (HostReplacement ι)} {mark : HostReplacement ι} (rising : Rising made mark) :
    Lawful made mark := by
  cases mark with
  | freshness prepared =>
    obtain ⟨rfl, freshens⟩ := rising
    exact freshens
  | authorization prepared => exact rising

def BackendOperation.Ends (operation : BackendOperation ι) (made : List (HostReplacement ι))
    (answer : BackendAnswer ι) : Prop :=
  ∀ result, answer = .established result → ∃ producerId producerEpoch logicalTime,
    operation = .establish producerId producerEpoch logicalTime ∧
    FreshOnlyIf producerId producerEpoch logicalTime made result

abbrev backendContract (ι : Type) [DecidableEq ι] : Contract (HostPath ι) (HostDocument ι) (HostReplacement ι) :=
  hostContract true (fun _ => True) Rising

theorem safe_commitTransaction {own : HostPath ι → Bool} {transaction : AuthorizationTransactionResult ι}
    {old : View (HostPath ι) (HostDocument ι)}
    (owns : ∀ prepared, transaction = .prepared prepared → prepared.Advances ∧
      own (.authorizationState prepared.candidate.replayScope) = true ∧
      own (.authorizationCandidate prepared.candidate.replayScope) = true) :
    Safe (backendContract ι) own (fun _ _ _ => True) (commitTransaction transaction) old [] := by
  unfold commitTransaction
  cases transaction with
  | prepared prepared =>
    obtain ⟨advances, ownState, ownCandidate⟩ := owns prepared rfl
    dsimp only
    cases prepareAuthorization prepared with
    | prepared state =>
      refine Safe.bind (fun _ _ _ => True) (fun view made committed _ => ?_)
        (safe_commitAuthorization ownState ownCandidate (fun _ _ _ => True.intro)
          fun files _ _ => ⟨⟨rfl, advances⟩, fun _ _ => ⟨True.intro, fun _ _ => True.intro⟩⟩)
      split_ifs
      · exact True.intro
      · refine Safe.bind (fun _ _ _ => True) (fun view made verified _ => ?_)
          (safe_verifyAuthorization ownState (fun _ _ => True.intro) fun _ _ _ => True.intro)
        exact True.intro
    | _ => exact True.intro
  | _ => exact True.intro

theorem BackendOperation.safe (operation : BackendOperation ι) (old : View (HostPath ι) (HostDocument ι)) :
    Safe (backendContract ι) operation.owns (fun _ => operation.Ends) operation.program old [] := by
  cases operation with
  | establish producerId producerEpoch logicalTime =>
    refine Safe.bind _ (fun _ made result (ends : Establishes producerId producerEpoch logicalTime made result) => ?_)
      (safe_establishFreshness ?_ ?_ fun prepared previous was freshens => ⟨rfl, previous, was, freshens⟩)
    · rintro _ ⟨⟩
      exact ⟨producerId, producerEpoch, logicalTime, rfl, ends.1⟩
    · simp [BackendOperation.owns]
    · simp [BackendOperation.owns]
  | authorize authentication replay count freshness resulting generation operationType =>
    refine Safe.bind (fun _ _ _ => True) (fun _ made result _ => ?_)
      (safe_commitTransaction fun prepared prepares => ?_)
    · rintro _ ⟨⟩
    have binds := prepareAuthorizationTransaction_prepared prepares
    refine ⟨binds.advances, ?_, ?_⟩
    · simp [BackendOperation.owns, binds.scope]
    · simp [BackendOperation.owns, binds.scope]

abbrev BackendSystem.Sound (initial : HostFiles ι) (system : BackendSystem ι) : Prop :=
  System.Sound (backendContract ι) BackendOperation.owns BackendOperation.Ends initial system

theorem afterEvents_sound {initial : HostFiles ι} {events : List (BackendEvent ι)}
    (alone : ∀ earlier event later, events = earlier ++ event :: later →
      (afterEvents initial earlier).Alone event) : (afterEvents initial events).Sound initial := by
  refine System.Sound.after True.intro fun earlier event later split => ⟨?_, ?_⟩
  · have calm := alone earlier event later split
    cases event with
    | begin operation => exact True.intro
    | step index fate =>
      exact fun call found => ⟨calm call found, fun _ _ _ hidden => absurd True.intro hidden⟩
  · exact fun operation _ view _ => operation.safe view

section Logged

variable {initial : HostFiles ι} {system : BackendSystem ι} (sound : system.Sound initial)

omit [DecidableEq ι] in
theorem FreshnessState.Freshens.rises {before after : FreshnessState ι} (freshens : before.Freshens after) :
    before.Rises after := by
  refine ⟨?_, freshens.epoch, freshens.higher⟩
  rw [freshens.generation]
  exact Nat.lt_succ_self _

omit [DecidableEq ι] in
theorem FreshnessState.Rises.trans {first second third : FreshnessState ι} (one : first.Rises second)
    (two : second.Rises third) : first.Rises third := by
  obtain ⟨low, isLow, above⟩ := one.highWater
  obtain ⟨high, isHigh, higher⟩ := two.highWater
  exact ⟨one.generation.trans two.generation, two.epoch.trans one.epoch, high, isHigh, fun highest set =>
    Nat.lt_trans (above highest set) (higher low isLow)⟩

instance : Trans (FreshnessState.Rises (ι := ι)) FreshnessState.Rises FreshnessState.Rises :=
  ⟨FreshnessState.Rises.trans⟩

include sound

theorem BackendSystem.Sound.lawful : LawfulLog initial system.log := by
  intro earlier entry later split
  obtain ⟨unchanged, rising⟩ := sound.allowed earlier entry later split
  exact ⟨unchanged, rising.lawful⟩

theorem BackendSystem.Sound.rises (producerId : ι) :
    (freshnessHistory initial system.log producerId).Pairwise FreshnessState.Rises := by
  apply List.isChain_iff_pairwise.mp
  refine history_isChain freshness_decodes fun earlier entry later split aims before after stored next => ?_
  have rising := (sound.allowed earlier entry later split).2
  have lawful := sound.lawful
  obtain ⟨prepared, is, owner⟩ := freshness_mark aims
  obtain ⟨index, mark⟩ := entry
  obtain rfl : mark = .freshness prepared := is
  subst owner
  rw [split] at lawful
  have was := lawful.previous
  rw [freshnessHistory_getLast?] at was
  obtain rfl := Option.some.inj next
  obtain ⟨-, previous, known, freshens⟩ := rising
  obtain rfl := Option.some.inj (known.symm.trans (was.symm.trans stored))
  exact freshens.rises

theorem BackendSystem.Sound.fresh_logged {index : ℕ} {outcome : FreshnessOutcome ι}
    (fresh : system.Fresh index outcome) :
    ∃ prepared, (index, .freshness prepared) ∈ system.log ∧ outcome.state = some prepared.candidateState ∧
      outcome.producerId = prepared.producerId ∧ outcome.producerEpoch = prepared.candidateState.currentEpoch ∧
      prepared.candidateState.highWater = some outcome.logicalTime := by
  obtain ⟨code, answered⟩ := fresh
  obtain ⟨⟨operation, answer⟩, answers, given⟩ := Option.bind_eq_some_iff.mp answered
  have ends := sound.answers answers
  rcases answer with ⟨error | other⟩ | result
  · cases given
  · obtain rfl := Option.some.inj given
    obtain ⟨producerId, producerEpoch, logicalTime, -, placed⟩ := ends _ rfl
    exact placed.logged code
  · cases given

theorem BackendSystem.Sound.fresh_apart {index later : ℕ} {before after : FreshnessOutcome ι}
    (one : system.Fresh index before) (other : system.Fresh later after)
    (producer : before.producerId = after.producerId) (apart : index ≠ later) : before.logicalTime ≠ after.logicalTime := by
  obtain ⟨first, logged, -, owner, -, time⟩ := sound.fresh_logged one
  obtain ⟨second, loggedLater, -, ownerLater, -, timeLater⟩ := sound.fresh_logged other
  have same : second.producerId = first.producerId := ownerLater.symm.trans (producer.symm.trans owner)
  have aims : (HostReplacement.freshness second).path = .freshnessState first.producerId :=
    congrArg HostPath.freshnessState same
  have differ : ((index, .freshness first) : ℕ × HostReplacement ι) ≠ (later, .freshness second) := fun equal =>
    apart (congrArg Prod.fst equal)
  rcases pairwise_or (history_log (sound.rises first.producerId)) logged loggedLater differ with rises | rises
  · obtain ⟨high, isHigh, above⟩ := (rises rfl aims _ _ rfl rfl).highWater
    obtain rfl := Option.some.inj (timeLater.symm.trans isHigh)
    exact Fin.ne_of_lt (above _ time)
  · obtain ⟨high, isHigh, above⟩ := (rises aims rfl _ _ rfl rfl).highWater
    obtain rfl := Option.some.inj (time.symm.trans isHigh)
    exact (Fin.ne_of_lt (above _ timeLater)).symm

theorem BackendSystem.Sound.noStaleWins : NoStaleWins initial system where
  lasting path lasts := sound.lasting path lasts
  unchanged earlier entry later split := (sound.allowed earlier entry later split).1
  freshness := sound.rises
  transactions := authorizationHistory_pairwise sound.lawful
  once index later before after one other producer _ time := by
    by_contra apart
    exact sound.fresh_apart one other producer apart time

end Logged

/-- In any order of their operations, with any of them failing, no stale preparation wins while no replacement is made
by a disturbed call. -/
theorem stale_preparations_never_win (initial : HostFiles ι) (events : List (BackendEvent ι))
    (alone : ∀ earlier event later, events = earlier ++ event :: later →
      (afterEvents initial earlier).Alone event) : NoStaleWins initial (afterEvents initial events) :=
  (afterEvents_sound alone).noStaleWins

section Example

def establishedFiles : HostFiles ℕ :=
  Function.update (fun _ => none) (.freshnessState 1) (some (.freshness (makeUnsetState 1 10)))

def calmSteps (index count : ℕ) : List (BackendEvent ℕ) := List.replicate count (.step index .succeeds)

/-- Two calls for one producer: the second has loaded its state before the first replaces it, and is refused. -/
def overtakenEvents : List (BackendEvent ℕ) :=
  [.begin (.establish 1 10 10), .begin (.establish 1 10 20)] ++ calmSteps 1 2 ++ calmSteps 0 11 ++ calmSteps 1 9

theorem stale_preparations_example : NoStaleWins establishedFiles (afterEvents establishedFiles overtakenEvents) ∧
    (((afterEvents establishedFiles overtakenEvents).files (.freshnessState 1)).bind HostDocument.freshness?).any
      fun state => state.highWater = some 10 := by
  have kept : Run.Kept BackendSystem.next BackendSystem.Alone overtakenEvents (System.start establishedFiles) := by
    decide +kernel
  exact ⟨stale_preparations_never_win _ _ fun earlier event later split => kept.meets split, by decide +kernel⟩

/-- Three calls for one producer have all made the check of their commit, and the first has gone on to its end. -/
def checkedEvents : List (BackendEvent ℕ) :=
  [.begin (.establish 1 10 20), .begin (.establish 1 10 10), .begin (.establish 1 10 10)] ++ calmSteps 0 5 ++
    calmSteps 1 5 ++ calmSteps 2 5 ++ calmSteps 0 6

def storedMark (system : BackendSystem ℕ) : Option LogicalTime :=
  (system.files (.freshnessState 1)).bind fun document => document.freshness?.bind FreshnessState.highWater

/-- The outcome of a statement of producer 1 in epoch 10 at time 10. -/
def repeatedOutcome : FreshnessOutcome ℕ :=
  ⟨.fresh, 1, 10, 10, some ((makeUnsetState 1 10).freshened 10 (by decide)),
    some "durable freshness state committed and verified"⟩

/-- The other two go on from the same check: the mark falls, and one statement is FRESH twice. -/
theorem stale_preparation_wins :
    let checked := afterEvents establishedFiles checkedEvents
    let second := afterEvents establishedFiles (checkedEvents ++ calmSteps 1 6)
    let third := afterEvents establishedFiles (checkedEvents ++ calmSteps 1 6 ++ calmSteps 2 6)
    storedMark checked = some 20 ∧ storedMark second = some 10 ∧ third.Fresh 1 repeatedOutcome ∧
      third.Fresh 2 repeatedOutcome := by
  refine ⟨by decide +kernel, by decide +kernel, ⟨rfl, ?_⟩, rfl, ?_⟩
  · decide +kernel
  · decide +kernel

end Example

end Guardian.Assurance
