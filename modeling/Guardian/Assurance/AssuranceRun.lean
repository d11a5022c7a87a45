import Guardian.Assurance.LifecycleSafety

namespace Guardian.Assurance

open FileProgram

variable {ι : Type} [DecidableEq ι]

/-- A call, with the arguments its caller gives. Replay is evaluated from the replay state given. -/
inductive AssuranceOperation (ι : Type)
  | establish (producerId producerEpoch : ι) (logicalTime : LogicalTime)
  | bootstrap (ordinaryAuthenticated : Bool) (freshness : FreshnessOutcome ι)
      (authentication : AuthorizationAuthenticationResult ι)
      (previousReplayState : Option (AuthorizationReplayState ι)) (establishedScopeCount : Nat)
  | epochTransition (ordinaryAuthenticated : Bool) (freshness : FreshnessOutcome ι)
      (authentication : AuthorizationAuthenticationResult ι)
      (previousReplayState : Option (AuthorizationReplayState ι)) (establishedScopeCount : Nat)
      (previousFreshnessState : FreshnessState ι) (previousTransactionGeneration : Option Nat)

inductive AssuranceAnswer (ι : Type)
  | established (result : Except String (FreshnessOutcome ι))
  | bootstrapped (result : LifecycleResult BootstrapLifecycleCode ι)
  | transitioned (result : LifecycleResult EpochTransitionLifecycleCode ι)

def AssuranceOperation.program : AssuranceOperation ι → HostProgram ι (AssuranceAnswer ι)
  | .establish producerId producerEpoch logicalTime =>
    (establishFreshness producerId producerEpoch logicalTime).bind fun result => .done (.established result)
  | .bootstrap ordinaryAuthenticated freshness authentication previousReplayState establishedScopeCount =>
    (executeBootstrapLifecycle ordinaryAuthenticated freshness authentication
      (evaluateAuthorizationReplay authentication previousReplayState establishedScopeCount)
      previousReplayState).bind fun result => .done (.bootstrapped result)
  | .epochTransition ordinaryAuthenticated freshness authentication previousReplayState establishedScopeCount
      previousFreshnessState previousTransactionGeneration =>
    (executeEpochTransitionLifecycle ordinaryAuthenticated freshness authentication
      (evaluateAuthorizationReplay authentication previousReplayState establishedScopeCount)
      previousReplayState previousFreshnessState previousTransactionGeneration).bind fun result =>
        .done (.transitioned result)

abbrev AssuranceSystem (ι : Type) :=
  System (HostPath ι) (HostDocument ι) (HostReplacement ι) (AssuranceAnswer ι) (AssuranceOperation ι)

abbrev AssuranceEvent (ι : Type) := Event (AssuranceOperation ι) (HostDocument ι)

/-- What an operation may replace after the replacements it has made: a fresh statement moves the mark up; a transaction
consumes a higher sequence, and then leads to its freshness state. -/
def Lawful (made : List (HostReplacement ι)) : HostReplacement ι → Prop
  | .authorization prepared => made = [] ∧ prepared.Advances
  | .freshness prepared => match made with
    | [] => ∃ previous, prepared.previousState = some previous ∧ previous.Freshens prepared.candidateState
    | [.authorization transaction] =>
      prepared.candidateState = transaction.candidate.resultingFreshnessState ∧
        ∀ previous, prepared.previousState = some previous →
          transaction.candidate.operationType = .epochTransition ∧ previous.Transitions prepared.candidateState
    | _ => False

variable {exposed : List (HostReplacement ι) → Prop} {own : HostPath ι → Bool}
  {old : View (HostPath ι) (HostDocument ι)}

/-- The files of a producer's freshness and of a replay scope are the call's own. -/
structure OwnsFiles (own : HostPath ι → Bool) (producerId : ι) (scope : AuthorizationReplayScope ι) : Prop where
  freshnessState : own (.freshnessState producerId) = true
  freshnessCandidate : own (.freshnessCandidate producerId) = true
  authorizationState : own (.authorizationState scope) = true
  authorizationCandidate : own (.authorizationCandidate scope) = true

/-- Where faults and disturbances are to be expected: anywhere, or except between the two replacements of a lifecycle. -/
structure Exposure (exposed : List (HostReplacement ι) → Prop) : Prop where
  start : exposed []
  fresh : ∀ prepared, exposed [.freshness prepared]
  finish : ∀ transaction prepared, exposed [.authorization transaction, .freshness prepared]

theorem safe_executeBootstrapLifecycle {ordinaryAuthenticated : Bool} {freshness : FreshnessOutcome ι}
    {authentication : AuthorizationAuthenticationResult ι}
    {previousReplayState : Option (AuthorizationReplayState ι)} {establishedScopeCount : Nat}
    (exposure : Exposure exposed)
    (owns : ∀ authorization scope, authentication.authorizationObject = some (.bootstrap authorization) →
      deriveAuthorizationReplayScope authentication = .ok scope → OwnsFiles own authorization.producerId scope)
    (absent : (∀ transaction, exposed [.authorization transaction]) ∨ ∀ files, old = some files →
      freshness.code = .firstSeen → files (.freshnessState freshness.producerId) = none) :
    Safe (hostContract false exposed Lawful) own (fun _ made _ => exposed made)
      (executeBootstrapLifecycle ordinaryAuthenticated freshness authentication
        (evaluateAuthorizationReplay authentication previousReplayState establishedScopeCount) previousReplayState)
      old [] := by
  unfold executeBootstrapLifecycle
  refine Safe.choose (fun _ => exposure.start) fun _ => ?_
  refine Safe.choose (fun _ => exposure.start) fun seen => ?_
  refine Safe.choose (fun _ => exposure.start) fun _ => ?_
  split
  · next authorization object =>
    refine Safe.choose (fun _ => exposure.start) fun _ => ?_
    refine Safe.choose (fun _ => exposure.start) fun producer => ?_
    refine Safe.choose (fun _ => exposure.start) fun _ => ?_
    refine Safe.choose (fun _ => exposure.start) fun _ => ?_
    cases prepares : prepareAuthorizationTransaction
        (evaluateAuthorizationReplay authentication previousReplayState establishedScopeCount)
        previousReplayState none (initialFreshnessState authorization) none .bootstrap with
    | prepared prepared =>
      have binds := prepareAuthorizationTransaction_prepared prepares
      have files := owns authorization _ object binds.scope
      refine safe_executeTransaction binds.resulting files.freshnessState files.freshnessCandidate
        files.authorizationState files.authorizationCandidate ⟨rfl, binds.advances⟩ ?_ ?_ exposure.start
        (exposure.finish prepared)
      · intro known _ freshness isTarget _ older
        refine ⟨isTarget.trans binds.resulting.symm, fun previous was => ?_⟩
        exact absurd (older previous was) (Nat.not_lt_zero _)
      · refine absent.imp (fun faults => faults prepared) fun absent known is document stored => ?_
        have gone := absent known is (not_not.mp seen)
        rw [← not_not.mp producer] at gone
        exact absurd (gone.symm.trans stored) (by simp)
    | _ => exact exposure.start
  · exact exposure.start

omit [DecidableEq ι] in
theorem FreshnessState.transitioned_transitions {previous : FreshnessState ι}
    {authorization : EpochTransitionAuthorization ι} (leaves : authorization.fromEpoch = previous.currentEpoch)
    (left : previous.generation ≠ uint64Max)
    (next : authorization.transitionSequence = previous.transitionSequence + 1) :
    previous.Transitions (previous.transitioned authorization leaves left) :=
  ⟨rfl, fun same => authorization.epochsDiffer (leaves.trans same.symm), next, rfl, rfl⟩

theorem safe_executeEpochTransitionLifecycle {ordinaryAuthenticated : Bool} {freshness : FreshnessOutcome ι}
    {authentication : AuthorizationAuthenticationResult ι}
    {previousReplayState : Option (AuthorizationReplayState ι)} {establishedScopeCount : Nat}
    {previousFreshnessState : FreshnessState ι} {previousTransactionGeneration : Option Nat}
    (exposure : Exposure exposed)
    (owns : ∀ scope, deriveAuthorizationReplayScope authentication = .ok scope →
      OwnsFiles own previousFreshnessState.producerId scope)
    (stored : ∀ files current, old = some files →
      files (.freshnessState previousFreshnessState.producerId) = some (.freshness current) →
      previousFreshnessState.generation ≤ current.generation ∧
        (current.generation = previousFreshnessState.generation → current = previousFreshnessState))
    (current : (∀ transaction, exposed [.authorization transaction]) ∨ ∀ files, old = some files →
      files (.freshnessState previousFreshnessState.producerId) = some (.freshness previousFreshnessState)) :
    Safe (hostContract false exposed Lawful) own (fun _ made _ => exposed made)
      (executeEpochTransitionLifecycle ordinaryAuthenticated freshness authentication
        (evaluateAuthorizationReplay authentication previousReplayState establishedScopeCount) previousReplayState
        previousFreshnessState previousTransactionGeneration) old [] := by
  unfold executeEpochTransitionLifecycle
  refine Safe.choose (fun _ => exposure.start) fun _ => ?_
  refine Safe.choose (fun _ => exposure.start) fun _ => ?_
  refine Safe.choose (fun _ => exposure.start) fun _ => ?_
  split
  · next authorization object =>
    refine Safe.choose (fun _ => exposure.start) fun _ => ?_
    refine Safe.choose (fun _ => exposure.start) fun _ => ?_
    refine Safe.choose (fun _ => exposure.start) fun _ => ?_
    refine Safe.choose (fun leaves => ?_) fun _ => exposure.start
    refine Safe.choose (fun _ => exposure.start) fun _ => ?_
    refine Safe.choose (fun _ => exposure.start) fun _ => ?_
    refine Safe.choose (fun _ => exposure.start) fun sequence => ?_
    refine Safe.choose (fun left => ?_) fun _ => exposure.start
    dsimp only
    cases prepares : prepareAuthorizationTransaction
        (evaluateAuthorizationReplay authentication previousReplayState establishedScopeCount)
        previousReplayState (some previousFreshnessState)
        (previousFreshnessState.transitioned authorization leaves left) previousTransactionGeneration
        .epochTransition with
    | prepared prepared =>
      have binds := prepareAuthorizationTransaction_prepared prepares
      have files := owns _ binds.scope
      have transitions := FreshnessState.transitioned_transitions leaves left (not_not.mp sequence)
      refine safe_executeTransaction binds.resulting files.freshnessState files.freshnessCandidate
        files.authorizationState files.authorizationCandidate ⟨rfl, binds.advances⟩ ?_ ?_ exposure.start
        (exposure.finish prepared)
      · intro known is freshness isTarget unchanged older
        refine ⟨isTarget.trans binds.resulting.symm, fun previous was => ⟨binds.operationType, ?_⟩⟩
        rw [HostReplacement.Unchanged, was, Option.map_some] at unchanged
        obtain ⟨low, same⟩ := stored known previous is unchanged
        have high : previous.generation < previousFreshnessState.generation + 1 := older previous was
        rw [same (Nat.le_antisymm (Nat.lt_succ_iff.mp high) low), isTarget]
        exact transitions
      · refine current.imp (fun faults => faults prepared) fun current known is document stored => ?_
        have here := Option.some.inj ((current known is).symm.trans stored)
        exact ⟨previousFreshnessState, here.symm, rfl, Nat.lt_succ_self _⟩
    | _ => exact exposure.start
  · exact exposure.start

/-- The freshness state given to a transition is not ahead of the one stored, and is that one if it is not behind. -/
def AssuranceOperation.Remembers (files : HostFiles ι) : AssuranceOperation ι → Prop
  | .epochTransition _ _ _ _ _ previous _ => ∀ current,
      files (.freshnessState previous.producerId) = some (.freshness current) →
      previous.generation ≤ current.generation ∧ (current.generation = previous.generation → current = previous)
  | _ => True

/-- What the caller says of the freshness state is what is stored. -/
def AssuranceOperation.Current (files : HostFiles ι) : AssuranceOperation ι → Prop
  | .establish _ _ _ => True
  | .bootstrap _ freshness _ _ _ =>
    freshness.code = .firstSeen → files (.freshnessState freshness.producerId) = none
  | .epochTransition _ _ _ _ _ previous _ =>
    files (.freshnessState previous.producerId) = some (.freshness previous)

omit [DecidableEq ι] in
theorem AssuranceOperation.Current.remembers {files : HostFiles ι} {operation : AssuranceOperation ι}
    (current : operation.Current files) : operation.Remembers files := by
  cases operation with
  | epochTransition ordinary freshness authentication replay count previous generation =>
    intro other stored
    have same : previous = other := by
      have here := (show files _ = _ from current).symm.trans stored
      simpa using here
    subst same
    exact ⟨le_rfl, fun _ => rfl⟩
  | _ => exact True.intro

def AssuranceOperation.Owns (own : HostPath ι → Bool) : AssuranceOperation ι → Prop
  | .establish producerId _ _ => own (.freshnessState producerId) = true ∧ own (.freshnessCandidate producerId) = true
  | .bootstrap _ _ authentication _ _ => ∀ authorization scope,
      authentication.authorizationObject = some (.bootstrap authorization) →
      deriveAuthorizationReplayScope authentication = .ok scope → OwnsFiles own authorization.producerId scope
  | .epochTransition _ _ authentication _ _ previous _ => ∀ scope,
      deriveAuthorizationReplayScope authentication = .ok scope → OwnsFiles own previous.producerId scope

/-- How an operation ends: FRESH only with its mark in place, and never short of what it has consumed. -/
def AssuranceOperation.Ends (exposed : List (HostReplacement ι) → Prop) (operation : AssuranceOperation ι)
    (made : List (HostReplacement ι)) (answer : AssuranceAnswer ι) : Prop :=
  exposed made ∧ ∀ result, answer = .established result → ∃ producerId producerEpoch logicalTime,
    operation = .establish producerId producerEpoch logicalTime ∧
    FreshOnlyIf producerId producerEpoch logicalTime made result

theorem AssuranceOperation.safe (operation : AssuranceOperation ι) (exposure : Exposure exposed)
    (owns : operation.Owns own) (remembers : ∀ files, old = some files → operation.Remembers files)
    (current : (∀ transaction, exposed [.authorization transaction]) ∨
      ∀ files, old = some files → operation.Current files) :
    Safe (hostContract false exposed Lawful) own (fun _ => operation.Ends exposed) operation.program old [] := by
  cases operation with
  | establish producerId producerEpoch logicalTime =>
    refine Safe.bind _ (fun _ made result established => ?_) (safe_establishFreshness owns.1 owns.2
      fun prepared previous was freshens => ⟨previous, was, freshens⟩)
    obtain ⟨fresh, once⟩ := established
    refine ⟨?_, ?_⟩
    · rcases once with rfl | ⟨prepared, rfl⟩
      · exact exposure.start
      · exact exposure.fresh prepared
    · rintro _ ⟨⟩
      exact ⟨producerId, producerEpoch, logicalTime, rfl, fresh⟩
  | bootstrap ordinary freshness authentication replay count =>
    refine Safe.bind _ ?_
      (safe_executeBootstrapLifecycle exposure owns (current.imp_right fun current files is => current files is))
    exact fun _ made result covered => ⟨covered, by rintro _ ⟨⟩⟩
  | epochTransition ordinary freshness authentication replay count previous generation =>
    refine Safe.bind _ ?_
      (safe_executeEpochTransitionLifecycle exposure owns (fun files state is => remembers files is state)
        (current.imp_right fun current files is => current files is))
    exact fun _ made result covered => ⟨covered, by rintro _ ⟨⟩⟩

end Guardian.Assurance
