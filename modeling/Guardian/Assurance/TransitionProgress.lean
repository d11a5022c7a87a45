import Guardian.Assurance.AssuranceTurns
import Guardian.Assurance.CommitTruth

namespace Guardian.Assurance

open FileProgram

variable {ι γ : Type} [DecidableEq ι]

/-- The files after a transaction and the projection of its freshness state. -/
def transacted (files : HostFiles ι) (candidate : AuthorizationTransactionState ι) (target : FreshnessState ι) :
    HostFiles ι :=
  placed (placed files (.authorizationCandidate candidate.replayScope) (.authorizationState candidate.replayScope)
    (.authorization candidate)) (.freshnessCandidate target.producerId) (.freshnessState target.producerId)
    (.freshness target)

/-- What a caller loads for a transition: the freshness state of the producer, and the record of the scope, if any. -/
structure LoadedFor (files : HostFiles ι) (authorization : EpochTransitionAuthorization ι)
    (previous : FreshnessState ι) (record : Option (AuthorizationTransactionState ι)) : Prop where
  freshness : freshnessFound files authorization.producerId = .stateValid previous
  transaction : ∃ detail,
    authorizationFound files authorization.scope = record.elim (.stateNotEstablished detail) .stateValid

/-- The authorization is the next one from the current epoch, for the statement that asks for it, and no limit is
reached. -/
structure NextTransition (authorization : EpochTransitionAuthorization ι) (trigger : FreshnessOutcome ι)
    (previous : FreshnessState ι) (record : Option (AuthorizationTransactionState ι)) (establishedScopeCount : ℕ) :
    Prop where
  required : trigger.code = .epochTransitionRequired
  producer : trigger.producerId = authorization.producerId
  target : trigger.producerEpoch = authorization.toEpoch
  leaves : authorization.fromEpoch = previous.currentEpoch
  sequence : authorization.transitionSequence = previous.transitionSequence + 1
  higher : ∀ state ∈ record, state.authorizationSequence < authorization.authorizationSequence
  generationLeft : previous.generation ≠ uint64Max
  transactionLeft : ∀ state ∈ record, state.generation ≠ uint64Max
  room : record = none → establishedScopeCount < authorizationReplayMaxScopes

def runTransition (files : HostFiles ι) (authorization : EpochTransitionAuthorization ι) (trigger : FreshnessOutcome ι)
    (previous : FreshnessState ι) (record : Option (AuthorizationTransactionState ι)) (establishedScopeCount : ℕ) :
    LifecycleResult EpochTransitionLifecycleCode ι × HostFiles ι :=
  let replayState := record.map AuthorizationTransactionState.replayState
  (executeEpochTransitionLifecycle true trigger authorization.authenticated
    (evaluateAuthorizationReplay authorization.authenticated replayState establishedScopeCount) replayState previous
    (record.map AuthorizationTransactionState.generation)).run files

/-- The lifecycle authorizes the transition, and the new epoch is current. -/
def Transitioned (ran : LifecycleResult EpochTransitionLifecycleCode ι × HostFiles ι)
    (authorization : EpochTransitionAuthorization ι) : Prop :=
  ran.1.code = .epochTransitionAuthorized ∧ ∃ state,
    freshnessFound ran.2 authorization.producerId = .stateValid state ∧ state.currentEpoch = authorization.toEpoch

variable {files : HostFiles ι} {authorization : EpochTransitionAuthorization ι} {trigger : FreshnessOutcome ι}
  {previous : FreshnessState ι} {record : Option (AuthorizationTransactionState ι)} {establishedScopeCount : ℕ}

def EpochTransitionAuthorization.transaction (authorization : EpochTransitionAuthorization ι)
    (target : FreshnessState ι) (generation : ℕ) (fits : generation ≤ uint64Max) : AuthorizationTransactionState ι where
  replayState := ⟨authorization.scope, authorization.authorizationSequence, authorization.sequenceFits⟩
  replayScope := authorization.scope
  generation
  resultingFreshnessState := target
  operationType := .epochTransition
  authorizationId := authorization.authorizationId
  authorizationSequence := authorization.authorizationSequence
  generationFits := fits
  scopeMatches := rfl
  sequenceMatches := rfl

theorem LoadedFor.scope (loaded : LoadedFor files authorization previous record)
    {state : AuthorizationTransactionState ι} (stored : record = some state) :
    state.replayScope = authorization.scope := by
  obtain ⟨detail, found⟩ := loaded.transaction
  rw [stored] at found
  exact (authorizationFound_stateValid.mp found).2

theorem LoadedFor.replayScope (loaded : LoadedFor files authorization previous record)
    {state : AuthorizationTransactionState ι} (stored : record = some state) :
    state.replayState.scope = authorization.scope :=
  state.scopeMatches.trans (loaded.scope stored)

theorem evaluate_candidate (loaded : LoadedFor files authorization previous record)
    (next : NextTransition authorization trigger previous record establishedScopeCount) :
    evaluateAuthorizationReplay authorization.authenticated (record.map AuthorizationTransactionState.replayState)
      establishedScopeCount =
      { code := .authorizationCandidate
        scope := some authorization.scope
        previousState := record.map AuthorizationTransactionState.replayState
        candidateState := some ⟨authorization.scope, authorization.authorizationSequence, authorization.sequenceFits⟩
        authorizationId := some authorization.authorizationId
        authorizationSequence := some authorization.authorizationSequence } := by
  have derived : deriveAuthorizationReplayScope authorization.authenticated = .ok authorization.scope := rfl
  have code : ¬ authorization.authenticated.code ≠ .authorizationAuthenticated := not_not.mpr rfl
  have sequence : authorization.authenticated.authorizationSequence = some authorization.authorizationSequence := rfl
  simp only [evaluateAuthorizationReplay, if_neg code, sequence, dif_pos authorization.sequenceFits, derived]
  cases stored : record with
  | none =>
    have room : ¬ authorizationReplayMaxScopes ≤ establishedScopeCount := not_le.mpr (next.room stored)
    simp only [Option.map_none, if_neg room]
    rfl
  | some state =>
    have scope := loaded.replayScope stored
    have higher := next.higher state stored
    have replayed := state.sequenceMatches
    have fits := authorization.sequenceFits
    have exhausted : state.replayState.authorizationSequence ≠ uint64Max := by omega
    have low : ¬ authorization.authorizationSequence ≤ state.replayState.authorizationSequence := by omega
    simp only [Option.map_some, if_neg (not_not.mpr scope), if_neg exhausted, if_neg low]
    rfl

def nextGeneration (record : Option (AuthorizationTransactionState ι)) : ℕ :=
  record.elim 0 fun state => state.generation + 1

omit [DecidableEq ι] in
theorem NextTransition.generationFits
    (next : NextTransition authorization trigger previous record establishedScopeCount) :
    nextGeneration record ≤ uint64Max := by
  cases stored : record with
  | none => exact Nat.zero_le _
  | some state => exact Nat.lt_of_le_of_ne state.generationFits (next.transactionLeft state stored)

def preparedFor (authorization : EpochTransitionAuthorization ι) (previous : FreshnessState ι)
    (record : Option (AuthorizationTransactionState ι)) (target : FreshnessState ι)
    (fits : nextGeneration record ≤ uint64Max) : AuthorizationPreparedTransaction ι where
  previousReplayState := record.map AuthorizationTransactionState.replayState
  previousFreshnessState := some previous
  previousGeneration := record.map AuthorizationTransactionState.generation
  candidate := authorization.transaction target (nextGeneration record) fits

theorem prepare_next (loaded : LoadedFor files authorization previous record)
    (next : NextTransition authorization trigger previous record establishedScopeCount) (target : FreshnessState ι) :
    prepareAuthorizationTransaction (evaluateAuthorizationReplay authorization.authenticated
        (record.map AuthorizationTransactionState.replayState) establishedScopeCount)
      (record.map AuthorizationTransactionState.replayState) (some previous) target
      (record.map AuthorizationTransactionState.generation) .epochTransition =
      .prepared (preparedFor authorization previous record target next.generationFits) := by
  rw [evaluate_candidate loaded next]
  cases record with
  | none =>
    simp [prepareAuthorizationTransaction, AuthorizationTransactionState.make, preparedFor,
      EpochTransitionAuthorization.transaction, nextGeneration]
  | some state =>
    have below : ¬ uint64Max < state.generation := not_lt.mpr state.generationFits
    have left := next.transactionLeft state rfl
    have inside : state.generation + 1 ≤ uint64Max := next.generationFits
    simp [prepareAuthorizationTransaction, AuthorizationTransactionState.make, preparedFor,
      EpochTransitionAuthorization.transaction, nextGeneration, below, left, inside]

theorem runTransition_eq (loaded : LoadedFor files authorization previous record)
    (next : NextTransition authorization trigger previous record establishedScopeCount) :
    runTransition files authorization trigger previous record establishedScopeCount =
      (executeTransaction epochTransitionCodes
        (.prepared (preparedFor authorization previous record
          (previous.transitioned authorization next.leaves next.generationLeft) next.generationFits))
        (previous.transitioned authorization next.leaves next.generationLeft)).run files := by
  have producer := (freshnessFound_stateValid.mp loaded.freshness).2
  have limit : previous.transitionSequence ≠ uint64Max := by
    have fits := authorization.transitionFits
    have sequence := next.sequence
    omega
  have candidate : (evaluateAuthorizationReplay authorization.authenticated
      (record.map AuthorizationTransactionState.replayState) establishedScopeCount).code = .authorizationCandidate := by
    rw [evaluate_candidate loaded next]
  have authenticated : authorization.authenticated.authenticated = true := rfl
  have object : authorization.authenticated.authorizationObject = some (.epochTransition authorization) := rfl
  unfold runTransition executeEpochTransitionLifecycle
  dsimp only
  rw [if_neg (not_not.mpr rfl), if_neg (not_not.mpr next.required), if_neg (not_not.mpr authenticated), object]
  dsimp only
  rw [if_neg (not_not.mpr candidate), if_neg (not_not.mpr producer.symm), if_neg (not_not.mpr next.producer.symm),
    dif_pos next.leaves, if_neg (not_not.mpr next.target.symm), if_neg limit, if_neg (not_not.mpr next.sequence),
    dif_pos next.generationLeft, prepare_next loaded next]

section transactions

variable {codes : TransactionCodes γ} {prepared : AuthorizationPreparedTransaction ι} {target : FreshnessState ι}

theorem run_executeTransaction_refused {refused : AuthorizationPersistResult ι}
    (prepares : prepareAuthorization prepared = .prepared prepared.candidate)
    (refuses : authorizationRefusal prepared (authorizationFound files prepared.candidate.replayScope) = some refused) :
    ((executeTransaction codes (.prepared prepared) target).run files).1.code = codes.commitFailure := by
  obtain ⟨detail, rfl⟩ := authorizationRefusal_some refuses
  unfold executeTransaction
  simp only [prepares]
  rw [Program.run_bind, run_commitAuthorization, refuses]
  simp [Program.run]

theorem placed_authorization (candidate : AuthorizationTransactionState ι) :
    placed files (.authorizationCandidate candidate.replayScope) (.authorizationState candidate.replayScope)
      (.authorization candidate) (.authorizationState candidate.replayScope) = some (.authorization candidate) := by
  unfold placed
  rw [Function.update_of_ne (by nofun), Function.update_self]

theorem transacted_freshness (candidate : AuthorizationTransactionState ι) (target : FreshnessState ι) :
    transacted files candidate target (.freshnessState target.producerId) = some (.freshness target) := by
  unfold transacted
  rw [placed, Function.update_of_ne (by simp), Function.update_self]

theorem run_projectFreshness (stored : freshnessFound files target.producerId = .stateValid previous)
    (older : previous.generation < target.generation) :
    (projectFreshness (some previous) target).run files = (⟨.reconciled, some target, none⟩,
      placed files (.freshnessCandidate target.producerId) (.freshnessState target.producerId)
        (.freshness target)) := by
  have producer := (freshnessFound_stateValid.mp stored).2
  let prepared : FreshnessPreparedWrite ι := ⟨some previous, target, fun _ known => by rwa [← Option.some.inj known]⟩
  have prepares : prepareFreshness (some previous) target = .ok prepared := by
    simp [prepared, prepareFreshness, older, producer]
  have accepts : freshnessRefusal prepared (freshnessFound files prepared.producerId) = none := by
    change freshnessRefusal prepared (freshnessFound files target.producerId) = none
    rw [stored]
    simp [freshnessRefusal, prepared]
  have inPlace : placed files (.freshnessCandidate prepared.producerId) (.freshnessState prepared.producerId)
      (.freshness prepared.candidateState) (.freshnessState prepared.producerId) =
      some (.freshness prepared.candidateState) := by
    rw [placed, Function.update_of_ne (by simp), Function.update_self]
  have commits := run_commitFreshness prepared files
  rw [accepts] at commits
  unfold projectFreshness
  simp only [prepares]
  rw [Program.run_bind, commits]
  rw [Option.elim_none, if_neg (not_not.mpr rfl), Program.run_bind, run_verifyFreshness inPlace,
    if_neg (not_not.mpr rfl)]
  rfl

theorem run_executeTransaction_accepted (prepares : prepareAuthorization prepared = .prepared prepared.candidate)
    (accepts : authorizationRefusal prepared (authorizationFound files prepared.candidate.replayScope) = none)
    (resulting : prepared.candidate.resultingFreshnessState = target)
    (stored : freshnessFound files target.producerId = .stateValid previous)
    (older : previous.generation < target.generation) :
    (executeTransaction codes (.prepared prepared) target).run files =
      (⟨codes.authorized, some prepared.candidate, some target, some ⟨.reconciled, some target, none⟩, none⟩,
        transacted files prepared.candidate target) := by
  have commits := run_commitAuthorization prepared files
  rw [accepts] at commits
  have other : previous ≠ target := fun same => absurd older (by rw [same]; exact lt_irrefl _)
  have kept : freshnessFound (placed files (.authorizationCandidate prepared.candidate.replayScope)
      (.authorizationState prepared.candidate.replayScope) (.authorization prepared.candidate)) target.producerId =
      .stateValid previous := by
    rw [← stored]
    apply freshnessFound_congr
    rw [placed, Function.update_of_ne (by simp), Function.update_of_ne (by simp)]
  unfold executeTransaction
  simp only [prepares]
  rw [Program.run_bind, commits]
  simp only [Option.elim_none, ne_eq, not_true_eq_false, if_false]
  rw [Program.run_bind, run_verifyAuthorization (placed_authorization _), if_neg (not_not.mpr rfl)]
  unfold reconcileVerifiedAuthorizationTransaction
  simp only [resulting]
  rw [Program.run_bind, Program.run_bind, run_loadFreshness, kept]
  simp only [if_neg other, if_neg (not_le.mpr older)]
  rw [run_projectFreshness kept older]
  simp only [ReconciliationResult.reconciled, decide_true, Bool.true_or, not_true_eq_false, if_false]
  rfl

end transactions

omit [DecidableEq ι] in
theorem prepareAuthorization_preparedFor (authorization : EpochTransitionAuthorization ι) (previous : FreshnessState ι)
    (target : FreshnessState ι) (fits : nextGeneration record ≤ uint64Max) :
    prepareAuthorization (preparedFor authorization previous record target fits) =
      .prepared (preparedFor authorization previous record target fits).candidate := by
  cases record with
  | none => rfl
  | some state =>
    have rises : ¬ state.generation + 1 ≤ state.generation := by omega
    exact if_neg rises

theorem refusal_preparedFor (loaded : LoadedFor files authorization previous record) (target : FreshnessState ι)
    (fits : nextGeneration record ≤ uint64Max) :
    authorizationRefusal (preparedFor authorization previous record target fits)
      (authorizationFound files authorization.scope) = none ↔
      ∀ state ∈ record, state.resultingFreshnessState = previous := by
  obtain ⟨detail, found⟩ := loaded.transaction
  rw [found]
  cases record with
  | none => simp [authorizationRefusal, preparedFor]
  | some state => simp [authorizationRefusal, preparedFor]

/-- A transition is authorized where the record of its scope, if there is one, has led to the producer's freshness
state. -/
theorem transition_authorized_iff (loaded : LoadedFor files authorization previous record)
    (next : NextTransition authorization trigger previous record establishedScopeCount) :
    Transitioned (runTransition files authorization trigger previous record establishedScopeCount) authorization ↔
      ∀ state ∈ record, state.resultingFreshnessState = previous := by
  have producer := (freshnessFound_stateValid.mp loaded.freshness).2
  rw [runTransition_eq loaded next, ← refusal_preparedFor loaded
    (previous.transitioned authorization next.leaves next.generationLeft) next.generationFits]
  have prepares := prepareAuthorization_preparedFor authorization previous
    (previous.transitioned authorization next.leaves next.generationLeft) next.generationFits
  constructor
  · rintro ⟨authorized, -⟩
    by_contra refused
    obtain ⟨result, refuses⟩ := Option.ne_none_iff_exists'.mp refused
    rw [run_executeTransaction_refused prepares refuses] at authorized
    cases authorized
  · intro accepts
    have stored : freshnessFound files
        (previous.transitioned authorization next.leaves next.generationLeft).producerId = .stateValid previous := by
      change freshnessFound files previous.producerId = _
      rw [producer]
      exact loaded.freshness
    have resulting : (preparedFor authorization previous record
        (previous.transitioned authorization next.leaves next.generationLeft)
        next.generationFits).candidate.resultingFreshnessState =
        previous.transitioned authorization next.leaves next.generationLeft := rfl
    rw [run_executeTransaction_accepted prepares accepts resulting stored (Nat.lt_succ_self _)]
    refine ⟨rfl, previous.transitioned authorization next.leaves next.generationLeft, ?_, rfl⟩
    refine freshnessFound_stateValid.mpr ⟨?_, producer⟩
    rw [← producer]
    exact transacted_freshness (preparedFor authorization previous record
      (previous.transitioned authorization next.leaves next.generationLeft) next.generationFits).candidate
      (previous.transitioned authorization next.leaves next.generationLeft)

def AssuranceAnswer.succeeded : AssuranceAnswer ι → Bool
  | .established (.ok outcome) => outcome.code = .fresh
  | .established (.error _) => false
  | .bootstrapped result => result.code = .bootstrapAuthorized
  | .transitioned result => result.code = .epochTransitionAuthorized

/-- A statement of the new epoch, and an authorization of the next transition by the same authority. -/
def laterTurns : List (AssuranceTurn ℕ) :=
  exampleTurns ++ [(.establish 1 11 3, List.replicate 24 .succeeds)]

def laterAuthorization : EpochTransitionAuthorization ℕ :=
  ⟨102, 51, 1, 4, 11, 12, 2, by decide, by decide, by decide⟩

def laterFiles : HostFiles ℕ := (afterTurns (fun _ => none) laterTurns).files

def laterFreshened : FreshnessState ℕ :=
  (firstFreshened.transitioned nextAuthorization firstFreshened_leaves firstFreshened_left).freshened 3 (by decide)

theorem firstGeneration_fits : 0 ≤ uint64Max := Nat.zero_le _

def firstRecord : AuthorizationTransactionState ℕ :=
  nextAuthorization.transaction
    (firstFreshened.transitioned nextAuthorization firstFreshened_leaves firstFreshened_left) 0 firstGeneration_fits

theorem laterFiles_loaded : LoadedFor laterFiles laterAuthorization laterFreshened (some firstRecord) := by
  have freshness : freshnessFound laterFiles 1 = .stateValid laterFreshened := by decide +kernel
  have transaction : authorizationFound laterFiles laterAuthorization.scope = .stateValid firstRecord := by
    decide +kernel
  exact ⟨freshness, "", transaction⟩

theorem laterAuthorization_next : NextTransition laterAuthorization ⟨.epochTransitionRequired, 1, 12, 2, none, none⟩
    laterFreshened (some firstRecord) 2 where
  required := rfl
  producer := rfl
  target := rfl
  leaves := rfl
  sequence := rfl
  higher := by
    rintro _ ⟨⟩
    decide
  generationLeft := by decide
  transactionLeft := by
    rintro _ ⟨⟩
    decide
  room := nofun

/-- The files after the first statement alone, and the first transition. -/
theorem transition_authorized_example :
    Transitioned (runTransition (afterTurns (fun _ => none) (exampleTurns.take 2)).files nextAuthorization
      ⟨.epochTransitionRequired, 1, 11, 2, none, none⟩ firstFreshened none 1) nextAuthorization := by
  have loaded : LoadedFor (afterTurns (fun _ => none) (exampleTurns.take 2)).files nextAuthorization firstFreshened
      none := ⟨by decide +kernel, "no committed host authorization state", by decide +kernel⟩
  have next : NextTransition nextAuthorization ⟨.epochTransitionRequired, 1, 11, 2, none, none⟩ firstFreshened none 1 :=
    ⟨rfl, rfl, rfl, rfl, rfl, (by simp), by decide, (by simp), fun _ => by decide⟩
  exact (transition_authorized_iff loaded next).mpr (by simp)

/-- A statement has come between two transitions of one authority, and the second is refused. -/
theorem later_transition_refused :
    (∀ index < laterTurns.length,
      ((afterTurns (fun _ => none) laterTurns).answered index).any fun answer => answer.2.succeeded) ∧
    LoadedFor laterFiles laterAuthorization laterFreshened (some firstRecord) ∧
    NextTransition laterAuthorization ⟨.epochTransitionRequired, 1, 12, 2, none, none⟩ laterFreshened
      (some firstRecord) 2 ∧
    ¬ Transitioned (runTransition laterFiles laterAuthorization ⟨.epochTransitionRequired, 1, 12, 2, none, none⟩
      laterFreshened (some firstRecord) 2) laterAuthorization := by
  have refused : (runTransition laterFiles laterAuthorization ⟨.epochTransitionRequired, 1, 12, 2, none, none⟩
      laterFreshened (some firstRecord) 2).1.code = .transactionCommitFailure := by decide +kernel
  refine ⟨by decide +kernel, laterFiles_loaded, laterAuthorization_next, fun transitioned => ?_⟩
  rw [Transitioned, refused] at transitioned
  cases transitioned.1

end Guardian.Assurance
