import Mathlib.Algebra.GroupWithZero.Nat
import Mathlib.Data.Fin.Basic

namespace Guardian.Assurance

def uint64Max : Nat := 2 ^ 64 - 1

/-- What `validate_logical_time` accepts. -/
abbrev LogicalTime := Fin (2 ^ 53)

instance logicalTimeNeZero : NeZero (2 ^ 53) := ⟨by decide⟩

/-- `highWater` is `none` for `HIGH_WATER_UNSET`. Producers and epochs are only compared. -/
structure FreshnessState (ι : Type) where
  producerId : ι
  currentEpoch : ι
  previousEpoch : Option ι
  highWater : Option LogicalTime
  transitionSequence : Nat
  generation : Nat
  epochsDiffer : previousEpoch ≠ some currentEpoch
  sequenceFits : transitionSequence ≤ uint64Max
  generationFits : generation ≤ uint64Max
  deriving DecidableEq

inductive FreshnessResultCode
  | freshCandidate
  | replay
  | logicalTimeRollback
  | epochTransitionRequired
  | epochRollback
  | firstSeen
  | capacityExceeded
  | sequenceExhausted
  | generationExhausted
  | stateInvalid
  | stateUnavailable
  | stateRollback
  | statePersistFailure
  deriving DecidableEq, Repr

structure FreshnessEvaluation (ι : Type) where
  code : FreshnessResultCode
  producerId : ι
  producerEpoch : ι
  logicalTime : LogicalTime
  detail : Option String
  deriving DecidableEq

section Freshness

variable {ι : Type}

/-- `make_unset_state`. -/
def makeUnsetState (producerId currentEpoch : ι) : FreshnessState ι where
  producerId
  currentEpoch
  previousEpoch := none
  highWater := none
  transitionSequence := 0
  generation := 0
  epochsDiffer := nofun
  sequenceFits := Nat.zero_le _
  generationFits := Nat.zero_le _

theorem FreshnessState.generation_lt (previous : FreshnessState ι) (left : previous.generation ≠ uint64Max) :
    previous.generation < uint64Max :=
  Nat.lt_of_le_of_ne previous.generationFits left

/-- The candidate `establish_freshness` builds: the same epoch, the statement's time. -/
def FreshnessState.freshened (previous : FreshnessState ι) (logicalTime : LogicalTime)
    (left : previous.generation ≠ uint64Max) : FreshnessState ι where
  producerId := previous.producerId
  currentEpoch := previous.currentEpoch
  previousEpoch := previous.previousEpoch
  highWater := some logicalTime
  transitionSequence := previous.transitionSequence
  generation := previous.generation + 1
  epochsDiffer := previous.epochsDiffer
  sequenceFits := previous.sequenceFits
  generationFits := previous.generation_lt left

def Above (highWater : Option LogicalTime) (logicalTime : LogicalTime) : Prop :=
  ∀ highest, highWater = some highest → highest < logicalTime

structure FreshnessState.Freshens (before after : FreshnessState ι) : Prop where
  producer : after.producerId = before.producerId
  epoch : after.currentEpoch = before.currentEpoch
  sequence : after.transitionSequence = before.transitionSequence
  generation : after.generation = before.generation + 1
  higher : ∃ logicalTime, after.highWater = some logicalTime ∧ Above before.highWater logicalTime

structure FreshnessState.Transitions (before after : FreshnessState ι) : Prop where
  producer : after.producerId = before.producerId
  epoch : after.currentEpoch ≠ before.currentEpoch
  sequence : after.transitionSequence = before.transitionSequence + 1
  generation : after.generation = before.generation + 1
  unset : after.highWater = none

def FreshnessState.Advances (before after : FreshnessState ι) : Prop :=
  before.Freshens after ∨ before.Transitions after

theorem FreshnessState.Advances.generation {before after : FreshnessState ι} (advances : before.Advances after) :
    after.generation = before.generation + 1 :=
  advances.elim Freshens.generation Transitions.generation

theorem FreshnessState.freshened_freshens {state : FreshnessState ι} {logicalTime : LogicalTime}
    (left : state.generation ≠ uint64Max) (above : Above state.highWater logicalTime) :
    state.Freshens (state.freshened logicalTime left) :=
  ⟨rfl, rfl, rfl, rfl, logicalTime, rfl, above⟩

variable [DecidableEq ι]

/-- `evaluate_freshness`; an error is a `FreshnessStateError`. -/
def evaluateFreshness (state : Option (FreshnessState ι)) (producerId producerEpoch : ι) (logicalTime : LogicalTime) :
    Except String (FreshnessEvaluation ι) :=
  let evaluation (code : FreshnessResultCode) (detail : String) : Except String (FreshnessEvaluation ι) :=
    .ok ⟨code, producerId, producerEpoch, logicalTime, some detail⟩
  match state with
  | none => evaluation .firstSeen "no established freshness state for producer"
  | some state =>
    if state.producerId ≠ producerId then
      .error "freshness state producer_id does not match evaluated producer"
    else if producerEpoch = state.currentEpoch then
      match state.highWater with
      | none => evaluation .freshCandidate "current epoch has no committed high-water value"
      | some highest =>
        if highest < logicalTime then
          evaluation .freshCandidate "logical_time advances committed high-water mark"
        else if logicalTime = highest then evaluation .replay "logical_time equals committed high-water mark"
        else evaluation .logicalTimeRollback "logical_time is below committed high-water mark"
    else if state.previousEpoch = some producerEpoch then
      evaluation .epochRollback "authenticated statement uses retained superseded epoch"
    else evaluation .epochTransitionRequired "different epoch requires explicit transition authorization"

theorem evaluateFreshness_freshCandidate {state : FreshnessState ι} {producerId producerEpoch : ι}
    {logicalTime : LogicalTime} {evaluation : FreshnessEvaluation ι}
    (evaluated : evaluateFreshness (some state) producerId producerEpoch logicalTime = .ok evaluation)
    (candidate : evaluation.code = .freshCandidate) :
    producerEpoch = state.currentEpoch ∧ Above state.highWater logicalTime := by
  simp only [evaluateFreshness] at evaluated
  split_ifs at evaluated with other current rolled
  · refine ⟨current, fun highest set => ?_⟩
    rw [set] at evaluated
    simp only at evaluated
    split_ifs at evaluated with above equal
    · exact above
    · rw [← Except.ok.inj evaluated] at candidate
      cases candidate
    · rw [← Except.ok.inj evaluated] at candidate
      cases candidate
  · rw [← Except.ok.inj evaluated] at candidate
    cases candidate
  · rw [← Except.ok.inj evaluated] at candidate
    cases candidate

theorem evaluateFreshness_producer {state : FreshnessState ι} {producerId producerEpoch : ι}
    {logicalTime : LogicalTime} {evaluation : FreshnessEvaluation ι}
    (evaluated : evaluateFreshness (some state) producerId producerEpoch logicalTime = .ok evaluation) :
    state.producerId = producerId := by
  by_contra other
  simp only [evaluateFreshness, if_pos other] at evaluated
  cases evaluated

/-- A candidate with the state it was made from, of the same producer. -/
structure FreshnessPreparedWrite (ι : Type) where
  previousState : Option (FreshnessState ι)
  candidateState : FreshnessState ι
  sameProducer : ∀ state, previousState = some state → state.producerId = candidateState.producerId

def FreshnessPreparedWrite.producerId (prepared : FreshnessPreparedWrite ι) : ι := prepared.candidateState.producerId

/-- `prepare` of the freshness backend; an error is a `ValueError`. -/
def prepareFreshness (previousState : Option (FreshnessState ι)) (candidateState : FreshnessState ι) :
    Except String (FreshnessPreparedWrite ι) :=
  match previousState with
  | none => .ok ⟨none, candidateState, nofun⟩
  | some previous =>
    if candidateState.generation ≤ previous.generation then
      .error "candidate generation must advance previous generation"
    else if same : previous.producerId = candidateState.producerId then
      .ok ⟨some previous, candidateState, fun _ known => by rwa [← Option.some.inj known]⟩
    else .error "previous state producer mismatch"

theorem prepareFreshness_ok {previousState : Option (FreshnessState ι)} {candidateState : FreshnessState ι}
    {prepared : FreshnessPreparedWrite ι} (accepts : prepareFreshness previousState candidateState = .ok prepared) :
    prepared.previousState = previousState ∧ prepared.candidateState = candidateState := by
  cases previousState with
  | none => rw [← Except.ok.inj accepts]; exact ⟨rfl, rfl⟩
  | some previous =>
    simp only [prepareFreshness] at accepts
    split_ifs at accepts with low same
    rw [← Except.ok.inj accepts]
    exact ⟨rfl, rfl⟩

/-- What `load` of the freshness backend finds. -/
inductive FreshnessLoadResult (ι : Type)
  | stateValid (state : FreshnessState ι)
  | stateNotEstablished (detail : String)
  | invalid (detail : String)
  | unavailable (detail : String)
  | rollback (detail : String)
  deriving DecidableEq

inductive FreshnessPersistResult (ι : Type)
  | committed (state : FreshnessState ι)
  | verified (state : FreshnessState ι)
  | persistFailure (detail : String)
  deriving DecidableEq

inductive FreshnessOutcomeCode
  | fresh
  | firstSeen
  | replay
  | logicalTimeRollback
  | epochTransitionRequired
  | epochRollback
  | stateInvalid
  | stateUnavailable
  | stateRollback
  | statePersistFailure
  | generationExhausted
  deriving DecidableEq, Repr

structure FreshnessOutcome (ι : Type) where
  code : FreshnessOutcomeCode
  producerId : ι
  producerEpoch : ι
  logicalTime : LogicalTime
  state : Option (FreshnessState ι)
  detail : Option String
  deriving DecidableEq

end Freshness

inductive AuthorizationType
  | bootstrap
  | epochTransition
  deriving DecidableEq, Repr

inductive AuthorizationPurpose
  | bootstrapAuthority
  | epochTransitionAuthority
  deriving DecidableEq, Repr

/-- `initialHighWater` is `none` for `HIGH_WATER_UNSET`. -/
structure BootstrapAuthorization (ι : Type) where
  authorizationId : ι
  authorityId : ι
  producerId : ι
  authorizationSequence : Nat
  producerEpoch : ι
  initialHighWater : Option LogicalTime
  sequenceFits : authorizationSequence ≤ uint64Max
  deriving DecidableEq

structure EpochTransitionAuthorization (ι : Type) where
  authorizationId : ι
  authorityId : ι
  producerId : ι
  authorizationSequence : Nat
  fromEpoch : ι
  toEpoch : ι
  transitionSequence : Nat
  sequenceFits : authorizationSequence ≤ uint64Max
  epochsDiffer : fromEpoch ≠ toEpoch
  transitionFits : transitionSequence ≤ uint64Max
  deriving DecidableEq

inductive AuthorizationObject (ι : Type)
  | bootstrap (authorization : BootstrapAuthorization ι)
  | epochTransition (authorization : EpochTransitionAuthorization ι)
  deriving DecidableEq

inductive AuthorizationAuthenticationResultCode
  | authorizationAuthenticated
  | signedAuthorizationInvalid
  | authorityUnknown
  | keyUnknown
  | capabilityMismatch
  | keyRetired
  | keyRevoked
  | algorithmUnsupported
  | signatureInvalid
  | cryptoProviderFailure
  | internalError
  deriving DecidableEq, Repr

/-- The fields of the result that replay evaluation and the lifecycles read. -/
structure AuthorizationAuthenticationResult (ι : Type) where
  code : AuthorizationAuthenticationResultCode
  authorityId : Option ι
  authorizationType : Option AuthorizationType
  authorizationId : Option ι
  authorizationSequence : Option Nat
  producerId : Option ι
  authorizationObject : Option (AuthorizationObject ι)
  deriving DecidableEq

structure AuthorizationReplayScope (ι : Type) where
  authorityId : ι
  purposeDomain : AuthorizationPurpose
  producerId : ι
  deriving DecidableEq

structure AuthorizationReplayState (ι : Type) where
  scope : AuthorizationReplayScope ι
  authorizationSequence : Nat
  sequenceFits : authorizationSequence ≤ uint64Max
  deriving DecidableEq

inductive AuthorizationReplayCode
  | authorizationCandidate
  | authorizationNotAuthenticated
  | authorizationReplay
  | authorizationSequenceExhausted
  | authorizationCapacityExceeded
  | authorizationScopeInvalid
  | authorizationStateInvalid
  deriving DecidableEq, Repr

structure AuthorizationReplayOutcome (ι : Type) where
  code : AuthorizationReplayCode
  scope : Option (AuthorizationReplayScope ι) := none
  previousState : Option (AuthorizationReplayState ι) := none
  candidateState : Option (AuthorizationReplayState ι) := none
  authorizationId : Option ι := none
  authorizationSequence : Option Nat := none
  detail : Option String := none
  deriving DecidableEq

variable {ι : Type}

def AuthorizationAuthenticationResult.authenticated (result : AuthorizationAuthenticationResult ι) : Bool :=
  result.code = .authorizationAuthenticated

/-- What `authenticate_authorization` returns for a bootstrap authorization whose signature it verified. -/
def BootstrapAuthorization.authenticated (authorization : BootstrapAuthorization ι) :
    AuthorizationAuthenticationResult ι where
  code := .authorizationAuthenticated
  authorityId := some authorization.authorityId
  authorizationType := some .bootstrap
  authorizationId := some authorization.authorizationId
  authorizationSequence := some authorization.authorizationSequence
  producerId := some authorization.producerId
  authorizationObject := some (.bootstrap authorization)

def EpochTransitionAuthorization.authenticated (authorization : EpochTransitionAuthorization ι) :
    AuthorizationAuthenticationResult ι where
  code := .authorizationAuthenticated
  authorityId := some authorization.authorityId
  authorizationType := some .epochTransition
  authorizationId := some authorization.authorizationId
  authorizationSequence := some authorization.authorizationSequence
  producerId := some authorization.producerId
  authorizationObject := some (.epochTransition authorization)

/-- `_purpose_for_authorization_type`. -/
def purposeForAuthorizationType : AuthorizationType → AuthorizationPurpose
  | .bootstrap => .bootstrapAuthority
  | .epochTransition => .epochTransitionAuthority

/-- `derive_authorization_replay_scope`; an error is a `ValueError`. -/
def deriveAuthorizationReplayScope (authenticated : AuthorizationAuthenticationResult ι) :
    Except String (AuthorizationReplayScope ι) :=
  match authenticated.authorityId, authenticated.authorizationType, authenticated.producerId with
  | some authorityId, some authorizationType, some producerId =>
    .ok ⟨authorityId, purposeForAuthorizationType authorizationType, producerId⟩
  | _, _, _ => .error "authenticated authorization lacks replay scope fields"

def EpochTransitionAuthorization.scope (authorization : EpochTransitionAuthorization ι) :
    AuthorizationReplayScope ι :=
  ⟨authorization.authorityId, .epochTransitionAuthority, authorization.producerId⟩

def authorizationReplayMaxScopes : Nat := 4096

variable [DecidableEq ι]

/-- `evaluate_authorization_replay`. -/
def evaluateAuthorizationReplay (authenticated : AuthorizationAuthenticationResult ι)
    (previousState : Option (AuthorizationReplayState ι)) (establishedScopeCount : Nat) :
    AuthorizationReplayOutcome ι :=
  let authorizationId := authenticated.authorizationId
  if authenticated.code ≠ .authorizationAuthenticated then
    { code := .authorizationNotAuthenticated, detail := some "authorization authentication is required" }
  else match authenticated.authorizationSequence with
  | none =>
    { code := .authorizationStateInvalid, authorizationId
      detail := some "authenticated authorization_sequence is invalid" }
  | some sequence =>
    if fits : sequence ≤ uint64Max then
      match deriveAuthorizationReplayScope authenticated with
      | .error detail =>
        { code := .authorizationScopeInvalid, authorizationId, authorizationSequence := some sequence
          detail := some detail }
      | .ok scope =>
        let candidate : AuthorizationReplayState ι := ⟨scope, sequence, fits⟩
        match previousState with
        | none =>
          if authorizationReplayMaxScopes ≤ establishedScopeCount then
            { code := .authorizationCapacityExceeded, scope := some scope, authorizationId
              authorizationSequence := some sequence
              detail := some "authorization replay-state capacity exhausted" }
          else
            { code := .authorizationCandidate, scope := some scope, candidateState := some candidate, authorizationId
              authorizationSequence := some sequence }
        | some previous =>
          if previous.scope ≠ scope then
            { code := .authorizationStateInvalid, scope := some scope, previousState := some previous, authorizationId
              authorizationSequence := some sequence, detail := some "previous replay state scope mismatch" }
          else if previous.authorizationSequence = uint64Max then
            { code := .authorizationSequenceExhausted, scope := some scope, previousState := some previous
              authorizationId, authorizationSequence := some sequence
              detail := some "authorization sequence high-water is exhausted" }
          else if sequence ≤ previous.authorizationSequence then
            { code := .authorizationReplay, scope := some scope, previousState := some previous, authorizationId
              authorizationSequence := some sequence
              detail := some "authorization_sequence did not strictly advance" }
          else
            { code := .authorizationCandidate, scope := some scope, previousState := some previous
              candidateState := some candidate, authorizationId, authorizationSequence := some sequence }
    else
      { code := .authorizationStateInvalid, authorizationId
        detail := some "authenticated authorization_sequence is invalid" }

/-- What a replay outcome says when the authorization is a candidate. -/
structure AuthorizationReplayOutcome.Candidate (authenticated : AuthorizationAuthenticationResult ι)
    (previousState : Option (AuthorizationReplayState ι)) (outcome : AuthorizationReplayOutcome ι)
    (candidate : AuthorizationReplayState ι) : Prop where
  candidateState : outcome.candidateState = some candidate
  scope : outcome.scope = some candidate.scope
  derived : deriveAuthorizationReplayScope authenticated = .ok candidate.scope
  previous : outcome.previousState = previousState
  sequence : outcome.authorizationSequence = some candidate.authorizationSequence
  authenticatedSequence : authenticated.authorizationSequence = some candidate.authorizationSequence
  identity : outcome.authorizationId = authenticated.authorizationId
  advances : ∀ state, previousState = some state →
    state.scope = candidate.scope ∧ state.authorizationSequence < candidate.authorizationSequence

theorem evaluateAuthorizationReplay_candidate {authenticated : AuthorizationAuthenticationResult ι}
    {previousState : Option (AuthorizationReplayState ι)} {establishedScopeCount : Nat}
    (candidate : (evaluateAuthorizationReplay authenticated previousState establishedScopeCount).code =
      .authorizationCandidate) :
    ∃ state, (evaluateAuthorizationReplay authenticated previousState establishedScopeCount).Candidate authenticated
      previousState state := by
  by_cases refused : authenticated.code ≠ .authorizationAuthenticated
  · rw [evaluateAuthorizationReplay, if_pos refused] at candidate
    cases candidate
  simp only [evaluateAuthorizationReplay, if_neg refused] at candidate ⊢
  cases known : authenticated.authorizationSequence with
  | none => simp [known] at candidate
  | some sequence =>
    simp only [known] at candidate ⊢
    by_cases fits : sequence ≤ uint64Max
    · simp only [dif_pos fits] at candidate ⊢
      cases derived : deriveAuthorizationReplayScope authenticated with
      | error detail => simp [derived] at candidate
      | ok scope =>
        simp only [derived] at candidate ⊢
        cases previousState with
        | none =>
          by_cases full : authorizationReplayMaxScopes ≤ establishedScopeCount
          · simp [full] at candidate
          · simp only [if_neg full]
            exact ⟨⟨scope, sequence, fits⟩, rfl, rfl, derived, rfl, rfl, known, rfl, nofun⟩
        | some previous =>
          by_cases same : previous.scope = scope
          · by_cases exhausted : previous.authorizationSequence = uint64Max
            · simp [same, exhausted] at candidate
            · by_cases low : sequence ≤ previous.authorizationSequence
              · simp [same, exhausted, low] at candidate
              · simp only [if_neg (not_not.mpr same), if_neg exhausted, if_neg low]
                refine ⟨⟨scope, sequence, fits⟩, rfl, rfl, derived, rfl, rfl, known, rfl, ?_⟩
                rintro _ ⟨⟩
                exact ⟨same, Nat.lt_of_not_le low⟩
          · simp [same] at candidate
    · simp [dif_neg fits] at candidate

theorem evaluateAuthorizationReplay_consumed {authenticated : AuthorizationAuthenticationResult ι}
    {previous : AuthorizationReplayState ι} {establishedScopeCount sequence : Nat}
    (known : authenticated.authorizationSequence = some sequence) (low : sequence ≤ previous.authorizationSequence) :
    (evaluateAuthorizationReplay authenticated (some previous) establishedScopeCount).code ≠
      .authorizationCandidate := by
  intro candidate
  obtain ⟨state, accepted⟩ := evaluateAuthorizationReplay_candidate candidate
  have higher := (accepted.advances previous rfl).2
  have same := Option.some.inj (known.symm.trans accepted.authenticatedSequence)
  omega

/-- One complete transaction generation: the consumed sequence and the freshness state it leads to. -/
structure AuthorizationTransactionState (ι : Type) where
  replayState : AuthorizationReplayState ι
  replayScope : AuthorizationReplayScope ι
  generation : Nat
  resultingFreshnessState : FreshnessState ι
  operationType : AuthorizationType
  authorizationId : ι
  authorizationSequence : Nat
  generationFits : generation ≤ uint64Max
  scopeMatches : replayState.scope = replayScope
  sequenceMatches : replayState.authorizationSequence = authorizationSequence
  deriving DecidableEq

/-- `AuthorizationTransactionState(...)`; an error is the `ValueError` of `__post_init__`. -/
def AuthorizationTransactionState.make (replayState : AuthorizationReplayState ι)
    (replayScope : AuthorizationReplayScope ι) (generation : Nat) (resultingFreshnessState : FreshnessState ι)
    (operationType : AuthorizationType) (authorizationId : ι) (authorizationSequence : Nat) :
    Except String (AuthorizationTransactionState ι) :=
  if generationFits : generation ≤ uint64Max then
    if scopeMatches : replayState.scope = replayScope then
      if sequenceMatches : replayState.authorizationSequence = authorizationSequence then
        .ok ⟨replayState, replayScope, generation, resultingFreshnessState, operationType, authorizationId,
          authorizationSequence, generationFits, scopeMatches, sequenceMatches⟩
      else .error "replay high-water does not match consumed sequence"
    else .error "replay_state scope does not match replay_scope"
  else .error "generation outside uint64"

structure AuthorizationPreparedTransaction (ι : Type) where
  previousReplayState : Option (AuthorizationReplayState ι)
  previousFreshnessState : Option (FreshnessState ι)
  previousGeneration : Option Nat
  candidate : AuthorizationTransactionState ι
  deriving DecidableEq

inductive AuthorizationTransactionResult (ι : Type)
  | prepared (prepared : AuthorizationPreparedTransaction ι)
  | authorizationNotCandidate (detail : String)
  | authorizationGenerationExhausted (detail : String)
  | authorizationTransactionInvalid (detail : String)
  deriving DecidableEq

/-- `prepare_authorization_transaction`. -/
def prepareAuthorizationTransaction (replay : AuthorizationReplayOutcome ι)
    (previousReplayState : Option (AuthorizationReplayState ι)) (previousFreshnessState : Option (FreshnessState ι))
    (resultingFreshnessState : FreshnessState ι) (previousGeneration : Option Nat) (operationType : AuthorizationType) :
    AuthorizationTransactionResult ι :=
  let build (generation : Nat) (candidateState : AuthorizationReplayState ι) (scope : AuthorizationReplayScope ι)
      (authorizationId : ι) (authorizationSequence : Nat) : AuthorizationTransactionResult ι :=
    match AuthorizationTransactionState.make candidateState scope generation resultingFreshnessState operationType
        authorizationId authorizationSequence with
    | .ok candidate => .prepared ⟨previousReplayState, previousFreshnessState, previousGeneration, candidate⟩
    | .error detail => .authorizationTransactionInvalid detail
  if replay.code ≠ .authorizationCandidate then
    .authorizationNotCandidate "authorization replay evaluation is not a candidate"
  else match replay.candidateState, replay.scope with
  | some candidateState, some scope =>
    match replay.authorizationId, replay.authorizationSequence with
    | some authorizationId, some authorizationSequence =>
      if previousReplayState ≠ replay.previousState then
        .authorizationTransactionInvalid "previous replay state does not match evaluated candidate"
      else match previousGeneration with
      | none => build 0 candidateState scope authorizationId authorizationSequence
      | some previousGeneration =>
        if uint64Max < previousGeneration then
          .authorizationTransactionInvalid "previous transaction generation is invalid"
        else if previousGeneration = uint64Max then
          .authorizationGenerationExhausted "authorization transaction generation exhausted"
        else build (previousGeneration + 1) candidateState scope authorizationId authorizationSequence
    | _, _ => .authorizationTransactionInvalid "candidate replay outcome lacks authorization identity"
  | _, _ => .authorizationTransactionInvalid "candidate replay outcome lacks required state"

structure AuthorizationPreparedTransaction.Advances (prepared : AuthorizationPreparedTransaction ι) : Prop where
  generation : ∀ generation, prepared.previousGeneration = some generation →
    generation < prepared.candidate.generation
  sequence : ∀ state, prepared.previousReplayState = some state →
    state.authorizationSequence < prepared.candidate.authorizationSequence

theorem AuthorizationTransactionState.make_ok {replayState : AuthorizationReplayState ι}
    {replayScope : AuthorizationReplayScope ι} {generation : Nat} {resultingFreshnessState : FreshnessState ι}
    {operationType : AuthorizationType} {authorizationId : ι} {authorizationSequence : Nat}
    {state : AuthorizationTransactionState ι}
    (made : make replayState replayScope generation resultingFreshnessState operationType authorizationId
      authorizationSequence = .ok state) :
    state.replayState = replayState ∧ state.generation = generation ∧
      state.resultingFreshnessState = resultingFreshnessState ∧ state.operationType = operationType := by
  unfold make at made
  split_ifs at made
  rw [← Except.ok.inj made]
  exact ⟨rfl, rfl, rfl, rfl⟩

/-- What a prepared transaction of an evaluated authorization holds. -/
structure AuthorizationPreparedTransaction.Binds (prepared : AuthorizationPreparedTransaction ι)
    (authenticated : AuthorizationAuthenticationResult ι) (previousFreshnessState : Option (FreshnessState ι))
    (resultingFreshnessState : FreshnessState ι) (previousGeneration : Option Nat)
    (operationType : AuthorizationType) : Prop where
  advances : prepared.Advances
  scope : deriveAuthorizationReplayScope authenticated = .ok prepared.candidate.replayScope
  sequence : authenticated.authorizationSequence = some prepared.candidate.authorizationSequence
  previousFreshnessState : prepared.previousFreshnessState = previousFreshnessState
  previousGeneration : prepared.previousGeneration = previousGeneration
  resulting : prepared.candidate.resultingFreshnessState = resultingFreshnessState
  operationType : prepared.candidate.operationType = operationType

theorem prepareAuthorizationTransaction_prepared {authenticated : AuthorizationAuthenticationResult ι}
    {previousReplayState : Option (AuthorizationReplayState ι)} {establishedScopeCount : Nat}
    {previousFreshnessState : Option (FreshnessState ι)} {resultingFreshnessState : FreshnessState ι}
    {previousGeneration : Option Nat} {operationType : AuthorizationType}
    {prepared : AuthorizationPreparedTransaction ι}
    (prepares : prepareAuthorizationTransaction
      (evaluateAuthorizationReplay authenticated previousReplayState establishedScopeCount) previousReplayState
      previousFreshnessState resultingFreshnessState previousGeneration operationType = .prepared prepared) :
    prepared.Binds authenticated previousFreshnessState resultingFreshnessState previousGeneration operationType := by
  by_cases refused : (evaluateAuthorizationReplay authenticated previousReplayState establishedScopeCount).code ≠
      .authorizationCandidate
  · rw [prepareAuthorizationTransaction, if_pos refused] at prepares
    cases prepares
  obtain ⟨candidate, accepted⟩ := evaluateAuthorizationReplay_candidate (not_not.mp refused)
  -- What `make` builds, with the generation the previous one leads to.
  have built : ∀ generation (authorizationId : ι) state, AuthorizationTransactionState.make candidate candidate.scope
        generation resultingFreshnessState operationType authorizationId candidate.authorizationSequence = .ok state →
      (∀ previous, previousGeneration = some previous → previous < generation) →
      AuthorizationPreparedTransaction.Binds
        ⟨previousReplayState, previousFreshnessState, previousGeneration, state⟩ authenticated previousFreshnessState
        resultingFreshnessState previousGeneration operationType := by
    intro generation authorizationId state made rises
    obtain ⟨replayed, generations, resulting, type⟩ := AuthorizationTransactionState.make_ok made
    have sequence : state.authorizationSequence = candidate.authorizationSequence := by
      rw [← state.sequenceMatches, replayed]
    refine ⟨⟨fun previous known => generations ▸ rises previous known, fun previous known => ?_⟩, ?_, ?_, rfl, rfl,
      resulting, type⟩
    · rw [sequence]
      exact (accepted.advances previous known).2
    · rw [accepted.derived, ← state.scopeMatches, replayed]
    · rw [accepted.authenticatedSequence, sequence]
  simp only [prepareAuthorizationTransaction, if_neg refused, accepted.candidateState, accepted.scope,
    accepted.sequence, accepted.previous] at prepares
  cases identity : (evaluateAuthorizationReplay authenticated previousReplayState establishedScopeCount).authorizationId
    with
  | none => simp [identity] at prepares
  | some authorizationId =>
    simp only [identity, ne_eq, not_true_eq_false, if_false] at prepares
    cases previousGeneration with
    | none =>
      simp only at prepares
      split at prepares
      · next state made =>
        rw [← AuthorizationTransactionResult.prepared.inj prepares]
        exact built 0 authorizationId state made nofun
      · cases prepares
    | some previous =>
      simp only at prepares
      split_ifs at prepares with beyond exhausted
      split at prepares
      · next state made =>
        rw [← AuthorizationTransactionResult.prepared.inj prepares]
        refine built (previous + 1) authorizationId state made ?_
        rintro _ ⟨⟩
        exact Nat.lt_succ_self _
      · cases prepares

/-- What `load` of the authorization backend finds. -/
inductive AuthorizationLoadResult (ι : Type)
  | stateValid (state : AuthorizationTransactionState ι)
  | stateNotEstablished (detail : String)
  | invalid (detail : String)
  | unavailable (detail : String)
  deriving DecidableEq

inductive AuthorizationPersistResult (ι : Type)
  | prepared (state : AuthorizationTransactionState ι)
  | committed (state : AuthorizationTransactionState ι)
  | verified (state : AuthorizationTransactionState ι)
  | persistFailure (detail : String)
  | stalePreparation (detail : String)
  deriving DecidableEq

def AuthorizationPersistResult.detail : AuthorizationPersistResult ι → Option String
  | .persistFailure detail | .stalePreparation detail => some detail
  | _ => none

/-- `prepare` of the authorization backend. -/
def prepareAuthorization (prepared : AuthorizationPreparedTransaction ι) : AuthorizationPersistResult ι :=
  match prepared.previousGeneration with
  | none => .prepared prepared.candidate
  | some previousGeneration =>
    if prepared.candidate.generation ≤ previousGeneration then
      .stalePreparation "candidate generation does not advance prior generation"
    else .prepared prepared.candidate

end Guardian.Assurance
