import Guardian.Assurance.HostBackendSafety

namespace Guardian.Assurance

open FileProgram

variable {ι γ : Type} [DecidableEq ι]

/-- `establish_freshness`; an error is an exception of the evaluator. -/
def establishFreshness (producerId producerEpoch : ι) (logicalTime : LogicalTime) :
    HostProgram ι (Except String (FreshnessOutcome ι)) :=
  let terminal (code : FreshnessOutcomeCode) (detail : Option String) :
      HostProgram ι (Except String (FreshnessOutcome ι)) :=
    .done (.ok ⟨code, producerId, producerEpoch, logicalTime, none, detail⟩)
  (loadFreshness producerId).bind fun
    | .stateNotEstablished _ =>
      terminal .firstSeen (some "bootstrap authorization is required outside freshness orchestration")
    | .invalid _ => terminal .stateInvalid none
    | .unavailable _ => terminal .stateUnavailable none
    | .rollback _ => terminal .stateRollback none
    | .stateValid previousState =>
      match evaluateFreshness (some previousState) producerId producerEpoch logicalTime with
      | .error message => .done (.error message)
      | .ok evaluated => match evaluated.code with
        | .replay => terminal .replay evaluated.detail
        | .logicalTimeRollback => terminal .logicalTimeRollback evaluated.detail
        | .epochTransitionRequired => terminal .epochTransitionRequired evaluated.detail
        | .epochRollback => terminal .epochRollback evaluated.detail
        | .firstSeen => terminal .firstSeen evaluated.detail
        | .freshCandidate =>
          if left : previousState.generation ≠ uint64Max then
            let candidateState := previousState.freshened logicalTime left
            match prepareFreshness (some previousState) candidateState with
            | .error _ => terminal .statePersistFailure (some "persistence prepare failed")
            | .ok prepared => (commitFreshness prepared).bind fun
              | .committed _ => (verifyFreshness prepared).bind fun verified =>
                if verified ≠ .verified candidateState then
                  terminal .statePersistFailure (some "persistent commit verification failed")
                else .done (.ok ⟨.fresh, producerId, producerEpoch, logicalTime, some candidateState,
                  some "durable freshness state committed and verified"⟩)
              | _ => terminal .statePersistFailure (some "persistent commit failed")
          else terminal .generationExhausted none
        | _ => terminal .stateInvalid (some "unexpected freshness evaluator result")

inductive ReconciliationCode
  | reconciled
  | alreadyReconciled
  | transactionNotVerified
  | freshnessStateInvalid
  | freshnessStateUnavailable
  | freshnessStateRollback
  | freshnessStateConflict
  | freshnessStatePersistFailure
  deriving DecidableEq, Repr

structure ReconciliationResult (ι : Type) where
  code : ReconciliationCode
  state : Option (FreshnessState ι)
  detail : Option String
  deriving DecidableEq

def ReconciliationResult.reconciled (result : ReconciliationResult ι) : Bool :=
  result.code = .reconciled || result.code = .alreadyReconciled

def projectFreshness (previous : Option (FreshnessState ι)) (target : FreshnessState ι) :
    HostProgram ι (ReconciliationResult ι) :=
  match prepareFreshness previous target with
  | .error _ => .done ⟨.freshnessStatePersistFailure, none, some "freshness projection prepare failed"⟩
  | .ok prepared => (commitFreshness prepared).bind fun committed =>
    if committed ≠ .committed target then
      .done ⟨.freshnessStatePersistFailure, none, some "freshness projection commit failed"⟩
    else (verifyFreshness prepared).bind fun verified =>
      if verified ≠ .verified target then
        .done ⟨.freshnessStatePersistFailure, none, some "freshness projection verification failed"⟩
      else .done ⟨.reconciled, some target, none⟩

/-- `reconcile_verified_authorization_transaction`. -/
def reconcileVerifiedAuthorizationTransaction (transaction : AuthorizationPersistResult ι) :
    HostProgram ι (ReconciliationResult ι) :=
  match transaction with
  | .verified transactionState =>
    let target := transactionState.resultingFreshnessState
    (loadFreshness target.producerId).bind fun
      | .invalid _ => .done ⟨.freshnessStateInvalid, none, some "freshness projection is invalid"⟩
      | .unavailable _ => .done ⟨.freshnessStateUnavailable, none, some "freshness projection is unavailable"⟩
      | .rollback _ => .done ⟨.freshnessStateRollback, none, some "freshness projection reports rollback"⟩
      | .stateValid current =>
        if current = target then .done ⟨.alreadyReconciled, some target, none⟩
        else if target.generation ≤ current.generation then
          .done ⟨.freshnessStateConflict, some current, some "freshness projection is newer or conflicting"⟩
        else projectFreshness (some current) target
      | .stateNotEstablished _ => projectFreshness none target
  | _ => .done ⟨.transactionNotVerified, none, some "composite authorization transaction is not VERIFIED"⟩

structure LifecycleResult (γ ι : Type) where
  code : γ
  transactionState : Option (AuthorizationTransactionState ι) := none
  freshnessState : Option (FreshnessState ι) := none
  reconciliation : Option (ReconciliationResult ι) := none
  detail : Option String := none
  deriving DecidableEq

/-- The codes that the two lifecycles have for the same stages. -/
structure TransactionCodes (γ : Type) where
  authorized : γ
  prepareFailure : γ
  backendPrepareFailure : γ
  commitFailure : γ
  verifyFailure : γ
  reconciliationFailure : γ

def executeTransaction (codes : TransactionCodes γ) (transaction : AuthorizationTransactionResult ι)
    (target : FreshnessState ι) : HostProgram ι (LifecycleResult γ ι) :=
  match transaction with
  | .authorizationNotCandidate detail | .authorizationGenerationExhausted detail
  | .authorizationTransactionInvalid detail => .done { code := codes.prepareFailure, detail := some detail }
  | .prepared prepared => match prepareAuthorization prepared with
    | .prepared _ => (commitAuthorization prepared).bind fun committed =>
      if committed ≠ .committed prepared.candidate then
        .done { code := codes.commitFailure, detail := committed.detail }
      else (verifyAuthorization prepared).bind fun verified =>
        if verified ≠ .verified prepared.candidate then
          .done { code := codes.verifyFailure, detail := verified.detail }
        else (reconcileVerifiedAuthorizationTransaction verified).bind fun reconciliation =>
          if ¬ reconciliation.reconciled then
            .done ⟨codes.reconciliationFailure, some prepared.candidate, some target, some reconciliation,
              reconciliation.detail⟩
          else .done ⟨codes.authorized, some prepared.candidate, some target, some reconciliation, none⟩
    | refused => .done { code := codes.backendPrepareFailure, detail := refused.detail }

inductive BootstrapLifecycleCode
  | bootstrapAuthorized
  | ordinaryAuthenticationRequired
  | firstSeenRequired
  | authorizationAuthenticationRequired
  | authorizationObjectInvalid
  | authorizationReplayNotCandidate
  | producerMismatch
  | epochMismatch
  | logicalTimeMismatch
  | transactionPrepareFailure
  | transactionBackendPrepareFailure
  | transactionCommitFailure
  | transactionVerifyFailure
  | freshnessReconciliationFailure
  deriving DecidableEq, Repr

def bootstrapCodes : TransactionCodes BootstrapLifecycleCode :=
  ⟨.bootstrapAuthorized, .transactionPrepareFailure, .transactionBackendPrepareFailure, .transactionCommitFailure,
    .transactionVerifyFailure, .freshnessReconciliationFailure⟩

/-- `_initial_freshness_state`. -/
def initialFreshnessState (authorization : BootstrapAuthorization ι) : FreshnessState ι :=
  { makeUnsetState authorization.producerId authorization.producerEpoch with
    highWater := authorization.initialHighWater }

/-- `execute_bootstrap_lifecycle`. Of the ordinary authentication only its success is read. -/
def executeBootstrapLifecycle (ordinaryAuthenticated : Bool) (freshness : FreshnessOutcome ι)
    (authorizationAuthentication : AuthorizationAuthenticationResult ι) (replay : AuthorizationReplayOutcome ι)
    (previousReplayState : Option (AuthorizationReplayState ι)) :
    HostProgram ι (LifecycleResult BootstrapLifecycleCode ι) :=
  let stop (code : BootstrapLifecycleCode) (detail : String) :
      HostProgram ι (LifecycleResult BootstrapLifecycleCode ι) := .done { code, detail := some detail }
  if ¬ ordinaryAuthenticated then
    stop .ordinaryAuthenticationRequired "ordinary assurance authentication did not succeed"
  else if freshness.code ≠ .firstSeen then stop .firstSeenRequired "bootstrap requires FIRST_SEEN freshness outcome"
  else if ¬ authorizationAuthentication.authenticated then
    stop .authorizationAuthenticationRequired "authorization authentication did not succeed"
  else match authorizationAuthentication.authorizationObject with
  | some (.bootstrap authorization) =>
    if replay.code ≠ .authorizationCandidate then
      stop .authorizationReplayNotCandidate "authorization replay evaluation is not candidate"
    else if authorization.producerId ≠ freshness.producerId then
      stop .producerMismatch "bootstrap producer does not match FIRST_SEEN producer"
    else if authorization.producerEpoch ≠ freshness.producerEpoch then
      stop .epochMismatch "bootstrap epoch does not match FIRST_SEEN epoch"
    else if authorization.initialHighWater.any (· ≠ freshness.logicalTime) then
      stop .logicalTimeMismatch
        "bootstrap established high-water does not match triggering FIRST_SEEN logical_time"
    else
      let resulting := initialFreshnessState authorization
      executeTransaction bootstrapCodes
        (prepareAuthorizationTransaction replay previousReplayState none resulting none .bootstrap) resulting
  | _ => stop .authorizationObjectInvalid "authenticated authorization is not BootstrapAuthorization"

inductive EpochTransitionLifecycleCode
  | epochTransitionAuthorized
  | ordinaryAuthenticationRequired
  | epochTransitionRequired
  | authorizationAuthenticationRequired
  | authorizationObjectInvalid
  | authorizationReplayNotCandidate
  | producerMismatch
  | fromEpochMismatch
  | toEpochMismatch
  | transitionSequenceMismatch
  | transitionSequenceExhausted
  | freshnessGenerationExhausted
  | transactionPrepareFailure
  | transactionBackendPrepareFailure
  | transactionCommitFailure
  | transactionVerifyFailure
  | freshnessReconciliationFailure
  deriving DecidableEq, Repr

def epochTransitionCodes : TransactionCodes EpochTransitionLifecycleCode :=
  ⟨.epochTransitionAuthorized, .transactionPrepareFailure, .transactionBackendPrepareFailure,
    .transactionCommitFailure, .transactionVerifyFailure, .freshnessReconciliationFailure⟩

/-- `_build_transition_freshness_state`, after the checks before it. -/
def FreshnessState.transitioned (previous : FreshnessState ι) (authorization : EpochTransitionAuthorization ι)
    (leaves : authorization.fromEpoch = previous.currentEpoch) (left : previous.generation ≠ uint64Max) :
    FreshnessState ι where
  producerId := previous.producerId
  currentEpoch := authorization.toEpoch
  previousEpoch := some previous.currentEpoch
  highWater := none
  transitionSequence := authorization.transitionSequence
  generation := previous.generation + 1
  epochsDiffer same := authorization.epochsDiffer (leaves.trans (Option.some.inj same))
  sequenceFits := authorization.transitionFits
  generationFits := previous.generation_lt left

/-- `execute_epoch_transition_lifecycle`. -/
def executeEpochTransitionLifecycle (ordinaryAuthenticated : Bool) (freshness : FreshnessOutcome ι)
    (authorizationAuthentication : AuthorizationAuthenticationResult ι) (replay : AuthorizationReplayOutcome ι)
    (previousReplayState : Option (AuthorizationReplayState ι)) (previousFreshnessState : FreshnessState ι)
    (previousTransactionGeneration : Option Nat) : HostProgram ι (LifecycleResult EpochTransitionLifecycleCode ι) :=
  let stop (code : EpochTransitionLifecycleCode) (detail : String) :
      HostProgram ι (LifecycleResult EpochTransitionLifecycleCode ι) := .done { code, detail := some detail }
  if ¬ ordinaryAuthenticated then
    stop .ordinaryAuthenticationRequired "ordinary assurance authentication did not succeed"
  else if freshness.code ≠ .epochTransitionRequired then
    stop .epochTransitionRequired "freshness did not require an epoch transition"
  else if ¬ authorizationAuthentication.authenticated then
    stop .authorizationAuthenticationRequired "authorization authentication did not succeed"
  else match authorizationAuthentication.authorizationObject with
  | some (.epochTransition authorization) =>
    if replay.code ≠ .authorizationCandidate then
      stop .authorizationReplayNotCandidate "authorization replay evaluation is not candidate"
    else if authorization.producerId ≠ previousFreshnessState.producerId then
      stop .producerMismatch "authorization producer does not match authoritative state"
    else if authorization.producerId ≠ freshness.producerId then
      stop .producerMismatch "authorization producer does not match triggering statement"
    else if leaves : authorization.fromEpoch = previousFreshnessState.currentEpoch then
      if authorization.toEpoch ≠ freshness.producerEpoch then
        stop .toEpochMismatch "to_epoch does not match triggering statement epoch"
      else if previousFreshnessState.transitionSequence = uint64Max then
        stop .transitionSequenceExhausted "transition_sequence cannot advance"
      else if authorization.transitionSequence ≠ previousFreshnessState.transitionSequence + 1 then
        stop .transitionSequenceMismatch "transition_sequence is not the exact next sequence"
      else if left : previousFreshnessState.generation ≠ uint64Max then
        let target := previousFreshnessState.transitioned authorization leaves left
        executeTransaction epochTransitionCodes
          (prepareAuthorizationTransaction replay previousReplayState (some previousFreshnessState) target
            previousTransactionGeneration .epochTransition) target
      else stop .freshnessGenerationExhausted "freshness generation cannot advance"
    else stop .fromEpochMismatch "from_epoch is not the authoritative current_epoch"
  | _ => stop .authorizationObjectInvalid "authenticated authorization is not EpochTransitionAuthorization"

end Guardian.Assurance
