import Guardian.Lib.Run
import Guardian.NodeLink.Freshness

namespace Guardian.NodeLink

open Word ByteString

/-- The fields of an authenticated, pre-freshness-compatible message that freshness reads. -/
structure PreFreshnessCompatibleMessage where
  senderNodeId : U32
  producerId : U32
  keyId : U32
  signatureAlgorithm : U8
  senderEpoch : U32
  sequence : U32
  producerSemanticProfileId : SemanticRef
  consumerSemanticProfileId : SemanticRef
  compatibilityContractId : SemanticRef
  deriving DecidableEq

structure FreshnessPolicy where
  maxForwardGap : U32
  configured : U8
  deriving DecidableEq, Repr

inductive FreshnessDecision
  | invalid
  | accept
  | observeOnly
  | replayDuplicate
  | replayRegression
  | forwardGapExceeded
  | epochTransitionRequired
  | sessionReplacementRequired
  | identityMismatch
  | stateBlocked
  deriving DecidableEq, Repr

structure FreshnessEvaluation where
  decision : FreshnessDecision
  identity : FreshnessIdentity
  observedEpoch : U32
  observedSequence : U32
  priorCondition : FreshnessCondition
  priorObservedEpoch : U32
  priorObservedSequence : U32
  priorAcceptedEpoch : U32
  priorAcceptedSequence : U32
  evaluatedMaxForwardGap : U32
  priorObservationValid : U8
  priorAcceptedEpochValid : U8
  priorAcceptedSequenceValid : U8
  transitionApplied : U8
  deriving DecidableEq

def zeroEvaluation : FreshnessEvaluation := ⟨.invalid, zeroIdentity, 0, 0, .uninitialized, 0, 0, 0, 0, 0, 0, 0, 0, 0⟩

def freshnessCopyRef (source : SemanticRef) : Option SemanticRef :=
  if !freshnessRefValid source then none else some (SemanticRef.ofText (cString source.1))

def freshnessIdentityFromMessage (message : PreFreshnessCompatibleMessage) : Option FreshnessIdentity :=
  if message.senderNodeId = 0 ∨ message.producerId = 0 ∨ message.keyId = 0 ∨
      message.signatureAlgorithm ≠ signatureEd25519 ∨ message.sequence = 0 ∨ message.senderEpoch = 0 then none
  else if !freshnessRefValid message.producerSemanticProfileId then none
  else if !freshnessRefValid message.consumerSemanticProfileId then none
  else if !freshnessRefValid message.compatibilityContractId then none
  else do
    let producerSemanticProfileId ← freshnessCopyRef message.producerSemanticProfileId
    let consumerSemanticProfileId ← freshnessCopyRef message.consumerSemanticProfileId
    let compatibilityContractId ← freshnessCopyRef message.compatibilityContractId
    some ⟨message.senderNodeId, message.producerId, message.keyId, message.signatureAlgorithm,
      producerSemanticProfileId, consumerSemanticProfileId, compatibilityContractId⟩

/-- The decision on a message of `incomingIdentity` while the runtime is active. -/
def freshnessDecideActive (policy : FreshnessPolicy) (runtime : FreshnessRuntime)
    (message : PreFreshnessCompatibleMessage) (incomingIdentity : FreshnessIdentity) : FreshnessDecision :=
  if !freshnessIdentityEqual runtime.identity incomingIdentity then .identityMismatch
  else if runtime.acceptedSequence = BitVec.allOnes 32 then .sessionReplacementRequired
  else if message.senderEpoch ≠ runtime.acceptedEpoch then .epochTransitionRequired
  else if message.sequence = runtime.acceptedSequence then .replayDuplicate
  else if message.sequence < runtime.acceptedSequence then .replayRegression
  else if policy.maxForwardGap < message.sequence - runtime.acceptedSequence then .forwardGapExceeded
  else .accept

def freshnessEvaluateInternal (policy : FreshnessPolicy) (runtime : FreshnessRuntime)
    (message : PreFreshnessCompatibleMessage) : FreshnessResult × FreshnessEvaluation :=
  if policy.configured ≠ 1 ∨ policy.maxForwardGap = 0 then (.errorInvalidPolicy, zeroEvaluation)
  else if freshnessRuntimeValidate runtime ≠ .ok then (.errorInvalidState, zeroEvaluation)
  else match freshnessIdentityFromMessage message with
    | none => (.errorInvalidMessage, zeroEvaluation)
    | some incomingIdentity =>
      (.ok,
        { decision :=
            match runtime.condition with
            | .uninitialized => .observeOnly
            | .unknown | .rejoinRequired | .sessionReplacementRequired => .stateBlocked
            | .active => freshnessDecideActive policy runtime message incomingIdentity
          identity := incomingIdentity
          observedEpoch := message.senderEpoch
          observedSequence := message.sequence
          priorCondition := runtime.condition
          priorObservedEpoch := runtime.observedEpoch
          priorObservedSequence := runtime.observedSequence
          priorAcceptedEpoch := runtime.acceptedEpoch
          priorAcceptedSequence := runtime.acceptedSequence
          evaluatedMaxForwardGap := policy.maxForwardGap
          priorObservationValid := runtime.observationValid
          priorAcceptedEpochValid := runtime.acceptedEpochValid
          priorAcceptedSequenceValid := runtime.acceptedSequenceValid
          transitionApplied := 0 })

def freshnessEvaluate (policy : FreshnessPolicy) (runtime : FreshnessRuntime)
    (message : PreFreshnessCompatibleMessage) : FreshnessResult × FreshnessEvaluation :=
  let evaluated := freshnessEvaluateInternal policy runtime message
  if evaluated.1 ≠ .ok then (evaluated.1, zeroEvaluation) else evaluated

def freshnessCandidate (runtime : FreshnessRuntime) (evaluation : FreshnessEvaluation) : FreshnessRuntime :=
  { runtime with
    observationValid := 1
    observedEpoch := evaluation.observedEpoch
    observedSequence := evaluation.observedSequence
    acceptedSequenceValid := 1
    acceptedSequence := evaluation.observedSequence }

def freshnessEvaluateAndApply (policy : FreshnessPolicy) (runtime : FreshnessRuntime)
    (message : PreFreshnessCompatibleMessage) : FreshnessResult × FreshnessEvaluation × FreshnessRuntime :=
  let evaluated := freshnessEvaluateInternal policy runtime message
  if evaluated.1 ≠ .ok then (evaluated.1, zeroEvaluation, runtime)
  else if evaluated.2.decision ≠ .accept then (.ok, evaluated.2, runtime)
  else
    let candidate := freshnessCandidate runtime evaluated.2
    if freshnessRuntimeValidate candidate ≠ .ok then (.errorInvalidEvaluation, zeroEvaluation, runtime)
    else (.ok, { evaluated.2 with transitionApplied := 1 }, candidate)

/-- What accepting `message` requires of the runtime. -/
structure FreshnessRuntime.Accepts (runtime : FreshnessRuntime) (policy : FreshnessPolicy)
    (message : PreFreshnessCompatibleMessage) : Prop where
  valid : freshnessRuntimeValidate runtime = .ok
  active : runtime.condition = .active
  sequence : message.sequence ≠ 0
  epoch : message.senderEpoch = runtime.acceptedEpoch
  later : runtime.acceptedSequence < message.sequence
  gap : message.sequence - runtime.acceptedSequence ≤ policy.maxForwardGap

theorem freshnessDecideActive_accept {policy : FreshnessPolicy} {runtime : FreshnessRuntime}
    {message : PreFreshnessCompatibleMessage} {incomingIdentity : FreshnessIdentity}
    (accepted : freshnessDecideActive policy runtime message incomingIdentity = .accept) :
    message.senderEpoch = runtime.acceptedEpoch ∧ runtime.acceptedSequence < message.sequence ∧
      message.sequence - runtime.acceptedSequence ≤ policy.maxForwardGap := by
  unfold freshnessDecideActive at accepted
  split_ifs at accepted with mismatch exhausted epoch duplicate regression gap
  refine ⟨not_not.mp epoch, ?_, ?_⟩
  · bv_omega
  · bv_omega

theorem freshnessIdentityFromMessage_some {message : PreFreshnessCompatibleMessage} {identity : FreshnessIdentity}
    (taken : freshnessIdentityFromMessage message = some identity) : message.sequence ≠ 0 := by
  unfold freshnessIdentityFromMessage at taken
  split_ifs at taken with missing
  simp only [not_or] at missing
  exact missing.2.2.2.2.1

theorem freshnessEvaluateInternal_accept {policy : FreshnessPolicy} {runtime : FreshnessRuntime}
    {message : PreFreshnessCompatibleMessage}
    (accepted : (freshnessEvaluateInternal policy runtime message).2.decision = .accept) :
    runtime.Accepts policy message ∧
      (freshnessEvaluateInternal policy runtime message).2.observedEpoch = message.senderEpoch ∧
      (freshnessEvaluateInternal policy runtime message).2.observedSequence = message.sequence := by
  unfold freshnessEvaluateInternal at accepted ⊢
  split_ifs at accepted ⊢ with unconfigured invalid
  · cases accepted
  · cases accepted
  · cases taken : freshnessIdentityFromMessage message with
    | none =>
      rw [taken] at accepted
      cases accepted
    | some incomingIdentity =>
      rw [taken] at accepted
      cases condition : runtime.condition <;> simp only [condition, reduceCtorEq] at accepted
      obtain ⟨epoch, later, gap⟩ := freshnessDecideActive_accept accepted
      exact ⟨⟨not_not.mp invalid, condition, freshnessIdentityFromMessage_some taken, epoch, later, gap⟩, rfl, rfl⟩

theorem invalidState_guard {guard : Prop} [Decidable guard] {rest : FreshnessResult} :
    (if guard then .errorInvalidState else rest) = .ok ↔ ¬ guard ∧ rest = .ok := by
  by_cases refused : guard
  · simp [refused]
  · simp [refused]

theorem freshnessRuntimeValidate_active {runtime : FreshnessRuntime} (active : runtime.condition = .active) :
    freshnessRuntimeValidate runtime = .ok ↔
      ¬ (runtime.identityValid > 1 ∨ runtime.observationValid > 1 ∨ runtime.acceptedEpochValid > 1 ∨
        runtime.acceptedSequenceValid > 1) ∧
      runtime.identityValid ≠ 0 ∧ freshnessIdentityStructurallyValid runtime.identity = true ∧
      (runtime.observationValid ≠ 0 → runtime.observedSequence ≠ 0) ∧
      runtime.acceptedEpochValid ≠ 0 ∧ runtime.acceptedEpoch ≠ 0 ∧
      runtime.acceptedSequenceValid ≠ 0 ∧ runtime.acceptedSequence ≠ 0 := by
  unfold freshnessRuntimeValidate
  rw [active]
  simp only [invalidState_guard, reduceCtorEq, if_false, if_true, and_true]
  generalize freshnessIdentityStructurallyValid runtime.identity = identity
  constructor
  · rintro ⟨flags, bound, identified, observed, epoch, sequence, -, present⟩
    simp only [not_or] at present
    obtain ⟨identityValid, epochValid, sequenceValid, -⟩ := present
    exact ⟨flags, identityValid, by grind, fun valid zero => observed ⟨valid, zero⟩, epochValid,
      fun zero => epoch ⟨epochValid, zero⟩, sequenceValid, fun zero => sequence ⟨sequenceValid, zero⟩⟩
  · rintro ⟨flags, identityValid, identified, observed, epochValid, epoch, sequenceValid, sequence⟩
    refine ⟨flags, fun bound => identityValid bound.2, by grind, fun zero => observed zero.1 zero.2,
      fun zero => epoch zero.2, fun zero => sequence zero.2, fun missing => epochValid missing.2, ?_⟩
    simp only [not_or]
    exact ⟨identityValid, epochValid, sequenceValid, sequence⟩

theorem freshnessCandidate_valid {runtime : FreshnessRuntime} {policy : FreshnessPolicy}
    {message : PreFreshnessCompatibleMessage} (accepts : runtime.Accepts policy message)
    {evaluation : FreshnessEvaluation} (observed : evaluation.observedSequence = message.sequence) :
    freshnessRuntimeValidate (freshnessCandidate runtime evaluation) = .ok := by
  obtain ⟨flags, bound, identity, -, epochValid, epoch, sequenceValid, -⟩ :=
    (freshnessRuntimeValidate_active accepts.active).mp accepts.valid
  have nonzero : evaluation.observedSequence ≠ 0 := by
    rw [observed]
    exact accepts.sequence
  simp only [not_or] at flags
  obtain ⟨identityFlag, -, epochFlag, -⟩ := flags
  have active : (freshnessCandidate runtime evaluation).condition = .active := accepts.active
  have flagged : (freshnessCandidate runtime evaluation).acceptedSequenceValid ≠ 0 := by
    simp [freshnessCandidate]
  rw [freshnessRuntimeValidate_active active]
  refine ⟨?_, bound, identity, fun _ => nonzero, epochValid, epoch, flagged, nonzero⟩
  simp only [freshnessCandidate, not_or]
  exact ⟨identityFlag, by decide, epochFlag, by decide⟩

theorem freshnessEvaluateAndApply_cases (policy : FreshnessPolicy) (runtime : FreshnessRuntime)
    (message : PreFreshnessCompatibleMessage) :
    (freshnessEvaluateAndApply policy runtime message =
        ((freshnessEvaluate policy runtime message).1, (freshnessEvaluate policy runtime message).2, runtime) ∧
      (freshnessEvaluate policy runtime message).2.decision ≠ .accept) ∨
    (runtime.Accepts policy message ∧ (freshnessEvaluate policy runtime message).2.decision = .accept ∧
      freshnessEvaluateAndApply policy runtime message =
        (.ok, { (freshnessEvaluate policy runtime message).2 with transitionApplied := 1 },
          freshnessCandidate runtime (freshnessEvaluate policy runtime message).2) ∧
      (freshnessEvaluate policy runtime message).1 = .ok ∧
      (freshnessEvaluate policy runtime message).2.observedSequence = message.sequence) := by
  by_cases failed : (freshnessEvaluateInternal policy runtime message).1 = .ok
  · have same : freshnessEvaluate policy runtime message = freshnessEvaluateInternal policy runtime message := by
      rw [freshnessEvaluate]
      simp only [failed, ne_eq, not_true_eq_false, if_false]
    rw [same]
    by_cases accepted : (freshnessEvaluateInternal policy runtime message).2.decision = .accept
    · obtain ⟨accepts, -, observed⟩ := freshnessEvaluateInternal_accept accepted
      have valid := freshnessCandidate_valid accepts observed
      refine Or.inr ⟨accepts, accepted, ?_, failed, observed⟩
      simp only [freshnessEvaluateAndApply, failed, accepted, valid, ne_eq, not_true_eq_false, if_false]
    · refine Or.inl ⟨?_, accepted⟩
      simp only [freshnessEvaluateAndApply, failed, ne_eq, not_true_eq_false, if_false, accepted, not_false_eq_true,
        if_true]
  · refine Or.inl ?_
    have cleared : freshnessEvaluate policy runtime message =
        ((freshnessEvaluateInternal policy runtime message).1, zeroEvaluation) := by
      simp only [freshnessEvaluate, ne_eq, failed, not_false_eq_true, if_true]
    rw [cleared]
    refine ⟨?_, by simp [zeroEvaluation]⟩
    simp only [freshnessEvaluateAndApply, ne_eq, failed, not_false_eq_true, if_true]

structure FreshnessCall where
  policy : FreshnessPolicy
  message : PreFreshnessCompatibleMessage

def FreshnessRuntime.step (runtime : FreshnessRuntime) (call : FreshnessCall) : FreshnessRuntime :=
  (freshnessEvaluateAndApply call.policy runtime call.message).2.2

def FreshnessRuntime.after (runtime : FreshnessRuntime) (calls : List FreshnessCall) : FreshnessRuntime :=
  Run.after FreshnessRuntime.step calls runtime

def FreshnessRuntime.accepting (runtime : FreshnessRuntime) (call : FreshnessCall) : Bool :=
  (freshnessEvaluateAndApply call.policy runtime call.message).2.1.decision = .accept

def FreshnessRuntime.accepted (runtime : FreshnessRuntime) : List FreshnessCall → List FreshnessCall
  | [] => []
  | call :: calls =>
    if runtime.accepting call then call :: (runtime.step call).accepted calls else (runtime.step call).accepted calls

theorem FreshnessRuntime.step_cases (runtime : FreshnessRuntime) (call : FreshnessCall) :
    (runtime.accepting call = false ∧ runtime.step call = runtime) ∨
    (runtime.accepting call = true ∧ runtime.Accepts call.policy call.message ∧
      runtime.step call = freshnessCandidate runtime (freshnessEvaluate call.policy runtime call.message).2 ∧
      (runtime.step call).acceptedSequence = call.message.sequence) := by
  rcases freshnessEvaluateAndApply_cases call.policy runtime call.message with
    ⟨same, refused⟩ | ⟨accepts, accepted, same, -, observed⟩
  · left
    rw [FreshnessRuntime.accepting, FreshnessRuntime.step, same]
    exact ⟨decide_eq_false refused, rfl⟩
  · right
    rw [FreshnessRuntime.accepting, FreshnessRuntime.step, same]
    exact ⟨decide_eq_true accepted, accepts, rfl, observed⟩

theorem FreshnessRuntime.step_valid {runtime : FreshnessRuntime} (call : FreshnessCall)
    (valid : freshnessRuntimeValidate runtime = .ok) : freshnessRuntimeValidate (runtime.step call) = .ok := by
  rcases runtime.step_cases call with ⟨-, same⟩ | ⟨-, accepts, same, sequence⟩
  · rw [same]
    exact valid
  · rw [same]
    rw [same] at sequence
    exact freshnessCandidate_valid accepts sequence

theorem FreshnessRuntime.step_binding (runtime : FreshnessRuntime) (call : FreshnessCall) :
    (runtime.step call).identity = runtime.identity ∧ (runtime.step call).acceptedEpoch = runtime.acceptedEpoch ∧
      (runtime.step call).condition = runtime.condition := by
  rcases runtime.step_cases call with ⟨-, same⟩ | ⟨-, -, same, -⟩
  · rw [same]
    exact ⟨rfl, rfl, rfl⟩
  · rw [same]
    exact ⟨rfl, rfl, rfl⟩

theorem FreshnessRuntime.step_sequence (runtime : FreshnessRuntime) (call : FreshnessCall) :
    runtime.acceptedSequence ≤ (runtime.step call).acceptedSequence := by
  rcases runtime.step_cases call with ⟨-, same⟩ | ⟨-, accepts, -, sequence⟩
  · rw [same]
    exact BitVec.le_refl _
  · rw [sequence]
    exact BitVec.le_of_lt accepts.later

theorem FreshnessRuntime.after_valid {start : FreshnessRuntime} (valid : freshnessRuntimeValidate start = .ok)
    (calls : List FreshnessCall) : freshnessRuntimeValidate (start.after calls) = .ok := by
  have preserved : ∀ (runtime : FreshnessRuntime) call, freshnessRuntimeValidate runtime = .ok →
      freshnessRuntimeValidate (runtime.step call) = .ok := fun _ call => FreshnessRuntime.step_valid call
  exact Run.after_invariant preserved valid calls

theorem FreshnessRuntime.after_binding (start : FreshnessRuntime) (calls : List FreshnessCall) :
    (start.after calls).identity = start.identity ∧ (start.after calls).acceptedEpoch = start.acceptedEpoch ∧
      (start.after calls).condition = start.condition := by
  have preserved : ∀ (runtime : FreshnessRuntime) call,
      (runtime.identity = start.identity ∧ runtime.acceptedEpoch = start.acceptedEpoch ∧
        runtime.condition = start.condition) →
      ((runtime.step call).identity = start.identity ∧ (runtime.step call).acceptedEpoch = start.acceptedEpoch ∧
        (runtime.step call).condition = start.condition) := by
    intro runtime call binding
    obtain ⟨identity, epoch, condition⟩ := runtime.step_binding call
    exact ⟨identity.trans binding.1, epoch.trans binding.2.1, condition.trans binding.2.2⟩
  exact Run.after_invariant preserved ⟨rfl, rfl, rfl⟩ calls

theorem FreshnessRuntime.accepted_beyond (start : FreshnessRuntime) (calls : List FreshnessCall) :
    ∀ call ∈ start.accepted calls,
      call.message.senderEpoch = start.acceptedEpoch ∧ start.acceptedSequence < call.message.sequence := by
  induction calls generalizing start with
  | nil =>
    intro call member
    cases member
  | cons first calls ih =>
    have later : ∀ call ∈ (start.step first).accepted calls,
        call.message.senderEpoch = start.acceptedEpoch ∧ start.acceptedSequence < call.message.sequence := by
      intro call member
      obtain ⟨epoch, beyond⟩ := ih (start.step first) call member
      have sequence := start.step_sequence first
      rw [(start.step_binding first).2.1] at epoch
      exact ⟨epoch, by bv_omega⟩
    intro call member
    rw [FreshnessRuntime.accepted] at member
    rcases start.step_cases first with ⟨refused, -⟩ | ⟨accepted, accepts, -, -⟩
    · rw [refused] at member
      exact later call member
    · rw [accepted, if_pos rfl] at member
      rcases List.mem_cons.mp member with rfl | member
      · exact ⟨accepts.epoch, accepts.later⟩
      · exact later call member

theorem FreshnessRuntime.accepted_ordered (start : FreshnessRuntime) (calls : List FreshnessCall) :
    (start.accepted calls).Pairwise fun earlier later =>
      later.message.senderEpoch = earlier.message.senderEpoch ∧ earlier.message.sequence < later.message.sequence := by
  induction calls generalizing start with
  | nil => exact .nil
  | cons first calls ih =>
    rw [FreshnessRuntime.accepted]
    rcases start.step_cases first with ⟨refused, -⟩ | ⟨accepted, accepts, -, sequence⟩
    · rw [refused]
      exact ih (start.step first)
    · rw [accepted, if_pos rfl]
      refine .cons ?_ (ih (start.step first))
      intro later member
      obtain ⟨epoch, beyond⟩ := (start.step first).accepted_beyond calls later member
      rw [(start.step_binding first).2.1, ← accepts.epoch] at epoch
      rw [sequence] at beyond
      exact ⟨epoch, beyond⟩

theorem freshness_runs {start : FreshnessRuntime} (valid : freshnessRuntimeValidate start = .ok)
    (calls : List FreshnessCall) :
    let runtime := start.after calls
    freshnessRuntimeValidate runtime = .ok ∧ runtime.identity = start.identity ∧
      runtime.acceptedEpoch = start.acceptedEpoch ∧
      ((start.accepted calls).Pairwise fun earlier later =>
        later.message.senderEpoch = earlier.message.senderEpoch ∧ earlier.message.sequence < later.message.sequence) ∧
      ((start.accepted calls).map FreshnessCall.message).Nodup ∧
      ∀ policy message,
        let evaluated := freshnessEvaluate policy runtime message
        let applied := freshnessEvaluateAndApply policy runtime message
        applied.1 = evaluated.1 ∧ applied.2.1.decision = evaluated.2.decision ∧
        (applied.2.1.decision ≠ .accept → applied.2.2 = runtime) ∧
        (applied.2.1.decision = .accept →
          message.senderEpoch = runtime.acceptedEpoch ∧ applied.2.2.acceptedSequence = message.sequence ∧
          runtime.acceptedSequence.toNat < message.sequence.toNat ∧
          message.sequence.toNat - runtime.acceptedSequence.toNat ≤ policy.maxForwardGap.toNat) := by
  intro runtime
  have binding := start.after_binding calls
  have ordered := start.accepted_ordered calls
  refine ⟨FreshnessRuntime.after_valid valid calls, binding.1, binding.2.1, ordered, ?_, ?_⟩
  · rw [List.Nodup, List.pairwise_map]
    refine ordered.imp ?_
    rintro earlier later ⟨-, sequence⟩ same
    rw [same] at sequence
    exact absurd sequence (BitVec.lt_irrefl _)
  · intro policy message
    rcases freshnessEvaluateAndApply_cases policy runtime message with
      ⟨same, refused⟩ | ⟨accepts, accepted, same, ok, observed⟩
    · rw [same]
      exact ⟨rfl, rfl, fun _ => rfl, fun accepted => absurd accepted refused⟩
    · rw [same]
      refine ⟨ok.symm, rfl, fun refused => absurd accepted refused, fun _ => ⟨accepts.epoch, observed, accepts.later, ?_⟩⟩
      have later := accepts.later
      have gap := accepts.gap
      bv_omega

def nineAcceptedRuntime : FreshnessRuntime where
  condition := .active
  identity := ⟨1, 2, 3, signatureEd25519, .ofText [0x61], .ofText [0x62], .ofText [0x63]⟩
  observedEpoch := 7
  observedSequence := 9
  acceptedEpoch := 7
  acceptedSequence := 9
  identityValid := 1
  observationValid := 1
  acceptedEpochValid := 1
  acceptedSequenceValid := 1

/-- Sequence `sequence` of that epoch, under a gap of four. -/
def epochSevenCall (sequence : U32) : FreshnessCall where
  policy := ⟨4, 1⟩
  message := ⟨1, 2, 3, signatureEd25519, 7, sequence, .ofText [0x61], .ofText [0x62], .ofText [0x63]⟩

theorem freshness_runs_after_nine :
    freshnessRuntimeValidate (nineAcceptedRuntime.after [epochSevenCall 12, epochSevenCall 12, epochSevenCall 17]) = .ok ∧
      ((nineAcceptedRuntime.accepted [epochSevenCall 12, epochSevenCall 12, epochSevenCall 17]).map
        FreshnessCall.message) = [(epochSevenCall 12).message] :=
  ⟨(freshness_runs (by decide) [epochSevenCall 12, epochSevenCall 12, epochSevenCall 17]).1, by decide⟩

end Guardian.NodeLink
