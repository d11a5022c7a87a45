import Guardian.App.NodeLinkAdapter
import Guardian.NodeLink.FreshnessEvaluation

namespace Guardian.App

open Word Guardian.NodeLink

/-- What of a sequence of items, numbered from the given number on, is not lost. -/
def delivered {α : Type} (kept : Nat → Bool) : Nat → List α → List α
  | _, [] => []
  | number, item :: items =>
    if kept number then item :: delivered kept (number + 1) items else delivered kept (number + 1) items

/-- `frame` as it is authenticated under `identity`. -/
def authenticatedFrame (identity : FreshnessIdentity) (frame : NodeLinkFrame) : PreFreshnessCompatibleMessage where
  senderNodeId := frame.senderNodeId
  producerId := identity.producerId
  keyId := identity.keyId
  signatureAlgorithm := identity.signatureAlgorithm
  senderEpoch := frame.senderEpoch
  sequence := frame.sequence
  producerSemanticProfileId := identity.producerSemanticProfileId
  consumerSemanticProfileId := identity.consumerSemanticProfileId
  compatibilityContractId := identity.compatibilityContractId

/-- The evaluator is active for an identity, up to the unused bytes of its references, in an epoch. -/
structure ListensTo (identity : FreshnessIdentity) (epoch : U32) (runtime : FreshnessRuntime) : Prop where
  valid : freshnessRuntimeValidate runtime = .ok
  active : runtime.condition = .active
  identity : runtime.identity.canonical = identity.canonical
  epoch : runtime.acceptedEpoch = epoch

theorem ListensTo.step {identity : FreshnessIdentity} {epoch : U32} {runtime : FreshnessRuntime}
    (listens : ListensTo identity epoch runtime) (call : FreshnessCall) :
    ListensTo identity epoch (runtime.step call) := by
  obtain ⟨same, accepted, condition⟩ := runtime.step_binding call
  refine ⟨FreshnessRuntime.step_valid call listens.valid, ?_, ?_, ?_⟩
  · rw [condition]
    exact listens.active
  · rw [same]
    exact listens.identity
  · rw [accepted]
    exact listens.epoch

theorem freshnessCopyRef_valid {reference : SemanticRef} (valid : freshnessRefValid reference = true) :
    freshnessCopyRef reference = some reference.canonical := by
  rw [freshnessCopyRef, valid]
  rfl

theorem freshnessIdentityFromMessage_authenticated {identity : FreshnessIdentity} {frame : NodeLinkFrame}
    (sound : freshnessIdentityStructurallyValid identity = true) (sender : frame.senderNodeId = identity.senderNodeId)
    (sequence : frame.sequence ≠ 0) (epoch : frame.senderEpoch ≠ 0) :
    freshnessIdentityFromMessage (authenticatedFrame identity frame) = some identity.canonical := by
  obtain ⟨node, producer, key, algorithm, producerRef, consumerRef, contractRef⟩ :=
    (freshnessIdentityStructurallyValid_iff identity).mp sound
  simp only [freshnessIdentityFromMessage, authenticatedFrame, sender, node, producer, key, algorithm, sequence, epoch,
    producerRef, consumerRef, contractRef, freshnessCopyRef_valid, ne_eq, not_true_eq_false, or_self, if_false,
    Bool.not_true, Bool.false_eq_true, Option.bind_eq_bind, Option.bind_some]
  rw [FreshnessIdentity.canonical, algorithm]

theorem ListensTo.accepts {identity : FreshnessIdentity} {epoch : U32} {runtime : FreshnessRuntime}
    (listens : ListensTo identity epoch runtime) {policy : FreshnessPolicy} (configured : policy.configured = 1)
    {frame : NodeLinkFrame} (sender : frame.senderNodeId = identity.senderNodeId) (same : frame.senderEpoch = epoch)
    (later : runtime.acceptedSequence.toNat < frame.sequence.toNat)
    (gap : frame.sequence.toNat ≤ runtime.acceptedSequence.toNat + policy.maxForwardGap.toNat) :
    runtime.accepting ⟨policy, authenticatedFrame identity frame⟩ = true := by
  obtain ⟨-, -, structural, -, -, epochSet, -, -⟩ := (freshnessRuntimeValidate_active listens.active).mp listens.valid
  have sound : freshnessIdentityStructurallyValid identity = true := by
    rw [← freshnessIdentityStructurallyValid_canonical, ← listens.identity, freshnessIdentityStructurallyValid_canonical]
    exact structural
  have bound := frame.sequence.isLt
  have sequence : frame.sequence ≠ 0 := by bv_omega
  have positive : policy.maxForwardGap ≠ 0 := by bv_omega
  have started : frame.senderEpoch ≠ 0 := by
    rw [same, ← listens.epoch]
    exact epochSet
  have read := freshnessIdentityFromMessage_authenticated sound sender sequence started
  have equal : freshnessIdentityEqual runtime.identity identity.canonical = true := by
    rw [freshnessIdentityEqual_iff, FreshnessIdentity.canonical_canonical]
    exact listens.identity
  have decision : freshnessDecideActive policy runtime (authenticatedFrame identity frame) identity.canonical =
      .accept := by
    have unfinished : runtime.acceptedSequence ≠ BitVec.allOnes 32 := by
      intro full
      rw [full, BitVec.toNat_allOnes] at later
      omega
    have number : (authenticatedFrame identity frame).sequence = frame.sequence := rfl
    have inEpoch : (authenticatedFrame identity frame).senderEpoch = runtime.acceptedEpoch := same.trans listens.epoch.symm
    have fresh : frame.sequence ≠ runtime.acceptedSequence := by bv_omega
    have above : ¬ frame.sequence < runtime.acceptedSequence := by bv_omega
    have near : ¬ policy.maxForwardGap < frame.sequence - runtime.acceptedSequence := by bv_omega
    rw [freshnessDecideActive, equal, if_neg (by decide), if_neg unfinished, if_neg (not_not.mpr inEpoch), number,
      if_neg fresh, if_neg above, if_neg near]
  have internal : (freshnessEvaluateInternal policy runtime (authenticatedFrame identity frame)).1 = .ok ∧
      (freshnessEvaluateInternal policy runtime (authenticatedFrame identity frame)).2.decision = .accept := by
    have enabled : ¬ (policy.configured ≠ 1 ∨ policy.maxForwardGap = 0) :=
      not_or.mpr ⟨not_not.mpr configured, positive⟩
    rw [freshnessEvaluateInternal, if_neg enabled, if_neg (not_not.mpr listens.valid), read]
    simp only [listens.active, decision, and_self]
  rcases freshnessEvaluateAndApply_cases policy runtime (authenticatedFrame identity frame) with
    ⟨-, refused⟩ | ⟨-, accepted, applied, -, -⟩
  · have same : freshnessEvaluate policy runtime (authenticatedFrame identity frame) =
        freshnessEvaluateInternal policy runtime (authenticatedFrame identity frame) := by
      simp only [freshnessEvaluate, internal.1, ne_eq, not_true_eq_false, if_false]
    rw [same] at refused
    exact absurd internal.2 refused
  · rw [FreshnessRuntime.accepting, applied]
    exact decide_eq_true accepted

section Delivery

variable {identity : FreshnessIdentity} {epoch : U32} {policy : FreshnessPolicy} {kept : Nat → Bool}

/-- Of any `gap` frames in a row after number `start`, one arrives. -/
def FewLost (kept : Nat → Bool) (start gap total : Nat) : Prop :=
  ∀ number, start ≤ number → number + gap ≤ total →
    ∃ arrived, number < arrived ∧ arrived ≤ number + gap ∧ kept arrived = true

/-- Frame `number` comes next, and nothing after the accepted frame has arrived before it. -/
structure Waiting (identity : FreshnessIdentity) (epoch : U32) (kept : Nat → Bool) (start number : Nat)
    (runtime : FreshnessRuntime) : Prop where
  listens : ListensTo identity epoch runtime
  started : start ≤ runtime.acceptedSequence.toNat
  accepted : runtime.acceptedSequence.toNat = start ∨ runtime.acceptedSequence.toNat < number
  lost : ∀ between, runtime.acceptedSequence.toNat < between → between < number → kept between = false

theorem Waiting.miss {start number : Nat} {runtime : FreshnessRuntime}
    (waiting : Waiting identity epoch kept start number runtime) (missed : kept number = false) :
    Waiting identity epoch kept start (number + 1) runtime := by
  refine ⟨waiting.listens, waiting.started, ?_, ?_⟩
  · have accepted := waiting.accepted
    omega
  · intro between above below
    by_cases last : between = number
    · rw [last]
      exact missed
    · exact waiting.lost between above (by omega)

theorem Waiting.arrive {start total : Nat} {runtime : FreshnessRuntime} {frame : NodeLinkFrame}
    (waiting : Waiting identity epoch kept start frame.sequence.toNat runtime) (configured : policy.configured = 1)
    (few : FewLost kept start policy.maxForwardGap.toNat total) (within : frame.sequence.toNat ≤ total)
    (sender : frame.senderNodeId = identity.senderNodeId) (same : frame.senderEpoch = epoch) :
    Waiting identity epoch kept start (frame.sequence.toNat + 1)
        (runtime.step ⟨policy, authenticatedFrame identity frame⟩) ∧
      (start < frame.sequence.toNat → runtime.accepting ⟨policy, authenticatedFrame identity frame⟩ = true) := by
  have started := waiting.started
  have accepted := waiting.accepted
  have accepting : start < frame.sequence.toNat →
      runtime.accepting ⟨policy, authenticatedFrame identity frame⟩ = true := by
    intro beyond
    apply waiting.listens.accepts configured sender same (by omega)
    by_contra far
    obtain ⟨arrived, above, near, present⟩ := few runtime.acceptedSequence.toNat started (by omega)
    rw [waiting.lost arrived above (by omega)] at present
    cases present
  refine ⟨?_, accepting⟩
  have listens := waiting.listens.step ⟨policy, authenticatedFrame identity frame⟩
  rcases runtime.step_cases ⟨policy, authenticatedFrame identity frame⟩ with ⟨refused, kept_⟩ | ⟨-, accepts, -, sequence⟩
  · have early : ¬ start < frame.sequence.toNat := by
      intro beyond
      rw [accepting beyond] at refused
      cases refused
    rw [kept_]
    refine ⟨waiting.listens, started, by omega, ?_⟩
    intro between above below
    omega
  · have advanced : (runtime.step ⟨policy, authenticatedFrame identity frame⟩).acceptedSequence.toNat =
        frame.sequence.toNat := congrArg BitVec.toNat sequence
    have later : runtime.acceptedSequence.toNat < frame.sequence.toNat := accepts.later
    refine ⟨listens, ?_, ?_, ?_⟩
    · omega
    · omega
    · intro between above below
      omega

theorem Waiting.all {start total number : Nat} {runtime : FreshnessRuntime} {frames : List NodeLinkFrame}
    (waiting : Waiting identity epoch kept start number runtime) (configured : policy.configured = 1)
    (few : FewLost kept start policy.maxForwardGap.toNat total) (within : number + frames.length = total + 1)
    (numbered : frames.map (fun frame => frame.sequence.toNat) = List.range' number frames.length)
    (sender : ∀ frame ∈ frames, frame.senderNodeId = identity.senderNodeId ∧ frame.senderEpoch = epoch)
    {earlier later : List NodeLinkFrame} {frame : NodeLinkFrame}
    (split : delivered kept number frames = earlier ++ frame :: later) (beyond : start < frame.sequence.toNat) :
    (runtime.after (earlier.map fun frame => ⟨policy, authenticatedFrame identity frame⟩)).accepting
      ⟨policy, authenticatedFrame identity frame⟩ = true := by
  induction frames generalizing number runtime earlier with
  | nil => simp [delivered] at split
  | cons first frames ih =>
    rw [List.map_cons, List.length_cons, List.range'_succ, List.cons.injEq] at numbered
    obtain ⟨rfl, numbered⟩ := numbered
    rw [List.length_cons] at within
    have others := fun frame member => sender frame (List.mem_cons_of_mem first member)
    rw [delivered] at split
    cases arrives : kept first.sequence.toNat with
    | false =>
      rw [arrives] at split
      exact ih (waiting.miss arrives) (by omega) numbered others split
    | true =>
      rw [arrives, if_pos rfl] at split
      obtain ⟨node, same⟩ := sender first List.mem_cons_self
      obtain ⟨next, accepting⟩ := waiting.arrive configured few (by omega) node same
      cases earlier with
      | nil =>
        obtain ⟨rfl, -⟩ := List.cons.inj split
        exact accepting beyond
      | cons head earlier =>
        obtain ⟨rfl, rest⟩ := List.cons.inj split
        exact ih next (by omega) numbered others rest

end Delivery

/-- The frames that the transport accepts are numbered without gaps, and whoever listens in their epoch and misses
fewer than its gap of them at a time accepts all that arrive. -/
theorem nodelink_sequences_agree {before adapter : NodeLinkAdapter} {nodeId epoch : U32}
    (initialized : f401NodelinkAdapterInit before nodeId epoch = (.ok, adapter)) (calls : List NodeLinkAdapterCall) :
    ∃ frames : List NodeLinkFrame,
      (∀ previous, ((NodeLinkSender.mk adapter []).after calls).sent.map (nodeLinkDecode · previous) =
        frames.map fun frame => (.ok, frame)) ∧
      (∀ frame ∈ frames, frame.senderNodeId = nodeId ∧ frame.senderEpoch = epoch) ∧
      frames.map (fun frame => frame.sequence.toNat) = List.range' 1 frames.length ∧ frames.length < 2 ^ 32 ∧
      ∀ (policy : FreshnessPolicy) (runtime : FreshnessRuntime) (identity : FreshnessIdentity) (kept : Nat → Bool),
        policy.configured = 1 → identity.senderNodeId = nodeId → ListensTo identity epoch runtime →
        FewLost kept runtime.acceptedSequence.toNat policy.maxForwardGap.toNat frames.length →
        ∀ earlier frame later, delivered kept 1 frames = earlier ++ frame :: later →
          runtime.acceptedSequence.toNat < frame.sequence.toNat →
          (runtime.after (earlier.map fun frame => ⟨policy, authenticatedFrame identity frame⟩)).accepting
            ⟨policy, authenticatedFrame identity frame⟩ = true := by
  have sound := (f401NodelinkAdapterInit_sound initialized).after calls
  obtain ⟨frames, numbered, sent⟩ := sound.frames
  have bounded := sound.last
  rw [sent, List.length_map] at bounded
  refine ⟨frames, ?_, numbered.sender, numbered.numbered, bounded, ?_⟩
  · intro previous
    rw [sent, List.map_map]
    apply List.map_congr_left
    intro frame member
    obtain ⟨encodable, cells, size⟩ := numbered.encodable frame member
    have body : frame.body = [] := by simp [NodeLinkFrame.body, size]
    rw [Function.comp_apply, nodeLinkDecode_wire encodable, body, ← cells]
  · intro policy runtime identity kept configured node listens few earlier frame later split beyond
    have waiting : Waiting identity epoch kept runtime.acceptedSequence.toNat 1 runtime := by
      refine ⟨listens, Nat.le_refl _, Or.inl rfl, ?_⟩
      intro between above below
      omega
    apply waiting.all configured few (by omega) numbered.numbered _ split beyond
    intro frame member
    rw [node]
    exact numbered.sender frame member

def startedAdapter : NodeLinkAdapter := (f401NodelinkAdapterInit ⟨false, 0, 0, 0, 0, 0, 0, 0, 0⟩ 1 7).2

def threeHellos : List NodeLinkAdapterCall := [.setTransport true, .sendHello true, .sendHello false, .sendHello true]

def oneAcceptedRuntime : FreshnessRuntime := { nineAcceptedRuntime with observedSequence := 1, acceptedSequence := 1 }

/-- The second of two frames is accepted, whether or not the first one, a duplicate, arrives before it. -/
theorem nodelink_sequences_agree_example :
    ∃ first second : NodeLinkFrame,
      ((NodeLinkSender.mk startedAdapter []).after threeHellos).sent.map (nodeLinkDecode · first) =
        [(.ok, first), (.ok, second)] ∧
      second.sequence.toNat = 2 ∧
      (oneAcceptedRuntime.after [⟨⟨4, 1⟩, authenticatedFrame oneAcceptedRuntime.identity first⟩]).accepting
        ⟨⟨4, 1⟩, authenticatedFrame oneAcceptedRuntime.identity second⟩ = true := by
  obtain ⟨frames, decoded, -, numbered, -, accepted⟩ := @nodelink_sequences_agree ⟨false, 0, 0, 0, 0, 0, 0, 0, 0⟩
    startedAdapter 1 7 rfl threeHellos
  have two : frames.length = 2 := by
    have lengths := congrArg List.length (decoded (startedAdapter.nextFrame 0))
    rw [List.length_map, List.length_map] at lengths
    rw [← lengths]
    decide +kernel
  match frames, two with
  | [first, second], _ =>
    have sequences : first.sequence.toNat = 1 ∧ second.sequence.toNat = 2 := by
      simpa [List.range'_succ] using numbered
    refine ⟨first, second, decoded first, sequences.2, ?_⟩
    refine accepted ⟨4, 1⟩ oneAcceptedRuntime oneAcceptedRuntime.identity (fun _ => true) rfl rfl
      ⟨by decide, rfl, rfl, rfl⟩ ?_ [first] second [] rfl ?_
    · intro number _ few
      exact ⟨number + 1, by omega, by simp, rfl⟩
    · rw [sequences.2]
      decide

end Guardian.App
