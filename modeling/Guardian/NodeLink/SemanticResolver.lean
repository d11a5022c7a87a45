import Mathlib.Data.List.Forall2
import Guardian.NodeLink.FreshnessEvaluation
import Guardian.NodeLink.NodeLinkAuth

namespace Guardian.NodeLink

open Word ByteString

def semanticMaxBindings : Nat := 8

inductive CompatProviderResult
  | compatible
  | incompatible
  | unknown
  | unsupported
  | historicallyImpossible
  | contextIncomplete
  | unavailable
  | failure
  deriving DecidableEq, Repr

inductive SemanticResult
  | ok
  | errorUnconfigured
  | errorBindingMissing
  | errorBindingAmbiguous
  | errorContextIncomplete
  | errorIncompatible
  | errorUnknown
  | errorUnsupported
  | errorHistoricallyImpossible
  | errorProviderUnavailable
  | errorProviderFailure
  deriving DecidableEq, Repr

/-- The producer's and the consumer's profile and the protocol version, to a result and what is left in the buffer of
    the contract. -/
abbrev ResolvePreFreshnessCompatibility := List U8 → List U8 → U8 → CompatProviderResult × SemanticRef

/-- A profile that is `none` is a null pointer. -/
structure SemanticBindingConfig where
  senderNodeId : U32
  producerId : U32
  keyId : U32
  signatureAlgorithm : U8
  producerSemanticProfileId : Option (List U8)

structure SemanticBinding where
  senderNodeId : U32
  producerId : U32
  keyId : U32
  signatureAlgorithm : U8
  producerSemanticProfileId : SemanticRef
  deriving DecidableEq

structure SemanticConfig where
  resolvePreFreshnessCompatibility : Option ResolvePreFreshnessCompatibility
  consumerSemanticProfileId : Option (List U8)
  bindings : List SemanticBindingConfig

/-- `bindings` are the first `binding_count` entries. -/
structure SemanticResolver where
  resolvePreFreshnessCompatibility : Option ResolvePreFreshnessCompatibility
  consumerSemanticProfileId : SemanticRef
  bindings : List SemanticBinding
  configured : U8

structure PreFreshnessCompatible where
  authenticatedMessage : NodeLinkAuthenticatedMessage
  producerSemanticProfileId : SemanticRef
  consumerSemanticProfileId : SemanticRef
  compatibilityContractId : SemanticRef
  deriving DecidableEq

def semanticResolverInit : SemanticResolver := ⟨none, zeroRef, [], 0⟩

/-- The string behind `source`, if there is one that is not empty and fits with its terminator. -/
def semanticSnapshotRef (source : Option (List U8)) : Option SemanticRef :=
  match source with
  | none => none
  | some bytes =>
    let text := cString bytes
    if text.length = 0 ∨ text.length ≥ 96 then none else some (SemanticRef.ofText text)

def semanticIdentityEqual (binding : SemanticBinding) (message : NodeLinkAuthenticatedMessage) : Bool :=
  binding.senderNodeId == message.frame.senderNodeId && binding.producerId == message.producerId &&
    binding.keyId == message.keyId && binding.signatureAlgorithm == message.signatureAlgorithm

def semanticMapProviderResult : CompatProviderResult → SemanticResult
  | .compatible => .ok
  | .incompatible => .errorIncompatible
  | .unknown => .errorUnknown
  | .unsupported => .errorUnsupported
  | .historicallyImpossible => .errorHistoricallyImpossible
  | .contextIncomplete => .errorContextIncomplete
  | .unavailable => .errorProviderUnavailable
  | .failure => .errorProviderFailure

def semanticConfigureBinding (existing : List SemanticBinding) (source : SemanticBindingConfig) :
    Except SemanticResult SemanticBinding :=
  if source.senderNodeId = 0 ∨ source.producerId = 0 ∨ source.keyId = 0 then .error .errorContextIncomplete
  else if source.signatureAlgorithm ≠ nodeLinkSignatureEd25519 then .error .errorUnsupported
  else match semanticSnapshotRef source.producerSemanticProfileId with
    | none => .error .errorContextIncomplete
    | some producerSemanticProfileId =>
      if existing.any fun binding => binding.senderNodeId == source.senderNodeId &&
          binding.producerId == source.producerId && binding.keyId == source.keyId &&
          binding.signatureAlgorithm == source.signatureAlgorithm then .error .errorBindingAmbiguous
      else .ok ⟨source.senderNodeId, source.producerId, source.keyId, source.signatureAlgorithm,
        producerSemanticProfileId⟩

def semanticConfigureBindings (existing : List SemanticBinding) :
    List SemanticBindingConfig → Except SemanticResult (List SemanticBinding)
  | [] => .ok existing
  | source :: rest => do
    let binding ← semanticConfigureBinding existing source
    semanticConfigureBindings (existing ++ [binding]) rest

def semanticResolverConfigure (config : SemanticConfig) : SemanticResult × SemanticResolver :=
  if config.resolvePreFreshnessCompatibility.isNone then (.errorUnconfigured, semanticResolverInit)
  else if config.bindings.length > semanticMaxBindings then (.errorUnconfigured, semanticResolverInit)
  else match semanticSnapshotRef config.consumerSemanticProfileId with
    | none => (.errorContextIncomplete, semanticResolverInit)
    | some consumerSemanticProfileId =>
      match semanticConfigureBindings [] config.bindings with
      | .error failure => (failure, { semanticResolverInit with consumerSemanticProfileId })
      | .ok bindings => (.ok, ⟨config.resolvePreFreshnessCompatibility, consumerSemanticProfileId, bindings, 1⟩)

def resolvePreFreshnessCompatibility (resolver : SemanticResolver) (authenticatedMessage : NodeLinkAuthenticatedMessage) :
    Except SemanticResult PreFreshnessCompatible :=
  if resolver.configured = 0 then .error .errorUnconfigured
  else match resolver.resolvePreFreshnessCompatibility with
    | none => .error .errorUnconfigured
    | some provider =>
      match resolver.bindings.filter (semanticIdentityEqual · authenticatedMessage) with
      | [] => .error .errorBindingMissing
      | [binding] =>
        let answer := provider (cString binding.producerSemanticProfileId.1)
          (cString resolver.consumerSemanticProfileId.1) nodeLinkVersion
        match semanticMapProviderResult answer.1 with
        | .ok =>
          match semanticSnapshotRef (some answer.2.1), semanticSnapshotRef (some binding.producerSemanticProfileId.1),
              semanticSnapshotRef (some resolver.consumerSemanticProfileId.1) with
          | some compatibilityContractId, some producerSemanticProfileId, some consumerSemanticProfileId =>
            .ok ⟨authenticatedMessage, producerSemanticProfileId, consumerSemanticProfileId, compatibilityContractId⟩
          | _, _, _ => .error .errorProviderFailure
        | failure => .error failure
      | _ => .error .errorBindingAmbiguous

def PreFreshnessCompatible.message (compatible : PreFreshnessCompatible) : PreFreshnessCompatibleMessage where
  senderNodeId := compatible.authenticatedMessage.frame.senderNodeId
  producerId := compatible.authenticatedMessage.producerId
  keyId := compatible.authenticatedMessage.keyId
  signatureAlgorithm := compatible.authenticatedMessage.signatureAlgorithm
  senderEpoch := compatible.authenticatedMessage.frame.senderEpoch
  sequence := compatible.authenticatedMessage.frame.sequence
  producerSemanticProfileId := compatible.producerSemanticProfileId
  consumerSemanticProfileId := compatible.consumerSemanticProfileId
  compatibilityContractId := compatible.compatibilityContractId

/-- A reference as a snapshot leaves it: a text that freshness takes, with zeros after it. -/
structure SemanticRef.Snapshot (reference : SemanticRef) : Prop where
  valid : freshnessRefValid reference = true
  canonical : reference.canonical = reference

theorem semanticSnapshotRef_some {source : Option (List U8)} {reference : SemanticRef}
    (taken : semanticSnapshotRef source = some reference) :
    ∃ bytes, source = some bytes ∧ cString reference.1 = cString bytes ∧ reference.Snapshot := by
  cases source with
  | none => cases taken
  | some bytes =>
    simp only [semanticSnapshotRef] at taken
    split_ifs at taken with bad
    cases taken
    have noNul := cString_no_nul bytes
    have read : cString (SemanticRef.ofText (cString bytes)).1 = cString bytes := by
      simp only [SemanticRef.ofText, List.take_of_length_le (show (cString bytes).length ≤ 96 by omega)]
      exact cString_padded noNul _
    refine ⟨bytes, rfl, read, ?_, SemanticRef.ofText_canonical (by omega) noNul⟩
    simp only [freshnessRefValid, read, Bool.and_eq_true, bne_iff_ne, ne_eq, decide_eq_true_eq]
    omega

theorem semanticSnapshotRef_self {reference : SemanticRef} (snapshot : reference.Snapshot) :
    semanticSnapshotRef (some reference.1) = some reference := by
  have valid := snapshot.valid
  simp only [freshnessRefValid, Bool.and_eq_true, bne_iff_ne, ne_eq, decide_eq_true_eq] at valid
  simp only [semanticSnapshotRef, ge_iff_le]
  rw [if_neg (by omega)]
  exact congrArg some snapshot.canonical

/-- The configured bindings: each is complete, and no two have the same identity. -/
structure SemanticBinding.Complete (binding : SemanticBinding) : Prop where
  sender : binding.senderNodeId ≠ 0
  producer : binding.producerId ≠ 0
  key : binding.keyId ≠ 0
  algorithm : binding.signatureAlgorithm = nodeLinkSignatureEd25519
  profile : binding.producerSemanticProfileId.Snapshot

def SemanticBinding.SameIdentity (left right : SemanticBinding) : Prop :=
  left.senderNodeId = right.senderNodeId ∧ left.producerId = right.producerId ∧ left.keyId = right.keyId ∧
    left.signatureAlgorithm = right.signatureAlgorithm

structure SemanticBinding.Of (binding : SemanticBinding) (source : SemanticBindingConfig) : Prop where
  identity : binding.senderNodeId = source.senderNodeId ∧ binding.producerId = source.producerId ∧
    binding.keyId = source.keyId ∧ binding.signatureAlgorithm = source.signatureAlgorithm
  profile : semanticSnapshotRef source.producerSemanticProfileId = some binding.producerSemanticProfileId

structure SemanticResolver.Ready (resolver : SemanticResolver) (config : SemanticConfig) : Prop where
  provider : resolver.resolvePreFreshnessCompatibility = config.resolvePreFreshnessCompatibility ∧
    config.resolvePreFreshnessCompatibility.isSome = true
  configured : resolver.configured = 1
  consumer : semanticSnapshotRef config.consumerSemanticProfileId = some resolver.consumerSemanticProfileId
  bindings : List.Forall₂ (fun source binding => SemanticBinding.Of binding source) config.bindings resolver.bindings
  complete : ∀ binding ∈ resolver.bindings, binding.Complete
  distinct : resolver.bindings.Pairwise fun left right => ¬ left.SameIdentity right

theorem semanticConfigureBinding_ok {existing : List SemanticBinding} {source : SemanticBindingConfig}
    {binding : SemanticBinding} (made : semanticConfigureBinding existing source = .ok binding) :
    SemanticBinding.Of binding source ∧ binding.Complete ∧ ∀ other ∈ existing, ¬ other.SameIdentity binding := by
  unfold semanticConfigureBinding at made
  obtain ⟨zero, made⟩ := Check.accepted made
  obtain ⟨algorithm, made⟩ := Check.accepted made
  cases taken : semanticSnapshotRef source.producerSemanticProfileId with
  | none => simp [taken] at made
  | some profile =>
    simp only [taken] at made
    obtain ⟨fresh, made⟩ := Check.accepted made
    cases made
    obtain ⟨-, -, -, snapshot⟩ := semanticSnapshotRef_some taken
    simp only [not_or] at zero
    refine ⟨⟨⟨rfl, rfl, rfl, rfl⟩, taken⟩, ⟨zero.1, zero.2.1, zero.2.2, not_not.mp algorithm, snapshot⟩, ?_⟩
    intro other member same
    simp only [List.any_eq_true, Bool.and_eq_true, beq_iff_eq, not_exists, not_and] at fresh
    exact fresh other member ⟨⟨same.1, same.2.1⟩, same.2.2.1⟩ same.2.2.2

theorem semanticConfigureBindings_error {sources : List SemanticBindingConfig} {existing : List SemanticBinding}
    {failure : SemanticResult} (refused : semanticConfigureBindings existing sources = .error failure) :
    failure ≠ .ok := by
  induction sources generalizing existing with
  | nil => cases refused
  | cons source sources ih =>
    rw [semanticConfigureBindings] at refused
    cases one : semanticConfigureBinding existing source with
    | ok binding =>
      rw [one] at refused
      exact ih refused
    | error other =>
      rw [one] at refused
      cases refused
      unfold semanticConfigureBinding at one
      split at one
      · cases one
        decide
      split at one
      · cases one
        decide
      split at one
      · cases one
        decide
      split at one
      · cases one
        decide
      · cases one

theorem semanticConfigureBindings_ok {sources : List SemanticBindingConfig} {existing bindings : List SemanticBinding}
    (complete : ∀ binding ∈ existing, binding.Complete)
    (distinct : existing.Pairwise fun left right => ¬ left.SameIdentity right)
    (made : semanticConfigureBindings existing sources = .ok bindings) :
    (∃ added, bindings = existing ++ added ∧
      List.Forall₂ (fun source binding => SemanticBinding.Of binding source) sources added) ∧
      (∀ binding ∈ bindings, binding.Complete) ∧
      bindings.Pairwise fun left right => ¬ left.SameIdentity right := by
  induction sources generalizing existing with
  | nil =>
    cases made
    exact ⟨⟨[], by simp, .nil⟩, complete, distinct⟩
  | cons source sources ih =>
    obtain ⟨binding, one, made⟩ := Check.bound.mp made
    obtain ⟨origin, whole, fresh⟩ := semanticConfigureBinding_ok one
    obtain ⟨⟨added, rfl, origins⟩, rest⟩ := ih
      (by simpa [or_imp, forall_and] using ⟨complete, whole⟩)
      (by simpa [List.pairwise_append] using ⟨distinct, fresh⟩) made
    exact ⟨⟨binding :: added, by simp, .cons origin origins⟩, rest⟩

theorem semanticResolverConfigure_ok {config : SemanticConfig} {resolver : SemanticResolver}
    (configured : semanticResolverConfigure config = (.ok, resolver)) : resolver.Ready config := by
  unfold semanticResolverConfigure at configured
  obtain ⟨provider, configured⟩ := Check.passed configured (by simp)
  obtain ⟨-, configured⟩ := Check.passed configured (by simp)
  cases taken : semanticSnapshotRef config.consumerSemanticProfileId with
  | none => simp [taken] at configured
  | some consumer =>
    cases made : semanticConfigureBindings [] config.bindings with
    | error failure =>
      simp only [taken, made, Prod.mk.injEq] at configured
      exact absurd configured.1 (semanticConfigureBindings_error made)
    | ok bindings =>
      simp only [taken, made, Prod.mk.injEq, true_and] at configured
      subst configured
      obtain ⟨⟨added, rfl, origins⟩, complete, distinct⟩ := semanticConfigureBindings_ok (by simp) .nil made
      exact ⟨⟨rfl, by simpa [Option.isSome_iff_ne_none] using provider⟩, rfl, taken, by simpa using origins, complete, distinct⟩

theorem filter_matching {resolver : SemanticResolver} {config : SemanticConfig} (ready : resolver.Ready config)
    (message : NodeLinkAuthenticatedMessage) :
    resolver.bindings.filter (semanticIdentityEqual · message) = [] ∨
      ∃ binding, resolver.bindings.filter (semanticIdentityEqual · message) = [binding] := by
  have distinct : resolver.bindings.Pairwise fun left right =>
      semanticIdentityEqual left message → ¬ semanticIdentityEqual right message := by
    refine ready.distinct.imp fun {left right} apart first second => apart ?_
    simp only [semanticIdentityEqual, Bool.and_eq_true, beq_iff_eq] at first second
    simp [SemanticBinding.SameIdentity, first, second]
  cases found : resolver.bindings.find? (semanticIdentityEqual · message) with
  | none => exact Or.inl (by simpa [List.find?_eq_none] using found)
  | some binding => exact Or.inr ⟨binding, found_alone distinct found⟩

def SemanticBindingConfig.matching (source : SemanticBindingConfig) (message : NodeLinkAuthenticatedMessage) : Bool :=
  source.senderNodeId == message.frame.senderNodeId && source.producerId == message.producerId &&
    source.keyId == message.keyId && source.signatureAlgorithm == message.signatureAlgorithm

theorem matching_filter {sources : List SemanticBindingConfig} {bindings : List SemanticBinding}
    (origins : List.Forall₂ (fun source binding => SemanticBinding.Of binding source) sources bindings)
    (message : NodeLinkAuthenticatedMessage) :
    List.Forall₂ (fun source binding => SemanticBinding.Of binding source) (sources.filter (·.matching message))
      (bindings.filter (semanticIdentityEqual · message)) := by
  induction origins with
  | nil => exact .nil
  | @cons source binding _ _ origin _ ih =>
    have same : source.matching message = semanticIdentityEqual binding message := by
      simp only [SemanticBindingConfig.matching, semanticIdentityEqual, origin.identity]
    by_cases hit : semanticIdentityEqual binding message = true
    · simpa [List.filter_cons, same, hit] using ⟨origin, ih⟩
    · simpa [List.filter_cons, same, hit] using ih

def profileText (source : Option (List U8)) : List U8 := (source.map cString).getD []

theorem profileText_snapshot {source : Option (List U8)} {reference : SemanticRef}
    (taken : semanticSnapshotRef source = some reference) : cString reference.1 = profileText source := by
  obtain ⟨bytes, rfl, text, -⟩ := semanticSnapshotRef_some taken
  exact text

structure PreFreshnessCompatible.Resolved (compatible : PreFreshnessCompatible) (config : SemanticConfig)
    (message : NodeLinkAuthenticatedMessage) (source : SemanticBindingConfig) : Prop where
  sent : compatible.authenticatedMessage = message
  only : config.bindings.filter (·.matching message) = [source]
  producer : semanticSnapshotRef source.producerSemanticProfileId = some compatible.producerSemanticProfileId
  consumer : semanticSnapshotRef config.consumerSemanticProfileId = some compatible.consumerSemanticProfileId
  answer : ∃ provider, config.resolvePreFreshnessCompatibility = some provider ∧
    let answer := provider (profileText source.producerSemanticProfileId) (profileText config.consumerSemanticProfileId)
      nodeLinkVersion
    answer.1 = .compatible ∧ semanticSnapshotRef (some answer.2.1) = some compatible.compatibilityContractId

/-- After a successful configuration a message is resolved exactly when one configured binding has its identity, the
    provider calls the two configured profiles compatible, and it names a contract. The binding is never ambiguous, and
    it is missing exactly when no configured binding has that identity. -/
theorem semantic_resolution_exact {config : SemanticConfig} {resolver : SemanticResolver}
    (configured : semanticResolverConfigure config = (.ok, resolver)) (message : NodeLinkAuthenticatedMessage) :
    (∀ compatible, resolvePreFreshnessCompatibility resolver message = .ok compatible ↔
      ∃ source, compatible.Resolved config message source) ∧
    (resolvePreFreshnessCompatibility resolver message = .error .errorBindingMissing ↔
      ∀ source ∈ config.bindings, source.matching message = false) ∧
    resolvePreFreshnessCompatibility resolver message ≠ .error .errorBindingAmbiguous ∧
    resolvePreFreshnessCompatibility resolver message ≠ .error .errorUnconfigured := by
  have ready := semanticResolverConfigure_ok configured
  have origins := matching_filter ready.bindings message
  obtain ⟨provider, given⟩ := Option.isSome_iff_exists.mp ready.provider.2
  have asked := ready.provider.1.trans given
  have on : resolver.configured ≠ 0 := by simp [ready.configured]
  obtain ⟨-, -, -, consumer⟩ := semanticSnapshotRef_some ready.consumer
  unfold resolvePreFreshnessCompatibility
  simp only [if_neg on, asked]
  rcases filter_matching ready message with none | ⟨binding, one⟩
  · have nothing : config.bindings.filter (·.matching message) = [] := by
      rw [none] at origins
      exact List.forall₂_nil_right_iff.mp origins
    rw [none]
    refine ⟨fun compatible => ⟨fun made => (nomatch made), fun ⟨source, resolved⟩ => ?_⟩, ⟨fun _ => ?_, fun _ => rfl⟩,
      by simp, by simp⟩
    · cases nothing.symm.trans resolved.only
    · simpa [List.filter_eq_nil_iff] using nothing
  · obtain ⟨source, single, origin⟩ : ∃ source, config.bindings.filter (·.matching message) = [source] ∧
        SemanticBinding.Of binding source := by
      rw [one] at origins
      obtain ⟨source, rest, origin, empty, same⟩ := List.forall₂_cons_right_iff.mp origins
      rw [List.forall₂_nil_right_iff.mp empty] at same
      exact ⟨source, same, origin⟩
    have member : binding ∈ resolver.bindings := List.mem_of_mem_filter (one ▸ List.mem_singleton_self binding)
    have profile := (ready.complete binding member).profile
    have matched : source ∈ config.bindings ∧ source.matching message = true :=
      List.mem_filter.mp (single ▸ List.mem_singleton_self source)
    rw [one]
    simp only [profileText_snapshot origin.profile, profileText_snapshot ready.consumer,
      semanticSnapshotRef_self profile, semanticSnapshotRef_self consumer]
    generalize asked : provider (profileText source.producerSemanticProfileId)
      (profileText config.consumerSemanticProfileId) nodeLinkVersion = answer
    refine ⟨fun compatible => ⟨fun made => ⟨source, ?_⟩, fun ⟨other, resolved⟩ => ?_⟩, ⟨fun missing => ?_,
      fun missing => absurd (missing source matched.1) (by simp [matched.2])⟩, ?_, ?_⟩
    · cases result : answer.1 <;> simp only [result, semanticMapProviderResult, reduceCtorEq] at made
      cases contract : semanticSnapshotRef (some answer.2.1) with
      | none => simp [contract] at made
      | some contractId =>
        simp only [contract, Except.ok.injEq] at made
        subst made
        exact ⟨rfl, single, origin.profile, ready.consumer, provider, given, by rw [asked]; exact ⟨result, contract⟩⟩
    · obtain rfl : source = other := by simpa using single.symm.trans resolved.only
      obtain ⟨other, same, result, contract⟩ := resolved.answer
      obtain rfl : provider = other := Option.some.inj (given.symm.trans same)
      rw [asked] at result contract
      simp only [result, semanticMapProviderResult, contract, Except.ok.injEq]
      obtain ⟨sent, -, producer, consumer', -⟩ := resolved
      cases compatible
      simp only [PreFreshnessCompatible.mk.injEq]
      exact ⟨sent.symm, Option.some.inj (origin.profile.symm.trans producer), Option.some.inj (ready.consumer.symm.trans consumer'), by trivial⟩
    all_goals cases result : answer.1 <;> cases contract : semanticSnapshotRef (some answer.2.1) <;>
      simp_all [semanticMapProviderResult]

/-- The first of two nodes is bound to a profile that the provider accepts. -/
def firstNodeSemantics : SemanticConfig where
  resolvePreFreshnessCompatibility := some fun _ _ version =>
    (if version = nodeLinkVersion then .compatible else .unsupported, .ofText [0x63])
  consumerSemanticProfileId := some [0x62]
  bindings := [⟨1, 7, 9, nodeLinkSignatureEd25519, some [0x61]⟩]

def firstNodeResolver : SemanticResolver :=
  ⟨firstNodeSemantics.resolvePreFreshnessCompatibility, .ofText [0x62],
    [⟨1, 7, 9, nodeLinkSignatureEd25519, .ofText [0x61]⟩], 1⟩

theorem semantic_resolution_exact_first :
    semanticResolverConfigure firstNodeSemantics = (.ok, firstNodeResolver) ∧
      resolvePreFreshnessCompatibility firstNodeResolver ⟨sharedFrame, 7, 9, nodeLinkSignatureEd25519⟩ ≠
        .error .errorBindingAmbiguous :=
  ⟨rfl, (@semantic_resolution_exact firstNodeSemantics firstNodeResolver rfl ⟨sharedFrame, 7, 9, nodeLinkSignatureEd25519⟩).2.2.1⟩

structure NodeLinkReceiver where
  authenticator : NodeLinkAuthenticator
  resolver : SemanticResolver
  policy : FreshnessPolicy
  runtime : FreshnessRuntime

structure NodeLinkArrival where
  wire : List U8
  signature : List U8
  deriving DecidableEq

def emptyFrame : NodeLinkFrame := ⟨0, 0, 0, 0, 0, 0, 0, padded 64 []⟩

/-- The message that the stages before freshness make of an arrival. -/
def NodeLinkReceiver.screen (receiver : NodeLinkReceiver) (arrival : NodeLinkArrival) : Option PreFreshnessCompatible :=
  match nodeLinkDecode arrival.wire emptyFrame with
  | (.ok, frame) =>
    match nodeLinkAuthenticate receiver.authenticator frame arrival.signature with
    | .error _ => none
    | .ok message => (resolvePreFreshnessCompatibility receiver.resolver message).toOption
  | _ => none

def NodeLinkReceiver.evaluate (receiver : NodeLinkReceiver) (arrival : NodeLinkArrival) :
    Option (FreshnessResult × FreshnessEvaluation × FreshnessRuntime) :=
  (receiver.screen arrival).map fun compatible =>
    freshnessEvaluateAndApply receiver.policy receiver.runtime compatible.message

def NodeLinkReceiver.step (receiver : NodeLinkReceiver) (arrival : NodeLinkArrival) : NodeLinkReceiver :=
  match receiver.evaluate arrival with
  | none => receiver
  | some evaluated => { receiver with runtime := evaluated.2.2 }

def NodeLinkReceiver.accepting (receiver : NodeLinkReceiver) (arrival : NodeLinkArrival) : Bool :=
  match receiver.evaluate arrival with
  | none => false
  | some evaluated => evaluated.2.1.decision = .accept

def NodeLinkReceiver.accepted (receiver : NodeLinkReceiver) : List NodeLinkArrival → List NodeLinkArrival
  | [] => []
  | arrival :: arrivals =>
    if receiver.accepting arrival then arrival :: (receiver.step arrival).accepted arrivals
    else (receiver.step arrival).accepted arrivals

section Reception

variable {receiver : NodeLinkReceiver}

theorem screen_some {arrival : NodeLinkArrival} {compatible : PreFreshnessCompatible}
    (admitted : receiver.screen arrival = some compatible) :
    ∃ frame message, nodeLinkDecode arrival.wire emptyFrame = (.ok, frame) ∧ frame.wire = arrival.wire ∧
      nodeLinkAuthenticate receiver.authenticator frame arrival.signature = .ok message ∧ message.frame = frame ∧
      resolvePreFreshnessCompatibility receiver.resolver message = .ok compatible := by
  unfold NodeLinkReceiver.screen at admitted
  rcases decoded : nodeLinkDecode arrival.wire emptyFrame with ⟨result, frame⟩
  rw [decoded] at admitted
  cases result with
  | ok =>
    cases authenticated : nodeLinkAuthenticate receiver.authenticator frame arrival.signature with
    | error failure => simp [authenticated] at admitted
    | ok message =>
      cases resolved : resolvePreFreshnessCompatibility receiver.resolver message with
      | error failure => simp [authenticated, resolved, Except.toOption] at admitted
      | ok found =>
        simp only [authenticated, resolved, Except.toOption, Option.some.injEq] at admitted
        subst admitted
        obtain ⟨-, wire⟩ := nodeLinkDecode_ok decoded
        obtain ⟨_, _, -, -, -, same, -⟩ := nodeLinkAuthenticate_ok authenticated
        exact ⟨frame, message, rfl, wire, authenticated, by rw [same], resolved⟩
  | _ => simp at admitted

theorem receiver_step (receiver : NodeLinkReceiver) (arrival : NodeLinkArrival) :
    (receiver.accepting arrival = false ∧ receiver.step arrival = receiver) ∨
    ∃ compatible, receiver.screen arrival = some compatible ∧ receiver.accepting arrival = true ∧
      receiver.runtime.Accepts receiver.policy compatible.message ∧
      receiver.step arrival = { receiver with runtime := (receiver.step arrival).runtime } ∧
      (receiver.step arrival).runtime.identity = receiver.runtime.identity ∧
      (receiver.step arrival).runtime.acceptedEpoch = receiver.runtime.acceptedEpoch ∧
      (receiver.step arrival).runtime.acceptedSequence = compatible.message.sequence := by
  unfold NodeLinkReceiver.accepting NodeLinkReceiver.step NodeLinkReceiver.evaluate
  cases admitted : receiver.screen arrival with
  | none => exact Or.inl ⟨rfl, rfl⟩
  | some compatible =>
    simp only [Option.map_some]
    have stepped := receiver.runtime.step_cases ⟨receiver.policy, compatible.message⟩
    have binding := receiver.runtime.step_binding ⟨receiver.policy, compatible.message⟩
    rw [FreshnessRuntime.accepting, FreshnessRuntime.step] at stepped
    rw [FreshnessRuntime.step] at binding
    rcases stepped with ⟨refused, same⟩ | ⟨accepted, accepts, -, sequence⟩
    · exact Or.inl ⟨refused, by rw [same]⟩
    · exact Or.inr ⟨compatible, by trivial, accepted, accepts, by trivial, binding.1, binding.2.1, sequence⟩

/-- Where an accepted message comes from: the wire encodes its frame, one configured peer has its sender and signed
    its transcript, one configured binding has its identity, and its identity is that of the runtime. -/
structure NodeLinkReceiver.Genuine (authConfig : NodeLinkAuthConfig) (semanticConfig : SemanticConfig)
    (identity : FreshnessIdentity) (arrival : NodeLinkArrival) (compatible : PreFreshnessCompatible) : Prop where
  wire : compatible.authenticatedMessage.frame.wire = arrival.wire
  peer : ∃ verifySignature peer, authConfig.verifySignature = some verifySignature ∧
    authConfig.peers.filter (·.senderNodeId == compatible.authenticatedMessage.frame.senderNodeId) = [peer] ∧
    compatible.authenticatedMessage.producerId = peer.producerId ∧ compatible.authenticatedMessage.keyId = peer.keyId ∧
    verifySignature peer.signatureAlgorithm peer.producerId peer.keyId
      (compatible.authenticatedMessage.frame.binding peer.producerId peer.keyId).transcript arrival.signature = .verified
  resolved : ∃ source, compatible.Resolved semanticConfig compatible.authenticatedMessage source
  identity : freshnessIdentityFromMessage compatible.message = some identity

theorem freshnessCopyRef_snapshot {reference : SemanticRef} (snapshot : reference.Snapshot) :
    freshnessCopyRef reference = some reference := by
  have same := snapshot.canonical
  rw [SemanticRef.canonical] at same
  rw [freshnessCopyRef, snapshot.valid, same]
  rfl

theorem resolved_identity {config : SemanticConfig} {resolver : SemanticResolver} (ready : resolver.Ready config)
    {message : NodeLinkAuthenticatedMessage} {compatible : PreFreshnessCompatible} {source : SemanticBindingConfig}
    (sequence : message.frame.sequence ≠ 0) (epoch : message.frame.senderEpoch ≠ 0)
    (resolved : compatible.Resolved config message source) :
    ∃ identity, freshnessIdentityFromMessage compatible.message = some identity ∧ identity.canonical = identity := by
  obtain ⟨-, -, -, producer⟩ := semanticSnapshotRef_some resolved.producer
  obtain ⟨-, -, -, consumer⟩ := semanticSnapshotRef_some resolved.consumer
  obtain ⟨_, -, -, taken⟩ := resolved.answer
  obtain ⟨-, -, -, contract⟩ := semanticSnapshotRef_some taken
  have matched : source ∈ config.bindings.filter (·.matching message) := by simp [resolved.only]
  obtain ⟨member, same⟩ := List.mem_filter.mp matched
  obtain ⟨binding, among, origin⟩ : ∃ binding ∈ resolver.bindings, SemanticBinding.Of binding source := by
    have origins := ready.bindings
    generalize resolver.bindings = bindings at origins
    generalize config.bindings = sources at origins member
    induction origins with
    | nil => cases member
    | cons origin _ ih =>
      rcases List.mem_cons.mp member with rfl | member
      · exact ⟨_, List.mem_cons_self, origin⟩
      · obtain ⟨binding, among, origin⟩ := ih member
        exact ⟨binding, List.mem_cons_of_mem _ among, origin⟩
  have whole := ready.complete binding among
  obtain ⟨origin, -⟩ := origin
  simp only [SemanticBindingConfig.matching, Bool.and_eq_true, beq_iff_eq] at same
  have ids : message.frame.senderNodeId ≠ 0 ∧ message.producerId ≠ 0 ∧ message.keyId ≠ 0 ∧
      message.signatureAlgorithm = signatureEd25519 := by
    rw [← same.1.1.1, ← same.1.1.2, ← same.1.2, ← same.2, ← origin.1, ← origin.2.1, ← origin.2.2.1, ← origin.2.2.2]
    exact ⟨whole.sender, whole.producer, whole.key, whole.algorithm⟩
  refine ⟨⟨message.frame.senderNodeId, message.producerId, message.keyId, message.signatureAlgorithm,
    compatible.producerSemanticProfileId, compatible.consumerSemanticProfileId, compatible.compatibilityContractId⟩, ?_, ?_⟩
  · unfold freshnessIdentityFromMessage
    simp only [PreFreshnessCompatible.message, resolved.sent, producer.valid, consumer.valid, contract.valid,
      freshnessCopyRef_snapshot producer, freshnessCopyRef_snapshot consumer, freshnessCopyRef_snapshot contract]
    simp only [ids.2.2.2, ne_eq, not_true_eq_false, false_or, Bool.not_true, Bool.false_eq_true, if_false]
    rw [if_neg (by simp only [not_or]; exact ⟨ids.1, ids.2.1, ids.2.2.1, sequence, epoch⟩)]
    rfl
  · simp only [FreshnessIdentity.canonical, producer.canonical, consumer.canonical, contract.canonical]

theorem transcript_numbered {frame : NodeLinkFrame} {producerId keyId : U32} {capacity : Nat} {transcript : List U8}
    (built : nodeLinkBuildAuthTranscript frame producerId keyId capacity = .ok transcript) :
    frame.sequence ≠ 0 ∧ frame.senderEpoch ≠ 0 := by
  unfold nodeLinkBuildAuthTranscript at built
  obtain ⟨checked, -⟩ := Check.accepted built
  simp only [not_or] at checked
  exact ⟨checked.2.2.2.1, checked.2.2.2.2.1⟩

theorem accepted_identity (policy : FreshnessPolicy) {runtime : FreshnessRuntime} {message : PreFreshnessCompatibleMessage}
    {identity : FreshnessIdentity} (taken : freshnessIdentityFromMessage message = some identity)
    (accepted : (freshnessEvaluateAndApply policy runtime message).2.1.decision = .accept) :
    identity.canonical = runtime.identity.canonical := by
  have decided : (freshnessEvaluateInternal policy runtime message).2.decision = .accept := by
    unfold freshnessEvaluateAndApply at accepted
    dsimp only at accepted
    split_ifs at accepted with failed refused invalid
    · cases accepted
    · exact absurd accepted refused
    · cases accepted
    · exact not_not.mp refused
  unfold freshnessEvaluateInternal at decided
  split_ifs at decided with unconfigured invalid
  · cases decided
  · cases decided
  rw [taken] at decided
  cases condition : runtime.condition <;> simp only [condition, reduceCtorEq] at decided
  unfold freshnessDecideActive at decided
  split_ifs at decided with mismatch
  exact ((freshnessIdentityEqual_iff _ _).mp (by simpa using mismatch)).symm

/-- What is accepted lies in the epoch of the runtime, beyond its sequence, and has its identity. -/
theorem accepted_beyond (receiver : NodeLinkReceiver) (arrivals : List NodeLinkArrival) :
    ∀ arrival ∈ receiver.accepted arrivals, ∃ compatible, receiver.screen arrival = some compatible ∧
      compatible.message.senderEpoch = receiver.runtime.acceptedEpoch ∧
      receiver.runtime.acceptedSequence < compatible.message.sequence ∧
      ∀ identity, freshnessIdentityFromMessage compatible.message = some identity →
        identity.canonical = receiver.runtime.identity.canonical := by
  induction arrivals generalizing receiver with
  | nil => simp [NodeLinkReceiver.accepted]
  | cons first arrivals ih =>
    intro arrival member
    rw [NodeLinkReceiver.accepted] at member
    rcases receiver_step receiver first with ⟨refused, same⟩ | ⟨compatible, admitted, accepted, accepts, same, identity, epoch, sequence⟩
    · rw [refused, same] at member
      exact ih receiver arrival member
    · rw [accepted, if_pos rfl] at member
      rcases List.mem_cons.mp member with rfl | member
      · refine ⟨compatible, admitted, accepts.epoch, accepts.later, fun found taken =>
          accepted_identity receiver.policy taken ?_⟩
        simpa [NodeLinkReceiver.accepting, NodeLinkReceiver.evaluate, admitted] using accepted
      · obtain ⟨later, given, sameEpoch, beyond, identities⟩ := ih _ arrival member
        rw [epoch] at sameEpoch
        rw [sequence] at beyond
        rw [identity] at identities
        rw [same] at given
        exact ⟨later, given, sameEpoch, BitVec.lt_trans accepts.later beyond, identities⟩

def NodeLinkReceiver.sequenceOf (receiver : NodeLinkReceiver) (arrival : NodeLinkArrival) : Option U32 :=
  (receiver.screen arrival).map fun compatible => compatible.message.sequence

theorem resolve_message {resolver : SemanticResolver} {message : NodeLinkAuthenticatedMessage}
    {compatible : PreFreshnessCompatible} (resolved : resolvePreFreshnessCompatibility resolver message = .ok compatible) :
    compatible.authenticatedMessage = message := by
  unfold resolvePreFreshnessCompatibility at resolved
  obtain ⟨-, resolved⟩ := Check.accepted resolved
  split at resolved
  · cases resolved
  split at resolved
  · cases resolved
  · dsimp only at resolved
    split at resolved
    · split at resolved <;> cases resolved
      rfl
    · cases resolved
  · cases resolved

theorem sequenceOf_wire {arrival : NodeLinkArrival} {sequence : U32}
    (found : receiver.sequenceOf arrival = some sequence) :
    (nodeLinkDecode arrival.wire emptyFrame).2.sequence = sequence := by
  obtain ⟨compatible, admitted, rfl⟩ := Option.map_eq_some_iff.mp found
  obtain ⟨frame, message, decoded, -, -, sent, resolved⟩ := screen_some admitted
  rw [decoded, PreFreshnessCompatible.message, resolve_message resolved, sent]

theorem accepted_ordered (receiver : NodeLinkReceiver) (arrivals : List NodeLinkArrival) :
    (receiver.accepted arrivals).Pairwise fun earlier later => ∃ first second,
      receiver.sequenceOf earlier = some first ∧ receiver.sequenceOf later = some second ∧ first < second := by
  induction arrivals generalizing receiver with
  | nil => exact .nil
  | cons first arrivals ih =>
    rw [NodeLinkReceiver.accepted]
    rcases receiver_step receiver first with ⟨refused, same⟩ | ⟨compatible, admitted, accepted, -, same, -, -, sequence⟩
    · rw [refused, same]
      exact ih receiver
    · rw [accepted, if_pos rfl]
      have sameScreen (arrival : NodeLinkArrival) : (receiver.step first).screen arrival = receiver.screen arrival := by
        rw [same]
        rfl
      refine .cons (fun later member => ?_) ((ih _).imp fun ordered => ?_)
      · obtain ⟨other, given, -, beyond, -⟩ := accepted_beyond _ arrivals later member
        rw [sequence] at beyond
        rw [sameScreen] at given
        exact ⟨_, _, by rw [NodeLinkReceiver.sequenceOf, admitted]; rfl, by rw [NodeLinkReceiver.sequenceOf, given]; rfl, beyond⟩
      · simpa only [NodeLinkReceiver.sequenceOf, sameScreen] using ordered

/-- In every run of a configured receiver, what passes the earlier stages is never malformed for freshness; what is
    accepted is genuine and of the runtime's epoch; its sequence numbers increase, and no frame is accepted twice. -/
theorem node_link_reception {authConfig : NodeLinkAuthConfig} {authenticator : NodeLinkAuthenticator}
    {semanticConfig : SemanticConfig} {resolver : SemanticResolver}
    (authenticates : nodeLinkAuthenticatorConfigure authConfig = (.ok, authenticator))
    (resolves : semanticResolverConfigure semanticConfig = (.ok, resolver)) (policy : FreshnessPolicy)
    (runtime : FreshnessRuntime) (arrivals : List NodeLinkArrival) :
    let receiver : NodeLinkReceiver := ⟨authenticator, resolver, policy, runtime⟩
    (∀ arrival compatible, receiver.screen arrival = some compatible →
      (freshnessIdentityFromMessage compatible.message).isSome = true) ∧
    (∀ arrival ∈ receiver.accepted arrivals, ∃ compatible, receiver.screen arrival = some compatible ∧
      NodeLinkReceiver.Genuine authConfig semanticConfig runtime.identity.canonical arrival compatible ∧
      compatible.message.senderEpoch = runtime.acceptedEpoch) ∧
    ((receiver.accepted arrivals).Pairwise fun earlier later => ∃ first second,
      receiver.sequenceOf earlier = some first ∧ receiver.sequenceOf later = some second ∧ first < second) ∧
    ((receiver.accepted arrivals).map NodeLinkArrival.wire).Nodup := by
  intro receiver
  have ready := semanticResolverConfigure_ok resolves
  obtain ⟨same, checked⟩ := nodeLinkAuthenticatorConfigure_ok authenticates
  have identified : ∀ arrival compatible, receiver.screen arrival = some compatible → ∃ identity,
      identity.canonical = identity ∧
        NodeLinkReceiver.Genuine authConfig semanticConfig identity arrival compatible := by
    intro arrival compatible admitted
    obtain ⟨frame, message, -, wire, authenticated, sent, resolved⟩ := screen_some admitted
    obtain ⟨source, origin⟩ := ((semantic_resolution_exact resolves message).1 compatible).mp resolved
    obtain ⟨verifySignature, peer, provider, -, found, made, verified, built⟩ := nodeLinkAuthenticate_ok authenticated
    obtain ⟨sequence, epoch⟩ := transcript_numbered built
    obtain ⟨identity, taken, canonical⟩ := resolved_identity ready (by rw [sent]; exact sequence)
      (by rw [sent]; exact epoch) origin
    subst same
    have alone := nodeLinkAuthResolvePeer_alone checked found
    have origin' := origin
    rw [← origin.sent] at origin' made
    refine ⟨identity, canonical, ⟨?_, ⟨verifySignature, peer, provider, ?_, ?_, ?_, ?_⟩, ⟨source, origin'⟩, taken⟩⟩
    · rw [made]
      exact wire
    · rw [made]
      exact alone
    · rw [made]
    · rw [made]
    · rw [made]
      exact verified
  refine ⟨fun arrival compatible admitted => ?_, fun arrival member => ?_, accepted_ordered receiver arrivals, ?_⟩
  · obtain ⟨identity, -, genuine⟩ := identified arrival compatible admitted
    rw [genuine.identity]
    rfl
  · obtain ⟨compatible, admitted, epoch, -, identities⟩ := accepted_beyond receiver arrivals arrival member
    obtain ⟨identity, canonical, genuine⟩ := identified arrival compatible admitted
    rw [← canonical.symm.trans (identities identity genuine.identity)]
    exact ⟨compatible, admitted, genuine, epoch⟩
  · rw [List.Nodup, List.pairwise_map]
    refine (accepted_ordered receiver arrivals).imp fun {earlier later} ordered same => ?_
    obtain ⟨first, second, early, late, before⟩ := ordered
    rw [← sequenceOf_wire early, ← sequenceOf_wire late, same] at before
    exact BitVec.lt_irrefl _ before

def firstNodeReceiver : NodeLinkReceiver where
  authenticator := ⟨sharedConfig.verifySignature, sharedConfig.peers, nodeLinkSignatureEd25519, 1⟩
  resolver := firstNodeResolver
  policy := ⟨4, 1⟩
  runtime :=
    ⟨.active, ⟨1, 7, 9, signatureEd25519, .ofText [0x61], .ofText [0x62], .ofText [0x63]⟩, 1, 1, 1, 1, 1, 1, 1, 1⟩

def firstNodeArrival (sequence : U32) : NodeLinkArrival :=
  ⟨({ sharedFrame with sequence } : NodeLinkFrame).wire, sharedSignature⟩

theorem node_link_reception_first :
    nodeLinkAuthenticatorConfigure sharedConfig = (.ok, firstNodeReceiver.authenticator) ∧
      semanticResolverConfigure firstNodeSemantics = (.ok, firstNodeReceiver.resolver) ∧
      ((firstNodeReceiver.accepted [firstNodeArrival 2, firstNodeArrival 2, firstNodeArrival 3]).map
        NodeLinkArrival.wire).Nodup :=
  ⟨rfl, rfl, (@node_link_reception sharedConfig firstNodeReceiver.authenticator firstNodeSemantics firstNodeReceiver.resolver
    rfl rfl _ _ [firstNodeArrival 2, firstNodeArrival 2, firstNodeArrival 3]).2.2.2⟩

example : firstNodeReceiver.accepted [firstNodeArrival 2, firstNodeArrival 2, firstNodeArrival 3] =
    [firstNodeArrival 2, firstNodeArrival 3] := by decide +kernel

end Reception

end Guardian.NodeLink
