import Guardian.NodeLink.PersistenceRecovery
import Guardian.NodeLink.RollbackAnchor

namespace Guardian.NodeLink

open Word ByteString

def SemanticRef.tail (reference : SemanticRef) : List U8 := reference.1.drop (cString reference.1).length

def FreshnessIdentity.tails (identity : FreshnessIdentity) : List (List U8) :=
  [SemanticRef.tail identity.producerSemanticProfileId, SemanticRef.tail identity.consumerSemanticProfileId,
    SemanticRef.tail identity.compatibilityContractId]

structure LayersAgree (left right : PersistedRecord) : Prop where
  backend : backendIdentityEqual left.identity right.identity = persistenceIdentityEqual left.identity right.identity
  classifier : persistenceIdentityEqual left.identity right.identity = freshnessIdentityEqual left.identity right.identity
  records : recordsEqual left right = recordEqual left right
  commitment : freshnessIdentityEqual left.identity right.identity = true →
    rollbackAnchorCommitmentFromRecord { left with identity := right.identity } =
      rollbackAnchorCommitmentFromRecord left
  continuation : ∀ expectedIdentity, validateRecord left expectedIdentity = .ok →
    (admitTransaction (some left) expectedIdentity right = none ↔ transitionIsAdjacent left right = true)

theorem SemanticRef.eq_of_text {left right : SemanticRef} (texts : left.canonical = right.canonical)
    (tails : SemanticRef.tail left = SemanticRef.tail right) : left = right := by
  have text := canonicalRef_eq_iff.mp texts
  apply Subtype.ext
  rw [← cString_rest left.1, ← cString_rest right.1, ← SemanticRef.tail, ← SemanticRef.tail, tails, text]

theorem FreshnessIdentity.eq_of_texts {left right : FreshnessIdentity} (texts : left.canonical = right.canonical)
    (tails : left.tails = right.tails) : left = right := by
  simp only [FreshnessIdentity.canonical, FreshnessIdentity.mk.injEq] at texts
  simp only [FreshnessIdentity.tails, List.cons.injEq, and_true] at tails
  obtain ⟨sender, producer, key, algorithm, producerText, consumerText, contractText⟩ := texts
  obtain ⟨producerTail, consumerTail, contractTail⟩ := tails
  exact FreshnessIdentity.ext sender producer key algorithm (SemanticRef.eq_of_text producerText producerTail)
    (SemanticRef.eq_of_text consumerText consumerTail) (SemanticRef.eq_of_text contractText contractTail)

theorem persistenceIdentityEqual_iff (left right : FreshnessIdentity) :
    persistenceIdentityEqual left right = true ↔ left.canonical = right.canonical :=
  freshnessIdentityEqual_iff left right

theorem recordsEqual_recordEqual {left right : PersistedRecord} (leftValid : left.Valid) (rightValid : right.Valid) :
    recordsEqual left right = recordEqual left right := by
  rw [Bool.eq_iff_iff, recordsEqual_iff leftValid rightValid, recordEqual_iff]

theorem commitment_identity {record : PersistedRecord} (valid : record.Valid) {identity : FreshnessIdentity}
    (same : record.identity.canonical = identity.canonical) :
    rollbackAnchorCommitmentFromRecord { record with identity } = rollbackAnchorCommitmentFromRecord record := by
  have canonical : ({ record with identity } : PersistedRecord).canonical = record.canonical := by
    simp only [PersistedRecord.canonical, same]
  have structurally : freshnessIdentityStructurallyValid identity = true := by
    rw [← freshnessIdentityStructurallyValid_canonical, ← same, freshnessIdentityStructurallyValid_canonical]
    exact valid.identity
  have replaced : ({ record with identity } : PersistedRecord).Valid :=
    ⟨valid.schema, structurally, rfl, valid.epoch, valid.sequence⟩
  have preimage : anchorPreimage { record with identity } = anchorPreimage record := by
    rw [← anchorPreimage_canonical { record with identity }, canonical, anchorPreimage_canonical]
  rw [rollbackAnchorCommitmentFromRecord_valid replaced, rollbackAnchorCommitmentFromRecord_valid valid]
  simp only [anchorCommitment, preimage]

theorem admitTransaction_iff {previous candidate : PersistedRecord} {expectedIdentity : FreshnessIdentity}
    (accepted : validateRecord previous expectedIdentity = .ok) :
    admitTransaction (some previous) expectedIdentity candidate = none ↔
      candidate.ValidFor expectedIdentity ∧ candidate.Follows (some previous) := by
  constructor
  · intro admitted
    exact ⟨admitTransaction_valid admitted, admitTransaction_follows admitted⟩
  · rintro ⟨valid, room, next, epoch, newer⟩
    have validated := validateRecord_ok.mpr valid
    have later : ¬ candidate.acceptedSequence ≤ previous.acceptedSequence := BitVec.not_le.mpr newer
    have transition : transitionValid (some previous) candidate = true := by
      simp only [transitionValid]
      rw [if_neg (not_not.mpr epoch), if_neg later]
    have generation : nextGeneration (some previous) = (.ok, previous.recordGeneration + 1) := if_neg room
    simp [admitTransaction, accepted, validated, generation, next, transition]

theorem continuation_iff {left right : PersistedRecord} (rightValid : right.Valid)
    (tails : left.identity.canonical = right.identity.canonical → left.identity.tails = right.identity.tails)
    {expectedIdentity : FreshnessIdentity} (accepted : validateRecord left expectedIdentity = .ok) :
    admitTransaction (some left) expectedIdentity right = none ↔ transitionIsAdjacent left right = true := by
  have expected := (validateRecord_ok.mp accepted).expected
  rw [admitTransaction_iff accepted, transitionIsAdjacent_iff]
  constructor
  · rintro ⟨valid, room, next, epoch, newer⟩
    have texts := expected.trans valid.expected.symm
    exact ⟨FreshnessIdentity.eq_of_texts texts (tails texts), epoch.symm, room, next, newer⟩
  · rintro ⟨identity, epoch, room, next, newer⟩
    refine ⟨⟨rightValid.schema, rightValid.identity, ?_, rightValid.epoch, rightValid.sequence⟩, room, next, epoch.symm,
      newer⟩
    rw [← identity]
    exact expected

/-- The layers agree about two valid records exactly when equal texts come with equal bytes after them. -/
theorem identity_layers_agree_iff {left right : PersistedRecord} (leftValid : recordIsLogicallyValid left = true)
    (rightValid : recordIsLogicallyValid right = true) : LayersAgree left right ↔
      (left.identity.canonical = right.identity.canonical → left.identity.tails = right.identity.tails) := by
  rw [recordIsLogicallyValid_iff] at leftValid rightValid
  constructor
  · intro agree texts
    have core := (persistenceIdentityEqual_iff _ _).mpr texts
    rw [← agree.backend, backendIdentityEqual_iff] at core
    rw [core]
  · intro tails
    refine ⟨?_, rfl, recordsEqual_recordEqual leftValid rightValid, ?_, ?_⟩
    · rw [Bool.eq_iff_iff, backendIdentityEqual_iff, persistenceIdentityEqual_iff]
      constructor
      · intro same
        rw [same]
      · intro texts
        exact FreshnessIdentity.eq_of_texts texts (tails texts)
    · intro equal
      exact commitment_identity leftValid ((freshnessIdentityEqual_iff _ _).mp equal)
    · intro expectedIdentity accepted
      exact continuation_iff rightValid tails accepted

theorem identity_layers_agree_continuation : LayersAgree bootstrapRecord continuationRecord :=
  (identity_layers_agree_iff (by decide +kernel) (by decide +kernel)).mpr fun _ => rfl

/-- `continuationRecord` with a byte after the terminator of its first reference. -/
def driftedRecord : PersistedRecord :=
  { continuationRecord with
    identity := { bootstrapIdentity with
      producerSemanticProfileId := ⟨[0x70, 0, 1] ++ List.replicate 93 0, rfl⟩ } }

/-- The transaction core takes it as the continuation, and the backend rejects it as another identity. -/
theorem drifted_rejected :
    recordIsLogicallyValid bootstrapRecord = true ∧ recordIsLogicallyValid driftedRecord = true ∧
      persistenceIdentityEqual bootstrapRecord.identity driftedRecord.identity = true ∧
      freshnessIdentityEqual bootstrapRecord.identity driftedRecord.identity = true ∧
      backendIdentityEqual bootstrapRecord.identity driftedRecord.identity = false ∧
      admitTransaction (some bootstrapRecord) bootstrapIdentity driftedRecord = none ∧
      targetSlot ⟨.ok, .validPersistedState, bootstrapRecord, .valid, some .a⟩ driftedRecord = .error .verifyFailure := by
  decide +kernel

end Guardian.NodeLink
