import Guardian.NodeLink.PersistenceRun

namespace Guardian.NodeLink

open Word ByteString

theorem validateBody_some {image : List U8} {record : PersistedRecord} (validated : validateBody image = some record) :
    record.Valid ∧ record.canonical = record := by
  unfold validateBody at validated
  obtain ⟨-, validated⟩ := Check.passed validated (Option.some_ne_none _).symm
  obtain ⟨-, validated⟩ := Check.passed validated (Option.some_ne_none _).symm
  obtain ⟨-, validated⟩ := Check.passed validated (Option.some_ne_none _).symm
  obtain ⟨-, validated⟩ := Check.passed validated (Option.some_ne_none _).symm
  obtain ⟨-, validated⟩ := Check.passed validated (Option.some_ne_none _).symm
  obtain ⟨-, validated⟩ := Check.passed validated (Option.some_ne_none _).symm
  dsimp only at validated
  obtain ⟨decoded, validated⟩ := Check.passed validated (Option.some_ne_none _).symm
  obtain ⟨-, validated⟩ := Check.passed validated (Option.some_ne_none _).symm
  cases validated
  exact persistenceDecode_ok (Prod.ext (not_not.mp decoded) rfl)

theorem observeImage_valid {image : List U8} (valid : (observeImage image).state = .valid) :
    (observeImage image).record.Valid ∧ (observeImage image).record.canonical = (observeImage image).record := by
  unfold observeImage at valid ⊢
  split_ifs at valid ⊢
  split at valid
  · cases valid
  · rename_i record validated
    exact validateBody_some validated

/-- A slot beside the one that holds the current record does not stop recovery from selecting that record. -/
def SlotObservation.Yields (peer : SlotObservation) (record : PersistedRecord) : Prop :=
  peer.state = .erased ∨ peer.state = .torn ∨ peer.state = .valid ∧ transitionIsAdjacent peer.record record = true

/-- `slot` holds the current record. -/
structure Holds (slots : Slot → Image) (slot : Slot) (record : PersistedRecord) : Prop where
  state : (observeImage (slots slot).1).state = .valid
  holding : (observeImage (slots slot).1).record = record
  peer : (observeImage (slots slot.other).1).Yields record

theorem backendIdentityEqual_iff (left right : FreshnessIdentity) : backendIdentityEqual left right = true ↔ left = right := by
  rw [backendIdentityEqual, identityFieldsEqual_iff, FreshnessIdentity.ext_iff]
  simp only [beq_iff_eq, Subtype.ext_iff]

theorem transitionIsAdjacent_iff {older newer : PersistedRecord} : transitionIsAdjacent older newer = true ↔
    older.identity = newer.identity ∧ older.acceptedEpoch = newer.acceptedEpoch ∧
      older.recordGeneration ≠ BitVec.allOnes 32 ∧ newer.recordGeneration = older.recordGeneration + 1 ∧
      older.acceptedSequence < newer.acceptedSequence := by
  rw [← backendIdentityEqual_iff, transitionIsAdjacent]
  split_ifs <;> simp_all

theorem transitionIsAdjacent_lt {older newer : PersistedRecord} (adjacent : transitionIsAdjacent older newer = true) :
    older.recordGeneration < newer.recordGeneration := by
  obtain ⟨-, -, room, next, -⟩ := transitionIsAdjacent_iff.mp adjacent
  rw [next]
  rw [show BitVec.allOnes 32 = 4294967295#32 from rfl] at room
  bv_omega

theorem resolveSlots_left {a b : SlotObservation} (state : a.state = .valid) (peer : b.Yields a.record) :
    ∃ diagnostic, resolveSlots (.ok, a) (.ok, b) = ⟨.ok, .validPersistedState, a.record, diagnostic, some .a⟩ := by
  rcases peer with erased | torn | ⟨valid, adjacent⟩
  · exact ⟨.valid, by simp [resolveSlots, state, erased]⟩
  · exact ⟨.validWithTornPeer, by simp [resolveSlots, state, torn]⟩
  · have newer := transitionIsAdjacent_lt adjacent
    have notOlder : ¬ a.record.recordGeneration < b.record.recordGeneration := by bv_omega
    exact ⟨.valid, by simp [resolveSlots, state, valid, adjacent, newer, notOlder]⟩

theorem resolveSlots_right {a b : SlotObservation} (state : b.state = .valid) (peer : a.Yields b.record) :
    ∃ diagnostic, resolveSlots (.ok, a) (.ok, b) = ⟨.ok, .validPersistedState, b.record, diagnostic, some .b⟩ := by
  rcases peer with erased | torn | ⟨valid, adjacent⟩
  · exact ⟨.valid, by simp [resolveSlots, state, erased]⟩
  · exact ⟨.validWithTornPeer, by simp [resolveSlots, state, torn]⟩
  · have newer := transitionIsAdjacent_lt adjacent
    exact ⟨.valid, by simp [resolveSlots, state, valid, adjacent, newer]⟩

theorem Holds.survey {slots : Slot → Image} {slot : Slot} {record : PersistedRecord} (holds : Holds slots slot record) :
    ∃ diagnostic, surveySlots slots = ⟨.ok, .validPersistedState, record, diagnostic, some slot⟩ := by
  obtain ⟨state, rfl, peer⟩ := holds
  cases slot
  · exact resolveSlots_left state peer
  · exact resolveSlots_right state peer

inductive Resolved (a b : SlotObservation) : Recovery → Prop
  | vacant (left : a.state = .erased) (right : b.state = .erased) :
      Resolved a b ⟨.ok, .noPersistedState, zeroRecord, .noState, none⟩
  | left (diagnostic : RecoveryDiagnostic) (state : a.state = .valid) (peer : b.Yields a.record) :
      Resolved a b ⟨.ok, .validPersistedState, a.record, diagnostic, some .a⟩
  | right (diagnostic : RecoveryDiagnostic) (state : b.state = .valid) (peer : a.Yields b.record) :
      Resolved a b ⟨.ok, .validPersistedState, b.record, diagnostic, some .b⟩
  | damaged (status : PersistenceStatus) (diagnostic : RecoveryDiagnostic) (some : status ≠ .noPersistedState)
      (invalid : status ≠ .validPersistedState) : Resolved a b ⟨.ok, status, zeroRecord, diagnostic, none⟩
  | uncertain : Resolved a b Recovery.uncertain

theorem resolveSlots_resolved (a b : SlotObservation) : Resolved a b (resolveSlots (.ok, a) (.ok, b)) := by
  unfold resolveSlots
  rw [if_neg (not_or.mpr ⟨not_not.mpr rfl, not_not.mpr rfl⟩)]
  dsimp only
  apply Check.cases
  · exact fun erased => .vacant erased.1 erased.2
  intro _
  apply Check.cases
  · rintro ⟨left, right⟩
    apply Check.cases
    · intro _
      apply Check.cases
      · exact fun _ => .uncertain
      · exact fun adjacent => .right .valid right (Or.inr (Or.inr ⟨left, by simpa using adjacent⟩))
    · intro _
      apply Check.either
      · apply Check.cases
        · exact fun _ => .uncertain
        · exact fun adjacent => .left .valid left (Or.inr (Or.inr ⟨right, by simpa using adjacent⟩))
      · exact .uncertain
  intro notBoth
  apply Check.cases
  · intro one
    -- The valid slot is named by the same test three times.
    by_cases left : a.state = .valid
    · rw [if_pos left, if_pos left, if_pos left]
      apply Check.either .uncertain
      apply Check.cases
      · exact fun _ => .uncertain
      · intro readable
        exact .left _ left (or_iff_not_imp_left.mpr fun other => Or.inl (by tauto))
    · have right := one.resolve_left left
      rw [if_neg left, if_neg left, if_neg left]
      apply Check.either .uncertain
      apply Check.cases
      · exact fun _ => .uncertain
      · intro readable
        exact .right _ right (or_iff_not_imp_left.mpr fun other => Or.inl (by tauto))
  · intro _
    apply Check.either
    · exact .damaged _ _ (by decide) (by decide)
    apply Check.either
    · exact .damaged _ _ (by decide) (by decide)
    · exact .uncertain

theorem resolveSlots_valid {a b : SlotObservation}
    (status : (resolveSlots (.ok, a) (.ok, b)).status = .validPersistedState) :
    a.state = .valid ∧ b.Yields a.record ∨ b.state = .valid ∧ a.Yields b.record := by
  have resolved := resolveSlots_resolved a b
  generalize resolveSlots (.ok, a) (.ok, b) = recovery at status resolved
  cases resolved with
  | left diagnostic state peer => exact Or.inl ⟨state, peer⟩
  | right diagnostic state peer => exact Or.inr ⟨state, peer⟩
  | damaged _ _ some invalid => exact absurd status invalid
  | vacant | uncertain => cases status

theorem surveySlots_valid {slots : Slot → Image} (status : (surveySlots slots).status = .validPersistedState) :
    ∃ slot, Holds slots slot (surveySlots slots).record := by
  rcases resolveSlots_valid status with ⟨state, peer⟩ | ⟨state, peer⟩
  · have holds : Holds slots .a (observeImage (slots .a).1).record := ⟨state, rfl, peer⟩
    obtain ⟨diagnostic, survey⟩ := holds.survey
    exact ⟨.a, by rw [survey]; exact holds⟩
  · have holds : Holds slots .b (observeImage (slots .b).1).record := ⟨state, rfl, peer⟩
    obtain ⟨diagnostic, survey⟩ := holds.survey
    exact ⟨.b, by rw [survey]; exact holds⟩

theorem resolveSlots_noState {a b : SlotObservation}
    (status : (resolveSlots (.ok, a) (.ok, b)).status = .noPersistedState) :
    a.state = .erased ∧ b.state = .erased := by
  have resolved := resolveSlots_resolved a b
  generalize resolveSlots (.ok, a) (.ok, b) = recovery at status resolved
  cases resolved with
  | vacant left right => exact ⟨left, right⟩
  | damaged _ _ some invalid => exact absurd status some
  | left | right | uncertain => cases status

theorem surveySlots_vacant {slots : Slot → Image} (a : (observeImage (slots .a).1).state = .erased)
    (b : (observeImage (slots .b).1).state = .erased) :
    surveySlots slots = ⟨.ok, .noPersistedState, zeroRecord, .noState, none⟩ := by
  simp [surveySlots, resolveSlots, a, b]

/-- A candidate is written into slot A of a medium without state, or beside the current record it continues. -/
theorem targetSlot_selected {slots : Slot → Image} {candidate : PersistedRecord} {target : Slot}
    (selected : targetSlot (surveySlots slots) candidate = .ok target) :
    ((observeImage (slots .a).1).state = .erased ∧ (observeImage (slots .b).1).state = .erased ∧
        candidate.recordGeneration = 0 ∧ target = .a) ∨
      ∃ record, Holds slots target.other record ∧ transitionIsAdjacent record candidate = true := by
  unfold targetSlot at selected
  by_cases failed : (surveySlots slots).operation ≠ .ok
  · rw [if_pos failed] at selected
    cases selected
  rw [if_neg failed] at selected
  cases status : (surveySlots slots).status <;> simp only [status] at selected <;> try cases selected
  · obtain ⟨slot, holds⟩ := surveySlots_valid status
    obtain ⟨diagnostic, survey⟩ := holds.survey
    have slotSelected := congrArg Recovery.selectedSlot survey
    split_ifs at selected with exhausted adjacent first <;> cases selected
    · refine Or.inr ⟨_, ?_, by simpa using adjacent⟩
      rw [first] at slotSelected
      cases slotSelected
      exact holds
    · refine Or.inr ⟨_, ?_, by simpa using adjacent⟩
      rw [slotSelected] at first
      cases slot
      · exact absurd rfl first
      · exact holds
  · split_ifs at selected with generation
    cases selected
    obtain ⟨a, b⟩ := resolveSlots_noState status
    exact Or.inl ⟨a, b, not_not.mp generation, rfl⟩

theorem Holds.target {slots : Slot → Image} {slot : Slot} {record candidate : PersistedRecord}
    (holds : Holds slots slot record) (adjacent : transitionIsAdjacent record candidate = true) :
    targetSlot (surveySlots slots) candidate = .ok slot.other := by
  obtain ⟨diagnostic, survey⟩ := holds.survey
  have room := (transitionIsAdjacent_iff.mp adjacent).2.2.1
  rw [targetSlot, survey, if_neg (by simp)]
  dsimp only
  rw [if_neg room, if_neg (by simp [adjacent])]
  cases slot <;> rfl

theorem Holds.canonical {slots : Slot → Image} {slot : Slot} {record : PersistedRecord}
    (holds : Holds slots slot record) : record.Valid ∧ record.canonical = record := by
  rw [← holds.holding]
  exact observeImage_valid holds.state

theorem transitionIsAdjacent_canonical {record candidate : PersistedRecord} (canonical : record.canonical = record)
    (adjacent : transitionIsAdjacent record candidate = true) : candidate.canonical = candidate := by
  have identity := (transitionIsAdjacent_iff.mp adjacent).1
  have same : record.identity.canonical = record.identity := congrArg PersistedRecord.identity canonical
  rw [identity] at same
  rw [PersistedRecord.canonical, same]

theorem Holds.stage {slots : Slot → Image} {target : Slot} {record : PersistedRecord} (candidate : PersistedRecord)
    (holds : Holds slots target.other record) {count : Nat} (within : count ≤ physicalCommitOffset) :
    Holds (Function.update slots target (programmedImage candidate count)) target.other record := by
  obtain ⟨state, holding, -⟩ := holds
  have kept : Function.update slots target (programmedImage candidate count) target.other = slots target.other :=
    Function.update_of_ne (Slot.other_ne target) _ _
  refine ⟨by rw [kept]; exact state, by rw [kept]; exact holding, ?_⟩
  rw [Slot.other_other, Function.update_self]
  rcases Nat.eq_zero_or_pos count with rfl | started
  · exact Or.inl (by rw [programmedImage_zero, observe_erased])
  · exact Or.inr (Or.inl (by rw [observe_torn candidate started within]))

theorem commit_holds {slots : Slot → Image} {target : Slot} {candidate : PersistedRecord} (valid : candidate.Valid)
    (selected : targetSlot (surveySlots slots) candidate = .ok target) :
    Holds (Function.update slots target (programmedImage candidate physicalImageSize)) target candidate.canonical := by
  have kept : Function.update slots target (programmedImage candidate physicalImageSize) target.other =
      slots target.other := Function.update_of_ne (Slot.other_ne target) _ _
  refine ⟨by rw [Function.update_self, observe_committed valid], by rw [Function.update_self, observe_committed valid], ?_⟩
  rw [kept]
  rcases targetSlot_selected selected with ⟨-, b, -, rfl⟩ | ⟨record, holds, adjacent⟩
  · exact Or.inl b
  · refine Or.inr (Or.inr ⟨holds.state, ?_⟩)
    rw [holds.holding, transitionIsAdjacent_canonical holds.canonical.2 adjacent]
    exact adjacent

end Guardian.NodeLink
