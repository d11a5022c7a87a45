import Guardian.NodeLink.AntiReplay

namespace Guardian.NodeLink

open Word Device

theorem mapPersistenceOperation_ok {result : OperationResult} : mapPersistenceOperation result = .ok ↔ result = .ok := by
  cases result <;> decide

theorem mapAnchorProviderResult_ok {result : AnchorProviderResult} :
    mapAnchorProviderResult result = .ok ↔ result = .ok := by
  cases result <;> decide

theorem persistenceClassify_candidate {status : PersistenceStatus} {record : PersistedRecord}
    {expectedIdentity : FreshnessIdentity}
    (classified : (persistenceClassify status record expectedIdentity).2 = .validatedRecordCandidate) :
    status = .validPersistedState := by
  unfold persistenceClassify at classified
  by_cases structural : (!freshnessIdentityStructurallyValid expectedIdentity) = true
  · rw [if_pos structural] at classified
    cases classified
  · rw [if_neg structural] at classified
    cases status with
    | validPersistedState => rfl
    | _ => cases classified

def restoredRuntime (record : PersistedRecord) : FreshnessRuntime :=
  ⟨.active, record.identity, 0, 0, record.acceptedEpoch, record.acceptedSequence, 1, 0, 1, 1⟩

theorem restoreRuntimeFromRecord_ok {record : PersistedRecord} {runtime : FreshnessRuntime}
    (restored : (restoreRuntimeFromRecord record runtime).1 = .ok) :
    (restoreRuntimeFromRecord record runtime).2 = restoredRuntime record := by
  simp only [restoreRuntimeFromRecord] at restored ⊢
  split_ifs at restored ⊢ with rejected
  rfl

theorem refused_returns {ν : Type} {runtime : FreshnessRuntime} {result : AntiReplayResult}
    {evidence : AntiReplayEvidence} {node reached : ν} {output : AntiReplayOutput}
    (run : (pure (.refused runtime result evidence) : Dev ν AntiReplayOutput) node = (some output, reached)) :
    output.result = result := by
  rw [← (Dev.pure_returns run).1]
  rfl

theorem gate_returns {ν : Type} {refusal : Prop} [Decidable refusal] {runtime : FreshnessRuntime}
    {result : AntiReplayResult} {evidence : AntiReplayEvidence} {next : Dev ν AntiReplayOutput} {node reached : ν}
    {output : AntiReplayOutput}
    (run : (if refusal then pure (.refused runtime result evidence) else next) node = (some output, reached))
    (success : output.result = .ok) (failed : refusal → result ≠ .ok) : ¬ refusal ∧ next node = (some output, reached) := by
  by_cases refused : refusal
  · rw [if_pos refused] at run
    exact absurd ((refused_returns run).symm.trans success) (failed refused)
  · rw [if_neg refused] at run
    exact ⟨refused, run⟩

theorem restoreCompared_ok {loaded : PersistedRecord} {comparison : AnchorCompare} {evidence : AntiReplayEvidence}
    (success : (restoreCompared loaded comparison evidence).result = .ok) :
    comparison = .matched ∧ (restoreCompared loaded comparison evidence).record = loaded ∧
      (restoreCompared loaded comparison evidence).runtime = restoredRuntime loaded := by
  cases comparison with
  | matched =>
    simp only [restoreCompared] at success ⊢
    by_cases failed : (restoreRuntimeFromRecord loaded freshnessRuntimeInit).1 ≠ .ok
    · rw [if_pos failed] at success
      exact absurd success failed
    · rw [if_neg failed]
      exact ⟨trivial, rfl, restoreRuntimeFromRecord_ok (not_not.mp failed)⟩
  | invalid => cases success
  | behind => cases success
  | ahead => cases success
  | stateMismatch => cases success
  | identityMismatch => cases success

section Calls

variable {σ : Type} {persistenceProvider : PersistenceProvider σ} {expectedIdentity : FreshnessIdentity}

theorem onPersistence_apply {α τ : Type} (operation : Dev σ α) (node : σ × τ) :
    onPersistence operation node = ((operation node.1).1, ((operation node.1).2, node.2)) := rfl

theorem onAnchor_apply {α τ : Type} (operation : Dev τ α) (node : σ × τ) :
    onAnchor operation node = ((operation node.2).1, (node.1, (operation node.2).2)) := rfl

theorem onPersistence_returns {α τ : Type} {operation : Dev σ α} {node reached : σ × τ} {result : Option α}
    (run : onPersistence operation node = (result, reached)) :
    operation node.1 = (result, reached.1) ∧ reached.2 = node.2 := by
  rw [onPersistence_apply] at run
  obtain ⟨returned, rfl⟩ := Prod.mk.inj run
  exact ⟨Prod.ext returned rfl, rfl⟩

theorem onAnchor_returns {α τ : Type} {operation : Dev τ α} {node reached : σ × τ} {result : Option α}
    (run : onAnchor operation node = (result, reached)) :
    operation node.2 = (result, reached.2) ∧ reached.1 = node.1 := by
  rw [onAnchor_apply] at run
  obtain ⟨returned, rfl⟩ := Prod.mk.inj run
  exact ⟨Prod.ext returned rfl, rfl⟩

theorem transactCommit_ok {previousRecord : Option PersistedRecord} {candidate : PersistedRecord} {state reached : σ}
    {report : OperationResult × TransactionOutcome}
    (run : transactCommit persistenceProvider previousRecord expectedIdentity candidate state = (some report, reached))
    (success : report.1 = .ok) : report.2 = .committed := by
  unfold transactCommit at run
  rcases admitted : admitTransaction previousRecord expectedIdentity candidate with _ | rejection
  · simp only [admitted, runStages] at run
    obtain ⟨written, afterWrite, -, run⟩ := Dev.bind_returns run
    split_ifs at run with write
    · exact absurd success (by rw [← (Dev.pure_returns run).1]; exact write)
    obtain ⟨verified, afterVerify, -, run⟩ := Dev.bind_returns run
    split_ifs at run with verify
    · exact absurd success (by rw [← (Dev.pure_returns run).1]; exact verify)
    obtain ⟨committed, afterCommit, -, run⟩ := Dev.bind_returns run
    split_ifs at run with commit
    · exact absurd success (by rw [← (Dev.pure_returns run).1]; exact commit)
    · rw [← (Dev.pure_returns run).1]
  · simp only [admitted] at run
    rw [← (Dev.pure_returns run).1] at success
    exact absurd success (admitTransaction_not_ok admitted)

theorem antiReplayRecover_ok {node reached : σ × AnchorStore} {output : AntiReplayOutput}
    (run : antiReplayRecover persistenceProvider anchorStoreProvider expectedIdentity node = (some output, reached))
    (success : output.result = .ok) :
    (persistenceProvider.load node.1).1 = some (.ok, .validPersistedState, output.record) ∧
      output.runtime = restoredRuntime output.record ∧
      ∃ anchor, node.2.anchor expectedIdentity = some anchor ∧ anchor.CommitsTo output.record := by
  simp only [antiReplayRecover] at run
  obtain ⟨⟨operation, status, record⟩, loaded, loadRun, run⟩ := Dev.bind_returns run
  obtain ⟨loadRun, stored⟩ := onPersistence_returns loadRun
  obtain ⟨completed, run⟩ := gate_returns run success (mt mapPersistenceOperation_ok.mp)
  obtain rfl : operation = .ok := not_not.mp completed
  obtain ⟨-, run⟩ := gate_returns run success fun _ => AntiReplayResult.noConfusion
  obtain ⟨-, run⟩ := gate_returns run success fun _ => AntiReplayResult.noConfusion
  obtain ⟨answer, asked, statusRun, run⟩ := Dev.bind_returns run
  obtain ⟨statusRun, -⟩ := onAnchor_returns statusRun
  obtain ⟨-, run⟩ := gate_returns run success (mt mapAnchorProviderResult_ok.mp)
  by_cases bootstrap : (persistenceClassify status record expectedIdentity).2 = .noStateBootstrap
  · rw [if_pos bootstrap] at run
    obtain ⟨-, run⟩ := gate_returns run success fun _ => AntiReplayResult.noConfusion
    obtain ⟨-, run⟩ := gate_returns run success fun _ => AntiReplayResult.noConfusion
    cases (refused_returns run).symm.trans success
  rw [if_neg bootstrap] at run
  obtain ⟨candidate, run⟩ := gate_returns run success fun _ => AntiReplayResult.noConfusion
  obtain rfl : status = .validPersistedState := persistenceClassify_candidate (not_not.mp candidate)
  by_cases unsettled : answer.2 ≠ .valid
  · rw [if_pos unsettled] at run
    obtain ⟨-, run⟩ := gate_returns run success fun _ => AntiReplayResult.noConfusion
    cases (refused_returns run).symm.trans success
  rw [if_neg unsettled, recoverAnchored] at run
  obtain ⟨⟨provided, anchor, condition⟩, answered, readRun, run⟩ := Dev.bind_returns run
  obtain ⟨readRun, -⟩ := onAnchor_returns readRun
  obtain ⟨available, run⟩ := gate_returns run success (mt mapAnchorProviderResult_ok.mp)
  obtain rfl : provided = .ok := not_not.mp available
  obtain ⟨valid, run⟩ := gate_returns run success fun _ => AntiReplayResult.noConfusion
  obtain rfl : condition = .valid := not_not.mp valid
  obtain ⟨compared, run⟩ := gate_returns run success (mt mapAnchorProviderResult_ok.mp)
  obtain ⟨rfl, -⟩ := Dev.pure_returns run
  obtain ⟨matched, restored, runtime⟩ := restoreCompared_ok success
  have asked : asked.2 = node.2.next := by
    rw [← stored]
    exact AnchorStore.status_reached statusRun
  have kept : node.2.anchor expectedIdentity = some anchor := by
    rw [asked] at readRun
    have read := AnchorStore.read_valid (congrArg Prod.fst readRun)
    exact read
  refine ⟨by rw [loadRun, restored], by rw [runtime, restored], anchor, kept, ?_⟩
  rw [restored]
  exact rollbackAnchorCompare_matched.mp (Prod.ext (not_not.mp compared) matched)

theorem onAnchor_keeps {α μ ν : Type} {view : σ → μ} {anchorView : AnchorStore → ν} {operation : Dev AnchorStore α}
    (kept : Dev.Keeps anchorView operation) :
    Dev.Keeps (fun node : σ × AnchorStore => (view node.1, anchorView node.2)) (onAnchor operation) :=
  fun node => congrArg (Prod.mk (view node.1)) (kept node.2)

theorem onPersistence_keeps {α μ ν : Type} {view : σ → μ} {anchorView : AnchorStore → ν} {operation : Dev σ α}
    (kept : Dev.Keeps view operation) :
    Dev.Keeps (fun node : σ × AnchorStore => (view node.1, anchorView node.2)) (onPersistence operation) :=
  fun node => congrArg (Prod.mk · (anchorView node.2)) (kept node.1)

theorem antiReplayRecover_keeps {μ : Type} {view : σ → μ} (kept : Dev.Keeps view persistenceProvider.load) :
    Dev.Keeps (fun node : σ × AnchorStore => (view node.1, node.2.anchors))
      (antiReplayRecover persistenceProvider anchorStoreProvider expectedIdentity) := by
  have status : Dev.Keeps AnchorStore.anchors (rollbackAnchorStatus anchorStoreProvider expectedIdentity) := by
    intro store
    rcases run : rollbackAnchorStatus anchorStoreProvider expectedIdentity store with ⟨result, reached⟩
    rw [AnchorStore.status_reached run]
    rfl
  have read : Dev.Keeps AnchorStore.anchors (rollbackAnchorRead anchorStoreProvider expectedIdentity) := by
    intro store
    rcases run : rollbackAnchorRead anchorStoreProvider expectedIdentity store with ⟨result, reached⟩
    rw [AnchorStore.read_reached run]
    rfl
  apply Dev.Keeps.bind (onPersistence_keeps kept)
  intro load
  apply Dev.Keeps.ite (.pure _)
  apply Dev.Keeps.ite (.pure _)
  apply Dev.Keeps.ite (.pure _)
  apply Dev.Keeps.bind (onAnchor_keeps status)
  intro answer
  apply Dev.Keeps.ite (.pure _)
  apply Dev.Keeps.ite (.ite (.pure _) (.ite (.pure _) (.pure _)))
  apply Dev.Keeps.ite (.pure _)
  apply Dev.Keeps.ite (.ite (.pure _) (.pure _))
  apply Dev.Keeps.bind (onAnchor_keeps read)
  intro provided
  apply Dev.Keeps.ite (.pure _)
  apply Dev.Keeps.ite (.pure _)
  apply Dev.Keeps.ite (.pure _) (.pure _)

section Continuation

variable {previousRecord : PersistedRecord} {nextEpoch nextSequence : U32} {runtime : FreshnessRuntime}

def continuationCommit (persistenceProvider : PersistenceProvider σ) (expectedIdentity : FreshnessIdentity)
    (previousRecord : PersistedRecord) (nextSequence : U32) : Dev σ (OperationResult × TransactionOutcome) :=
  transactCommit persistenceProvider (some previousRecord) expectedIdentity
    (continuationCandidate previousRecord nextSequence)

/-- What a continuation returns and leaves. An anchor is advanced only from a record it commits to, and only to the
    record that continues it and that the transaction has committed. -/
inductive ContinuationRun (persistenceProvider : PersistenceProvider σ) (expectedIdentity : FreshnessIdentity)
    (previousRecord : PersistedRecord) (nextSequence : U32) (node : σ × AnchorStore) :
    Option AntiReplayOutput × (σ × AnchorStore) → Prop
  | refused (output : Option AntiReplayOutput) (reached : σ × AnchorStore)
      (failed : ∀ value, output = some value → value.result ≠ .ok)
      (medium : reached.1 = node.1 ∨
        reached.1 = (continuationCommit persistenceProvider expectedIdentity previousRecord nextSequence node.1).2)
      (anchors : reached.2.anchors = node.2.anchors) (advances : reached.2.advances = node.2.advances) :
      ContinuationRun persistenceProvider expectedIdentity previousRecord nextSequence node (output, reached)
  | advanced (output : Option AntiReplayOutput) (reached : σ × AnchorStore) (anchor : AnchorRecord)
      (stored : node.2.anchor expectedIdentity = some anchor) (commits : anchor.CommitsTo previousRecord)
      (later : previousRecord.acceptedSequence < nextSequence)
      (room : previousRecord.recordGeneration < BitVec.allOnes 32 - 1)
      (committed : continuationCommit persistenceProvider expectedIdentity previousRecord nextSequence node.1 =
        (some (.ok, .committed), reached.1))
      (valid : (continuationCandidate previousRecord nextSequence).Valid)
      (anchors : reached.2.anchors = Function.update node.2.anchors expectedIdentity.canonical
        (some ⟨expectedIdentity, (continuationCandidate previousRecord nextSequence).recordGeneration,
          anchorCommitment (continuationCandidate previousRecord nextSequence)⟩))
      (advances : reached.2.advances = node.2.advances + 1)
      (record : ∀ value, output = some value → value.result = .ok →
        value.record = continuationCandidate previousRecord nextSequence) :
      ContinuationRun persistenceProvider expectedIdentity previousRecord nextSequence node (output, reached)

theorem admitRequest_none {anchor : AnchorRecord}
    (admitted : admitRequest (rollbackAnchorCompare anchor previousRecord) previousRecord nextEpoch nextSequence = none) :
    anchor.CommitsTo previousRecord ∧ previousRecord.acceptedSequence < nextSequence ∧
      previousRecord.recordGeneration < BitVec.allOnes 32 - 1 := by
  simp only [admitRequest] at admitted
  split_ifs at admitted with compared behind matched epoch replayed exhausted
  refine ⟨rollbackAnchorCompare_matched.mp (Prod.ext (not_not.mp compared) (not_not.mp matched)), ?_,
    BitVec.not_le.mp exhausted⟩
  exact BitVec.not_le.mp fun replay => replayed (Or.inr replay)

theorem finishContinuation_ok {candidate : PersistedRecord} {read : AnchorProviderResult × AnchorRecord × AnchorStatus}
    {evidence : AntiReplayEvidence} (success : (finishContinuation candidate runtime read evidence).result = .ok) :
    (finishContinuation candidate runtime read evidence).record = candidate := by
  simp only [finishContinuation] at success ⊢
  split_ifs at success ⊢ with unread unsettled mismatch unrestored
  · exact absurd (mapAnchorProviderResult_ok.mp success) unread
  · cases success
  · cases success
  · exact absurd success unrestored
  · rfl

theorem AnchorStore.Advanced.next {store reached : AnchorStore} {expectedGeneration nextGeneration : U32}
    {commitment : AnchorCommitment}
    (advanced : store.Advanced reached expectedIdentity expectedGeneration nextGeneration commitment) :
    store.Advanced reached.next expectedIdentity expectedGeneration nextGeneration commitment :=
  ⟨advanced.expected, advanced.anchors, advanced.advances⟩

/-- The end of a continuation leaves the medium alone. It advances the anchor to a valid candidate or not at all. -/
theorem advanceContinuation_run (candidate : PersistedRecord) (evidence : AntiReplayEvidence) (node : σ × AnchorStore) :
    let run := advanceContinuation anchorStoreProvider expectedIdentity previousRecord candidate runtime evidence node
    run.2.1 = node.1 ∧
      (((∀ value, run.1 = some value → value.result ≠ .ok) ∧ ∃ count, run.2.2 = node.2.after count) ∨
        (candidate.Valid ∧ node.2.Advanced run.2.2 expectedIdentity previousRecord.recordGeneration
            candidate.recordGeneration (anchorCommitment candidate) ∧
          ∀ value, run.1 = some value → value.result = .ok → value.record = candidate)) := by
  by_cases valid : candidate.Valid
  · have outcome := AnchorStore.advance_outcome expectedIdentity previousRecord.recordGeneration
      candidate.recordGeneration (anchorCommitment candidate) node.2
    simp only [advanceContinuation, rollbackAnchorCommitmentFromRecord_valid valid]
    rw [if_neg (by simp)]
    rcases started : onAnchor (rollbackAnchorAdvance anchorStoreProvider expectedIdentity
      previousRecord.recordGeneration candidate.recordGeneration (anchorCommitment candidate)) node with
      ⟨_ | result, between⟩
    all_goals
      obtain ⟨returned, medium⟩ := onAnchor_returns started
      rw [returned] at outcome
    · rw [Dev.bind_lost started]
      rcases outcome with ⟨-, same⟩ | advanced
      · exact ⟨medium, Or.inl ⟨fun _ lost => (nomatch lost), same⟩⟩
      · exact ⟨medium, Or.inr ⟨valid, advanced, fun _ lost => (nomatch lost)⟩⟩
    · rw [Dev.bind_value started]
      by_cases failed : result ≠ .ok
      · rw [if_pos failed]
        have refused := mt mapAnchorProviderResult_ok.mp failed
        rcases outcome with ⟨-, same⟩ | advanced
        · refine ⟨medium, Or.inl ⟨fun value returned => ?_, same⟩⟩
          rw [← Dev.pure_value returned]
          exact refused
        · refine ⟨medium, Or.inr ⟨valid, advanced, fun value returned success => ?_⟩⟩
          rw [← Dev.pure_value returned] at success
          exact absurd success refused
      · rw [if_neg failed]
        rcases outcome with ⟨unapplied, -⟩ | advanced
        · exact absurd (congrArg some (not_not.mp failed)) unapplied
        rcases answered : onAnchor (rollbackAnchorRead anchorStoreProvider expectedIdentity) between with
          ⟨_ | read, reached⟩
        all_goals
          obtain ⟨readRun, kept⟩ := onAnchor_returns answered
          have progressed : node.2.Advanced reached.2 expectedIdentity previousRecord.recordGeneration
              candidate.recordGeneration (anchorCommitment candidate) := by
            rw [AnchorStore.read_reached readRun]
            exact advanced.next
        · rw [Dev.bind_lost answered]
          exact ⟨kept.trans medium, Or.inr ⟨valid, progressed, fun _ lost => nomatch lost⟩⟩
        · rw [Dev.bind_value answered]
          refine ⟨kept.trans medium, Or.inr ⟨valid, progressed, ?_⟩⟩
          intro value returned success
          rw [← Dev.pure_value returned] at success ⊢
          exact finishContinuation_ok success
  · have rejected := mt rollbackAnchorCommitmentFromRecord_ok.mp valid
    simp only [advanceContinuation]
    rw [if_pos rejected]
    refine ⟨rfl, Or.inl ⟨fun value returned success => ?_, 0, rfl⟩⟩
    cases returned
    exact rejected (mapAnchorProviderResult_ok.mp success)

/-- Up to the advance of the anchor, a continuation stops without success. -/
structure Stopped (persistenceProvider : PersistenceProvider σ) (expectedIdentity : FreshnessIdentity)
    (previousRecord : PersistedRecord) (nextSequence : U32) (node reached : σ × AnchorStore) : Prop where
  medium : reached.1 = node.1 ∨
    reached.1 = (continuationCommit persistenceProvider expectedIdentity previousRecord nextSequence node.1).2
  anchors : ∃ count, reached.2 = node.2.after count

theorem Stopped.lost {node reached : σ × AnchorStore}
    (stopped : Stopped persistenceProvider expectedIdentity previousRecord nextSequence node reached) :
    ContinuationRun persistenceProvider expectedIdentity previousRecord nextSequence node (none, reached) := by
  obtain ⟨medium, count, same⟩ := stopped
  exact .refused _ _ (fun _ lost => nomatch lost) medium (by rw [same]; rfl) (by rw [same]; rfl)

theorem Stopped.refused {node reached : σ × AnchorStore}
    (stopped : Stopped persistenceProvider expectedIdentity previousRecord nextSequence node reached)
    {result : AntiReplayResult} (failed : result ≠ .ok) (evidence : AntiReplayEvidence) :
    ContinuationRun persistenceProvider expectedIdentity previousRecord nextSequence node
      ((pure (.refused runtime result evidence) : Dev (σ × AnchorStore) AntiReplayOutput) reached) := by
  obtain ⟨medium, count, same⟩ := stopped
  refine .refused _ _ (fun value returned => ?_) medium (by rw [same]; rfl) (by rw [same]; rfl)
  cases returned
  exact failed

theorem admitContinuation_failed {result : AntiReplayResult}
    (rejected : admitContinuation expectedIdentity previousRecord runtime = some result) : result ≠ .ok := by
  simp only [admitContinuation] at rejected
  split_ifs at rejected <;> cases rejected <;> decide

theorem admitRequest_failed {compared : AnchorProviderResult × AnchorCompare} {result : AntiReplayResult}
    (rejected : admitRequest compared previousRecord nextEpoch nextSequence = some result) : result ≠ .ok := by
  simp only [admitRequest] at rejected
  split_ifs at rejected with failed <;> cases rejected
  · exact mt mapAnchorProviderResult_ok.mp failed
  all_goals decide

theorem transactContinuation_run {node between : σ × AnchorStore} {anchor : AnchorRecord}
    (medium : between.1 = node.1) (read : between.2 = node.2.after 1)
    (stored : node.2.anchor expectedIdentity = some anchor) (commits : anchor.CommitsTo previousRecord)
    (later : previousRecord.acceptedSequence < nextSequence)
    (room : previousRecord.recordGeneration < BitVec.allOnes 32 - 1) (evidence : AntiReplayEvidence) :
    ContinuationRun persistenceProvider expectedIdentity previousRecord nextSequence node
      (transactContinuation persistenceProvider anchorStoreProvider expectedIdentity previousRecord nextSequence runtime
        evidence between) := by
  unfold transactContinuation
  rcases transacted : onPersistence (transactCommit persistenceProvider (some previousRecord) expectedIdentity
    (continuationCandidate previousRecord nextSequence)) between with ⟨_ | ⟨operation, outcome⟩, committed⟩
  all_goals
    obtain ⟨transactRun, unadvanced⟩ := onPersistence_returns transacted
    rw [medium] at transactRun
    have stopped : Stopped persistenceProvider expectedIdentity previousRecord nextSequence node committed :=
      ⟨Or.inr (congrArg Prod.snd transactRun).symm, 1, unadvanced.trans read⟩
  · rw [Dev.bind_lost transacted]
    exact stopped.lost
  rw [Dev.bind_value transacted]
  by_cases uncommitted : operation ≠ .ok ∨ outcome ≠ .committed
  · rw [if_pos uncommitted]
    refine stopped.refused (mt mapPersistenceOperation_ok.mp fun success => ?_) _
    rcases uncommitted with failed | undurable
    · exact failed success
    · exact undurable (transactCommit_ok transactRun success)
  rw [if_neg uncommitted]
  obtain ⟨success, durable⟩ := not_or.mp uncommitted
  obtain rfl : operation = .ok := not_not.mp success
  obtain rfl : outcome = .committed := not_not.mp durable
  have same := unadvanced.trans read
  have run := @advanceContinuation_run σ expectedIdentity previousRecord runtime
    (continuationCandidate previousRecord nextSequence) { evidence with persistenceCommitted := 1 } committed
  revert run
  generalize advanceContinuation anchorStoreProvider expectedIdentity previousRecord
    (continuationCandidate previousRecord nextSequence) runtime { evidence with persistenceCommitted := 1 } committed = run
  obtain ⟨output, reached⟩ := run
  rintro ⟨kept, ⟨failed, count, unchanged⟩ | ⟨valid, advanced, record⟩⟩
  · refine .refused _ _ failed (Or.inr ?_) ?_ ?_
    · exact kept.trans (congrArg Prod.snd transactRun).symm
    · rw [unchanged, same]
      rfl
    · rw [unchanged, same]
      rfl
  · rw [same] at advanced
    refine .advanced _ _ anchor stored commits later room ?_ valid advanced.anchors advanced.advances record
    rw [kept]
    exact transactRun

theorem antiReplayCommitContinuation_run (node : σ × AnchorStore) :
    ContinuationRun persistenceProvider expectedIdentity previousRecord nextSequence node
      (antiReplayCommitContinuation persistenceProvider anchorStoreProvider expectedIdentity previousRecord nextEpoch
        nextSequence runtime node) := by
  unfold antiReplayCommitContinuation
  rcases admitted : admitContinuation expectedIdentity previousRecord runtime with _ | result
  · simp only
    rcases answered : onAnchor (rollbackAnchorRead anchorStoreProvider expectedIdentity) node with
      ⟨_ | ⟨provided, anchor, condition⟩, between⟩
    all_goals
      obtain ⟨readRun, kept⟩ := onAnchor_returns answered
      have stopped : Stopped persistenceProvider expectedIdentity previousRecord nextSequence node between :=
        ⟨Or.inl kept, 1, AnchorStore.read_reached readRun⟩
    · rw [Dev.bind_lost answered]
      exact stopped.lost
    rw [Dev.bind_value answered]
    by_cases unread : provided ≠ .ok
    · rw [if_pos unread]
      exact stopped.refused (mt mapAnchorProviderResult_ok.mp unread) _
    obtain rfl : provided = .ok := not_not.mp unread
    rw [if_neg unread]
    by_cases unsettled : condition ≠ .valid
    · rw [if_pos unsettled]
      exact stopped.refused (by decide) _
    obtain rfl : condition = .valid := not_not.mp unsettled
    rw [if_neg unsettled]
    rcases requested : admitRequest (rollbackAnchorCompare anchor previousRecord) previousRecord nextEpoch nextSequence with
      _ | result
    · obtain ⟨commits, later, room⟩ := admitRequest_none requested
      have stored := AnchorStore.read_valid (congrArg Prod.fst readRun)
      exact transactContinuation_run kept (AnchorStore.read_reached readRun) stored commits later room _
    · exact stopped.refused (admitRequest_failed requested) _
  · have stopped : Stopped persistenceProvider expectedIdentity previousRecord nextSequence node node :=
      ⟨Or.inl rfl, 0, rfl⟩
    exact stopped.refused (admitContinuation_failed admitted) _

end Continuation

end Calls

end Guardian.NodeLink
