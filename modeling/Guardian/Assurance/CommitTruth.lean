import Mathlib.Tactic.IntervalCases
import Guardian.Assurance.HostBackendSafety

namespace Guardian.Assurance

open FileProgram

variable {ι α β : Type} [DecidableEq ι]

/-- Everything goes well up to the operation at a position, and that one fails. -/
def FirstFails (position : ℕ) (fates : ℕ → Fate (HostDocument ι)) : Prop :=
  (∀ earlier < position, fates earlier = .succeeds) ∧ fates position ≠ .succeeds

/-- The position of the synchronisation of the directory in a commit that is not refused: the directory, one look at the
state, one read of it where it is there, the write, the read-back and the replacement come before it. -/
def syncPosition (files : HostFiles ι) (path : HostPath ι) : ℕ := if (files path).isSome then 6 else 5

section Place

variable {candidatePath path : HostPath ι} (candidate : HostDocument ι) {prepared : HostReplacement ι}
  {committed failed : α}

theorem runWith_putInPlace (apart : candidatePath ≠ path) (fates : ℕ → Fate (HostDocument ι)) (files : HostFiles ι) :
    (FirstFails 3 fates →
      ((putInPlace candidatePath path candidate prepared committed failed).runWith fates files).1 = failed ∧
      ((putInPlace candidatePath path candidate prepared committed failed).runWith fates files).2 path =
        some candidate) ∧
    (¬ FirstFails 3 fates →
      ((putInPlace candidatePath path candidate prepared committed failed).runWith fates files).1 = committed ∧
      ((putInPlace candidatePath path candidate prepared committed failed).runWith fates files).2 path =
        some candidate ∨
      ((putInPlace candidatePath path candidate prepared committed failed).runWith fates files).1 = failed ∧
      ((putInPlace candidatePath path candidate prepared committed failed).runWith fates files).2 path =
        files path) := by
  have early {position : ℕ} (before : position < 3) (fails : fates position ≠ .succeeds) : ¬ FirstFails 3 fates :=
    fun first => fails (first.1 position before)
  cases written : fates 0 with
  | fails left =>
    have unharmed := early (by decide : 0 < 3) (by rw [written]; nofun)
    refine ⟨fun first => absurd first unharmed, fun _ => .inr ?_⟩
    simp [putInPlace, Program.runWith, written, Function.update_of_ne apart.symm]
  | succeeds =>
    cases readBack : fates 1 with
    | fails left =>
      have unharmed := early (by decide : 1 < 3) (by rw [readBack]; nofun)
      refine ⟨fun first => absurd first unharmed, fun _ => .inr ?_⟩
      simp [putInPlace, Program.runWith, written, readBack, Function.update_of_ne apart.symm]
    | succeeds =>
      cases replaced : fates 2 with
      | fails left =>
        have unharmed := early (by decide : 2 < 3) (by rw [replaced]; nofun)
        refine ⟨fun first => absurd first unharmed, fun _ => .inr ?_⟩
        simp [putInPlace, Program.runWith, written, readBack, replaced, Function.update_of_ne apart.symm]
      | succeeds =>
        have inPlace : placed files candidatePath path candidate path = some candidate := by
          rw [placed, Function.update_of_ne apart.symm, Function.update_self]
        cases synced : fates 3 with
        | fails left =>
          have first : FirstFails 3 fates := by
            refine ⟨fun earlier before => ?_, by rw [synced]; nofun⟩
            interval_cases earlier
            · exact written
            · exact readBack
            · exact replaced
          refine ⟨fun _ => ?_, fun unharmed => absurd first unharmed⟩
          simp [putInPlace, Program.runWith, written, readBack, replaced, synced, placed_eq files candidate apart,
            inPlace]
        | succeeds =>
          refine ⟨fun first => absurd synced first.2, fun _ => .inl ?_⟩
          simp [putInPlace, Program.runWith, written, readBack, replaced, synced, placed_eq files candidate apart,
            inPlace]

/-- A commit whose replacement is lost sight of has failed with the candidate in place; any other has the candidate in
place, or has been refused or failed with the state as it was. -/
structure CommitReports (blind : Prop) (candidate : HostDocument ι) (committed failed : α) (refusal : β → Option α)
    (before : Option (HostDocument ι)) (result : α) (after : Option (HostDocument ι)) : Prop where
  lost : blind → result = failed ∧ after = some candidate
  kept : ¬ blind → result = committed ∧ after = some candidate ∨
    (result = failed ∨ ∃ current, refusal current = some result) ∧ after = before

omit [DecidableEq ι] in
theorem CommitReports.early {stored : β} {refusal : β → Option α} {fates : ℕ → Fate (HostDocument ι)}
    {position sync : ℕ} {before after : Option (HostDocument ι)} {result : α} (first : position < sync)
    (fails : fates position ≠ .succeeds) (refused : result = failed ∨ ∃ current, refusal current = some result)
    (unchanged : after = before) :
    CommitReports (refusal stored = none ∧ FirstFails sync fates) candidate committed failed refusal before result
      after where
  lost blind := absurd (blind.2.1 position first) fails
  kept _ := .inr ⟨refused, unchanged⟩

omit [DecidableEq ι] in
theorem firstFails_shift {shift : ℕ} {fates : ℕ → Fate (HostDocument ι)}
    (went : ∀ earlier < shift, fates earlier = .succeeds) (position : ℕ) :
    FirstFails (shift + position) fates ↔ FirstFails position fun earlier => fates (earlier + shift) := by
  rw [FirstFails, FirstFails, Nat.add_comm position shift]
  refine and_congr ⟨fun all earlier before => all _ (by omega), fun all earlier before => ?_⟩ Iff.rfl
  by_cases low : earlier < shift
  · exact went earlier low
  · have here : fates (earlier - shift + shift) = .succeeds := all (earlier - shift) (by omega)
    rwa [Nat.sub_add_cancel (Nat.not_lt.mp low)] at here

variable (prepared) in
theorem CommitReports.decided {absent : β} {parse : HostDocument ι → β} {refusal : β → Option α}
    (apart : candidatePath ≠ path) {fates : ℕ → Fate (HostDocument ι)} {files : HostFiles ι} {ran : α × HostFiles ι}
    {shift : ℕ} (reached : syncPosition files path = shift + 3) (went : ∀ earlier < shift, fates earlier = .succeeds)
    (runs : ((refusal (found files path absent parse)).elim
      (putInPlace candidatePath path candidate prepared committed failed) Program.done).runWith
        (fun position => fates (position + shift)) files = ran) :
    CommitReports (refusal (found files path absent parse) = none ∧ FirstFails (syncPosition files path) fates)
      candidate committed failed refusal (files path) ran.1 (ran.2 path) := by
  rw [reached, firstFails_shift went]
  cases decides : refusal (found files path absent parse) with
  | some result =>
    rw [decides] at runs
    subst runs
    exact ⟨fun first => by simp at first, fun _ => .inr ⟨.inr ⟨_, decides⟩, rfl⟩⟩
  | none =>
    rw [decides] at runs
    subst runs
    obtain ⟨lost, kept⟩ := runWith_putInPlace candidate apart (fun position => fates (position + shift)) files
    exact ⟨fun first => lost first.2, fun unharmed =>
      (kept fun first => unharmed ⟨rfl, first⟩).imp_right fun failing => ⟨.inl failing.1, failing.2⟩⟩

/-- The whole commit: a failure after the replacement is the only one that leaves the candidate in place. -/
theorem runWith_commitState {absent unavailable : β} {parse : HostDocument ι → β} {refusal : β → Option α}
    (apart : candidatePath ≠ path) (readable : refusal unavailable ≠ none) (fates : ℕ → Fate (HostDocument ι))
    (files : HostFiles ι) {ran : α × HostFiles ι}
    (runs : (commitState (loadState path absent unavailable parse) refusal
      (putInPlace candidatePath path candidate prepared committed failed) failed).runWith fates files = ran) :
    CommitReports (refusal (found files path absent parse) = none ∧ FirstFails (syncPosition files path) fates)
      candidate committed failed refusal (files path) ran.1 (ran.2 path) := by
  obtain ⟨refused, refuses⟩ := Option.ne_none_iff_exists'.mp readable
  have late : 4 < syncPosition files path := by
    unfold syncPosition
    split_ifs <;> decide
  cases opened : fates 0 with
  | fails left =>
    have failing : ran = (failed, files) := by
      rw [← runs]
      simp [commitState, Program.runWith, opened]
    exact .early candidate (by omega : 0 < _) (by simp [opened]) (.inl (by rw [failing])) (by rw [failing])
  | succeeds =>
    cases looked : fates 1 with
    | fails left =>
      have failing : ran = (refused, files) := by
        rw [← runs]
        simp only [commitState, loadState, Program.bind, Program.runWith, opened, looked, Function.comp_apply, refuses]
      exact .early candidate (by omega : 1 < _) (by simp [looked]) (.inr ⟨unavailable, by rw [failing, refuses]⟩)
        (by rw [failing])
    | succeeds =>
      cases stored : files path with
      | none =>
        have position : syncPosition files path = 2 + 3 := by simp [syncPosition, stored]
        have finds : found files path absent parse = absent := by rw [found, stored]; rfl
        rw [← stored]
        refine .decided candidate prepared apart position (fun earlier before => ?_) ?_
        · interval_cases earlier
          · exact opened
          · exact looked
        · rw [← runs, finds]
          simp only [commitState, loadState, Program.bind, Program.runWith, opened, looked, stored,
            Option.isSome_none, Function.comp_apply]
          cases refusal absent <;> rfl
      | some document =>
        have position : syncPosition files path = 3 + 3 := by simp [syncPosition, stored]
        have finds : found files path absent parse = parse document := by rw [found, stored]; rfl
        rw [← stored]
        cases readState : fates 2 with
        | fails left =>
          have failing : ran = (refused, files) := by
            rw [← runs]
            simp only [commitState, loadState, Program.bind, Program.runWith, opened, looked, readState, stored,
              Option.isSome_some, Function.comp_apply, refuses]
          exact .early candidate (by omega : 2 < _) (by simp [readState])
            (.inr ⟨unavailable, by rw [failing, refuses]⟩) (by rw [failing])
        | succeeds =>
          refine .decided candidate prepared apart position (fun earlier before => ?_) ?_
          · interval_cases earlier
            · exact opened
            · exact looked
            · exact readState
          · rw [← runs, finds]
            simp only [commitState, loadState, Program.bind, Program.runWith, opened, looked, readState, stored,
              Option.isSome_some, Function.comp_apply]
            cases refusal (parse document) <;> rfl

end Place

/-- The answer of a freshness commit tells what a load finds after it. -/
def FreshnessCommitTruthful (prepared : FreshnessPreparedWrite ι) (files : HostFiles ι)
    (fates : ℕ → Fate (HostDocument ι)) : Prop :=
  let ran := (commitFreshness prepared).runWith fates files
  let loaded := ((loadFreshness prepared.producerId).run ran.2).1
  (∀ state, ran.1 = .committed state → loaded = .stateValid prepared.candidateState) ∧
  ∀ detail, ran.1 = .persistFailure detail → loaded = ((loadFreshness prepared.producerId).run files).1

def AuthorizationCommitTruthful (prepared : AuthorizationPreparedTransaction ι) (files : HostFiles ι)
    (fates : ℕ → Fate (HostDocument ι)) : Prop :=
  let ran := (commitAuthorization prepared).runWith fates files
  let loaded := ((loadAuthorization prepared.candidate.replayScope).run ran.2).1
  (∀ state, ran.1 = .committed state → loaded = .stateValid prepared.candidate) ∧
  ∀ detail, ran.1 = .persistFailure detail ∨ ran.1 = .stalePreparation detail →
    loaded = ((loadAuthorization prepared.candidate.replayScope).run files).1

/-- The commit goes well up to the synchronisation of the directory, which fails, and the candidate is not what was
stored already. -/
def FreshnessSyncLost (prepared : FreshnessPreparedWrite ι) (files : HostFiles ι) (fates : ℕ → Fate (HostDocument ι)) :
    Prop :=
  (HostReplacement.freshness prepared).Unchanged (files (.freshnessState prepared.producerId)) ∧
  FirstFails (syncPosition files (.freshnessState prepared.producerId)) fates ∧
  prepared.previousState ≠ some prepared.candidateState

def AuthorizationSyncLost (prepared : AuthorizationPreparedTransaction ι) (files : HostFiles ι)
    (fates : ℕ → Fate (HostDocument ι)) : Prop :=
  (HostReplacement.authorization prepared).Unchanged (files (.authorizationState prepared.candidate.replayScope)) ∧
  FirstFails (syncPosition files (.authorizationState prepared.candidate.replayScope)) fates ∧
  files (.authorizationState prepared.candidate.replayScope) ≠ some (.authorization prepared.candidate)

theorem freshnessFound_congr {files after : HostFiles ι} {producerId : ι}
    (same : after (.freshnessState producerId) = files (.freshnessState producerId)) :
    freshnessFound after producerId = freshnessFound files producerId := by
  rw [freshnessFound, freshnessFound, found, found, same]

theorem authorizationFound_congr {files after : HostFiles ι} {scope : AuthorizationReplayScope ι}
    (same : after (.authorizationState scope) = files (.authorizationState scope)) :
    authorizationFound after scope = authorizationFound files scope := by
  rw [authorizationFound, authorizationFound, found, found, same]

theorem freshness_commit_truthful (prepared : FreshnessPreparedWrite ι) (files : HostFiles ι)
    (fates : ℕ → Fate (HostDocument ι)) :
    FreshnessCommitTruthful prepared files fates ↔ ¬ FreshnessSyncLost prepared files fates := by
  have apart : HostPath.freshnessCandidate prepared.producerId ≠ .freshnessState prepared.producerId := by simp
  have readable : freshnessRefusal prepared (.unavailable "committed host freshness state unavailable") ≠ none := by
    unfold freshnessRefusal
    cases prepared.previousState <;> simp
  have reports := runWith_commitState _ apart readable fates files
    (rfl : (commitFreshness prepared).runWith fates files = _)
  change CommitReports (freshnessRefusal prepared (freshnessFound files prepared.producerId) = none ∧ _) _ _ _ _ _
    ((commitFreshness prepared).runWith fates files).1 (((commitFreshness prepared).runWith fates files).2 _) at reports
  have accepts := freshnessRefusal_iff prepared files
  have stored {after : HostFiles ι}
      (placed : after (.freshnessState prepared.producerId) = some (.freshness prepared.candidateState)) :
      freshnessFound after prepared.producerId = .stateValid prepared.candidateState :=
    freshnessFound_stateValid.mpr ⟨placed, rfl⟩
  unfold FreshnessCommitTruthful FreshnessSyncLost
  simp only [run_loadFreshness]
  rw [← accepts]
  generalize (commitFreshness prepared).runWith fates files = ran at reports
  constructor
  · rintro ⟨-, failing⟩ ⟨accepted, first, changes⟩
    obtain ⟨failed, placed⟩ := reports.lost ⟨accepted, first⟩
    have same := failing _ failed
    rw [stored placed] at same
    have unchanged := accepts.mp accepted
    rw [HostReplacement.Unchanged, (freshnessFound_stateValid.mp same.symm).1] at unchanged
    cases known : prepared.previousState with
    | none => simp [known] at unchanged
    | some previous =>
      rw [known, Option.map_some, Option.some.injEq, HostDocument.freshness.injEq] at unchanged
      exact changes (known.trans (congrArg some unchanged.symm))
  · intro kept
    by_cases lost : freshnessRefusal prepared (freshnessFound files prepared.producerId) = none ∧
        FirstFails (syncPosition files (.freshnessState prepared.producerId)) fates
    · obtain ⟨failed, placed⟩ := reports.lost lost
      have same : prepared.previousState = some prepared.candidateState := by
        by_contra changes
        exact kept ⟨lost.1, lost.2, changes⟩
      refine ⟨fun state committed => by simp [failed] at committed, fun detail _ => ?_⟩
      rw [stored placed, stored]
      have unchanged := accepts.mp lost.1
      rwa [HostReplacement.Unchanged, same] at unchanged
    · rcases reports.kept lost with ⟨committed, placed⟩ | ⟨refused, unchanged⟩
      · exact ⟨fun state _ => stored placed, fun detail failed => by simp [committed] at failed⟩
      · refine ⟨fun state committed => ?_, fun detail _ => freshnessFound_congr unchanged⟩
        rcases refused with failed | ⟨current, refuses⟩
        · simp [failed] at committed
        · obtain ⟨detail, failed⟩ := freshnessRefusal_some refuses
          simp [failed] at committed

theorem authorization_commit_truthful (prepared : AuthorizationPreparedTransaction ι) (files : HostFiles ι)
    (fates : ℕ → Fate (HostDocument ι)) :
    AuthorizationCommitTruthful prepared files fates ↔ ¬ AuthorizationSyncLost prepared files fates := by
  have apart : HostPath.authorizationCandidate prepared.candidate.replayScope ≠
    .authorizationState prepared.candidate.replayScope := nofun
  have readable : authorizationRefusal prepared (.unavailable "committed host authorization state unavailable") ≠
      none := by
    unfold authorizationRefusal
    cases prepared.previousGeneration <;> simp
  have reports := runWith_commitState _ apart readable fates files
    (rfl : (commitAuthorization prepared).runWith fates files = _)
  change CommitReports (authorizationRefusal prepared (authorizationFound files prepared.candidate.replayScope) = none ∧
    _) _ _ _ _ _ ((commitAuthorization prepared).runWith fates files).1
    (((commitAuthorization prepared).runWith fates files).2 _) at reports
  have accepts := authorizationRefusal_iff prepared files
  have stored {after : HostFiles ι} (placed : after (.authorizationState prepared.candidate.replayScope) =
      some (.authorization prepared.candidate)) :
      authorizationFound after prepared.candidate.replayScope = .stateValid prepared.candidate :=
    authorizationFound_stateValid.mpr ⟨placed, rfl⟩
  unfold AuthorizationCommitTruthful AuthorizationSyncLost
  simp only [run_loadAuthorization]
  rw [← accepts]
  generalize (commitAuthorization prepared).runWith fates files = ran at reports
  constructor
  · rintro ⟨-, failing⟩ ⟨accepted, first, changes⟩
    obtain ⟨failed, placed⟩ := reports.lost ⟨accepted, first⟩
    have same := failing _ (.inl failed)
    rw [stored placed] at same
    exact changes (authorizationFound_stateValid.mp same.symm).1
  · intro kept
    by_cases lost : authorizationRefusal prepared (authorizationFound files prepared.candidate.replayScope) = none ∧
        FirstFails (syncPosition files (.authorizationState prepared.candidate.replayScope)) fates
    · obtain ⟨failed, placed⟩ := reports.lost lost
      have same : files (.authorizationState prepared.candidate.replayScope) =
          some (.authorization prepared.candidate) := by
        by_contra changes
        exact kept ⟨lost.1, lost.2, changes⟩
      refine ⟨fun state committed => (nomatch failed.symm.trans committed), fun detail _ => ?_⟩
      rw [stored placed, stored same]
    · rcases reports.kept lost with ⟨committed, placed⟩ | ⟨refused, unchanged⟩
      · refine ⟨fun state _ => stored placed, fun detail failed => ?_⟩
        rcases failed with failed | stale
        · exact nomatch committed.symm.trans failed
        · exact nomatch committed.symm.trans stale
      · refine ⟨fun state committed => ?_, fun detail _ => authorizationFound_congr unchanged⟩
        rcases refused with failed | ⟨current, refuses⟩
        · exact nomatch failed.symm.trans committed
        · obtain ⟨detail, stale⟩ := authorizationRefusal_some refuses
          exact nomatch stale.symm.trans committed

/-- A commit tells the truth unless its replacement is done and the synchronisation of the directory fails. -/
theorem host_commit_truthful (files : HostFiles ι) (fates : ℕ → Fate (HostDocument ι)) :
    (∀ prepared, FreshnessCommitTruthful prepared files fates ↔ ¬ FreshnessSyncLost prepared files fates) ∧
    ∀ prepared, AuthorizationCommitTruthful prepared files fates ↔ ¬ AuthorizationSyncLost prepared files fates :=
  ⟨fun prepared => freshness_commit_truthful prepared files fates,
    fun prepared => authorization_commit_truthful prepared files fates⟩

/-- A first state whose commit answers a persist failure, and that is loaded afterwards. -/
theorem host_commit_sync_lost :
    ¬ FreshnessCommitTruthful ⟨none, makeUnsetState 1 10, nofun⟩ (fun _ : HostPath ℕ => none)
      (fun position => if position = 5 then .fails none else .succeeds) := by
  rintro ⟨-, failing⟩
  exact absurd (failing "host freshness commit failed" (by decide +kernel)) (by decide +kernel)

end Guardian.Assurance
