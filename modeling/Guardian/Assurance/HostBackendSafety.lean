import Guardian.Assurance.HostBackends

namespace Guardian.Assurance

open FileProgram

variable {ι α β : Type} [DecidableEq ι]

theorem run_loadState (path : HostPath ι) (absent unavailable : α) (parse : HostDocument ι → α)
    (files : HostFiles ι) :
    (loadState path absent unavailable parse).run files = (found files path absent parse, files) := by
  cases stored : files path with
  | none => simp [loadState, Program.run, found, stored]
  | some document => simp [loadState, Program.run, found, stored]

theorem run_loadFreshness (producerId : ι) (files : HostFiles ι) :
    (loadFreshness producerId).run files = (freshnessFound files producerId, files) := run_loadState ..

theorem run_loadAuthorization (scope : AuthorizationReplayScope ι) (files : HostFiles ι) :
    (loadAuthorization scope).run files = (authorizationFound files scope, files) := run_loadState ..

/-- The files with a new state in place, and no candidate left. -/
def placed (files : HostFiles ι) (candidatePath path : HostPath ι) (document : HostDocument ι) : HostFiles ι :=
  Function.update (Function.update files path (some document)) candidatePath none

theorem placed_eq (files : HostFiles ι) {candidatePath path : HostPath ι} (document : HostDocument ι)
    (apart : candidatePath ≠ path) :
    Program.moved (Function.update files candidatePath (some document)) candidatePath path =
      placed files candidatePath path document := by
  unfold Program.moved placed
  rw [Function.update_self, Function.update_comm apart, Function.update_idem]

theorem run_putInPlace {candidatePath path : HostPath ι} (apart : candidatePath ≠ path) (candidate : HostDocument ι)
    (prepared : HostReplacement ι) (committed failed : α) (files : HostFiles ι) :
    (putInPlace candidatePath path candidate prepared committed failed).run files =
      (committed, placed files candidatePath path candidate) := by
  simp [putInPlace, Program.run, placed_eq files candidate apart]

theorem run_commitState {load : HostProgram ι β} {refusal : β → Option α} {proceed : HostProgram ι α} {failed : α}
    {files : HostFiles ι} {current : β} (loads : load.run files = (current, files)) :
    (commitState load refusal proceed failed).run files =
      (refusal current).elim (proceed.run files) fun refused => (refused, files) := by
  simp only [commitState, Program.run, Program.run_bind, loads]
  cases refusal current <;> rfl

theorem run_commitFreshness (prepared : FreshnessPreparedWrite ι) (files : HostFiles ι) :
    (commitFreshness prepared).run files =
      (freshnessRefusal prepared (freshnessFound files prepared.producerId)).elim
        (.committed prepared.candidateState, placed files (.freshnessCandidate prepared.producerId)
          (.freshnessState prepared.producerId) (.freshness prepared.candidateState))
        fun refused => (refused, files) := by
  have apart : HostPath.freshnessCandidate prepared.producerId ≠ .freshnessState prepared.producerId := nofun
  rw [commitFreshness, run_commitState (run_loadFreshness ..), run_putInPlace apart]

theorem run_commitAuthorization (prepared : AuthorizationPreparedTransaction ι) (files : HostFiles ι) :
    (commitAuthorization prepared).run files =
      (authorizationRefusal prepared (authorizationFound files prepared.candidate.replayScope)).elim
        (.committed prepared.candidate, placed files (.authorizationCandidate prepared.candidate.replayScope)
          (.authorizationState prepared.candidate.replayScope) (.authorization prepared.candidate))
        fun refused => (refused, files) := by
  have apart : HostPath.authorizationCandidate prepared.candidate.replayScope ≠
    .authorizationState prepared.candidate.replayScope := nofun
  rw [commitAuthorization, run_commitState (run_loadAuthorization ..), run_putInPlace apart]

theorem run_verifyFreshness {prepared : FreshnessPreparedWrite ι} {files : HostFiles ι}
    (stored : files (.freshnessState prepared.producerId) = some (.freshness prepared.candidateState)) :
    (verifyFreshness prepared).run files = (.verified prepared.candidateState, files) := by
  have loads : freshnessFound files prepared.producerId = .stateValid prepared.candidateState :=
    freshnessFound_stateValid.mpr ⟨stored, rfl⟩
  simp [verifyFreshness, Program.run_bind, run_loadFreshness, loads, Program.run]

theorem run_verifyAuthorization {prepared : AuthorizationPreparedTransaction ι} {files : HostFiles ι}
    (stored : files (.authorizationState prepared.candidate.replayScope) = some (.authorization prepared.candidate)) :
    (verifyAuthorization prepared).run files = (.verified prepared.candidate, files) := by
  have loads : authorizationFound files prepared.candidate.replayScope = .stateValid prepared.candidate :=
    authorizationFound_stateValid.mpr ⟨stored, rfl⟩
  simp [verifyAuthorization, Program.run_bind, run_loadAuthorization, loads, Program.run]

/-- What the calls promise each other: a state file changes only by a replacement whose write was prepared from what is
stored, and that is lawful. -/
def hostContract (renews : Bool) (exposed : List (HostReplacement ι) → Prop)
    (lawful : List (HostReplacement ι) → HostReplacement ι → Prop) :
    Contract (HostPath ι) (HostDocument ι) (HostReplacement ι) where
  renews
  exposed
  scratch := HostPath.Candidate
  target := HostReplacement.path
  content := HostReplacement.document
  allows made before mark := mark.Unchanged before ∧ lawful made mark

variable {renews : Bool} {exposed : List (HostReplacement ι) → Prop}
  {lawful : List (HostReplacement ι) → HostReplacement ι → Prop}
  {own : HostPath ι → Bool} {made : List (HostReplacement ι)} {old : View (HostPath ι) (HostDocument ι)}

theorem safe_loadState {post : View (HostPath ι) (HostDocument ι) → List (HostReplacement ι) → α → Prop}
    {path : HostPath ι} {absent unavailable : α} {parse : HostDocument ι → α} (owned : own path = true)
    (finds : ∀ view, (hostContract renews exposed lawful).Renewed old view → ∀ result,
      (∀ files, view = some files → result = found files path absent parse ∨ exposed made ∧ result = unavailable) →
      post view made result) :
    Safe (hostContract renews exposed lawful) own post (loadState path absent unavailable parse) old made := by
  refine ⟨owned, fun view renewed => ⟨fun answer agrees => ?_, fun faults => ?_⟩⟩
  · cases answer with
    | false =>
      refine finds view renewed _ fun files known => .inl ?_
      have gone : files path = none := by
        rw [← Option.not_isSome_iff_eq_none, agrees files known]
        exact Bool.false_ne_true
      rw [found, gone, Option.elim_none]
    | true =>
      refine ⟨owned, fun content reads => ?_, fun faults => ?_⟩
      · cases content with
        | none =>
          refine finds view renewed _ fun files known => ?_
          have here := agrees files known
          rw [reads files known] at here
          cases here
        | some document =>
          refine finds view renewed _ fun files known => .inl ?_
          rw [found, reads files known, Option.elim_some]
      · exact finds view renewed _ fun files known => .inr ⟨faults, rfl⟩
  · exact finds view renewed _ fun files known => .inr ⟨faults, rfl⟩

/-- The paths of a commit: its own, the candidate apart from the state. -/
structure Places (own : HostPath ι → Bool) (candidatePath path : HostPath ι) (candidate : HostDocument ι)
    (prepared : HostReplacement ι) : Prop where
  ownCandidate : own candidatePath = true
  ownPath : own path = true
  scratch : candidatePath.Candidate
  lasting : ¬ path.Candidate
  aims : prepared.path = path
  content : prepared.document = candidate

omit [DecidableEq ι] in
theorem Places.apart {candidatePath path : HostPath ι} {candidate : HostDocument ι} {prepared : HostReplacement ι}
    (places : Places own candidatePath path candidate prepared) : candidatePath ≠ path := by
  intro same
  exact places.lasting (same ▸ places.scratch)

def Placed (exposed : List (HostReplacement ι) → Prop) (files : HostFiles ι) (candidatePath path : HostPath ι)
    (candidate : HostDocument ι) (made : List (HostReplacement ι)) (later : View (HostPath ι) (HostDocument ι)) : Prop :=
  later = some (placed files candidatePath path candidate) ∨ exposed made ∧ later = none

theorem safe_putInPlace {post : View (HostPath ι) (HostDocument ι) → List (HostReplacement ι) → α → Prop}
    {candidatePath path : HostPath ι} {candidate : HostDocument ι} {prepared : HostReplacement ι}
    {committed failed : α} (places : Places own candidatePath path candidate prepared)
    (failure : exposed made ∨ old = none → ∀ later, post later made failed)
    (success : ∀ files, old = some files → prepared.Unchanged (files path) ∧ lawful made prepared ∧ ∀ later,
      Placed exposed files candidatePath path candidate (made ++ [prepared]) later →
        post later (made ++ [prepared]) committed ∧
        (exposed (made ++ [prepared]) → post later (made ++ [prepared]) failed)) :
    Safe (hostContract renews exposed lawful) own post
      (putInPlace candidatePath path candidate prepared committed failed) old made := by
  refine ⟨places.ownCandidate, places.scratch, ?_, fun faults left => failure (.inl faults) _⟩
  refine ⟨places.ownCandidate, fun content reads => ?_, fun faults => failure (.inl faults) _⟩
  cases old with
  | none =>
    dsimp only
    by_cases other : content ≠ some candidate
    · rw [if_pos other]
      exact failure (.inr rfl) _
    · rw [if_neg other]
      exact ⟨places.ownCandidate, places.ownPath, places.scratch, places.lasting, places.aims,
        fun _ => failure (.inr rfl) _, fun _ known => nomatch known⟩
  | some files =>
    have same : content = some candidate := (reads _ rfl).symm.trans (Function.update_self ..)
    dsimp only
    rw [if_neg (not_not.mpr same)]
    refine ⟨places.ownCandidate, places.ownPath, places.scratch, places.lasting, places.aims, fun fails => ?_, ?_⟩
    · refine failure (.inl (fails.resolve_right fun absent => ?_)) _
      exact nomatch (Function.update_self ..).symm.trans (absent _ rfl)
    · rintro _ ⟨⟩ -
      obtain ⟨unchanged, lawfully, ends⟩ := success files rfl
      refine ⟨?_, ⟨?_, lawfully⟩, ?_, fun faults => ?_⟩
      · exact (Function.update_self ..).trans (congrArg some places.content.symm)
      · change prepared.Unchanged (Function.update files candidatePath (some candidate) path)
        rwa [Function.update_of_ne places.apart.symm]
      · rw [placed_eq files candidate places.apart]
        have calm := ends _ (.inl rfl)
        exact ⟨calm.1, calm.2⟩
      · have blind := ends none (.inr ⟨faults, rfl⟩)
        exact ⟨blind.1, blind.2⟩

theorem safe_commitState {post : View (HostPath ι) (HostDocument ι) → List (HostReplacement ι) → α → Prop}
    {candidatePath path : HostPath ι} {candidate : HostDocument ι} {prepared : HostReplacement ι}
    {committed failed : α} {absent unavailable : β} {parse : HostDocument ι → β} {refusal : β → Option α}
    (refused : α → Prop) (places : Places own candidatePath path candidate prepared)
    (accepts : ∀ files, refusal (found files path absent parse) = none ↔ prepared.Unchanged (files path))
    (readable : refusal unavailable ≠ none) (refuses : ∀ current result, refusal current = some result → refused result)
    (fails : refused failed)
    (failure : (exposed made ∨ ∀ files, old = some files → ¬ prepared.Unchanged (files path)) →
      ∀ later result, refused result → post later made result)
    (success : ∀ files, prepared.Unchanged (files path) → (hostContract renews exposed lawful).Renewed old (some files) →
      lawful made prepared ∧ ∀ later, Placed exposed files candidatePath path candidate (made ++ [prepared]) later →
        post later (made ++ [prepared]) committed ∧
        (exposed (made ++ [prepared]) → post later (made ++ [prepared]) failed)) :
    Safe (hostContract renews exposed lawful) own post
      (commitState (loadState path absent unavailable parse) refusal
        (putInPlace candidatePath path candidate prepared committed failed) failed) old made := by
  refine ⟨?_, fun faults => failure (.inl faults) _ _ fails⟩
  refine Safe.bind (fun view now current => now = made ∧
    (hostContract renews exposed lawful).Renewed old view ∧ ∀ files, view = some files →
      current = found files path absent parse ∨ exposed made ∧ current = unavailable)
    (fun view now current ⟨same, renewed, agrees⟩ => ?_)
    (safe_loadState places.ownPath fun view renewed current agrees => ⟨rfl, renewed, agrees⟩)
  subst same
  cases decided : refusal current with
  | some result =>
    refine failure (or_iff_not_imp_left.mpr fun calm files was unchanged => ?_) _ _ (refuses _ _ decided)
    rcases agrees files (renewed.known was) with loaded | ⟨faults, -⟩
    · rw [loaded, (accepts files).mpr unchanged] at decided
      cases decided
    · exact calm faults
  | none =>
    refine safe_putInPlace places (fun cause later => failure ?_ _ _ fails) fun files is => ?_
    · exact cause.imp_right fun blind files was => nomatch blind.symm.trans (renewed.known was)
    · have unchanged : prepared.Unchanged (files path) := by
        rcases agrees files is with loaded | ⟨-, gone⟩
        · rwa [← accepts files, ← loaded]
        · rw [gone] at decided
          exact absurd decided readable
      exact ⟨unchanged, success files unchanged (is ▸ renewed)⟩

theorem freshnessRefusal_iff (prepared : FreshnessPreparedWrite ι) (files : HostFiles ι) :
    freshnessRefusal prepared (freshnessFound files prepared.producerId) = none ↔
      (HostReplacement.freshness prepared).Unchanged (files (.freshnessState prepared.producerId)) :=
  ⟨freshnessRefusal_none, freshnessRefusal_of_unchanged⟩

theorem authorizationRefusal_iff (prepared : AuthorizationPreparedTransaction ι) (files : HostFiles ι) :
    authorizationRefusal prepared (authorizationFound files prepared.candidate.replayScope) = none ↔
      (HostReplacement.authorization prepared).Unchanged
        (files (.authorizationState prepared.candidate.replayScope)) :=
  ⟨authorizationRefusal_none, authorizationRefusal_of_unchanged⟩

theorem freshnessRefusal_some {prepared : FreshnessPreparedWrite ι} {current : FreshnessLoadResult ι}
    {result : FreshnessPersistResult ι} (refuses : freshnessRefusal prepared current = some result) :
    ∃ detail, result = .persistFailure detail := by
  unfold freshnessRefusal at refuses
  split at refuses
  · cases refuses
  · exact ⟨_, (Option.some.inj refuses).symm⟩
  · split_ifs at refuses
    exact ⟨_, (Option.some.inj refuses).symm⟩

theorem authorizationRefusal_some {prepared : AuthorizationPreparedTransaction ι}
    {current : AuthorizationLoadResult ι} {result : AuthorizationPersistResult ι}
    (refuses : authorizationRefusal prepared current = some result) : ∃ detail, result = .stalePreparation detail := by
  unfold authorizationRefusal at refuses
  split at refuses
  · cases refuses
  · exact ⟨_, (Option.some.inj refuses).symm⟩
  · split_ifs at refuses
    exact ⟨_, (Option.some.inj refuses).symm⟩
  · exact ⟨_, (Option.some.inj refuses).symm⟩

theorem safe_commitFreshness
    {post : View (HostPath ι) (HostDocument ι) → List (HostReplacement ι) → FreshnessPersistResult ι → Prop}
    {prepared : FreshnessPreparedWrite ι} (ownState : own (.freshnessState prepared.producerId) = true)
    (ownCandidate : own (.freshnessCandidate prepared.producerId) = true)
    (failure : (exposed made ∨ ∀ files, old = some files →
        ¬ (HostReplacement.freshness prepared).Unchanged (files (.freshnessState prepared.producerId))) →
      ∀ later detail, post later made (.persistFailure detail))
    (success : ∀ files, (HostReplacement.freshness prepared).Unchanged (files (.freshnessState prepared.producerId)) →
      (hostContract renews exposed lawful).Renewed old (some files) → lawful made (.freshness prepared) ∧
        ∀ later, Placed exposed files (.freshnessCandidate prepared.producerId) (.freshnessState prepared.producerId)
            (.freshness prepared.candidateState) (made ++ [.freshness prepared]) later →
          post later (made ++ [.freshness prepared]) (.committed prepared.candidateState) ∧
          (exposed (made ++ [.freshness prepared]) → ∀ detail,
            post later (made ++ [.freshness prepared]) (.persistFailure detail))) :
    Safe (hostContract renews exposed lawful) own post (commitFreshness prepared) old made := by
  refine safe_commitState (fun result => ∃ detail, result = .persistFailure detail)
    ⟨ownCandidate, ownState, True.intro, id, rfl, rfl⟩ (freshnessRefusal_iff prepared) ?_
    (fun current result => freshnessRefusal_some) ⟨_, rfl⟩ ?_ ?_
  · cases known : prepared.previousState <;> simp [freshnessRefusal, known]
  · rintro cause later _ ⟨detail, rfl⟩
    exact failure cause later detail
  · intro files unchanged agrees
    obtain ⟨lawfully, ends⟩ := success files unchanged agrees
    exact ⟨lawfully, fun later places => ⟨(ends later places).1, fun faults => (ends later places).2 faults _⟩⟩

theorem safe_commitAuthorization
    {post : View (HostPath ι) (HostDocument ι) → List (HostReplacement ι) → AuthorizationPersistResult ι → Prop}
    {prepared : AuthorizationPreparedTransaction ι}
    (ownState : own (.authorizationState prepared.candidate.replayScope) = true)
    (ownCandidate : own (.authorizationCandidate prepared.candidate.replayScope) = true)
    (failure : ∀ later result, (∀ state, result ≠ .committed state) → post later made result)
    (success : ∀ files, (HostReplacement.authorization prepared).Unchanged
        (files (.authorizationState prepared.candidate.replayScope)) →
      (hostContract renews exposed lawful).Renewed old (some files) → lawful made (.authorization prepared) ∧
        ∀ later, Placed exposed files (.authorizationCandidate prepared.candidate.replayScope)
            (.authorizationState prepared.candidate.replayScope) (.authorization prepared.candidate)
            (made ++ [.authorization prepared]) later →
          post later (made ++ [.authorization prepared]) (.committed prepared.candidate) ∧
          (exposed (made ++ [.authorization prepared]) → ∀ detail,
            post later (made ++ [.authorization prepared]) (.persistFailure detail))) :
    Safe (hostContract renews exposed lawful) own post (commitAuthorization prepared) old made := by
  refine safe_commitState (fun result => ∀ state, result ≠ .committed state)
    ⟨ownCandidate, ownState, True.intro, id, rfl, rfl⟩ (authorizationRefusal_iff prepared) ?_ ?_ nofun ?_ ?_
  · cases known : prepared.previousGeneration <;> simp [authorizationRefusal, known]
  · intro current result refuses
    obtain ⟨detail, rfl⟩ := authorizationRefusal_some refuses
    exact nofun
  · exact fun _ later result => failure later result
  · intro files unchanged agrees
    obtain ⟨lawfully, ends⟩ := success files unchanged agrees
    exact ⟨lawfully, fun later places => ⟨(ends later places).1, fun faults => (ends later places).2 faults _⟩⟩

theorem safe_verify {β : Type} [DecidableEq α]
    {post : View (HostPath ι) (HostDocument ι) → List (HostReplacement ι) → β → Prop} {path : HostPath ι}
    {absent unavailable valid : α} {parse : HostDocument ι → α} {candidate : HostDocument ι} {accepted failed : β}
    (ownState : own path = true)
    (valid_of : ∀ files : HostFiles ι, files path = some candidate → found files path absent parse = valid)
    (verified : ∀ view, (hostContract renews exposed lawful).Renewed old view → post view made accepted)
    (failure : (exposed made ∨ ∀ files, old = some files → files path ≠ some candidate) →
      ∀ view, post view made failed) :
    Safe (hostContract renews exposed lawful) own post
      ((loadState path absent unavailable parse).bind fun loaded =>
        if loaded ≠ valid then .done failed else .done accepted) old made := by
  refine Safe.bind (fun view now loaded => now = made ∧
    (hostContract renews exposed lawful).Renewed old view ∧ ∀ files, view = some files →
      loaded = found files path absent parse ∨ exposed made ∧ loaded = unavailable)
    (fun view now loaded known => ?_)
    (safe_loadState ownState fun view renewed loaded agrees => ⟨rfl, renewed, agrees⟩)
  obtain ⟨rfl, renewed, agrees⟩ := known
  by_cases other : loaded ≠ valid
  · rw [if_pos other]
    refine failure (or_iff_not_imp_left.mpr fun calm files was stored => ?_) view
    rcases agrees files (renewed.known was) with known | ⟨faults, -⟩
    · exact other (known.trans (valid_of files stored))
    · exact calm faults
  · rw [if_neg other]
    exact verified view renewed

theorem safe_verifyFreshness
    {post : View (HostPath ι) (HostDocument ι) → List (HostReplacement ι) → FreshnessPersistResult ι → Prop}
    {prepared : FreshnessPreparedWrite ι} (ownState : own (.freshnessState prepared.producerId) = true)
    (verified : ∀ view, (hostContract renews exposed lawful).Renewed old view →
      post view made (.verified prepared.candidateState))
    (failure : (exposed made ∨ ∀ files, old = some files →
        files (.freshnessState prepared.producerId) ≠ some (.freshness prepared.candidateState)) →
      ∀ view detail, post view made (.persistFailure detail)) :
    Safe (hostContract renews exposed lawful) own post (verifyFreshness prepared) old made :=
  safe_verify ownState (fun _ stored => freshnessFound_stateValid.mpr ⟨stored, rfl⟩) verified
    fun unharmed view => failure unharmed view _

theorem safe_verifyAuthorization
    {post : View (HostPath ι) (HostDocument ι) → List (HostReplacement ι) → AuthorizationPersistResult ι → Prop}
    {prepared : AuthorizationPreparedTransaction ι}
    (ownState : own (.authorizationState prepared.candidate.replayScope) = true)
    (verified : ∀ view, (hostContract renews exposed lawful).Renewed old view →
      post view made (.verified prepared.candidate))
    (failure : (exposed made ∨ ∀ files, old = some files →
        files (.authorizationState prepared.candidate.replayScope) ≠ some (.authorization prepared.candidate)) →
      ∀ view detail, post view made (.persistFailure detail)) :
    Safe (hostContract renews exposed lawful) own post (verifyAuthorization prepared) old made :=
  safe_verify ownState (fun _ stored => authorizationFound_stateValid.mpr ⟨stored, rfl⟩) verified
    fun unharmed view => failure unharmed view _

end Guardian.Assurance
