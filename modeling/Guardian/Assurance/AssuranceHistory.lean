import Guardian.Assurance.AssuranceRun

namespace Guardian.Assurance

open FileProgram

variable {ι : Type}

/-- A state that came earlier: with a lower generation, and within the same stay in an epoch with a lower mark. -/
structure FreshnessState.Before (before after : FreshnessState ι) : Prop where
  generation : before.generation < after.generation
  stay : before.transitionSequence < after.transitionSequence ∨
    before.transitionSequence = after.transitionSequence ∧ before.currentEpoch = after.currentEpoch ∧
      ∃ logicalTime, after.highWater = some logicalTime ∧ Above before.highWater logicalTime

theorem FreshnessState.Advances.before {before after : FreshnessState ι} (advances : before.Advances after) :
    before.Before after := by
  refine ⟨by rw [advances.generation]; exact Nat.lt_succ_self _, ?_⟩
  rcases advances with freshens | transitions
  · exact .inr ⟨freshens.sequence.symm, freshens.epoch.symm, freshens.higher⟩
  · exact .inl (by rw [transitions.sequence]; exact Nat.lt_succ_self _)

theorem FreshnessState.Before.trans {first second third : FreshnessState ι} (one : first.Before second)
    (two : second.Before third) : first.Before third := by
  refine ⟨one.generation.trans two.generation, ?_⟩
  rcases one.stay with less | ⟨same, epoch, low, isLow, above⟩
  · rcases two.stay with more | ⟨equal, -⟩
    · exact .inl (less.trans more)
    · exact .inl (equal ▸ less)
  · rcases two.stay with more | ⟨equal, stays, high, isHigh, higher⟩
    · exact .inl (same ▸ more)
    · exact .inr ⟨same.trans equal, epoch.trans stays, high, isHigh, fun highest set =>
        Nat.lt_trans (above highest set) (higher low isLow)⟩

instance : Trans (FreshnessState.Before (ι := ι)) FreshnessState.Before FreshnessState.Before :=
  ⟨FreshnessState.Before.trans⟩

/-- A transaction that came earlier: with a lower generation and a lower consumed sequence. -/
structure AuthorizationTransactionState.Before (before after : AuthorizationTransactionState ι) : Prop where
  generation : before.generation < after.generation
  sequence : before.authorizationSequence < after.authorizationSequence

instance : Trans (AuthorizationTransactionState.Before (ι := ι)) AuthorizationTransactionState.Before
    AuthorizationTransactionState.Before :=
  ⟨fun one two => ⟨one.generation.trans two.generation, one.sequence.trans two.sequence⟩⟩

def HostDocument.freshness? : HostDocument ι → Option (FreshnessState ι)
  | .freshness state => some state
  | _ => none

def HostDocument.authorization? : HostDocument ι → Option (AuthorizationTransactionState ι)
  | .authorization state => some state
  | _ => none

variable [DecidableEq ι]

/-- The freshness states a producer has had, the one before the run first. -/
def freshnessHistory (initial : HostFiles ι) (log : List (ℕ × HostReplacement ι)) (producerId : ι) :
    List (FreshnessState ι) :=
  history HostReplacement.path HostReplacement.document HostDocument.freshness? initial log
    (.freshnessState producerId)

def authorizationHistory (initial : HostFiles ι) (log : List (ℕ × HostReplacement ι))
    (scope : AuthorizationReplayScope ι) : List (AuthorizationTransactionState ι) :=
  history HostReplacement.path HostReplacement.document HostDocument.authorization? initial log
    (.authorizationState scope)

def lastingFiles (initial : HostFiles ι) (log : List (ℕ × HostReplacement ι)) : HostFiles ι :=
  durable HostReplacement.path HostReplacement.document initial log

def madeBy (log : List (ℕ × HostReplacement ι)) (index : ℕ) : List (HostReplacement ι) :=
  (log.filter fun entry => entry.1 = index).map Prod.snd

/-- Every replacement of a log was prepared from what was stored, and was lawful. -/
def LawfulLog (initial : HostFiles ι) (log : List (ℕ × HostReplacement ι)) : Prop :=
  ∀ earlier entry later, log = earlier ++ entry :: later →
    entry.2.Unchanged (lastingFiles initial earlier entry.2.path) ∧ Lawful (madeBy earlier entry.1) entry.2

omit [DecidableEq ι] in
theorem freshness_mark {mark : HostReplacement ι} {producerId : ι} (aims : mark.path = .freshnessState producerId) :
    ∃ prepared, mark = .freshness prepared ∧ prepared.producerId = producerId := by
  cases mark with
  | freshness prepared => exact ⟨prepared, rfl, HostPath.freshnessState.inj aims⟩
  | authorization prepared => cases aims

omit [DecidableEq ι] in
theorem authorization_mark {mark : HostReplacement ι} {scope : AuthorizationReplayScope ι}
    (aims : mark.path = .authorizationState scope) :
    ∃ prepared, mark = .authorization prepared ∧ prepared.candidate.replayScope = scope := by
  cases mark with
  | freshness prepared => cases aims
  | authorization prepared => exact ⟨prepared, rfl, HostPath.authorizationState.inj aims⟩

omit [DecidableEq ι] in
theorem freshness_decodes {producerId : ι} (mark : HostReplacement ι) (aims : mark.path = .freshnessState producerId) :
    (mark.document.freshness?).isSome := by
  obtain ⟨prepared, rfl, -⟩ := freshness_mark aims
  rfl

omit [DecidableEq ι] in
theorem authorization_decodes {scope : AuthorizationReplayScope ι} (mark : HostReplacement ι)
    (aims : mark.path = .authorizationState scope) : (mark.document.authorization?).isSome := by
  obtain ⟨prepared, rfl, -⟩ := authorization_mark aims
  rfl

theorem freshnessHistory_getLast? (initial : HostFiles ι) (log : List (ℕ × HostReplacement ι)) (producerId : ι) :
    (freshnessHistory initial log producerId).getLast? =
      (lastingFiles initial log (.freshnessState producerId)).bind HostDocument.freshness? := by
  rw [freshnessHistory, history_getLast? freshness_decodes, lastingFiles]

theorem authorizationHistory_getLast? (initial : HostFiles ι) (log : List (ℕ × HostReplacement ι))
    (scope : AuthorizationReplayScope ι) : (authorizationHistory initial log scope).getLast? =
      (lastingFiles initial log (.authorizationState scope)).bind HostDocument.authorization? := by
  rw [authorizationHistory, history_getLast? authorization_decodes, lastingFiles]

omit [DecidableEq ι] in
theorem Lawful.cases {made : List (HostReplacement ι)} {prepared : FreshnessPreparedWrite ι}
    (lawful : Lawful made (.freshness prepared)) :
    (∃ previous, prepared.previousState = some previous ∧ previous.Freshens prepared.candidateState) ∨
    ∃ transaction, made = [.authorization transaction] ∧
      prepared.candidateState = transaction.candidate.resultingFreshnessState ∧
      ∀ previous, prepared.previousState = some previous →
        transaction.candidate.operationType = .epochTransition ∧ previous.Transitions prepared.candidateState := by
  rcases made with _ | ⟨mark, _ | ⟨second, rest⟩⟩
  · exact .inl lawful
  · cases mark with
    | freshness other => exact lawful.elim
    | authorization transaction => exact .inr ⟨transaction, rfl, lawful⟩
  · cases mark <;> exact lawful.elim

omit [DecidableEq ι] in
theorem Lawful.advances {made : List (HostReplacement ι)} {prepared : FreshnessPreparedWrite ι}
    (lawful : Lawful made (.freshness prepared)) {previous : FreshnessState ι}
    (was : prepared.previousState = some previous) : previous.Advances prepared.candidateState := by
  rcases lawful.cases with ⟨other, is, freshens⟩ | ⟨transaction, -, -, goes⟩
  · obtain rfl := Option.some.inj (is.symm.trans was)
    exact .inl freshens
  · exact .inr (goes previous was).2

theorem LawfulLog.previous {initial : HostFiles ι} {earlier later : List (ℕ × HostReplacement ι)} {index : ℕ}
    {prepared : FreshnessPreparedWrite ι}
    (lawful : LawfulLog initial (earlier ++ (index, .freshness prepared) :: later)) :
    (freshnessHistory initial earlier prepared.producerId).getLast? = prepared.previousState := by
  have unchanged := (lawful earlier _ later rfl).1
  change lastingFiles initial earlier (.freshnessState prepared.producerId) = _ at unchanged
  rw [freshnessHistory_getLast?, unchanged]
  cases prepared.previousState <;> rfl

theorem freshnessHistory_isChain {initial : HostFiles ι} {log : List (ℕ × HostReplacement ι)}
    (lawful : LawfulLog initial log) (producerId : ι) :
    (freshnessHistory initial log producerId).IsChain FreshnessState.Advances := by
  refine history_isChain freshness_decodes fun earlier entry later split aims before after stored next => ?_
  have lawfully := (lawful earlier entry later split).2
  obtain ⟨prepared, is, owner⟩ := freshness_mark aims
  obtain ⟨index, mark⟩ := entry
  obtain rfl : mark = .freshness prepared := is
  subst split owner
  have was := lawful.previous
  rw [freshnessHistory_getLast?] at was
  obtain rfl := Option.some.inj next
  exact lawfully.advances (was.symm.trans stored)

theorem freshnessHistory_pairwise {initial : HostFiles ι} {log : List (ℕ × HostReplacement ι)}
    (lawful : LawfulLog initial log) (producerId : ι) :
    (freshnessHistory initial log producerId).Pairwise FreshnessState.Before :=
  List.isChain_iff_pairwise.mp ((freshnessHistory_isChain lawful producerId).imp fun _ _ => FreshnessState.Advances.before)

theorem authorizationHistory_isChain {initial : HostFiles ι} {log : List (ℕ × HostReplacement ι)}
    (lawful : LawfulLog initial log) (scope : AuthorizationReplayScope ι) :
    (authorizationHistory initial log scope).IsChain AuthorizationTransactionState.Before := by
  refine history_isChain authorization_decodes fun earlier entry later split aims before after stored next => ?_
  obtain ⟨unchanged, lawfully⟩ := lawful earlier entry later split
  obtain ⟨prepared, is, -⟩ := authorization_mark aims
  rw [aims, is] at unchanged
  rw [is] at lawfully next
  obtain rfl := Option.some.inj next
  change (lastingFiles initial earlier (.authorizationState scope)).bind _ = some before at stored
  cases known : prepared.previousGeneration with
  | none =>
    simp only [HostReplacement.Unchanged, known] at unchanged
    rw [unchanged] at stored
    cases stored
  | some generation =>
    simp only [HostReplacement.Unchanged, known] at unchanged
    obtain ⟨record, here, -, isGeneration, replayState, -⟩ := unchanged
    rw [here] at stored
    obtain rfl : record = before := Option.some.inj stored
    have higher := lawfully.2.sequence record.replayState replayState.symm
    rw [record.sequenceMatches] at higher
    exact ⟨lawfully.2.generation record.generation (known.trans (congrArg some isGeneration.symm)), higher⟩

theorem authorizationHistory_pairwise {initial : HostFiles ι} {log : List (ℕ × HostReplacement ι)}
    (lawful : LawfulLog initial log) (scope : AuthorizationReplayScope ι) :
    (authorizationHistory initial log scope).Pairwise AuthorizationTransactionState.Before :=
  List.isChain_iff_pairwise.mp (authorizationHistory_isChain lawful scope)

theorem freshnessHistory_mem {initial : HostFiles ι} {log : List (ℕ × HostReplacement ι)} {index : ℕ}
    {prepared : FreshnessPreparedWrite ι} (logged : (index, .freshness prepared) ∈ log) :
    prepared.candidateState ∈ freshnessHistory initial log prepared.producerId :=
  List.mem_append_right _ (List.mem_filterMap.mpr
    ⟨_, List.mem_filter.mpr ⟨logged, by simp [HostReplacement.path]⟩, rfl⟩)

theorem authorizationHistory_mem {initial : HostFiles ι} {log : List (ℕ × HostReplacement ι)} {index : ℕ}
    {transaction : AuthorizationPreparedTransaction ι} (logged : (index, .authorization transaction) ∈ log) :
    transaction.candidate ∈ authorizationHistory initial log transaction.candidate.replayScope :=
  List.mem_append_right _ (List.mem_filterMap.mpr
    ⟨_, List.mem_filter.mpr ⟨logged, by simp [HostReplacement.path]⟩, rfl⟩)

omit [DecidableEq ι] in
theorem FreshOnlyIf.logged {log : List (ℕ × HostReplacement ι)} {index : ℕ} {producerId producerEpoch : ι}
    {logicalTime : LogicalTime} {outcome : FreshnessOutcome ι}
    (only : FreshOnlyIf producerId producerEpoch logicalTime (madeBy log index) (.ok outcome))
    (fresh : outcome.code = .fresh) :
    ∃ prepared, (index, .freshness prepared) ∈ log ∧ outcome.state = some prepared.candidateState ∧
      outcome.producerId = prepared.producerId ∧ outcome.producerEpoch = prepared.candidateState.currentEpoch ∧
      prepared.candidateState.highWater = some outcome.logicalTime := by
  obtain ⟨prepared, made, state, rfl, rfl, rfl, producer, epoch, time⟩ := only _ rfl fresh
  have member : HostReplacement.freshness prepared ∈ madeBy log index := by
    rw [made]
    exact List.mem_singleton_self _
  obtain ⟨⟨place, mark⟩, inside, rfl⟩ := List.mem_map.mp member
  obtain ⟨logged, same⟩ := List.mem_filter.mp inside
  obtain rfl : place = index := by simpa using same
  exact ⟨prepared, logged, state, producer.symm, epoch.symm, time⟩

theorem LawfulLog.shorter {initial : HostFiles ι} {log : List (ℕ × HostReplacement ι)} {entry : ℕ × HostReplacement ι}
    (lawful : LawfulLog initial (log ++ [entry])) : LawfulLog initial log :=
  fun earlier other later split => lawful earlier other (later ++ [entry]) (by rw [split]; simp)

/-- No authorization that is committed names as its target an epoch that its producer has had. -/
def NamesNewEpochs (initial : HostFiles ι) (log : List (ℕ × HostReplacement ι)) : Prop :=
  ∀ earlier index transaction later, log = earlier ++ (index, .authorization transaction) :: later →
    transaction.candidate.operationType = .epochTransition → ∀ state ∈
      freshnessHistory initial earlier transaction.candidate.resultingFreshnessState.producerId,
    state.currentEpoch ≠ transaction.candidate.resultingFreshnessState.currentEpoch

omit [DecidableEq ι] in
theorem madeBy_adjacent {earlier : List (ℕ × HostReplacement ι)} {index : ℕ} {mark last : HostReplacement ι}
    (sorted : ((earlier ++ [(index, last)]).map Prod.fst).Pairwise (· ≤ ·)) (made : madeBy earlier index = [mark]) :
    ∃ before, earlier = before ++ [(index, mark)] := by
  rcases List.eq_nil_or_concat earlier with rfl | ⟨before, entry, rfl⟩
  · cases made
  · rw [List.concat_eq_append] at sorted made ⊢
    by_cases same : entry.1 = index
    · have added : madeBy (before ++ [entry]) index = madeBy before index ++ [entry.2] := by
        simp [madeBy, List.filter_append, same]
      rw [added] at made
      obtain ⟨-, equal⟩ := List.append_inj' (made.trans (List.nil_append [mark]).symm) rfl
      refine ⟨before, ?_⟩
      rw [← same, ← List.cons.inj equal |>.1]
    · have none : madeBy (before ++ [entry]) index = [] := by
        rw [madeBy, List.map_eq_nil_iff, List.filter_eq_nil_iff]
        intro other member equal
        simp only [decide_eq_true_eq] at equal
        rw [List.map_append, List.map_append, List.append_assoc, List.pairwise_append] at sorted
        have low : entry.1 ≤ index := by
          have pair := sorted.2.1
          simp at pair
          exact pair
        rcases List.mem_append.mp member with old | new
        · have early := sorted.2.2 other.1 (List.mem_map_of_mem old) entry.1 (by simp)
          omega
        · rw [List.mem_singleton.mp new] at equal
          exact same equal
      rw [none] at made
      cases made

theorem freshnessHistory_snoc_authorization (initial : HostFiles ι) (log : List (ℕ × HostReplacement ι)) (index : ℕ)
    (transaction : AuthorizationPreparedTransaction ι) (producerId : ι) :
    freshnessHistory initial (log ++ [(index, .authorization transaction)]) producerId =
      freshnessHistory initial log producerId := by
  rw [freshnessHistory, history_snoc, if_neg nofun, List.append_nil, freshnessHistory]

theorem freshnessHistory_stays {initial : HostFiles ι} {log : List (ℕ × HostReplacement ι)}
    (lawful : LawfulLog initial log) (sorted : (log.map Prod.fst).Pairwise (· ≤ ·))
    (names : NamesNewEpochs initial log) (producerId : ι) :
    ∀ one ∈ freshnessHistory initial log producerId, ∀ other ∈ freshnessHistory initial log producerId,
      one.currentEpoch = other.currentEpoch → one.transitionSequence = other.transitionSequence := by
  induction log using List.reverseRecOn with
  | nil =>
    intro one memberOne other memberOther _
    have same : one = other := by
      simp only [freshnessHistory, history, List.filter_nil, List.filterMap_nil, List.append_nil,
        Option.mem_toList] at memberOne memberOther
      exact Option.some.inj (memberOne.symm.trans memberOther)
    rw [same]
  | append_singleton log entry ih =>
    have shorter := ih lawful.shorter (by
      rw [List.map_append, List.pairwise_append] at sorted
      exact sorted.1) fun earlier index transaction later split =>
        names earlier index transaction (later ++ [entry]) (by rw [split]; simp)
    by_cases aims : entry.2.path = .freshnessState producerId
    · obtain ⟨prepared, is, owner⟩ := freshness_mark aims
      have grows : freshnessHistory initial (log ++ [entry]) producerId =
          freshnessHistory initial log producerId ++ [prepared.candidateState] := by
        rw [freshnessHistory, history_snoc, if_pos aims, is]
        rfl
      have lawfully := (lawful log entry [] rfl).2
      obtain ⟨index, mark⟩ := entry
      obtain rfl : mark = .freshness prepared := is
      subst owner
      have was := lawful.previous
      -- The new state has the epoch of the one before, or one that no state had.
      have fresh : ∀ state ∈ freshnessHistory initial log prepared.producerId,
          state.currentEpoch = prepared.candidateState.currentEpoch →
          state.transitionSequence = prepared.candidateState.transitionSequence := by
        intro state member same
        rcases lawfully.cases with ⟨previous, known, freshens⟩ | ⟨transaction, made, leads, goes⟩
        · rw [known] at was
          rw [freshens.sequence]
          exact shorter state member previous (List.mem_of_getLast? was) (same.trans freshens.epoch)
        · cases known : prepared.previousState with
          | none =>
            rw [known, List.getLast?_eq_none_iff] at was
            rw [was] at member
            cases member
          | some previous =>
            obtain ⟨before, rfl⟩ := madeBy_adjacent sorted made
            rw [freshnessHistory_snoc_authorization] at member
            refine absurd ?_ (names before index transaction [(index, .freshness prepared)] (by simp)
              (goes previous known).1 state ?_)
            · rw [same, leads]
            · rwa [← leads]
      rw [grows]
      intro one memberOne other memberOther same
      rcases List.mem_append.mp memberOne with oldOne | newOne
      · rcases List.mem_append.mp memberOther with oldOther | newOther
        · exact shorter one oldOne other oldOther same
        · rw [List.mem_singleton.mp newOther] at same ⊢
          exact fresh one oldOne same
      · rw [List.mem_singleton.mp newOne] at same ⊢
        rcases List.mem_append.mp memberOther with oldOther | newOther
        · exact (fresh other oldOther same.symm).symm
        · rw [List.mem_singleton.mp newOther]
    · have stays : freshnessHistory initial (log ++ [entry]) producerId = freshnessHistory initial log producerId := by
        rw [freshnessHistory, history_snoc, if_neg aims, List.append_nil, freshnessHistory]
      rwa [stays]

end Guardian.Assurance
