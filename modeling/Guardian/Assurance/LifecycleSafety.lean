import Guardian.Assurance.Lifecycles

namespace Guardian.Assurance

open FileProgram

variable {ι γ : Type} [DecidableEq ι] {renews : Bool} {exposed : List (HostReplacement ι) → Prop}
  {lawful : List (HostReplacement ι) → HostReplacement ι → Prop} {own : HostPath ι → Bool}
  {made : List (HostReplacement ι)} {old : View (HostPath ι) (HostDocument ι)}

/-- FRESH is answered only by a call that has put the statement's time in place. -/
def FreshOnlyIf (producerId producerEpoch : ι) (logicalTime : LogicalTime) (made : List (HostReplacement ι))
    (result : Except String (FreshnessOutcome ι)) : Prop :=
  ∀ outcome, result = .ok outcome → outcome.code = .fresh → ∃ prepared, made = [.freshness prepared] ∧
    outcome.state = some prepared.candidateState ∧ outcome.producerId = producerId ∧
    outcome.producerEpoch = producerEpoch ∧ outcome.logicalTime = logicalTime ∧
    prepared.producerId = producerId ∧ prepared.candidateState.currentEpoch = producerEpoch ∧
    prepared.candidateState.highWater = some logicalTime

omit [DecidableEq ι] in
theorem freshOnlyIf_other {producerId producerEpoch : ι} {logicalTime : LogicalTime}
    {outcome : FreshnessOutcome ι} (other : outcome.code ≠ .fresh) :
    FreshOnlyIf producerId producerEpoch logicalTime made (.ok outcome) := by
  rintro _ ⟨⟩ fresh
  exact absurd fresh other

/-- A call of `establish_freshness` replaces at most one file. -/
def Establishes (producerId producerEpoch : ι) (logicalTime : LogicalTime) (made : List (HostReplacement ι))
    (result : Except String (FreshnessOutcome ι)) : Prop :=
  FreshOnlyIf producerId producerEpoch logicalTime made result ∧ (made = [] ∨ ∃ prepared, made = [.freshness prepared])

theorem safe_establishFreshness {producerId producerEpoch : ι} {logicalTime : LogicalTime}
    (ownState : own (.freshnessState producerId) = true) (ownCandidate : own (.freshnessCandidate producerId) = true)
    (lawfully : ∀ prepared previous, prepared.previousState = some previous →
      previous.Freshens prepared.candidateState → lawful [] (.freshness prepared)) :
    Safe (hostContract renews exposed lawful) own
      (fun _ => Establishes producerId producerEpoch logicalTime)
      (establishFreshness producerId producerEpoch logicalTime) old [] := by
  refine Safe.bind (fun _ now _ => now = []) (fun view now loaded same => ?_)
    (safe_loadState ownState fun _ _ _ _ => rfl)
  subst same
  cases loaded with
  | stateNotEstablished detail => exact ⟨freshOnlyIf_other (by simp), .inl rfl⟩
  | invalid detail => exact ⟨freshOnlyIf_other (by simp), .inl rfl⟩
  | unavailable detail => exact ⟨freshOnlyIf_other (by simp), .inl rfl⟩
  | rollback detail => exact ⟨freshOnlyIf_other (by simp), .inl rfl⟩
  | stateValid previous =>
    dsimp only
    cases evaluates : evaluateFreshness (some previous) producerId producerEpoch logicalTime with
    | error message => exact ⟨by rintro _ ⟨⟩, .inl rfl⟩
    | ok evaluated =>
      dsimp only
      by_cases candidate : evaluated.code = .freshCandidate
      · obtain ⟨current, above⟩ := evaluateFreshness_freshCandidate evaluates candidate
        rw [candidate]
        dsimp only
        split_ifs with left
        · cases prepares : prepareFreshness (some previous) (previous.freshened logicalTime left) with
          | error message => exact ⟨freshOnlyIf_other (by simp), .inl rfl⟩
          | ok prepared =>
            obtain ⟨wasPrevious, isCandidate⟩ := prepareFreshness_ok prepares
            have sameProducer : prepared.producerId = producerId := by
              rw [FreshnessPreparedWrite.producerId, isCandidate]
              change previous.producerId = producerId
              exact evaluateFreshness_producer evaluates
            have moves : previous.Freshens prepared.candidateState :=
              isCandidate ▸ FreshnessState.freshened_freshens left above
            refine Safe.bind
              (fun _ now committed => (now = [] ∨ ∃ prepared, now = [.freshness prepared]) ∧
                ∀ state, committed = .committed state → now = [.freshness prepared])
              (fun later now committed known => ?_)
              (safe_commitFreshness (sameProducer ▸ ownState) (sameProducer ▸ ownCandidate)
                (fun _ _ _ => ⟨.inl rfl, by simp⟩)
                fun files _ _ => ⟨lawfully prepared previous wasPrevious moves, fun later _ =>
                  ⟨⟨.inr ⟨prepared, rfl⟩, fun _ _ => rfl⟩, fun _ _ => ⟨.inr ⟨prepared, rfl⟩, by simp⟩⟩⟩)
            obtain ⟨once, marks⟩ := known
            cases committed with
            | committed state =>
              obtain rfl := marks state rfl
              refine Safe.bind (fun _ now verified => now = [.freshness prepared])
                (fun _ now verified same => ?_)
                (safe_verifyFreshness (sameProducer ▸ ownState) (fun _ _ => rfl) fun _ _ _ => rfl)
              subst same
              split_ifs with other
              · exact ⟨freshOnlyIf_other (by simp), once⟩
              · refine ⟨?_, once⟩
                rintro _ ⟨⟩ -
                refine ⟨prepared, rfl, congrArg some isCandidate.symm, rfl, rfl, rfl, sameProducer, ?_, ?_⟩
                · rw [isCandidate, current]
                  rfl
                · rw [isCandidate]
                  rfl
            | verified state => exact ⟨freshOnlyIf_other (by simp), once⟩
            | persistFailure detail => exact ⟨freshOnlyIf_other (by simp), once⟩
        · exact ⟨freshOnlyIf_other (by simp), .inl rfl⟩
      · cases code : evaluated.code <;>
          first | exact absurd code candidate | exact ⟨freshOnlyIf_other (by simp), .inl rfl⟩

/-- The stored freshness state lets a target be projected: it is older, or absent. -/
def Projectable (files : HostFiles ι) (target : FreshnessState ι) : Prop :=
  ∀ document, files (.freshnessState target.producerId) = some document → ∃ current, document = .freshness current ∧
    current.producerId = target.producerId ∧ current.generation < target.generation

/-- What a call that knows the files must know to project a target. -/
def ProjectsLawfully (lawful : List (HostReplacement ι) → HostReplacement ι → Prop) (files : HostFiles ι)
    (made : List (HostReplacement ι)) (target : FreshnessState ι) : Prop :=
  ∀ prepared : FreshnessPreparedWrite ι, prepared.candidateState = target →
    (HostReplacement.freshness prepared).Unchanged (files (.freshnessState target.producerId)) →
    (∀ previous, prepared.previousState = some previous → previous.generation < target.generation) →
    lawful made (.freshness prepared)

theorem safe_projectFreshness {previous : Option (FreshnessState ι)} {target : FreshnessState ι}
    (ownState : own (.freshnessState target.producerId) = true)
    (ownCandidate : own (.freshnessCandidate target.producerId) = true)
    (older : ∀ state, previous = some state → state.generation < target.generation)
    (lawfully : ∀ files, old = some files → ProjectsLawfully lawful files made target)
    (stays : exposed made ∨ ∃ files, old = some files ∧ Projectable files target ∧
      files (.freshnessState target.producerId) = previous.map .freshness)
    (finish : ∀ prepared, exposed (made ++ [.freshness prepared])) :
    Safe (hostContract false exposed lawful) own (fun _ now _ => exposed now) (projectFreshness previous target) old
      made := by
  unfold projectFreshness
  cases prepares : prepareFreshness previous target with
  | error message =>
    refine stays.resolve_right ?_
    rintro ⟨files, -, projectable, stored⟩
    cases previous with
    | none => cases prepares
    | some state =>
      obtain ⟨current, same, producer, -⟩ := projectable _ stored
      rw [← HostDocument.freshness.inj same] at producer
      simp only [prepareFreshness, if_neg (Nat.not_le_of_lt (older state rfl)), dif_pos producer] at prepares
      cases prepares
  | ok prepared =>
    obtain ⟨wasPrevious, isTarget⟩ := prepareFreshness_ok prepares
    subst isTarget
    refine Safe.bind (fun later now committed =>
        (now = made ∧ exposed made ∨ now = made ++ [.freshness prepared])) (fun later now committed marks => ?_)
      (safe_commitFreshness ownState ownCandidate (fun cause later detail => .inl ⟨rfl, ?_⟩)
        fun files unchanged renewed => ⟨?_, fun later _ => ⟨.inr rfl, fun _ _ => .inr rfl⟩⟩)
    · have covered : exposed now := by
        rcases marks with ⟨rfl, faults⟩ | rfl
        · exact faults
        · exact finish prepared
      split_ifs with other
      · exact covered
      · refine Safe.bind (fun _ last _ => last = now) (fun _ last verified same => ?_)
          (safe_verifyFreshness ownState (fun _ _ => rfl) fun _ _ _ => rfl)
        subst same
        split_ifs <;> exact covered
    · rcases cause with faults | changed
      · exact faults
      · refine stays.resolve_right ?_
        rintro ⟨files, known, -, stored⟩
        exact changed files known (by rw [HostReplacement.Unchanged, wasPrevious]; exact stored)
    · have known : old = some files := by
        rcases renewed with same | ⟨renews, -⟩
        · exact same.symm
        · cases renews
      exact lawfully files known prepared rfl unchanged fun state was => older state (wasPrevious ▸ was)

theorem freshnessFound_projectable {files : HostFiles ι} {target : FreshnessState ι}
    (projectable : Projectable files target) :
    (files (.freshnessState target.producerId) = none ∧ ∃ detail,
      freshnessFound files target.producerId = .stateNotEstablished detail) ∨
    ∃ current, files (.freshnessState target.producerId) = some (.freshness current) ∧
      freshnessFound files target.producerId = .stateValid current ∧ current.generation < target.generation := by
  cases stored : files (.freshnessState target.producerId) with
  | none => exact .inl ⟨rfl, _, by rw [freshnessFound, found, stored]; rfl⟩
  | some document =>
    obtain ⟨current, rfl, producer, older⟩ := projectable document stored
    exact .inr ⟨current, rfl, freshnessFound_stateValid.mpr ⟨stored, producer⟩, older⟩

theorem safe_reconcile {transaction : AuthorizationTransactionState ι}
    (ownState : own (.freshnessState transaction.resultingFreshnessState.producerId) = true)
    (ownCandidate : own (.freshnessCandidate transaction.resultingFreshnessState.producerId) = true)
    (lawfully : ∀ files, old = some files → ProjectsLawfully lawful files made transaction.resultingFreshnessState)
    (stays : exposed made ∨ ∃ files, old = some files ∧ Projectable files transaction.resultingFreshnessState)
    (finish : ∀ prepared, exposed (made ++ [.freshness prepared])) :
    Safe (hostContract false exposed lawful) own (fun _ now _ => exposed now)
      (reconcileVerifiedAuthorizationTransaction (.verified transaction)) old made := by
  refine Safe.bind (fun view now loaded => now = made ∧ view = old ∧ ∀ files, old = some files →
      loaded = freshnessFound files transaction.resultingFreshnessState.producerId ∨ exposed made)
    (fun view now loaded known => ?_)
    (safe_loadState ownState fun view renewed loaded agrees => ?_)
  · obtain ⟨rfl, rfl, agrees⟩ := known
    by_cases faults : exposed now
    · cases loaded with
      | invalid detail => exact faults
      | unavailable detail => exact faults
      | rollback detail => exact faults
      | stateNotEstablished detail =>
        exact safe_projectFreshness ownState ownCandidate (by simp) lawfully (.inl faults) finish
      | stateValid current =>
        dsimp only
        split_ifs with same newer
        · exact faults
        · exact faults
        · refine safe_projectFreshness ownState ownCandidate ?_ lawfully (.inl faults) finish
          rintro _ ⟨⟩
          exact Nat.lt_of_not_le newer
    · obtain ⟨files, known, projectable⟩ := stays.resolve_left faults
      have loads := (agrees files known).resolve_right faults
      rcases freshnessFound_projectable projectable with ⟨stored, detail, finds⟩ | ⟨current, stored, finds, older⟩
      · rw [loads, finds]
        exact safe_projectFreshness ownState ownCandidate (by simp) lawfully (.inr ⟨files, known, projectable, stored⟩)
          finish
      · have apart : current ≠ transaction.resultingFreshnessState := by
          rintro rfl
          exact Nat.lt_irrefl _ older
        rw [loads, finds]
        dsimp only
        rw [if_neg apart, if_neg (Nat.not_le_of_lt older)]
        refine safe_projectFreshness ownState ownCandidate ?_ lawfully (.inr ⟨files, known, projectable, stored⟩)
          finish
        rintro _ ⟨⟩
        exact older
  · rcases renewed with same | ⟨renews, -⟩
    · subst same
      exact ⟨rfl, rfl, fun files known => (agrees files known).imp_right And.left⟩
    · cases renews

theorem placed_authorization_freshness (files : HostFiles ι) (scope : AuthorizationReplayScope ι)
    (document : HostDocument ι) (producerId : ι) :
    placed files (.authorizationCandidate scope) (.authorizationState scope) document (.freshnessState producerId) =
      files (.freshnessState producerId) := by
  simp [placed]

theorem placed_authorization_record (files : HostFiles ι) (scope : AuthorizationReplayScope ι)
    (document : HostDocument ι) :
    placed files (.authorizationCandidate scope) (.authorizationState scope) document (.authorizationState scope) =
      some document := by
  simp [placed]

/-- A transaction never leaves its call short of the freshness state it leads to, except where that is expected. -/
theorem safe_executeTransaction {codes : TransactionCodes γ} {prepared : AuthorizationPreparedTransaction ι}
    {target : FreshnessState ι} (leads : prepared.candidate.resultingFreshnessState = target)
    (ownState : own (.freshnessState target.producerId) = true)
    (ownCandidate : own (.freshnessCandidate target.producerId) = true)
    (ownRecord : own (.authorizationState prepared.candidate.replayScope) = true)
    (ownRecordCandidate : own (.authorizationCandidate prepared.candidate.replayScope) = true)
    (lawfulRecord : lawful [] (.authorization prepared))
    (lawfully : ∀ files, old = some files → ProjectsLawfully lawful files [.authorization prepared] target)
    (projectable : exposed [.authorization prepared] ∨ ∀ files, old = some files → Projectable files target)
    (start : exposed []) (finish : ∀ freshness, exposed [.authorization prepared, .freshness freshness]) :
    Safe (hostContract false exposed lawful) own (fun _ now _ => exposed now)
      (executeTransaction codes (.prepared prepared) target) old [] := by
  subst leads
  unfold executeTransaction
  dsimp only
  cases prepareAuthorization prepared with
  | prepared state =>
    let mark := HostReplacement.authorization prepared
    -- Once the record is in place, the call knows the files with it, or is exposed and knows nothing.
    let recorded (later : View (HostPath ι) (HostDocument ι)) : Prop :=
      (∃ files, old = some files ∧ later = some (placed files (.authorizationCandidate prepared.candidate.replayScope)
        (.authorizationState prepared.candidate.replayScope) (.authorization prepared.candidate))) ∨
      exposed [mark] ∧ later = none
    refine Safe.bind (fun later now committed => exposed now ∧ committed ≠ .committed prepared.candidate ∨
        now = [mark] ∧ committed = .committed prepared.candidate ∧ recorded later)
      (fun later now committed known => ?_)
      (safe_commitAuthorization ownRecord ownRecordCandidate (fun later result refused => .inl ⟨start, refused _⟩)
        fun files _ renewed => ⟨lawfulRecord, fun later places => ⟨.inr ⟨rfl, rfl, ?_⟩, fun faults _ =>
          .inl ⟨faults, by simp⟩⟩⟩)
    · rcases known with ⟨faults, refused⟩ | ⟨rfl, rfl, recorded⟩
      · rw [if_pos refused]
        exact faults
      · rw [if_neg (not_not.mpr rfl)]
        refine Safe.bind (fun last now verified => now = [mark] ∧ (exposed [mark] ∧
            verified ≠ .verified prepared.candidate ∨ verified = .verified prepared.candidate ∧ last = later))
          (fun last now verified known => ?_)
          (safe_verifyAuthorization ownRecord (fun view renewed => ⟨rfl, .inr ⟨rfl, ?_⟩⟩)
            fun cause view detail => ⟨rfl, .inl ⟨?_, by simp⟩⟩)
        · obtain ⟨rfl, ⟨faults, refused⟩ | ⟨rfl, rfl⟩⟩ := known
          · rw [if_pos refused]
            exact faults
          · rw [if_neg (not_not.mpr rfl)]
            refine Safe.bind (fun _ now _ => exposed now) (fun _ now reconciliation covered => ?_)
              (safe_reconcile ownState ownCandidate ?_ ?_ finish)
            · split_ifs <;> exact covered
            · intro known is
              rcases recorded with ⟨files, was, rfl⟩ | ⟨-, blind⟩
              · intro freshness isTarget unchanged older
                rw [← Option.some.inj is, placed_authorization_freshness] at unchanged
                exact lawfully files was freshness isTarget unchanged older
              · rw [blind] at is
                cases is
            · rcases recorded with ⟨files, was, rfl⟩ | ⟨faults, -⟩
              · refine projectable.imp_right fun projectable => ⟨_, rfl, ?_⟩
                have before := projectable files was
                unfold Projectable at before ⊢
                rwa [placed_authorization_freshness]
              · exact .inl faults
        · exact renewed.elim id fun renews => absurd renews.1 Bool.false_ne_true
        · rcases cause with faults | changed
          · exact faults
          · rcases recorded with ⟨files, was, rfl⟩ | ⟨faults, -⟩
            · exact absurd (placed_authorization_record ..) (changed _ rfl)
            · exact faults
    · rcases places with placed | blind
      · exact .inl ⟨files, renewed.elim (fun same => same.symm) (fun renews => absurd renews.1 Bool.false_ne_true), placed⟩
      · exact .inr blind
  | _ => exact start

end Guardian.Assurance
