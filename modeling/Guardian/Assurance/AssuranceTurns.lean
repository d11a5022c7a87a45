import Guardian.Assurance.AssuranceHistory

namespace Guardian.Assurance

open FileProgram

variable {ι : Type} [DecidableEq ι]

/-- An operation, and how each of its file operations goes. It stops where these end. -/
abbrev AssuranceTurn (ι : Type) := AssuranceOperation ι × List (Fate (HostDocument ι))

def takeTurn (system : AssuranceSystem ι) (turn : AssuranceTurn ι) : AssuranceSystem ι :=
  system.turn AssuranceOperation.program (fun _ _ => true) false turn

def afterTurns (initial : HostFiles ι) (turns : List (AssuranceTurn ι)) : AssuranceSystem ι :=
  Run.after takeTurn turns (System.start initial)

def AssuranceSystem.Fresh (system : AssuranceSystem ι) (index : ℕ) (outcome : FreshnessOutcome ι) : Prop :=
  outcome.code = .fresh ∧ ∃ operation, system.answered index = some (operation, .established (.ok outcome))

/-- The freshness state given to a transition is one that its producer has had. -/
def AssuranceOperation.Informed (initial : HostFiles ι) (log : List (ℕ × HostReplacement ι)) :
    AssuranceOperation ι → Prop
  | .epochTransition _ _ _ _ _ previous _ => previous ∈ freshnessHistory initial log previous.producerId
  | _ => True

structure NeverReplayed (initial : HostFiles ι) (system : AssuranceSystem ι) : Prop where
  stored : ∀ producerId, (freshnessHistory initial system.log producerId).getLast? =
    (system.files (.freshnessState producerId)).bind HostDocument.freshness?
  committed : ∀ scope, (authorizationHistory initial system.log scope).getLast? =
    (system.files (.authorizationState scope)).bind HostDocument.authorization?
  generations : ∀ producerId, (freshnessHistory initial system.log producerId).Pairwise
    fun before after => before.generation < after.generation
  transitions : ∀ producerId, (freshnessHistory initial system.log producerId).IsChain fun before after =>
    after.currentEpoch = before.currentEpoch ∧ after.transitionSequence = before.transitionSequence ∨
    after.currentEpoch ≠ before.currentEpoch ∧ after.transitionSequence = before.transitionSequence + 1
  sequences : ∀ scope, (authorizationHistory initial system.log scope).Pairwise
    fun before after => before.authorizationSequence < after.authorizationSequence
  times : ∀ index later before after, system.Fresh index before → system.Fresh later after → index < later →
    before.producerId = after.producerId →
    before.state.map (·.transitionSequence) = after.state.map (·.transitionSequence) →
    before.producerEpoch = after.producerEpoch ∧ before.logicalTime < after.logicalTime
  epochs : NamesNewEpochs initial system.log → ∀ index later before after, system.Fresh index before →
    system.Fresh later after → index < later → before.producerId = after.producerId →
    before.producerEpoch = after.producerEpoch → before.logicalTime < after.logicalTime
  once : NamesNewEpochs initial system.log → ∀ index later before after, system.Fresh index before →
    system.Fresh later after → before.producerId = after.producerId → before.producerEpoch = after.producerEpoch →
    before.logicalTime = after.logicalTime → index = later

abbrev turnContract (ι : Type) [DecidableEq ι] : Contract (HostPath ι) (HostDocument ι) (HostReplacement ι) :=
  hostContract false (fun _ => True) Lawful

structure Undisturbed (initial : HostFiles ι) (system : AssuranceSystem ι) : Prop where
  sound : system.Sound (turnContract ι) (fun _ _ => true) (AssuranceOperation.Ends fun _ => True) initial
  ordered : system.Ordered

theorem Undisturbed.lawful {initial : HostFiles ι} {system : AssuranceSystem ι}
    (undisturbed : Undisturbed initial system) : LawfulLog initial system.log :=
  fun earlier entry later split => undisturbed.sound.allowed earlier entry later split

theorem Undisturbed.lasting {initial : HostFiles ι} {system : AssuranceSystem ι}
    (undisturbed : Undisturbed initial system) {path : HostPath ι} (lasts : ¬ path.Candidate) :
    system.files path = lastingFiles initial system.log path :=
  undisturbed.sound.lasting path lasts

theorem AssuranceOperation.Informed.remembers {initial : HostFiles ι} {system : AssuranceSystem ι}
    (undisturbed : Undisturbed initial system) {operation : AssuranceOperation ι}
    (informed : operation.Informed initial system.log) : operation.Remembers system.files := by
  cases operation with
  | epochTransition ordinary freshness authentication replay count previous generation =>
    intro current stored
    rw [undisturbed.lasting id] at stored
    have latest := freshnessHistory_getLast? initial system.log previous.producerId
    rw [stored] at latest
    obtain ⟨states, split⟩ := List.getLast?_eq_some_iff.mp latest
    have ordered := freshnessHistory_pairwise undisturbed.lawful previous.producerId
    rw [AssuranceOperation.Informed, split] at informed
    rw [split, List.pairwise_append] at ordered
    rcases List.mem_append.mp informed with old | last
    · have less := (ordered.2.2 previous old current (List.mem_singleton_self _)).generation
      exact ⟨less.le, fun same => absurd same.symm less.ne⟩
    · rw [List.mem_singleton.mp last]
      exact ⟨le_rfl, fun _ => rfl⟩
  | _ => exact True.intro

omit [DecidableEq ι] in
theorem AssuranceOperation.owns_all (operation : AssuranceOperation ι) : operation.Owns fun _ => true := by
  cases operation with
  | establish producerId producerEpoch logicalTime => exact ⟨rfl, rfl⟩
  | bootstrap ordinary freshness authentication replay count => exact fun _ _ _ _ => ⟨rfl, rfl, rfl, rfl⟩
  | epochTransition ordinary freshness authentication replay count previous generation =>
    exact fun _ _ => ⟨rfl, rfl, rfl, rfl⟩

theorem Undisturbed.takeTurn {initial : HostFiles ι} {system : AssuranceSystem ι}
    (undisturbed : Undisturbed initial system) {turn : AssuranceTurn ι}
    (informed : turn.1.Informed initial system.log) : Undisturbed initial (takeTurn system turn) := by
  have safe (view : View (HostPath ι) (HostDocument ι)) (known : ∀ files, view = some files → files = system.files) :
      Safe (turnContract ι) (fun _ => true) (fun _ => turn.1.Ends fun _ => True) turn.1.program view [] := by
    refine turn.1.safe ⟨True.intro, fun _ => True.intro, fun _ _ => True.intro⟩ turn.1.owns_all (fun files is => ?_)
      (.inl fun _ => True.intro)
    rw [known files is]
    exact informed.remembers undisturbed
  obtain ⟨sound, ordered⟩ := undisturbed.sound.turn undisturbed.ordered (fun _ => True.intro) safe turn.2
  exact ⟨sound, ordered⟩

theorem afterTurns_undisturbed {initial : HostFiles ι} {turns : List (AssuranceTurn ι)}
    (informed : ∀ earlier turn later, turns = earlier ++ turn :: later →
      turn.1.Informed initial (afterTurns initial earlier).log) : Undisturbed initial (afterTurns initial turns) :=
  Run.after_guarded (fun _ _ undisturbed (informed : AssuranceOperation.Informed _ _ _) =>
    undisturbed.takeTurn informed) ⟨.start, .start⟩ informed

section Answers

variable {initial : HostFiles ι} {system : AssuranceSystem ι} (undisturbed : Undisturbed initial system)

include undisturbed

theorem Undisturbed.fresh_logged {index : ℕ} {outcome : FreshnessOutcome ι} (fresh : system.Fresh index outcome) :
    ∃ prepared, (index, .freshness prepared) ∈ system.log ∧ outcome.state = some prepared.candidateState ∧
      outcome.producerId = prepared.producerId ∧ outcome.producerEpoch = prepared.candidateState.currentEpoch ∧
      prepared.candidateState.highWater = some outcome.logicalTime := by
  obtain ⟨code, operation, answered⟩ := fresh
  obtain ⟨-, answers⟩ := undisturbed.sound.answers answered
  obtain ⟨producerId, producerEpoch, logicalTime, -, placed⟩ := answers _ rfl
  exact placed.logged code

theorem Undisturbed.logged_before {index later : ℕ} {first second : FreshnessPreparedWrite ι}
    (one : (index, .freshness first) ∈ system.log) (other : (later, .freshness second) ∈ system.log)
    (order : index < later) (same : first.producerId = second.producerId) :
    first.candidateState.Before second.candidateState := by
  have pairwise := history_log (freshnessHistory_pairwise undisturbed.lawful first.producerId)
  have sorted := List.pairwise_map.mp undisturbed.ordered.sorted
  have apart : ((index, .freshness first) : ℕ × HostReplacement ι) ≠ (later, .freshness second) := fun equal =>
    order.ne (congrArg Prod.fst equal)
  rcases pairwise_or (sorted.and pairwise) one other apart with ⟨-, before⟩ | ⟨high, -⟩
  · exact before rfl (congrArg HostPath.freshnessState same.symm) _ _ rfl rfl
  · exact absurd order (Nat.not_lt_of_le high)

theorem Undisturbed.fresh_times {index later : ℕ} {before after : FreshnessOutcome ι}
    (one : system.Fresh index before) (other : system.Fresh later after) (order : index < later)
    (producer : before.producerId = after.producerId)
    (stay : before.state.map (·.transitionSequence) = after.state.map (·.transitionSequence)) :
    before.producerEpoch = after.producerEpoch ∧ before.logicalTime < after.logicalTime := by
  obtain ⟨first, logged, state, owner, epoch, time⟩ := undisturbed.fresh_logged one
  obtain ⟨second, loggedLater, stateLater, ownerLater, epochLater, timeLater⟩ := undisturbed.fresh_logged other
  have came := undisturbed.logged_before logged loggedLater order (owner.symm.trans (producer.trans ownerLater))
  rw [state, stateLater] at stay
  have equal : first.candidateState.transitionSequence = second.candidateState.transitionSequence :=
    Option.some.inj stay
  rcases came.stay with less | ⟨-, stays, high, isHigh, above⟩
  · exact absurd equal less.ne
  · rw [timeLater] at isHigh
    obtain rfl := Option.some.inj isHigh
    exact ⟨by rw [epoch, epochLater, stays], above before.logicalTime time⟩

theorem Undisturbed.fresh_epochs (names : NamesNewEpochs initial system.log) {index later : ℕ}
    {before after : FreshnessOutcome ι} (one : system.Fresh index before) (other : system.Fresh later after)
    (order : index < later) (producer : before.producerId = after.producerId)
    (epoch : before.producerEpoch = after.producerEpoch) : before.logicalTime < after.logicalTime := by
  obtain ⟨first, logged, state, owner, isEpoch, -⟩ := undisturbed.fresh_logged one
  obtain ⟨second, loggedLater, stateLater, ownerLater, isEpochLater, -⟩ := undisturbed.fresh_logged other
  have inside : _ ∈ freshnessHistory initial system.log _ := freshnessHistory_mem loggedLater
  rw [← ownerLater, ← producer, owner] at inside
  have stays := freshnessHistory_stays undisturbed.lawful undisturbed.ordered.sorted names first.producerId _
    (freshnessHistory_mem logged) _ inside (by rw [← isEpoch, ← isEpochLater, epoch])
  refine (undisturbed.fresh_times one other order producer ?_).2
  rw [state, stateLater, Option.map_some, Option.map_some, stays]

theorem Undisturbed.neverReplayed : NeverReplayed initial system where
  stored producerId := by rw [freshnessHistory_getLast?, undisturbed.lasting id]
  committed scope := by rw [authorizationHistory_getLast?, undisturbed.lasting id]
  generations producerId := (freshnessHistory_pairwise undisturbed.lawful producerId).imp fun before =>
    before.generation
  transitions producerId := by
    refine (freshnessHistory_isChain undisturbed.lawful producerId).imp fun before after advances => ?_
    rcases advances with freshens | transitions
    · exact .inl ⟨freshens.epoch, freshens.sequence⟩
    · exact .inr ⟨transitions.epoch, transitions.sequence⟩
  sequences scope := (authorizationHistory_pairwise undisturbed.lawful scope).imp fun before => before.sequence
  times _ _ _ _ one other order := undisturbed.fresh_times one other order
  epochs names _ _ _ _ one other order := undisturbed.fresh_epochs names one other order
  once names index later before after one other producer epoch time := by
    rcases lt_trichotomy index later with earlier | same | earlier
    · exact absurd time (Fin.ne_of_lt (undisturbed.fresh_epochs names one other earlier producer epoch))
    · exact same
    · exact absurd time.symm
        (Fin.ne_of_lt (undisturbed.fresh_epochs names other one earlier producer.symm epoch.symm))

end Answers

/-- Whatever fails or is cut off, nothing is replayed as long as each transition is given a state that its producer
    has had. -/
theorem host_freshness_never_replayed (initial : HostFiles ι) (turns : List (AssuranceTurn ι))
    (informed : ∀ earlier turn later, turns = earlier ++ turn :: later →
      turn.1.Informed initial (afterTurns initial earlier).log) : NeverReplayed initial (afterTurns initial turns) :=
  (afterTurns_undisturbed informed).neverReplayed

section Example

def firstAuthorization : BootstrapAuthorization ℕ := ⟨100, 50, 1, 7, 10, none, by decide⟩

def nextAuthorization : EpochTransitionAuthorization ℕ :=
  ⟨101, 51, 1, 3, 10, 11, 1, by decide, by decide, by decide⟩

def firstFreshened : FreshnessState ℕ := (initialFreshnessState firstAuthorization).freshened 5 (by decide)

theorem firstFreshened_leaves : nextAuthorization.fromEpoch = firstFreshened.currentEpoch := rfl

theorem firstFreshened_left : firstFreshened.generation ≠ uint64Max := by decide

/-- A bootstrap, a statement and a transition to another epoch, with nothing failing. -/
def exampleTurns : List (AssuranceTurn ℕ) :=
  let calm : List (Fate (HostDocument ℕ)) := List.replicate 24 .succeeds
  [(.bootstrap true ⟨.firstSeen, 1, 10, 5, none, none⟩ firstAuthorization.authenticated none 0, calm),
    (.establish 1 10 5, calm),
    (.epochTransition true ⟨.epochTransitionRequired, 1, 11, 2, none, none⟩ nextAuthorization.authenticated none 1
      firstFreshened none, calm)]

theorem host_freshness_example : NeverReplayed (fun _ => none) (afterTurns (fun _ => none) exampleTurns) ∧
    ((afterTurns (fun _ => none) exampleTurns).files (.freshnessState 1)).bind HostDocument.freshness? =
      some (firstFreshened.transitioned nextAuthorization rfl (by decide)) := by
  refine ⟨host_freshness_never_replayed _ _ fun earlier turn later split => ?_, by decide +kernel⟩
  rcases earlier with _ | ⟨first, _ | ⟨second, _ | ⟨third, rest⟩⟩⟩
  · obtain rfl := (List.cons.inj split).1
    exact True.intro
  · obtain ⟨rfl, more⟩ := List.cons.inj split
    obtain rfl := (List.cons.inj more).1
    exact True.intro
  · obtain ⟨rfl, more⟩ := List.cons.inj split
    obtain ⟨rfl, last⟩ := List.cons.inj more
    obtain rfl := (List.cons.inj last).1
    show firstFreshened ∈ freshnessHistory _ _ 1
    decide +kernel
  · simp [exampleTurns] at split

/-- A state that the producer never had, from which an authorization goes on. -/
def inventedFreshness : FreshnessState ℕ := ⟨1, 10, none, none, 5, 0, by decide, by decide, by decide⟩

def inventedAuthorization : EpochTransitionAuthorization ℕ :=
  ⟨101, 51, 1, 3, 10, 11, 6, by decide, by decide, by decide⟩

/-- A bootstrap, then a transition that is given the invented state. -/
def inventedTurns : List (AssuranceTurn ℕ) :=
  let calm : List (Fate (HostDocument ℕ)) := List.replicate 24 .succeeds
  [(.bootstrap true ⟨.firstSeen, 1, 10, 5, none, none⟩ firstAuthorization.authenticated none 0, calm),
    (.epochTransition true ⟨.epochTransitionRequired, 1, 11, 2, none, none⟩ inventedAuthorization.authenticated none 1
      inventedFreshness none, calm)]

/-- Nothing fails, and the stored transition sequence of the producer goes from 0 to 6. -/
theorem invented_freshness_stored :
    (¬ ∀ turns : List (AssuranceTurn ℕ), NeverReplayed (fun _ => none) (afterTurns (fun _ => none) turns)) ∧
      (freshnessHistory (fun _ => none) (afterTurns (fun _ => none) inventedTurns).log 1).map
        (fun state => (state.currentEpoch, state.transitionSequence)) = [(10, 0), (11, 6)] := by
  have history : (freshnessHistory (fun _ => none) (afterTurns (fun _ => none) inventedTurns).log 1).map
      (fun state => (state.currentEpoch, state.transitionSequence)) = [(10, 0), (11, 6)] := by decide +kernel
  refine ⟨fun claim => ?_, history⟩
  have steps : List.IsChain (fun before after : ℕ × ℕ =>
      after.1 = before.1 ∧ after.2 = before.2 ∨ after.1 ≠ before.1 ∧ after.2 = before.2 + 1)
      ((freshnessHistory (fun _ => none) (afterTurns (fun _ => none) inventedTurns).log 1).map
        fun state => (state.currentEpoch, state.transitionSequence)) :=
    (List.isChain_map _).mpr ((claim inventedTurns).transitions 1)
  rw [history] at steps
  exact absurd steps (by decide)

end Example

end Guardian.Assurance
