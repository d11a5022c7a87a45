import Guardian.Assurance.FreshnessState
import Guardian.Lib.FileCalls

namespace Guardian.Assurance

open FileProgram

/-- The files of the two backends. A file is named by a digest of what it is for. -/
inductive HostPath (ι : Type)
  | freshnessState (producerId : ι)
  | freshnessCandidate (producerId : ι)
  | authorizationState (scope : AuthorizationReplayScope ι)
  | authorizationCandidate (scope : AuthorizationReplayScope ι)
  deriving DecidableEq

inductive HostDocument (ι : Type)
  | freshness (state : FreshnessState ι)
  | authorization (state : AuthorizationTransactionState ι)
  | malformed
  deriving DecidableEq

inductive HostReplacement (ι : Type)
  | freshness (prepared : FreshnessPreparedWrite ι)
  | authorization (prepared : AuthorizationPreparedTransaction ι)

abbrev HostFiles (ι : Type) := Files (HostPath ι) (HostDocument ι)

abbrev HostProgram (ι α : Type) := Program (HostPath ι) (HostDocument ι) (HostReplacement ι) α

variable {ι α β : Type} [DecidableEq ι]

/-- `load`: what the parser makes of the state file, if it is there. -/
def loadState (path : HostPath ι) (absent unavailable : α) (parse : HostDocument ι → α) : HostProgram ι α :=
  .present path fun
    | none => .done unavailable
    | some false => .done absent
    | some true => .read path fun
      | none => .done unavailable
      | some document => .done (parse document)

/-- What `commit` does once the stored state is as prepared: the candidate is written, read back, put in place of the
state, and the directory synchronised. -/
def putInPlace (candidatePath path : HostPath ι) (candidate : HostDocument ι) (prepared : HostReplacement ι)
    (committed failed : α) : HostProgram ι α :=
  .write candidatePath candidate fun
    | false => .done failed
    | true => .read candidatePath fun parsedCandidate =>
      if parsedCandidate ≠ some candidate then .done failed
      else .replace candidatePath path prepared fun
        | false => .done failed
        | true => .attempt fun
          | false => .done failed
          | true => .done committed

/-- `commit`: the directory made, the stored state checked, the candidate put in its place. -/
def commitState (load : HostProgram ι β) (refusal : β → Option α) (proceed : HostProgram ι α) (failed : α) :
    HostProgram ι α :=
  .attempt fun
    | false => .done failed
    | true => load.bind fun current => match refusal current with
      | some refused => .done refused
      | none => proceed

def parseFreshness (producerId : ι) : HostDocument ι → FreshnessLoadResult ι
  | .freshness state =>
    if state.producerId ≠ producerId then .invalid "committed state producer mismatch" else .stateValid state
  | _ => .invalid "committed host freshness state invalid"

def loadFreshness (producerId : ι) : HostProgram ι (FreshnessLoadResult ι) :=
  loadState (.freshnessState producerId) (.stateNotEstablished "no committed host freshness state")
    (.unavailable "committed host freshness state unavailable") (parseFreshness producerId)

def freshnessRefusal (prepared : FreshnessPreparedWrite ι) (current : FreshnessLoadResult ι) :
    Option (FreshnessPersistResult ι) :=
  match prepared.previousState, current with
  | none, .stateNotEstablished _ => none
  | none, _ => some (.persistFailure "unexpected existing state during initial commit")
  | some previous, current =>
    if current ≠ .stateValid previous then some (.persistFailure "committed state changed since prepare") else none

def commitFreshness (prepared : FreshnessPreparedWrite ι) : HostProgram ι (FreshnessPersistResult ι) :=
  let failed := .persistFailure "host freshness commit failed"
  commitState (loadFreshness prepared.producerId) (freshnessRefusal prepared)
    (putInPlace (.freshnessCandidate prepared.producerId) (.freshnessState prepared.producerId)
      (.freshness prepared.candidateState) (.freshness prepared) (.committed prepared.candidateState) failed) failed

def verifyFreshness (prepared : FreshnessPreparedWrite ι) : HostProgram ι (FreshnessPersistResult ι) := do
  let loaded ← loadFreshness prepared.producerId
  if loaded ≠ .stateValid prepared.candidateState then
    return .persistFailure "durable host state does not match candidate"
  else return .verified prepared.candidateState

def parseAuthorization (scope : AuthorizationReplayScope ι) : HostDocument ι → AuthorizationLoadResult ι
  | .authorization state =>
    if state.replayScope ≠ scope then .invalid "committed authorization replay scope mismatch" else .stateValid state
  | _ => .invalid "committed host authorization state invalid"

def loadAuthorization (scope : AuthorizationReplayScope ι) : HostProgram ι (AuthorizationLoadResult ι) :=
  loadState (.authorizationState scope) (.stateNotEstablished "no committed host authorization state")
    (.unavailable "committed host authorization state unavailable") (parseAuthorization scope)

def authorizationRefusal (prepared : AuthorizationPreparedTransaction ι) (current : AuthorizationLoadResult ι) :
    Option (AuthorizationPersistResult ι) :=
  match prepared.previousGeneration, current with
  | none, .stateNotEstablished _ => none
  | none, _ => some (.stalePreparation "unexpected authoritative state during initial commit")
  | some previousGeneration, .stateValid state =>
    if state.generation ≠ previousGeneration ∨ some state.replayState ≠ prepared.previousReplayState ∨
        some state.resultingFreshnessState ≠ prepared.previousFreshnessState then
      some (.stalePreparation "authoritative state changed since prepare")
    else none
  | some _, _ => some (.stalePreparation "authoritative state changed since prepare")

def commitAuthorization (prepared : AuthorizationPreparedTransaction ι) :
    HostProgram ι (AuthorizationPersistResult ι) :=
  let scope := prepared.candidate.replayScope
  let failed := .persistFailure "host authorization transaction commit failed"
  commitState (loadAuthorization scope) (authorizationRefusal prepared)
    (putInPlace (.authorizationCandidate scope) (.authorizationState scope) (.authorization prepared.candidate)
      (.authorization prepared) (.committed prepared.candidate) failed) failed

def verifyAuthorization (prepared : AuthorizationPreparedTransaction ι) :
    HostProgram ι (AuthorizationPersistResult ι) := do
  let loaded ← loadAuthorization prepared.candidate.replayScope
  if loaded ≠ .stateValid prepared.candidate then
    return .persistFailure "durable authorization state does not match candidate"
  else return .verified prepared.candidate

def HostReplacement.path : HostReplacement ι → HostPath ι
  | .freshness prepared => .freshnessState prepared.producerId
  | .authorization prepared => .authorizationState prepared.candidate.replayScope

def HostReplacement.document : HostReplacement ι → HostDocument ι
  | .freshness prepared => .freshness prepared.candidateState
  | .authorization prepared => .authorization prepared.candidate

/-- The stored state is still the one a write was prepared from. -/
def HostReplacement.Unchanged (before : Option (HostDocument ι)) : HostReplacement ι → Prop
  | .freshness prepared => before = prepared.previousState.map .freshness
  | .authorization prepared => match prepared.previousGeneration with
    | none => before = none
    | some previousGeneration => ∃ record, before = some (.authorization record) ∧
        record.replayScope = prepared.candidate.replayScope ∧ record.generation = previousGeneration ∧
        some record.replayState = prepared.previousReplayState ∧
        some record.resultingFreshnessState = prepared.previousFreshnessState

def HostPath.Candidate : HostPath ι → Prop
  | .freshnessCandidate _ | .authorizationCandidate _ => True
  | _ => False

def found (files : HostFiles ι) (path : HostPath ι) (absent : α) (parse : HostDocument ι → α) : α :=
  (files path).elim absent parse

def freshnessFound (files : HostFiles ι) (producerId : ι) : FreshnessLoadResult ι :=
  found files (.freshnessState producerId) (.stateNotEstablished "no committed host freshness state")
    (parseFreshness producerId)

def authorizationFound (files : HostFiles ι) (scope : AuthorizationReplayScope ι) : AuthorizationLoadResult ι :=
  found files (.authorizationState scope) (.stateNotEstablished "no committed host authorization state")
    (parseAuthorization scope)

theorem parseFreshness_stateValid {producerId : ι} {document : HostDocument ι} {state : FreshnessState ι} :
    parseFreshness producerId document = .stateValid state ↔
      document = .freshness state ∧ state.producerId = producerId := by
  cases document with
  | freshness other =>
    simp only [parseFreshness, HostDocument.freshness.injEq]
    split_ifs with mismatch
    · refine iff_of_false nofun ?_
      rintro ⟨rfl, same⟩
      exact mismatch same
    · rw [FreshnessLoadResult.stateValid.injEq, iff_self_and]
      rintro rfl
      exact not_not.mp mismatch
  | authorization record => simp [parseFreshness]
  | malformed => simp [parseFreshness]

theorem parseAuthorization_stateValid {scope : AuthorizationReplayScope ι} {document : HostDocument ι}
    {state : AuthorizationTransactionState ι} : parseAuthorization scope document = .stateValid state ↔
      document = .authorization state ∧ state.replayScope = scope := by
  cases document with
  | authorization other =>
    simp only [parseAuthorization, HostDocument.authorization.injEq]
    split_ifs with mismatch
    · refine iff_of_false nofun ?_
      rintro ⟨rfl, same⟩
      exact mismatch same
    · rw [AuthorizationLoadResult.stateValid.injEq, iff_self_and]
      rintro rfl
      exact not_not.mp mismatch
  | freshness state => simp [parseAuthorization]
  | malformed => simp [parseAuthorization]

theorem freshnessFound_stateValid {files : HostFiles ι} {producerId : ι} {state : FreshnessState ι} :
    freshnessFound files producerId = .stateValid state ↔
      files (.freshnessState producerId) = some (.freshness state) ∧ state.producerId = producerId := by
  cases stored : files (.freshnessState producerId) <;> simp [freshnessFound, found, stored, parseFreshness_stateValid]

theorem authorizationFound_stateValid {files : HostFiles ι} {scope : AuthorizationReplayScope ι}
    {state : AuthorizationTransactionState ι} : authorizationFound files scope = .stateValid state ↔
      files (.authorizationState scope) = some (.authorization state) ∧ state.replayScope = scope := by
  cases stored : files (.authorizationState scope) <;>
    simp [authorizationFound, found, stored, parseAuthorization_stateValid]

theorem parseFreshness_ne {producerId : ι} {document : HostDocument ι} {detail : String} :
    parseFreshness producerId document ≠ .stateNotEstablished detail := by
  cases document <;> simp only [parseFreshness, ne_eq, reduceCtorEq, not_false_eq_true]
  split_ifs <;> nofun

theorem parseAuthorization_ne {scope : AuthorizationReplayScope ι} {document : HostDocument ι} {detail : String} :
    parseAuthorization scope document ≠ .stateNotEstablished detail := by
  cases document <;> simp only [parseAuthorization, ne_eq, reduceCtorEq, not_false_eq_true]
  split_ifs <;> nofun

theorem freshnessFound_absent {files : HostFiles ι} {producerId : ι} {detail : String}
    (absent : freshnessFound files producerId = .stateNotEstablished detail) :
    files (.freshnessState producerId) = none := by
  cases stored : files (.freshnessState producerId) with
  | none => rfl
  | some document =>
    simp only [freshnessFound, found, stored, Option.elim_some] at absent
    exact absurd absent parseFreshness_ne

theorem authorizationFound_absent {files : HostFiles ι} {scope : AuthorizationReplayScope ι} {detail : String}
    (absent : authorizationFound files scope = .stateNotEstablished detail) :
    files (.authorizationState scope) = none := by
  cases stored : files (.authorizationState scope) with
  | none => rfl
  | some document =>
    simp only [authorizationFound, found, stored, Option.elim_some] at absent
    exact absurd absent parseAuthorization_ne

theorem freshnessRefusal_none {prepared : FreshnessPreparedWrite ι} {files : HostFiles ι}
    (accepts : freshnessRefusal prepared (freshnessFound files prepared.producerId) = none) :
    (HostReplacement.freshness prepared).Unchanged (files (.freshnessState prepared.producerId)) := by
  unfold freshnessRefusal at accepts
  cases known : prepared.previousState with
  | none =>
    rw [known] at accepts
    simp only [HostReplacement.Unchanged, known, Option.map_none]
    cases loaded : freshnessFound files prepared.producerId with
    | stateNotEstablished detail => exact freshnessFound_absent loaded
    | _ => simp [loaded] at accepts
  | some previous =>
    simp only [known, ite_eq_right_iff, reduceCtorEq, imp_false, not_not] at accepts
    simp only [HostReplacement.Unchanged, known, Option.map_some]
    exact (freshnessFound_stateValid.mp accepts).1

theorem authorizationRefusal_none {prepared : AuthorizationPreparedTransaction ι} {files : HostFiles ι}
    (accepts : authorizationRefusal prepared (authorizationFound files prepared.candidate.replayScope) = none) :
    (HostReplacement.authorization prepared).Unchanged
      (files (.authorizationState prepared.candidate.replayScope)) := by
  unfold authorizationRefusal at accepts
  cases known : prepared.previousGeneration with
  | none =>
    rw [known] at accepts
    simp only [HostReplacement.Unchanged, known]
    cases loaded : authorizationFound files prepared.candidate.replayScope with
    | stateNotEstablished detail => exact authorizationFound_absent loaded
    | _ => simp [loaded] at accepts
  | some previousGeneration =>
    rw [known] at accepts
    cases loaded : authorizationFound files prepared.candidate.replayScope with
    | stateValid record =>
      simp only [loaded, ite_eq_right_iff, reduceCtorEq, imp_false, not_or, not_not] at accepts
      obtain ⟨stored, scope⟩ := authorizationFound_stateValid.mp loaded
      simp only [HostReplacement.Unchanged, known]
      exact ⟨record, stored, scope, accepts⟩
    | _ => simp [loaded] at accepts

theorem freshnessRefusal_of_unchanged {prepared : FreshnessPreparedWrite ι} {files : HostFiles ι}
    (unchanged : (HostReplacement.freshness prepared).Unchanged (files (.freshnessState prepared.producerId))) :
    freshnessRefusal prepared (freshnessFound files prepared.producerId) = none := by
  unfold freshnessRefusal
  cases known : prepared.previousState with
  | none =>
    simp only [HostReplacement.Unchanged, known, Option.map_none] at unchanged
    simp [freshnessFound, found, unchanged]
  | some previous =>
    simp only [HostReplacement.Unchanged, known, Option.map_some] at unchanged
    simp [freshnessFound_stateValid.mpr ⟨unchanged, prepared.sameProducer previous known⟩]

theorem authorizationRefusal_of_unchanged {prepared : AuthorizationPreparedTransaction ι} {files : HostFiles ι}
    (unchanged : (HostReplacement.authorization prepared).Unchanged
      (files (.authorizationState prepared.candidate.replayScope))) :
    authorizationRefusal prepared (authorizationFound files prepared.candidate.replayScope) = none := by
  unfold authorizationRefusal
  cases known : prepared.previousGeneration with
  | none =>
    simp only [HostReplacement.Unchanged, known] at unchanged
    simp [authorizationFound, found, unchanged]
  | some previousGeneration =>
    simp only [HostReplacement.Unchanged, known] at unchanged
    obtain ⟨record, stored, scope, generation, replayState, freshnessState⟩ := unchanged
    simp [authorizationFound_stateValid.mpr ⟨stored, scope⟩, generation, replayState, freshnessState]

end Guardian.Assurance
