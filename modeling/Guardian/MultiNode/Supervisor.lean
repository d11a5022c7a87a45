import Mathlib.Data.List.Induction
import Mathlib.Data.Prod.Lex
import Guardian.Lib.Run
import Guardian.MultiNode.Multinode

namespace Guardian.MultiNode

open Word

inductive SupervisorState
  | bootstrap
  | monitoring
  | degraded
  | safeHold
  deriving DecidableEq, Repr

inductive SupervisorResult
  | ok
  | invalidConfig
  | invalidNode
  | notAuthenticated
  | notFresh
  | semanticallyIncompatible
  | replayOrRegression
  | actuationProhibited
  | invalidHeartbeat
  deriving DecidableEq, Repr

structure SupervisorHeartbeat where
  sequence : U32
  epoch : U32
  authenticated : U8
  fresh : U8
  semanticallyCompatible : U8
  peerHealthy : U8
  disagreement : U8
  deriving DecidableEq, Repr

structure Supervisor where
  self : MultinodeNode
  state : SupervisorState
  acceptedEpoch : U32
  acceptedSequence : U32
  missedHeartbeats : U32
  missedHeartbeatLimit : U32
  heartbeatInitialized : U8
  recoveryRequested : U8
  deriving DecidableEq, Repr

def supervisorInit : Supervisor := ⟨⟨0, 0, 0, 0, 0, 0⟩, .bootstrap, 0, 0, 0, 0, 0, 0⟩

def supervisorConfigure (supervisor : Supervisor) (self : MultinodeNode) (missedHeartbeatLimit : U32) :
    SupervisorResult × Supervisor :=
  if missedHeartbeatLimit = 0 then (.invalidConfig, supervisor)
  else if multinodeValidateNode self ≠ .ok then (.invalidNode, supervisor)
  else if self.role ≠ roleMcxn947SupervisoryPeer then (.invalidNode, supervisor)
  else if self.authorityClass ≠ authorityObserve then (.invalidNode, supervisor)
  else if self.capabilities &&& capSupervision = 0 then (.invalidNode, supervisor)
  else if self.capabilities &&& capRecoveryAssist = 0 then (.invalidNode, supervisor)
  else if self.capabilities &&& capActuationGate ≠ 0 then (.invalidNode, supervisor)
  else (.ok, { supervisorInit with self := self, missedHeartbeatLimit := missedHeartbeatLimit })

def Supervisor.received (supervisor : Supervisor) (heartbeat : SupervisorHeartbeat) : Supervisor :=
  { supervisor with
    acceptedEpoch := heartbeat.epoch
    acceptedSequence := heartbeat.sequence
    heartbeatInitialized := 1
    missedHeartbeats := 0
    recoveryRequested := 0
    state := if heartbeat.peerHealthy ≠ 1 ∨ heartbeat.disagreement = 1 then .degraded else .monitoring }

def supervisorAcceptHeartbeat (supervisor : Supervisor) (heartbeat : SupervisorHeartbeat) :
    SupervisorResult × Supervisor :=
  if supervisor.missedHeartbeatLimit = 0 then (.invalidConfig, supervisor)
  else if heartbeat.peerHealthy > 1 ∨ heartbeat.disagreement > 1 then (.invalidHeartbeat, supervisor)
  else if heartbeat.authenticated ≠ 1 then (.notAuthenticated, supervisor)
  else if heartbeat.fresh ≠ 1 then (.notFresh, supervisor)
  else if heartbeat.semanticallyCompatible ≠ 1 then (.semanticallyIncompatible, supervisor)
  else if heartbeat.epoch = 0 ∨ heartbeat.sequence = 0 then (.replayOrRegression, supervisor)
  else if supervisor.heartbeatInitialized ≠ 0 ∧ (heartbeat.epoch < supervisor.acceptedEpoch ∨
      heartbeat.epoch = supervisor.acceptedEpoch ∧ heartbeat.sequence ≤ supervisor.acceptedSequence) then
    (.replayOrRegression, supervisor)
  else (.ok, supervisor.received heartbeat)

def supervisorNoteMissedHeartbeat (supervisor : Supervisor) : SupervisorResult × Supervisor :=
  if supervisor.missedHeartbeatLimit = 0 then (.invalidConfig, supervisor)
  else
    let missed := if supervisor.missedHeartbeats < 0xFFFFFFFF then supervisor.missedHeartbeats + 1
      else supervisor.missedHeartbeats
    if missed ≥ supervisor.missedHeartbeatLimit then
      (.ok, { supervisor with missedHeartbeats := missed, state := .safeHold, recoveryRequested := 1 })
    else
      (.ok, { supervisor with
        missedHeartbeats := missed
        state := if supervisor.state = .monitoring then .degraded else supervisor.state })

structure RecoveryRequest where
  requestingNodeId : U32
  observedEpoch : U32
  observedSequence : U32
  requested : U8
  actuationAuthorized : U8
  deriving DecidableEq, Repr

def supervisorBuildRecoveryRequest (supervisor : Supervisor) : RecoveryRequest where
  requestingNodeId := supervisor.self.nodeId
  observedEpoch := supervisor.acceptedEpoch
  observedSequence := supervisor.acceptedSequence
  requested := supervisor.recoveryRequested
  actuationAuthorized := 0

def SupervisorHeartbeat.pair (heartbeat : SupervisorHeartbeat) : U32 × U32 := (heartbeat.epoch, heartbeat.sequence)

def Supervisor.pair (supervisor : Supervisor) : U32 × U32 := (supervisor.acceptedEpoch, supervisor.acceptedSequence)

/-- The lexicographic order of pairs of an epoch and a sequence. -/
abbrev HeartbeatBefore : U32 × U32 → U32 × U32 → Prop := Prod.Lex (· < ·) (· < ·)

theorem HeartbeatBefore.trans {first second third : U32 × U32} (earlier : HeartbeatBefore first second)
    (later : HeartbeatBefore second third) : HeartbeatBefore first third := by
  simp only [HeartbeatBefore, Prod.lex_def, BitVec.lt_def, ← BitVec.toNat_inj] at *
  omega

theorem supervisorAcceptHeartbeat_cases (supervisor : Supervisor) (heartbeat : SupervisorHeartbeat) :
    (supervisorAcceptHeartbeat supervisor heartbeat).1 ≠ .ok ∧
        (supervisorAcceptHeartbeat supervisor heartbeat).2 = supervisor ∨
      supervisorAcceptHeartbeat supervisor heartbeat = (.ok, supervisor.received heartbeat) ∧
        (supervisor.heartbeatInitialized ≠ 0 → HeartbeatBefore supervisor.pair heartbeat.pair) := by
  unfold supervisorAcceptHeartbeat
  split_ifs with _ _ _ _ _ _ regression
  case neg =>
    right
    refine ⟨rfl, fun initialized => ?_⟩
    rw [not_and] at regression
    have later := regression initialized
    simp only [HeartbeatBefore, Supervisor.pair, SupervisorHeartbeat.pair, Prod.lex_def, BitVec.lt_def, BitVec.le_def,
      ← BitVec.toNat_inj] at later ⊢
    omega
  all_goals
    left
    exact ⟨by simp, rfl⟩

theorem supervisorNoteMissedHeartbeat_cases {supervisor : Supervisor} (positive : supervisor.missedHeartbeatLimit ≠ 0) :
    ∃ missed : U32, missed.toNat = min (supervisor.missedHeartbeats.toNat + 1) (2 ^ 32 - 1) ∧
      (supervisor.missedHeartbeatLimit.toNat ≤ missed.toNat ∧ supervisorNoteMissedHeartbeat supervisor =
          (.ok, { supervisor with missedHeartbeats := missed, state := .safeHold, recoveryRequested := 1 }) ∨
        missed.toNat < supervisor.missedHeartbeatLimit.toNat ∧ supervisorNoteMissedHeartbeat supervisor =
          (.ok, { supervisor with
            missedHeartbeats := missed
            state := if supervisor.state = .monitoring then .degraded else supervisor.state })) := by
  refine ⟨if supervisor.missedHeartbeats < 0xFFFFFFFF then supervisor.missedHeartbeats + 1
    else supervisor.missedHeartbeats, ?_, ?_⟩
  · have bound := supervisor.missedHeartbeats.isLt
    split <;> simp_all [BitVec.lt_def] <;> omega
  · unfold supervisorNoteMissedHeartbeat
    rw [if_neg positive]
    dsimp only
    -- The counter itself does not matter to the comparison with the limit.
    generalize (if supervisor.missedHeartbeats < 0xFFFFFFFF then supervisor.missedHeartbeats + 1
      else supervisor.missedHeartbeats) = missed
    rcases Nat.lt_or_ge missed.toNat supervisor.missedHeartbeatLimit.toNat with short | reached
    · right
      exact ⟨short, if_neg (by simpa [BitVec.le_def] using short)⟩
    · left
      exact ⟨reached, if_pos (by simpa [BitVec.le_def] using reached)⟩

inductive SupervisorCall
  | heartbeat (heartbeat : SupervisorHeartbeat)
  | missed

def SupervisorCall.perform (supervisor : Supervisor) : SupervisorCall → SupervisorResult × Supervisor
  | .heartbeat received => supervisorAcceptHeartbeat supervisor received
  | .missed => supervisorNoteMissedHeartbeat supervisor

def supervisorAfter (supervisor : Supervisor) (calls : List SupervisorCall) : Supervisor :=
  Run.after (fun supervisor call => (call.perform supervisor).2) calls supervisor

def supervisorTrace : Supervisor → List SupervisorCall → List (SupervisorCall × SupervisorResult)
  | _, [] => []
  | supervisor, call :: calls =>
    (call, (call.perform supervisor).1) :: supervisorTrace (call.perform supervisor).2 calls

def acceptedPair? : SupervisorCall × SupervisorResult → Option (U32 × U32)
  | (.heartbeat heartbeat, .ok) => some heartbeat.pair
  | _ => none

def isNotedMiss : SupervisorCall × SupervisorResult → Bool
  | (.missed, .ok) => true
  | _ => false

def acceptedPairs (trace : List (SupervisorCall × SupervisorResult)) : List (U32 × U32) :=
  trace.filterMap acceptedPair?

/-- The misses that have been noted since the last accepted heartbeat. -/
def missesSinceAccepted (trace : List (SupervisorCall × SupervisorResult)) : ℕ :=
  (trace.reverse.takeWhile fun entry => (acceptedPair? entry).isNone).countP isNotedMiss

theorem supervisorTrace_snoc (supervisor : Supervisor) (calls : List SupervisorCall) (call : SupervisorCall) :
    supervisorTrace supervisor (calls ++ [call]) =
      supervisorTrace supervisor calls ++ [(call, (call.perform (supervisorAfter supervisor calls)).1)] := by
  induction calls generalizing supervisor with
  | nil => rfl
  | cons first calls ih =>
    rw [List.cons_append, supervisorTrace, ih]
    rfl

section entry

variable {trace : List (SupervisorCall × SupervisorResult)} {entry : SupervisorCall × SupervisorResult}

theorem missesSinceAccepted_accepted {pair : U32 × U32} (accepted : acceptedPair? entry = some pair) :
    missesSinceAccepted (trace ++ [entry]) = 0 := by
  simp [missesSinceAccepted, accepted]

theorem missesSinceAccepted_other (other : acceptedPair? entry = none) :
    missesSinceAccepted (trace ++ [entry]) = missesSinceAccepted trace + if isNotedMiss entry then 1 else 0 := by
  simp [missesSinceAccepted, other, List.countP_cons]

end entry

structure Supervisor.Follows (supervisor : Supervisor) (limit : U32)
    (trace : List (SupervisorCall × SupervisorResult)) : Prop where
  configured : supervisor.missedHeartbeatLimit = limit
  missed : supervisor.missedHeartbeats.toNat = min (missesSinceAccepted trace) (2 ^ 32 - 1)
  holds : supervisor.state = .safeHold ↔ limit.toNat ≤ missesSinceAccepted trace
  requested : supervisor.recoveryRequested = 1 ↔ limit.toNat ≤ missesSinceAccepted trace
  initialized : supervisor.heartbeatInitialized = 0 → acceptedPairs trace = []
  latest : ∀ pair ∈ acceptedPairs trace, pair = supervisor.pair ∨ HeartbeatBefore pair supervisor.pair
  increasing : (acceptedPairs trace).Pairwise HeartbeatBefore

variable {supervisor : Supervisor} {limit : U32} {trace : List (SupervisorCall × SupervisorResult)}

theorem Supervisor.Follows.heartbeat (follows : supervisor.Follows limit trace) (positive : limit ≠ 0)
    (heartbeat : SupervisorHeartbeat) : (supervisorAcceptHeartbeat supervisor heartbeat).2.Follows limit
      (trace ++ [(.heartbeat heartbeat, (supervisorAcceptHeartbeat supervisor heartbeat).1)]) := by
  rcases supervisorAcceptHeartbeat_cases supervisor heartbeat with ⟨refused, same⟩ | ⟨taken, later⟩
  · have other : acceptedPair? (.heartbeat heartbeat, (supervisorAcceptHeartbeat supervisor heartbeat).1) = none := by
      unfold acceptedPair?
      split <;> simp_all
    have misses : missesSinceAccepted
        (trace ++ [(.heartbeat heartbeat, (supervisorAcceptHeartbeat supervisor heartbeat).1)]) =
        missesSinceAccepted trace := missesSinceAccepted_other other
    have pairs : acceptedPairs
        (trace ++ [(.heartbeat heartbeat, (supervisorAcceptHeartbeat supervisor heartbeat).1)]) =
        acceptedPairs trace := by
      simp [acceptedPairs, other]
    rw [same]
    obtain ⟨configured, missed, holds, requested, initialized, latest, increasing⟩ := follows
    rw [← misses] at missed holds requested
    rw [← pairs] at initialized latest increasing
    exact ⟨configured, missed, holds, requested, initialized, latest, increasing⟩
  · have pairs : acceptedPairs (trace ++ [(.heartbeat heartbeat, .ok)]) = acceptedPairs trace ++ [heartbeat.pair] := by
      simp [acceptedPairs, acceptedPair?]
    have misses : missesSinceAccepted (trace ++ [(.heartbeat heartbeat, .ok)]) = 0 :=
      missesSinceAccepted_accepted rfl
    have above : limit.toNat ≠ 0 := fun zero => positive (BitVec.eq_of_toNat_eq (by simpa using zero))
    have before : ∀ pair ∈ acceptedPairs trace, HeartbeatBefore pair heartbeat.pair := by
      intro pair member
      have initialized : supervisor.heartbeatInitialized ≠ 0 := fun zero => by
        rw [follows.initialized zero] at member
        cases member
      rcases follows.latest pair member with rfl | earlier
      · exact later initialized
      · exact earlier.trans (later initialized)
    rw [taken]
    constructor
    case configured => exact follows.configured
    case missed => simp [misses, Supervisor.received]
    case holds =>
      simp only [misses, Supervisor.received]
      split_ifs <;> simp [above]
    case requested => simp [misses, Supervisor.received, above]
    case initialized => simp [Supervisor.received]
    case latest =>
      intro pair member
      rw [pairs, List.mem_append, List.mem_singleton] at member
      rcases member with earlier | rfl
      · exact .inr (before pair earlier)
      · exact .inl rfl
    case increasing =>
      rw [pairs, List.pairwise_append]
      refine ⟨follows.increasing, List.pairwise_singleton _ _, fun pair member other last => ?_⟩
      rw [List.mem_singleton.mp last]
      exact before pair member

theorem Supervisor.Follows.note (follows : supervisor.Follows limit trace) (positive : limit ≠ 0) :
    (supervisorNoteMissedHeartbeat supervisor).2.Follows limit
      (trace ++ [(.missed, (supervisorNoteMissedHeartbeat supervisor).1)]) := by
  obtain ⟨rfl, missed, holds, requested, initialized, latest, increasing⟩ := follows
  have misses : missesSinceAccepted (trace ++ [(.missed, .ok)]) = missesSinceAccepted trace + 1 :=
    missesSinceAccepted_other rfl
  have pairs : acceptedPairs (trace ++ [(.missed, .ok)]) = acceptedPairs trace := by
    simp [acceptedPairs, acceptedPair?]
  rcases supervisorNoteMissedHeartbeat_cases positive with
    ⟨noted, counted, ⟨reached, answer⟩ | ⟨short, answer⟩⟩
  · have enough : supervisor.missedHeartbeatLimit.toNat ≤ missesSinceAccepted trace + 1 := by omega
    rw [missed] at counted
    rw [answer]
    rw [← misses] at enough
    rw [← pairs] at initialized latest increasing
    refine ⟨rfl, ?_, iff_of_true rfl enough, iff_of_true rfl enough, initialized, latest, increasing⟩
    simp only [misses, counted]
    omega
  · have bound := supervisor.missedHeartbeatLimit.isLt
    have few : ¬ supervisor.missedHeartbeatLimit.toNat ≤ missesSinceAccepted trace + 1 := by omega
    have calm : supervisor.state ≠ .safeHold := fun held => few (Nat.le_succ_of_le (holds.mp held))
    have quiet : supervisor.recoveryRequested ≠ 1 := fun asked => few (Nat.le_succ_of_le (requested.mp asked))
    rw [missed] at counted
    rw [answer]
    rw [← misses] at few
    rw [← pairs] at initialized latest increasing
    refine ⟨rfl, ?_, iff_of_false ?_ few, iff_of_false quiet few, initialized, latest, increasing⟩
    · simp only [misses, counted]
      omega
    · dsimp only
      split <;> simp [calm]

theorem supervisorConfigure_ok {self : MultinodeNode}
    (configured : (supervisorConfigure supervisor self limit).1 = .ok) :
    limit ≠ 0 ∧ (supervisorConfigure supervisor self limit).2 =
      { supervisorInit with self := self, missedHeartbeatLimit := limit } := by
  unfold supervisorConfigure at configured ⊢
  split_ifs at configured ⊢ with zero
  exact ⟨zero, rfl⟩

theorem supervisorAfter_follows {self : MultinodeNode}
    (configured : (supervisorConfigure supervisor self limit).1 = .ok) (calls : List SupervisorCall) :
    (supervisorAfter (supervisorConfigure supervisor self limit).2 calls).Follows limit
      (supervisorTrace (supervisorConfigure supervisor self limit).2 calls) := by
  obtain ⟨positive, start⟩ := supervisorConfigure_ok configured
  have above : limit.toNat ≠ 0 := fun zero => positive (BitVec.eq_of_toNat_eq (by simpa using zero))
  rw [start]
  induction calls using List.reverseRecOn with
  | nil =>
    constructor <;>
      simp [supervisorAfter, supervisorTrace, supervisorInit, missesSinceAccepted, acceptedPairs, above]
  | append_singleton calls call ih =>
    rw [supervisorTrace_snoc, supervisorAfter, Run.after_snoc]
    cases call with
    | heartbeat received => exact ih.heartbeat positive received
    | missed => exact ih.note positive

/-- A recovery is asked for once the limit of misses is reached, and the request never authorizes anything. -/
theorem supervisorAfter_request {self : MultinodeNode}
    (configured : (supervisorConfigure supervisor self limit).1 = .ok) (calls : List SupervisorCall) :
    let request := supervisorBuildRecoveryRequest (supervisorAfter (supervisorConfigure supervisor self limit).2 calls)
    (request.requested = 1 ↔
      limit.toNat ≤ missesSinceAccepted (supervisorTrace (supervisorConfigure supervisor self limit).2 calls)) ∧
    request.actuationAuthorized = 0 :=
  ⟨(supervisorAfter_follows configured calls).requested, rfl⟩

/-- What holds of a supervisor after a sequence of calls since it was configured. -/
structure HeartbeatLaw (supervisor : Supervisor) (limit : U32)
    (trace : List (SupervisorCall × SupervisorResult)) : Prop where
  holds : supervisor.state = .safeHold ∧ supervisor.recoveryRequested = 1 ↔ limit.toNat ≤ missesSinceAccepted trace
  together : supervisor.state = .safeHold ↔ supervisor.recoveryRequested = 1
  increasing : (acceptedPairs trace).Pairwise HeartbeatBefore
  refusal : ∀ heartbeat, (supervisorAcceptHeartbeat supervisor heartbeat).1 ≠ .ok →
    (supervisorAcceptHeartbeat supervisor heartbeat).2 = supervisor

theorem supervisor_heartbeat_law (supervisor : Supervisor) (self : MultinodeNode) (limit : U32)
    (configured : (supervisorConfigure supervisor self limit).1 = .ok) (calls : List SupervisorCall) :
    HeartbeatLaw (supervisorAfter (supervisorConfigure supervisor self limit).2 calls) limit
      (supervisorTrace (supervisorConfigure supervisor self limit).2 calls) := by
  have follows := supervisorAfter_follows configured calls
  refine ⟨?_, follows.holds.trans follows.requested.symm, follows.increasing, fun heartbeat refused => ?_⟩
  · rw [follows.holds, follows.requested, and_self]
  · rcases supervisorAcceptHeartbeat_cases _ heartbeat with ⟨-, same⟩ | ⟨taken, -⟩
    · exact same
    · rw [taken] at refused
      exact absurd rfl refused

def examplePeer : MultinodeNode := ⟨1, 1, 1, roleMcxn947SupervisoryPeer, authorityObserve, 0x8F⟩

/-- A heartbeat, three misses and a replay of the heartbeat, with a limit of three. -/
def exampleCalls : List SupervisorCall :=
  [.heartbeat ⟨1, 1, 1, 1, 1, 1, 0⟩, .missed, .missed, .missed, .heartbeat ⟨1, 1, 1, 1, 1, 1, 0⟩]

theorem supervisor_heartbeat_law_example :
    HeartbeatLaw (supervisorAfter (supervisorConfigure supervisorInit examplePeer 3).2 exampleCalls) 3
      (supervisorTrace (supervisorConfigure supervisorInit examplePeer 3).2 exampleCalls) ∧
    (supervisorAfter (supervisorConfigure supervisorInit examplePeer 3).2 exampleCalls).state = .safeHold :=
  ⟨supervisor_heartbeat_law supervisorInit examplePeer 3 (by decide) exampleCalls, by decide⟩

end Guardian.MultiNode
