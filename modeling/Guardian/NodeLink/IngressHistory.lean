import Guardian.NodeLink.IngressTransaction

namespace Guardian.NodeLink

open Word

/-- A transaction of each kind after `live`. -/
inductive GiAdvances (live : GiState) : GiCommitted → Prop
  | observation (e : GseUnverified) (wire : List U8) (now : U32) (decoded : gseDecode wire = some e) (type : e.type = 7)
      (fresh : live.obsSequence < e.sequence) (more : live.revision ≠ 0xFFFFFFFF) :
      GiAdvances live ⟨7, wire,
        { live with
          obsSequence := e.sequence, hasReport := 1, eligible := 0, lastTime := now, revision := live.revision + 1 }⟩
  | ack (e : GseUnverified) (wire : List U8) (now : U32) (decoded : gseDecode wire = some e) (type : e.type = 8)
      (fresh : live.ackSequence < e.sequence) (pending : live.pending = 1) (report : live.hasReport = 1)
      (epoch : getU32Le (e.payload.1.drop 20) = live.localEpoch)
      (sequence : getU32Le (e.payload.1.drop 24) = live.localSequence) (more : live.revision ≠ 0xFFFFFFFF) :
      GiAdvances live ⟨8, wire,
        { live with
          ackSequence := e.sequence, pending := 0, eligible := 1, lastTime := now, revision := live.revision + 1 }⟩
  | reference (epoch sequence deadline now : U32) (idle : live.pending = 0) (ineligible : live.eligible = 0)
      (more : live.revision ≠ 0xFFFFFFFF) :
      GiAdvances live ⟨0, [],
        { live with
          localEpoch := epoch, localSequence := sequence, pending := 1, deadline, lastTime := now
          revision := live.revision + 1 }⟩

theorem GiAdvances.later {live proposed : GiState} {kind : U8} {wire : List U8}
    (advances : GiAdvances live ⟨kind, wire, proposed⟩) (now : U32) :
    GiAdvances live ⟨kind, wire, { proposed with lastTime := now }⟩ := by
  cases advances with
  | observation e _ _ decoded type fresh more => exact .observation e wire now decoded type fresh more
  | ack e _ _ decoded type fresh pending report epoch sequence more =>
    exact .ack e wire now decoded type fresh pending report epoch sequence more
  | reference epoch sequence deadline _ idle ineligible more =>
    exact .reference epoch sequence deadline now idle ineligible more

def giLast (genesis : GiState) : List GiCommitted → GiState
  | [] => genesis
  | commit :: _ => commit.state

/-- Transactions that reached the anchor one after another, newest first. -/
inductive GiHistory (genesis : GiState) : List GiCommitted → Prop
  | start : GiHistory genesis []
  | commit {commit : GiCommitted} {before : List GiCommitted} (history : GiHistory genesis before)
      (advances : GiAdvances (giLast genesis before) commit) (valid : giStateOk commit.state = true) :
      GiHistory genesis (commit :: before)

/-- What a transaction does to the revision and the sequences of the state before it. -/
structure GiCommitted.Follows (commit : GiCommitted) (before : GiState) : Prop where
  revision : commit.state.revision.toNat = before.revision.toNat + 1
  observed : commit.kind = 7 → before.obsSequence < commit.state.obsSequence
  unobserved : commit.kind ≠ 7 → commit.state.obsSequence = before.obsSequence
  acknowledged : commit.kind = 8 → before.ackSequence < commit.state.ackSequence
  unacknowledged : commit.kind ≠ 8 → commit.state.ackSequence = before.ackSequence

theorem GiAdvances.follows {live : GiState} {commit : GiCommitted} (advances : GiAdvances live commit) :
    commit.Follows live := by
  have next (more : live.revision ≠ 0xFFFFFFFF) : (live.revision + 1).toNat = live.revision.toNat + 1 := by
    bv_omega
  cases advances with
  | observation e wire now decoded type fresh more =>
    have other : ¬ (7 : U8) = 8 := by decide
    exact ⟨next more, fun _ => fresh, fun kind => absurd rfl kind, fun kind => absurd kind other, fun _ => rfl⟩
  | ack e wire now decoded type fresh pending report epoch sequence more =>
    have other : ¬ (8 : U8) = 7 := by decide
    exact ⟨next more, fun kind => absurd kind other, fun _ => rfl, fun _ => fresh, fun kind => absurd rfl kind⟩
  | reference epoch sequence deadline now idle ineligible more =>
    have neither : ¬ (0 : U8) = 7 ∧ ¬ (0 : U8) = 8 := by decide
    exact ⟨next more, fun kind => absurd kind neither.1, fun _ => rfl, fun kind => absurd kind neither.2, fun _ => rfl⟩

theorem GiCommitted.Follows.monotone {commit : GiCommitted} {before : GiState} (follows : commit.Follows before) :
    before.obsSequence ≤ commit.state.obsSequence ∧ before.ackSequence ≤ commit.state.ackSequence := by
  constructor
  · by_cases observation : commit.kind = 7
    · exact BitVec.le_of_lt (follows.observed observation)
    · exact BitVec.le_of_eq (follows.unobserved observation).symm
  · by_cases ack : commit.kind = 8
    · exact BitVec.le_of_lt (follows.acknowledged ack)
    · exact BitVec.le_of_eq (follows.unacknowledged ack).symm

/-- A committed envelope was decoded from its wire, and its sequence is the one then stored for its type. -/
theorem GiAdvances.wire {live : GiState} {commit : GiCommitted} (advances : GiAdvances live commit)
    (received : commit.kind ≠ 0) :
    ∃ e, gseDecode commit.wire = some e ∧ e.type = commit.kind ∧
      (commit.kind = 7 ∧ live.obsSequence < e.sequence ∧ commit.state.obsSequence = e.sequence ∨
        commit.kind = 8 ∧ live.ackSequence < e.sequence ∧ commit.state.ackSequence = e.sequence) := by
  cases advances with
  | observation e wire now decoded type fresh more => exact ⟨e, decoded, type, Or.inl ⟨rfl, fresh, rfl⟩⟩
  | ack e wire now decoded type fresh pending report epoch sequence more =>
    exact ⟨e, decoded, type, Or.inr ⟨rfl, fresh, rfl⟩⟩
  | reference epoch sequence deadline now idle ineligible more => exact absurd rfl received

section history

variable {genesis : GiState} {commits : List GiCommitted}

theorem GiHistory.follows (history : GiHistory genesis commits) {after before : List GiCommitted} {commit : GiCommitted}
    (split : commits = after ++ commit :: before) : commit.Follows (giLast genesis before) := by
  induction history generalizing after with
  | start => cases after <;> cases split
  | commit history advances valid ih =>
    cases after with
    | nil =>
      cases split
      exact advances.follows
    | cons newest after => exact ih (List.cons.inj split).2

theorem GiHistory.sequences (history : GiHistory genesis commits) {commit : GiCommitted} (member : commit ∈ commits) :
    commit.state.obsSequence ≤ (giLast genesis commits).obsSequence ∧
      commit.state.ackSequence ≤ (giLast genesis commits).ackSequence := by
  induction history with
  | start => cases member
  | commit history advances valid ih =>
    rcases List.mem_cons.mp member with rfl | older
    · exact ⟨BitVec.le_refl _, BitVec.le_refl _⟩
    · obtain ⟨observations, acks⟩ := ih older
      obtain ⟨newerObservations, newerAcks⟩ := advances.follows.monotone
      exact ⟨BitVec.le_trans observations newerObservations, BitVec.le_trans acks newerAcks⟩

theorem GiHistory.last_ok (history : GiHistory genesis commits) (genesisOk : giStateOk genesis = true) :
    giStateOk (giLast genesis commits) = true := by
  cases history with
  | start => exact genesisOk
  | commit history advances valid => exact valid

theorem GiHistory.member (history : GiHistory genesis commits) {commit : GiCommitted} (member : commit ∈ commits) :
    ∃ live, GiAdvances live commit := by
  induction history with
  | start => cases member
  | commit history advances valid ih =>
    rcases List.mem_cons.mp member with rfl | older
    · exact ⟨_, advances⟩
    · exact ih older

theorem GiHistory.wires_nodup (history : GiHistory genesis commits) :
    ((commits.filter (·.kind ≠ 0)).map GiCommitted.wire).Nodup := by
  induction history with
  | start => exact List.nodup_nil
  | @commit commit before history advances valid ih =>
    rw [List.filter_cons]
    split_ifs with received
    · rw [List.map_cons, List.nodup_cons]
      refine ⟨?_, ih⟩
      intro again
      obtain ⟨older, listed, same⟩ := List.mem_map.mp again
      obtain ⟨member, olderReceived⟩ := List.mem_filter.mp listed
      obtain ⟨live, olderAdvances⟩ := history.member member
      obtain ⟨e, decoded, type, stored⟩ := advances.wire (by simpa using received)
      obtain ⟨e', decoded', type', stored'⟩ := olderAdvances.wire (by simpa using olderReceived)
      obtain ⟨observations, acks⟩ := history.sequences member
      rw [same, decoded] at decoded'
      cases decoded'
      have kinds : commit.kind = older.kind := type.symm.trans type'
      rcases stored with ⟨kind, fresh, -⟩ | ⟨kind, fresh, -⟩
      · rcases stored' with ⟨-, -, sequence⟩ | ⟨other, -⟩
        · rw [sequence] at observations
          exact absurd fresh (BitVec.not_lt.mpr observations)
        · rw [← kinds, kind] at other
          exact absurd other (by decide)
      · rcases stored' with ⟨other, -⟩ | ⟨-, -, sequence⟩
        · rw [← kinds, kind] at other
          exact absurd other (by decide)
        · rw [sequence] at acks
          exact absurd fresh (BitVec.not_lt.mpr acks)
    · exact ih

structure GiCommitted.References (commit : GiCommitted) (state : GiState) : Prop where
  kind : commit.kind = 0
  epoch : commit.state.localEpoch = state.localEpoch
  sequence : commit.state.localSequence = state.localSequence
  deadline : commit.state.deadline = state.deadline

theorem GiHistory.pending (history : GiHistory genesis commits) (idle : genesis.pending = 0)
    (pending : (giLast genesis commits).pending ≠ 0) :
    ∃ between reference before, commits = between ++ reference :: before ∧ (∀ commit ∈ between, commit.kind = 7) ∧
      reference.References (giLast genesis commits) := by
  induction history with
  | start => exact absurd idle pending
  | commit history advances valid ih =>
    cases advances with
    | observation e wire now decoded type fresh more =>
      obtain ⟨between, reference, before, split, observations, references⟩ := ih pending
      refine ⟨_ :: between, reference, before, congrArg _ split, ?_,
        ⟨references.kind, references.epoch, references.sequence, references.deadline⟩⟩
      intro commit member
      rcases List.mem_cons.mp member with rfl | older
      · rfl
      · exact observations commit older
    | ack => exact absurd rfl pending
    | reference epoch sequence deadline now idle ineligible more =>
      exact ⟨[], _, _, rfl, by simp, ⟨rfl, rfl, rfl, rfl⟩⟩

theorem GiHistory.report (history : GiHistory genesis commits) (unreported : genesis.hasReport = 0)
    (report : (giLast genesis commits).hasReport ≠ 0) : ∃ commit ∈ commits, commit.kind = 7 := by
  induction history with
  | start => exact absurd unreported report
  | commit history advances valid ih =>
    cases advances with
    | observation => exact ⟨_, List.mem_cons_self, rfl⟩
    | ack =>
      obtain ⟨commit, member, kind⟩ := ih report
      exact ⟨commit, List.mem_cons_of_mem _ member, kind⟩
    | reference =>
      obtain ⟨commit, member, kind⟩ := ih report
      exact ⟨commit, List.mem_cons_of_mem _ member, kind⟩

/-- An ACK of exactly the local observation that the state names. -/
structure GiCommitted.Acknowledges (commit : GiCommitted) (state : GiState) : Prop where
  kind : commit.kind = 8
  named : ∃ e, gseDecode commit.wire = some e ∧ e.type = 8 ∧ getU32Le (e.payload.1.drop 20) = state.localEpoch ∧
    getU32Le (e.payload.1.drop 24) = state.localSequence
  inTime : commit.state.lastTime < state.deadline

theorem giStateOk_eligible {state : GiState} (valid : giStateOk state = true) (eligible : state.eligible ≠ 0) :
    state.lastTime < state.deadline := by
  simp only [giStateOk, Bool.and_eq_true, Bool.or_eq_true, beq_iff_eq, decide_eq_true_eq] at valid
  exact (valid.2.resolve_left eligible).2

/-- Eligibility comes from an ACK in time, after the reference that it names and after an observation. -/
theorem GiHistory.eligible (history : GiHistory genesis commits) (unreported : genesis.hasReport = 0)
    (idle : genesis.pending = 0) (ineligible : genesis.eligible = 0)
    (eligible : (giLast genesis commits).eligible ≠ 0) :
    ∃ ack between reference before, commits = ack :: between ++ reference :: before ∧
      ack.Acknowledges (giLast genesis commits) ∧ reference.References (giLast genesis commits) ∧
      (∀ commit ∈ between, commit.kind = 7) ∧ ∃ commit ∈ between ++ reference :: before, commit.kind = 7 := by
  cases history with
  | start => exact absurd ineligible eligible
  | @commit newest older history advances valid =>
    cases advances with
    | observation => exact absurd rfl eligible
    | ack e wire now decoded type fresh pending report epoch sequence more =>
      have waiting : (giLast genesis older).pending ≠ 0 := by
        rw [pending]
        decide
      have reported : (giLast genesis older).hasReport ≠ 0 := by
        rw [report]
        decide
      obtain ⟨between, reference, before, split, observations, references⟩ := history.pending idle waiting
      have observed := history.report unreported reported
      have inTime := giStateOk_eligible valid (by decide : (1 : U8) ≠ 0)
      refine ⟨_, between, reference, before, congrArg _ split, ⟨rfl, ⟨e, decoded, type, epoch, sequence⟩, inTime⟩,
        ⟨references.kind, references.epoch, references.sequence, references.deadline⟩, observations, ?_⟩
      rwa [← split]
    | reference epoch sequence deadline now idle' ineligible' more => exact absurd ineligible' eligible

end history

end Guardian.NodeLink
