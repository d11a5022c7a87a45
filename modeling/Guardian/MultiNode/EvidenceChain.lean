import Guardian.Lib.Run
import Guardian.MultiNode.SignedEvidence
import Mathlib.Data.List.Chain

namespace Guardian.MultiNode

open Word Guardian.Crypto

/-- One call, with the provider, the lookup and the witness as they are during it. -/
structure EvidenceCall where
  verify : VerifyFunction
  lookup : LookupFunction
  witness : WitnessNode
  envelope : EvidenceEnvelope

structure EvidenceRun where
  context : SignedEvidence
  accepted : List EvidenceEnvelope

def EvidenceCall.outcome (call : EvidenceCall) (context : SignedEvidence) :
    EvidenceResult × EvidenceVerdict × SignedEvidence :=
  evidenceVerifyAndAccept call.verify call.lookup call.witness context call.envelope

def evidenceStep (run : EvidenceRun) (call : EvidenceCall) : EvidenceRun where
  context := (call.outcome run.context).2.2
  accepted := if (call.outcome run.context).1 = .ok then run.accepted ++ [call.envelope] else run.accepted

def evidenceStart : SignedEvidence := { evidenceInit with initialized := true }

theorem evidenceConfigure_ok {context : SignedEvidence} {witness : WitnessNode}
    (configured : (evidenceConfigure context witness).1 = .ok) : (evidenceConfigure context witness).2 = evidenceStart := by
  unfold evidenceConfigure at configured ⊢
  by_cases missing : (!witness.initialized) = true
  · rw [if_pos missing] at configured
    cases configured
  · rw [if_neg missing]
    rfl

def evidenceRun (calls : List EvidenceCall) : EvidenceRun := Run.after evidenceStep calls ⟨evidenceStart, []⟩

theorem evidenceRun_snoc (calls : List EvidenceCall) (call : EvidenceCall) :
    evidenceRun (calls ++ [call]) = evidenceStep (evidenceRun calls) call := Run.after_snoc _ _ _ _

theorem evidenceStep_accepted {run : EvidenceRun} {call : EvidenceCall} (accepted : (call.outcome run.context).1 = .ok) :
    (evidenceStep run call).accepted = run.accepted ++ [call.envelope] := if_pos accepted

def producedBy (key : ProducerKey) (envelopes : List EvidenceEnvelope) : List EvidenceEnvelope :=
  envelopes.filter fun envelope => envelope.core.key = key

/-- Each envelope names the digest of the one before it, and the first one names none. -/
structure EvidenceChain (envelopes : List EvidenceEnvelope) : Prop where
  starts : ∀ first ∈ envelopes.head?, first.core.previousEvidenceDigest = zeroDigest
  linked : envelopes.IsChain fun earlier later => later.core.previousEvidenceDigest = earlier.evidenceDigest

def Precedes (earlier later : EvidenceCore) : Prop :=
  earlier.epoch < later.epoch ∨ earlier.epoch = later.epoch ∧ earlier.sequence < later.sequence

theorem Precedes.trans {first second third : EvidenceCore} (left : Precedes first second)
    (right : Precedes second third) : Precedes first third := by
  unfold Precedes at left right ⊢
  simp only [BitVec.lt_def, ← BitVec.toNat_inj] at left right ⊢
  omega

theorem Precedes.irrefl (core : EvidenceCore) : ¬ Precedes core core := by
  unfold Precedes
  simp only [BitVec.lt_def]
  omega

def ProducerState.head (state : ProducerState) : U32 × U32 × Bytes 32 :=
  (state.acceptedEpoch, state.acceptedSequence, state.lastEvidenceDigest)

def EvidenceEnvelope.head (envelope : EvidenceEnvelope) : U32 × U32 × Bytes 32 :=
  (envelope.core.epoch, envelope.core.sequence, envelope.evidenceDigest)

structure Tracks (context : SignedEvidence) (accepted : List EvidenceEnvelope) : Prop where
  unique : (SlotTable.keys ProducerState.key context.producers.1).Nodup
  count : context.producerCount = (SlotTable.keys ProducerState.key context.producers.1).length
  last : ∀ key, (SlotTable.find ProducerState.key key context.producers.1).map ProducerState.head =
    (producedBy key accepted).getLast?.map EvidenceEnvelope.head
  chain : ∀ key, EvidenceChain (producedBy key accepted)
  ordered : accepted.Pairwise fun earlier later =>
    earlier.core.key = later.core.key → Precedes earlier.core later.core

inductive Continues (context : SignedEvidence) (core : EvidenceCore) (index : Nat) : Prop
  | starts (miss : SlotTable.search ProducerState.key core.key context.producers.1 0 none = (none, some index))
      (zero : core.previousEvidenceDigest = zeroDigest)
  | follows {free : Option Nat} {state : ProducerState}
      (hit : SlotTable.search ProducerState.key core.key context.producers.1 0 none = (some index, free))
      (held : context.producers.1.getD index .empty = state)
      (linked : core.previousEvidenceDigest = state.lastEvidenceDigest)
      (newer : state.acceptedEpoch < core.epoch ∨
        state.acceptedEpoch = core.epoch ∧ state.acceptedSequence < core.sequence)

theorem evidenceChain_cases (context : SignedEvidence) (core : EvidenceCore) (verdict : EvidenceVerdict) :
    (∃ result, result ≠ .ok ∧ (evidenceChain context core verdict).1 = .error result) ∨
      ∃ index, (evidenceChain context core verdict).1 = .ok index ∧ Continues context core index := by
  unfold evidenceChain
  rcases searched : SlotTable.search ProducerState.key core.key context.producers.1 0 none with ⟨_ | found, free⟩
  · cases free with
    | none => exact Or.inl ⟨.trackingTableFull, by decide, rfl⟩
    | some place =>
      dsimp only
      by_cases other : core.previousEvidenceDigest ≠ zeroDigest
      · rw [if_pos other]
        exact Or.inl ⟨.chainMismatch, by decide, rfl⟩
      · rw [if_neg other]
        exact Or.inr ⟨place, rfl, .starts searched (not_not.mp other)⟩
  · dsimp only
    generalize held : context.producers.1.getD found .empty = state
    by_cases other : core.previousEvidenceDigest ≠ state.lastEvidenceDigest
    · rw [if_pos other]
      exact Or.inl ⟨.chainMismatch, by decide, rfl⟩
    rw [if_neg other]
    by_cases old : core.epoch < state.acceptedEpoch ∨
        core.epoch = state.acceptedEpoch ∧ core.sequence ≤ state.acceptedSequence
    · rw [if_pos old]
      exact Or.inl ⟨.replayOrRegression, by decide, rfl⟩
    · rw [if_neg old]
      refine Or.inr ⟨found, rfl, .follows searched held (not_not.mp other) ?_⟩
      simp only [BitVec.lt_def, BitVec.le_def, ← BitVec.toNat_inj] at old ⊢
      omega

theorem EvidenceCall.outcome_cases (call : EvidenceCall) (context : SignedEvidence) :
    ((call.outcome context).1 ≠ .ok ∧ (call.outcome context).2.2 = context) ∨
      ((call.outcome context).1 = .ok ∧ ∃ index, Continues context call.envelope.core index ∧
        (call.outcome context).2.2 = evidenceAccept context call.envelope index) := by
  unfold EvidenceCall.outcome evidenceVerifyAndAccept
  dsimp only
  by_cases missing : (!context.initialized) = true
  · rw [if_pos missing]
    exact Or.inl ⟨nofun, rfl⟩
  rw [if_neg missing]
  generalize evidenceVerify call.verify call.witness call.envelope _ = verified
  obtain ⟨result, verdict⟩ := verified
  by_cases good : result = .ok
  · subst good
    dsimp only
    rcases evidenceAuthorize call.lookup call.envelope.core verdict with ⟨result, verdict⟩
    by_cases good : result = .ok
    · subst good
      dsimp only
      have chained := evidenceChain_cases context call.envelope.core verdict
      generalize evidenceChain context call.envelope.core verdict = outcome at chained ⊢
      obtain ⟨outcome, verdict⟩ := outcome
      rcases chained with ⟨result, failed, rfl⟩ | ⟨index, rfl, continued⟩
      · exact Or.inl ⟨failed, rfl⟩
      · exact Or.inr ⟨rfl, index, continued, rfl⟩
    · left
      cases result with
      | ok => exact absurd rfl good
      | _ => exact ⟨nofun, rfl⟩
  · left
    cases result with
    | ok => exact absurd rfl good
    | _ => exact ⟨nofun, rfl⟩

theorem ProducerState.active_of_key {state : ProducerState} {key : ProducerKey} (held : state.key = some key) :
    state.active = true := by
  unfold ProducerState.key at held
  by_contra inactive
  rw [if_neg inactive] at held
  cases held

theorem ProducerState.inactive_of_key {state : ProducerState} (free : state.key = none) : state.active = false := by
  unfold ProducerState.key at free
  by_contra active
  rw [Bool.not_eq_false] at active
  rw [if_pos active] at free
  cases free

/-- The producer that an envelope continues: none, or one with the epoch, sequence and digest that it follows. -/
theorem Continues.found {context : SignedEvidence} {core : EvidenceCore} {index : Nat}
    (continued : Continues context core index) :
    (SlotTable.find ProducerState.key core.key context.producers.1 = none ∧ core.previousEvidenceDigest = zeroDigest) ∨
      ∃ state, SlotTable.find ProducerState.key core.key context.producers.1 = some state ∧
        core.previousEvidenceDigest = state.lastEvidenceDigest ∧
        (state.acceptedEpoch < core.epoch ∨ state.acceptedEpoch = core.epoch ∧ state.acceptedSequence < core.sequence) := by
  cases continued with
  | starts miss zero => exact Or.inl ⟨SlotTable.find_miss miss, zero⟩
  | follows hit held linked newer =>
    obtain ⟨slot, place, found⟩ := SlotTable.find_hit hit
    rw [List.getD_eq_getElem?_getD, place, Option.getD_some] at held
    subst held
    exact Or.inr ⟨slot, found, linked, newer⟩

theorem evidenceAccept_puts {context : SignedEvidence} {envelope : EvidenceEnvelope} {index : Nat}
    (continued : Continues context envelope.core index) :
    ∃ entry, entry.head = envelope.head ∧
      SlotTable.Puts ProducerState.key envelope.core.key entry context.producers.1
        (evidenceAccept context envelope index).producers.1 ∧
      (evidenceAccept context envelope index).producerCount =
        if envelope.core.key ∈ SlotTable.keys ProducerState.key context.producers.1 then context.producerCount
        else context.producerCount + 1 := by
  refine ⟨evidenceNextState (context.producers.1.getD index .empty) envelope, rfl, ?_⟩
  unfold evidenceAccept
  dsimp only
  cases continued with
  | starts miss zero =>
    obtain ⟨slot, place, free⟩ := SlotTable.free_slot miss
    have inactive := ProducerState.inactive_of_key free
    rw [List.getD_eq_getElem?_getD, place, Option.getD_some, inactive, if_neg (SlotTable.search_miss miss)]
    refine ⟨SlotTable.puts_free miss ?_, rfl⟩
    rw [evidenceNextState, inactive]
    rfl
  | follows hit held linked newer =>
    obtain ⟨slot, place, found⟩ := SlotTable.find_hit hit
    have holds := SlotTable.find_key found
    have active := ProducerState.active_of_key holds
    have member : envelope.core.key ∈ SlotTable.keys ProducerState.key context.producers.1 := by
      rw [SlotTable.mem_keys]
      exact ⟨slot, List.mem_of_getElem? place, holds⟩
    rw [List.getD_eq_getElem?_getD, place, Option.getD_some, active, if_pos member]
    refine ⟨SlotTable.puts_hit hit ?_, rfl⟩
    rw [evidenceNextState, active]
    exact holds

theorem producedBy_snoc (key : ProducerKey) (envelopes : List EvidenceEnvelope) (envelope : EvidenceEnvelope) :
    producedBy key (envelopes ++ [envelope]) =
      if envelope.core.key = key then producedBy key envelopes ++ [envelope] else producedBy key envelopes := by
  by_cases same : envelope.core.key = key
  · rw [if_pos same, producedBy, producedBy, List.filter_append]
    simp only [List.filter_cons, same, decide_true, if_true, List.filter_nil]
  · rw [if_neg same, producedBy, producedBy, List.filter_append]
    simp only [List.filter_cons, same, decide_false, Bool.false_eq_true, if_false, List.filter_nil, List.append_nil]

theorem EvidenceChain.snoc {envelopes : List EvidenceEnvelope} {envelope : EvidenceEnvelope}
    (chain : EvidenceChain envelopes)
    (first : envelopes.getLast? = none → envelope.core.previousEvidenceDigest = zeroDigest)
    (next : ∀ last ∈ envelopes.getLast?, envelope.core.previousEvidenceDigest = last.evidenceDigest) :
    EvidenceChain (envelopes ++ [envelope]) := by
  constructor
  · intro head member
    cases envelopes with
    | nil =>
      cases member
      exact first rfl
    | cons other rest => exact chain.starts head member
  · rw [List.isChain_append]
    refine ⟨chain.linked, List.isChain_singleton _, ?_⟩
    intro last held following member
    cases member
    exact next last held

theorem Tracks.accept {context : SignedEvidence} {accepted : List EvidenceEnvelope} (tracks : Tracks context accepted)
    {envelope : EvidenceEnvelope} {index : Nat} (continued : Continues context envelope.core index) :
    Tracks (evidenceAccept context envelope index) (accepted ++ [envelope]) := by
  obtain ⟨entry, head, puts, count⟩ := evidenceAccept_puts continued
  have last := tracks.last envelope.core.key
  refine ⟨puts.nodup tracks.unique, ?_, ?_, ?_, ?_⟩
  · rw [count]
    rcases puts.held with ⟨member, same⟩ | ⟨absent, perm⟩
    · rw [if_pos member, same, tracks.count]
    · rw [if_neg absent, perm.length_eq, List.length_cons, tracks.count]
  · intro key
    rw [producedBy_snoc]
    by_cases same : envelope.core.key = key
    · rw [if_pos same, ← same, puts.found, List.getLast?_concat, Option.map_some, Option.map_some, head]
    · rw [if_neg same, puts.others key (Ne.symm same), tracks.last]
  · intro key
    rw [producedBy_snoc]
    by_cases same : envelope.core.key = key
    · rw [if_pos same]
      subst same
      apply (tracks.chain _).snoc
      · intro none
        rw [none] at last
        rcases continued.found with ⟨absent, zero⟩ | ⟨state, found, linked, newer⟩
        · exact zero
        · rw [found] at last
          cases last
      · intro previous member
        rw [Option.mem_def] at member
        rw [member] at last
        rcases continued.found with ⟨absent, zero⟩ | ⟨state, found, linked, newer⟩
        · rw [absent] at last
          cases last
        · rw [found] at last
          have heads := Option.some.inj last
          rw [linked]
          exact congrArg (fun head => head.2.2) heads
    · rw [if_neg same]
      exact tracks.chain key
  · rw [List.pairwise_append]
    refine ⟨tracks.ordered, List.pairwise_singleton _ _, ?_⟩
    intro earlier member later single same
    rw [List.mem_singleton] at single
    subst single
    have own : earlier ∈ producedBy later.core.key accepted := List.mem_filter.mpr ⟨member, decide_eq_true same⟩
    obtain ⟨initial, final, split⟩ : ∃ initial final, producedBy later.core.key accepted = initial ++ [final] :=
      ⟨_, _, (List.dropLast_concat_getLast (List.ne_nil_of_mem own)).symm⟩
    have ordered : (producedBy later.core.key accepted).Pairwise fun first second =>
        first.core.key = second.core.key → Precedes first.core second.core := tracks.ordered.filter _
    rw [split, List.getLast?_concat] at last
    rcases continued.found with ⟨absent, zero⟩ | ⟨state, found, linked, newer⟩
    · rw [absent] at last
      cases last
    · rw [found] at last
      have heads := Option.some.inj last
      have epoch : state.acceptedEpoch = final.core.epoch := congrArg Prod.fst heads
      have sequence : state.acceptedSequence = final.core.sequence := congrArg (fun head => head.2.1) heads
      rw [epoch, sequence] at newer
      have final_key : final.core.key = later.core.key := by
        have member : final ∈ producedBy later.core.key accepted := by
          rw [split]
          exact List.mem_append_right _ (List.mem_singleton.mpr rfl)
        exact of_decide_eq_true (List.mem_filter.mp member).2
      rw [split, List.pairwise_append] at ordered
      rw [split, List.mem_append, List.mem_singleton] at own
      rcases own with before | rfl
      · have between := ordered.2.2 earlier before final (List.mem_singleton.mpr rfl) (same.trans final_key.symm)
        exact between.trans newer
      · exact newer

theorem evidenceStart_tracks : Tracks evidenceStart [] := by
  have none : SlotTable.keys ProducerState.key evidenceStart.producers.1 = [] := rfl
  refine ⟨?_, ?_, ?_, ?_, List.Pairwise.nil⟩
  · rw [none]
    exact List.nodup_nil
  · rw [none]
    rfl
  · intro key
    rw [SlotTable.find_none.mpr (by rw [none]; exact List.not_mem_nil)]
    rfl
  · intro key
    constructor
    · intro first member
      cases member
    · exact List.isChain_nil

theorem evidenceRun_tracks (calls : List EvidenceCall) :
    Tracks (evidenceRun calls).context (evidenceRun calls).accepted := by
  have preserved (run : EvidenceRun) (call : EvidenceCall) (tracks : Tracks run.context run.accepted) :
      Tracks (evidenceStep run call).context (evidenceStep run call).accepted := by
    unfold evidenceStep
    dsimp only
    rcases call.outcome_cases run.context with ⟨refused, same⟩ | ⟨accepted, index, continued, stored⟩
    · rw [same, if_neg refused]
      exact tracks
    · rw [stored, if_pos accepted]
      exact tracks.accept continued
  exact @Run.after_invariant EvidenceRun EvidenceCall evidenceStep (fun run => Tracks run.context run.accepted)
    preserved _ evidenceStart_tracks calls

/-- In any run the envelopes accepted of a producer are a chain in increasing order, and none is accepted twice. -/
theorem signed_evidence_chain (calls : List EvidenceCall) :
    (∀ key, EvidenceChain (producedBy key (evidenceRun calls).accepted) ∧
      (producedBy key (evidenceRun calls).accepted).Pairwise fun earlier later => Precedes earlier.core later.core) ∧
    ((evidenceRun calls).accepted.map EvidenceEnvelope.core).Nodup ∧
    (SlotTable.keys ProducerState.key (evidenceRun calls).context.producers.1).Nodup ∧
    (evidenceRun calls).context.producerCount =
      (SlotTable.keys ProducerState.key (evidenceRun calls).context.producers.1).length ∧
    (evidenceRun calls).context.producerCount ≤ evidenceMaxTrackedProducers ∧
    ∀ call : EvidenceCall, (call.outcome (evidenceRun calls).context).1 ≠ .ok →
      (call.outcome (evidenceRun calls).context).2.2 = (evidenceRun calls).context := by
  have tracks := evidenceRun_tracks calls
  refine ⟨?_, ?_, tracks.unique, tracks.count, ?_, ?_⟩
  · intro key
    refine ⟨tracks.chain key, ?_⟩
    have ordered := tracks.ordered.filter fun envelope => decide (envelope.core.key = key)
    apply ordered.imp_of_mem
    intro earlier later first second precedes
    apply precedes
    rw [of_decide_eq_true (List.mem_filter.mp first).2, of_decide_eq_true (List.mem_filter.mp second).2]
  · rw [List.Nodup, List.pairwise_map]
    apply tracks.ordered.imp
    intro earlier later precedes same
    rw [same] at precedes
    exact Precedes.irrefl _ (precedes rfl)
  · rw [tracks.count]
    have bound : (SlotTable.keys ProducerState.key _).length ≤ _ :=
      SlotTable.keys_length_le (evidenceRun calls).context.producers.1
    rw [(evidenceRun calls).context.producers.2] at bound
    exact bound
  · intro call refused
    rcases call.outcome_cases (evidenceRun calls).context with ⟨_, same⟩ | ⟨accepted, _⟩
    · exact same
    · exact absurd accepted refused

end Guardian.MultiNode
