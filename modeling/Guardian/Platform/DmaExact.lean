import Mathlib.Data.List.Basic
import Guardian.Platform.DmaTransfer

namespace Guardian.Platform

open Word Guardian.App Guardian.Acquisition

/-- How many blocks a ready mask and a place of the poll still hold. -/
def readyCount (mask : U8) : ℕ :=
  (if mask &&& dmaBuffer0Ready ≠ 0 then 1 else 0) + if mask &&& dmaBuffer1Ready ≠ 0 then 1 else 0

def PollPhase.claimedCount : PollPhase → ℕ
  | .claimed _ _ | .copying _ _ _ | .dropping _ | .processing _ _ => 1
  | .idle | .begun | .rejected _ => 0

/-- What the acquisition is for: whole passes, in the order of their completion, each at most once, and none unaccounted
for. -/
structure DmaSound (run : DmaRun) : Prop where
  whole : ∀ (pass : ℕ) (block : List StoredSample), run.passes[pass]? = some block →
    block.length = samplesPerBlock ∧ ∀ sample ∈ block, sample.pass = pass
  handed : run.handed.Sublist run.passes
  completed : run.served < 2 ^ 32 - 1 → run.system.dmaBlocksCompleted.toNat = run.served
  balance : run.served < 2 ^ 32 - 1 → run.system.dmaBlocksCompleted.toNat = run.handed.length +
    run.system.dmaBlocksDropped.toNat + readyCount run.system.readyMask + run.system.poll.claimedCount

/-- No swap comes between a claim made with an interrupt pending and the check of its target. -/
def DmaRun.FreshClaim (run : DmaRun) (event : DmaEvent) : Prop :=
  run.Swaps event → ∀ target aux, run.system.poll = .claimed target aux → run.claimedLate = false

def passTarget (pass : ℕ) : Bool := decide (pass % 2 = 1)

theorem passTarget_succ (pass : ℕ) : passTarget (pass + 1) = !passTarget pass := by
  unfold passTarget
  rw [← decide_not]
  exact decide_eq_decide.mpr (by omega)

def saturated (count : ℕ) : U32 := BitVec.ofNat 32 (min count (2 ^ 32 - 1))

theorem saturated_toNat (count : ℕ) : (saturated count).toNat = min count (2 ^ 32 - 1) := by
  unfold saturated
  rw [BitVec.toNat_ofNat, Nat.mod_eq_of_lt (by omega)]

theorem dmaIncrementU32_saturated (count : ℕ) : dmaIncrementU32 (saturated count) = saturated (count + 1) := by
  have value := saturated_toNat count
  unfold dmaIncrementU32
  by_cases full : saturated count = 0xFFFFFFFF
  · rw [if_neg (not_not.mpr full), full]
    rw [full] at value
    apply BitVec.eq_of_toNat_eq
    rw [saturated_toNat]
    change 4294967295 = _ at value
    change 4294967295 = _
    omega
  · rw [if_pos full]
    have low : min count (2 ^ 32 - 1) ≠ 2 ^ 32 - 1 := fun top =>
      full (BitVec.eq_of_toNat_eq (value.trans top))
    apply BitVec.eq_of_toNat_eq
    rw [BitVec.toNat_add, value, saturated_toNat]
    change (min count (2 ^ 32 - 1) + 1) % 2 ^ 32 = _
    omega

section masks

theorem ready_and_self (target : Bool) : dmaReady target &&& dmaReady target ≠ 0 := by
  cases target <;> decide

theorem ready_and_not (target : Bool) : dmaReady target &&& ~~~ dmaReady target = 0 := by
  cases target <;> decide

theorem readyCount_zero : readyCount 0 = 0 := by decide

theorem readyCount_ready (target : Bool) : readyCount (dmaReady target) = 1 := by
  cases target <;> rfl

end masks

section invariant

structure DmaRun.Streamed (run : DmaRun) : Prop where
  position : run.current.length = run.system.stream.position
  room : run.system.stream.position < samplesPerBlock
  sized : ∀ target, (run.system.buffers target).length = samplesPerBlock
  active : run.system.stream.ct = passTarget run.passes.length
  filling : (run.system.buffers run.system.stream.ct).take run.system.stream.position = run.current
  complete : ∀ (pass : ℕ) (block : List StoredSample), run.passes.length = pass + 1 → run.passes[pass]? = some block →
    run.system.buffers (!run.system.stream.ct) = block
  whole : ∀ (pass : ℕ) (block : List StoredSample), run.passes[pass]? = some block →
    block.length = samplesPerBlock ∧ ∀ sample ∈ block, sample.pass = pass
  tagged : ∀ sample ∈ run.current, sample.pass = run.passes.length

structure DmaRun.Owned (run : DmaRun) (taken : ℕ) : Prop where
  pending : run.passes.length = run.served + if run.system.stream.tcif then 1 else 0
  ready : run.system.readyMask = 0 ∨ ∃ pass, run.served = pass + 1 ∧ taken ≤ pass ∧
    run.system.readyMask = dmaReady (passTarget pass)
  below : taken ≤ run.served

structure DmaRun.Balanced (run : DmaRun) (dropped : ℕ) : Prop where
  completed : run.system.dmaBlocksCompleted = saturated run.served
  lost : run.system.dmaBlocksDropped = saturated dropped
  sum : run.served = run.handed.length + dropped + readyCount run.system.readyMask + run.system.poll.claimedCount

structure DmaRun.Claim (run : DmaRun) (taken pass : ℕ) : Prop where
  taken : taken = pass + 1
  handed : run.handed.Sublist (run.passes.take pass)

def DmaRun.At (run : DmaRun) (taken : ℕ) : PollPhase → Prop
  | .idle | .begun | .rejected _ => run.handed.Sublist (run.passes.take taken)
  | .claimed target _ => ∃ pass, run.Claim taken pass ∧ target = passTarget pass ∧
    (run.passes.length = pass + 1 ∧ run.claimedLate = false ∨
      run.passes.length = pass + 2 ∧ (run.claimedLate = true ∨ run.pollSwaps ≠ 0))
  | .copying target _ copied => ∃ pass block, run.Claim taken pass ∧ target = passTarget pass ∧
    run.passes[pass]? = some block ∧
    (run.passes.length = pass + 1 ∧ copied = block.take copied.length ∨
      run.passes.length = pass + 2 ∧ run.pollSwaps ≠ 0)
  | .dropping _ => ∃ pass, run.Claim taken pass
  | .processing _ copied => ∃ pass, run.Claim taken pass ∧ run.passes[pass]? = some copied

structure DmaRun.Invariant (run : DmaRun) (taken dropped : ℕ) : Prop where
  streamed : run.Streamed
  owned : run.Owned taken
  place : run.At taken run.system.poll
  balanced : run.Balanced dropped

variable {run : DmaRun} {taken dropped : ℕ}

theorem DmaRun.Streamed.held (streamed : run.Streamed) {pass : ℕ} (last : run.passes.length = pass + 1)
    {block : List StoredSample} (whole : run.passes[pass]? = some block) :
    run.system.buffers (passTarget pass) = block := by
  have complete := streamed.complete pass block last whole
  rwa [streamed.active, last, passTarget_succ, Bool.not_not] at complete

theorem DmaRun.Streamed.active_last (streamed : run.Streamed) {pass : ℕ} (last : run.passes.length = pass + 1) :
    run.system.stream.ct = !passTarget pass := by
  rw [streamed.active, last, passTarget_succ]

theorem DmaRun.Streamed.active_earlier (streamed : run.Streamed) {pass : ℕ} (last : run.passes.length = pass + 2) :
    run.system.stream.ct = passTarget pass := by
  rw [streamed.active, last, passTarget_succ, passTarget_succ, Bool.not_not]

theorem take_set_next {cells : List StoredSample} {position : ℕ} (room : position < cells.length)
    (sample : StoredSample) : (cells.set position sample).take (position + 1) = cells.take position ++ [sample] := by
  rw [List.take_add_one, List.take_set_of_le (le_refl position), List.getElem?_set_self room]
  rfl

theorem DmaRun.Streamed.stored (streamed : run.Streamed) (value : U16) : (run.stored value).Streamed := by
  have room : run.system.stream.position < (run.system.buffers run.system.stream.ct).length := by
    rw [streamed.sized]
    exact streamed.room
  have next := take_set_next room ⟨value, run.passes.length⟩
  rw [streamed.filling] at next
  have sized (target : Bool) : (Function.update run.system.buffers run.system.stream.ct
      ((run.system.buffers run.system.stream.ct).set run.system.stream.position ⟨value, run.passes.length⟩) target).length =
      samplesPerBlock := by
    by_cases same : target = run.system.stream.ct
    · rw [same, Function.update_self, List.length_set, streamed.sized]
    · rw [Function.update_of_ne same, streamed.sized]
  have filled : (run.current ++ [(⟨value, run.passes.length⟩ : StoredSample)]).length =
      run.system.stream.position + 1 := by
    rw [List.length_append, streamed.position, List.length_singleton]
  have tagged : ∀ sample ∈ run.current ++ [(⟨value, run.passes.length⟩ : StoredSample)],
      sample.pass = run.passes.length := by
    intro sample member
    rcases List.mem_append.mp member with earlier | last
    · exact streamed.tagged sample earlier
    · rw [List.mem_singleton.mp last]
  unfold DmaRun.stored DmaSystem.store
  by_cases full : run.system.stream.position + 1 = samplesPerBlock
  · rw [if_pos full, if_pos full]
    have whole : Function.update run.system.buffers run.system.stream.ct
        ((run.system.buffers run.system.stream.ct).set run.system.stream.position ⟨value, run.passes.length⟩)
        run.system.stream.ct = run.current ++ [⟨value, run.passes.length⟩] := by
      rw [Function.update_self, ← next, List.take_of_length_le]
      rw [List.length_set, streamed.sized, full]
    exact
      { position := rfl
        room := by
          change 0 < samplesPerBlock
          decide
        sized := sized
        active := by
          change (!run.system.stream.ct) = passTarget (run.passes ++ [_]).length
          rw [List.length_append, List.length_singleton, passTarget_succ, streamed.active]
        filling := rfl
        complete := fun pass block last at' => by
          change (run.passes ++ [_]).length = pass + 1 at last
          rw [List.length_append, List.length_singleton] at last
          obtain rfl : run.passes.length = pass := by omega
          change (run.passes ++ [_])[run.passes.length]? = some block at at'
          rw [List.getElem?_concat_length] at at'
          cases at'
          change Function.update _ _ _ (!(!run.system.stream.ct)) = _
          rw [Bool.not_not]
          exact whole
        whole := fun pass block at' => by
          change (run.passes ++ [_])[pass]? = some block at at'
          by_cases before : pass < run.passes.length
          · rw [List.getElem?_append_left before] at at'
            exact streamed.whole pass block at'
          · rw [List.getElem?_append_right (by omega)] at at'
            obtain rfl : pass = run.passes.length := by
              have inside := List.getElem?_eq_some_iff.mp at'
              obtain ⟨short, -⟩ := inside
              rw [List.length_singleton] at short
              omega
            rw [Nat.sub_self] at at'
            cases at'
            exact ⟨filled.trans full, tagged⟩
        tagged := nofun }
  · rw [if_neg full, if_neg full]
    exact
      { position := filled
        room := by
          have below := streamed.room
          change run.system.stream.position + 1 < samplesPerBlock
          omega
        sized := sized
        active := streamed.active
        filling := by
          change List.take _ (Function.update run.system.buffers _ _ run.system.stream.ct) = _
          rw [Function.update_self, next]
        complete := fun pass block last at' => by
          change Function.update _ _ _ (!run.system.stream.ct) = _
          rw [Function.update_of_ne (by cases run.system.stream.ct <;> decide)]
          exact streamed.complete pass block last at'
        whole := streamed.whole
        tagged := tagged }

theorem DmaRun.stored_passes (run : DmaRun) (value : U16) : ∃ more, (run.stored value).passes = run.passes ++ more := by
  unfold DmaRun.stored
  by_cases full : run.system.stream.position + 1 = samplesPerBlock
  · rw [if_pos full]
    exact ⟨_, rfl⟩
  · rw [if_neg full]
    exact ⟨[], (List.append_nil _).symm⟩

theorem DmaRun.stored_kept (run : DmaRun) (value : U16) :
    (run.stored value).system.readyMask = run.system.readyMask ∧
    (run.stored value).system.dmaBlocksCompleted = run.system.dmaBlocksCompleted ∧
    (run.stored value).system.dmaBlocksDropped = run.system.dmaBlocksDropped ∧
    (run.stored value).system.poll = run.system.poll ∧ (run.stored value).served = run.served ∧
    (run.stored value).handed = run.handed ∧ (run.stored value).claimedLate = run.claimedLate := by
  unfold DmaRun.stored DmaSystem.store
  by_cases full : run.system.stream.position + 1 = samplesPerBlock
  · rw [if_pos full, if_pos full]
    exact ⟨rfl, rfl, rfl, rfl, rfl, rfl, rfl⟩
  · rw [if_neg full, if_neg full]
    exact ⟨rfl, rfl, rfl, rfl, rfl, rfl, rfl⟩

theorem sublist_take_append {handed passes : List (List StoredSample)} {count : ℕ} (below : count ≤ passes.length)
    (more : List (List StoredSample)) (handed' : handed.Sublist (passes.take count)) :
    handed.Sublist ((passes ++ more).take count) := by
  rwa [List.take_append_of_le_length below]

theorem DmaRun.Claim.stored {pass : ℕ} (claim : run.Claim taken pass) (below : taken ≤ run.passes.length) (value : U16) :
    (run.stored value).Claim taken pass := by
  obtain ⟨more, grown⟩ := run.stored_passes value
  obtain ⟨-, -, -, -, -, handed, -⟩ := run.stored_kept value
  refine ⟨claim.taken, ?_⟩
  rw [handed, grown]
  exact sublist_take_append (by rw [claim.taken] at below; omega) more claim.handed

theorem DmaRun.stored_swap (run : DmaRun) (value : U16) :
    run.Swaps (.store value) ∧ (run.stored value).passes.length = run.passes.length + 1 ∧
      (run.stored value).pollSwaps = run.pollSwaps + 1 ∧ (run.stored value).system.stream.tcif = true ∨
    ¬ run.Swaps (.store value) ∧ (run.stored value).passes = run.passes ∧
      (run.stored value).pollSwaps = run.pollSwaps ∧
      (run.stored value).system.stream.tcif = run.system.stream.tcif := by
  unfold DmaRun.Swaps DmaRun.stored DmaSystem.store
  dsimp only
  by_cases full : run.system.stream.position + 1 = samplesPerBlock
  · rw [if_pos full, if_pos full]
    exact .inl ⟨full, by rw [List.length_append, List.length_singleton], rfl, rfl⟩
  · rw [if_neg full, if_neg full]
    exact .inr ⟨full, rfl, rfl, rfl⟩

theorem DmaRun.Owned.stored (owned : run.Owned taken) {value : U16} (orderly : run.Orderly (.store value)) :
    (run.stored value).Owned taken := by
  obtain ⟨mask, -, -, -, served, -, -⟩ := run.stored_kept value
  refine ⟨?_, by rw [mask, served]; exact owned.ready, by rw [served]; exact owned.below⟩
  rw [served]
  have pending := owned.pending
  rcases run.stored_swap value with ⟨swaps, passes, -, flag⟩ | ⟨-, passes, -, flag⟩
  · rw [orderly.served swaps] at pending
    rw [passes, flag, pending]
    rfl
  · rw [passes, flag, pending]

theorem DmaRun.Owned.taken_le (owned : run.Owned taken) : taken ≤ run.passes.length := by
  have pending := owned.pending
  have below := owned.below
  omega

theorem DmaRun.At.stored (owned : run.Owned taken) {value : U16} (orderly : run.Orderly (.store value))
    (fresh : run.FreshClaim (.store value)) (place : run.At taken run.system.poll) :
    (run.stored value).At taken run.system.poll := by
  obtain ⟨more, grown⟩ := run.stored_passes value
  obtain ⟨-, -, -, -, -, handed, late⟩ := run.stored_kept value
  have below := owned.taken_le
  have kept (rest : run.handed.Sublist (run.passes.take taken)) :
      (run.stored value).handed.Sublist ((run.stored value).passes.take taken) := by
    rw [handed, grown]
    exact sublist_take_append below more rest
  have same {pass : ℕ} {block : List StoredSample} (at' : run.passes[pass]? = some block) :
      (run.stored value).passes[pass]? = some block := by
    obtain ⟨inside, -⟩ := List.getElem?_eq_some_iff.mp at'
    rw [grown, List.getElem?_append_left inside, at']
  cases poll : run.system.poll with
  | idle =>
    rw [poll] at place
    exact kept place
  | begun =>
    rw [poll] at place
    exact kept place
  | rejected flags =>
    rw [poll] at place
    exact kept place
  | dropping flags =>
    rw [poll] at place
    obtain ⟨pass, claim⟩ := place
    exact ⟨pass, claim.stored below value⟩
  | processing aux copied =>
    rw [poll] at place
    obtain ⟨pass, claim, at'⟩ := place
    exact ⟨pass, claim.stored below value, same at'⟩
  | claimed target aux =>
    rw [poll] at place
    obtain ⟨pass, claim, targets, since⟩ := place
    refine ⟨pass, claim.stored below value, targets, ?_⟩
    rw [late]
    rcases run.stored_swap value with ⟨swaps, passes, count, -⟩ | ⟨-, passes, count, -⟩
    · have early := fresh swaps target aux poll
      have single := orderly.single swaps (by rw [poll]; nofun)
      rw [passes, count]
      rcases since with ⟨last, -⟩ | ⟨-, other⟩
      · exact .inr ⟨by rw [last], .inr (Nat.succ_ne_zero _)⟩
      · rcases other with isLate | more
        · rw [early] at isLate
          cases isLate
        · exact absurd single more
    · rw [passes, count]
      exact since
  | copying target aux copied =>
    rw [poll] at place
    obtain ⟨pass, block, claim, targets, at', since⟩ := place
    refine ⟨pass, block, claim.stored below value, targets, same at', ?_⟩
    rcases run.stored_swap value with ⟨swaps, passes, count, -⟩ | ⟨-, passes, count, -⟩
    · have single := orderly.single swaps (by rw [poll]; nofun)
      rw [passes, count]
      rcases since with ⟨last, -⟩ | ⟨-, more⟩
      · exact .inr ⟨by rw [last], Nat.succ_ne_zero _⟩
      · exact absurd single more
    · rw [passes, count]
      exact since

theorem DmaRun.Invariant.stored (invariant : run.Invariant taken dropped) {value : U16}
    (orderly : run.Orderly (.store value)) (fresh : run.FreshClaim (.store value)) :
    (run.stored value).Invariant taken dropped := by
  obtain ⟨mask, completed, lost, poll, served, handed, -⟩ := run.stored_kept value
  refine ⟨invariant.streamed.stored value, invariant.owned.stored orderly, ?_, ?_⟩
  · rw [poll]
    exact DmaRun.At.stored invariant.owned orderly fresh invariant.place
  · refine ⟨?_, ?_, ?_⟩
    · rw [completed, served]
      exact invariant.balanced.completed
    · rw [lost]
      exact invariant.balanced.lost
    · rw [served, handed, mask, poll]
      exact invariant.balanced.sum

theorem DmaRun.Streamed.moved (streamed : run.Streamed) {next : DmaRun} (passes : next.passes = run.passes)
    (current : next.current = run.current) (buffers : next.system.buffers = run.system.buffers)
    (ct : next.system.stream.ct = run.system.stream.ct)
    (position : next.system.stream.position = run.system.stream.position) : next.Streamed := by
  exact
    { position := by rw [current, position, streamed.position]
      room := by rw [position]; exact streamed.room
      sized := by rw [buffers]; exact streamed.sized
      active := by rw [ct, passes, streamed.active]
      filling := by rw [buffers, ct, position, current, streamed.filling]
      complete := by rw [passes, buffers, ct]; exact streamed.complete
      whole := by rw [passes]; exact streamed.whole
      tagged := by rw [passes, current]; exact streamed.tagged }

theorem DmaRun.Claim.moved {pass : ℕ} (claim : run.Claim taken pass) {next : DmaRun} (passes : next.passes = run.passes)
    (handed : next.handed = run.handed) : next.Claim taken pass :=
  ⟨claim.taken, by rw [handed, passes]; exact claim.handed⟩

theorem DmaRun.At.moved {phase : PollPhase} (place : run.At taken phase) {next : DmaRun}
    (passes : next.passes = run.passes) (handed : next.handed = run.handed) (late : next.claimedLate = run.claimedLate)
    (swaps : next.pollSwaps = run.pollSwaps) : next.At taken phase := by
  have rest (at' : run.handed.Sublist (run.passes.take taken)) : next.handed.Sublist (next.passes.take taken) := by
    rw [handed, passes]
    exact at'
  cases phase with
  | idle => exact rest place
  | begun => exact rest place
  | rejected flags => exact rest place
  | claimed target aux =>
    obtain ⟨pass, claim, targets, since⟩ := place
    exact ⟨pass, claim.moved passes handed, targets, by rw [passes, late, swaps]; exact since⟩
  | copying target aux copied =>
    obtain ⟨pass, block, claim, targets, at', since⟩ := place
    refine ⟨pass, block, claim.moved passes handed, targets, by rw [passes]; exact at', ?_⟩
    rw [passes, swaps]
    exact since
  | dropping flags =>
    obtain ⟨pass, claim⟩ := place
    exact ⟨pass, claim.moved passes handed⟩
  | processing aux copied =>
    obtain ⟨pass, claim, at'⟩ := place
    exact ⟨pass, claim.moved passes handed, by rw [passes]; exact at'⟩

theorem DmaSystem.interrupt_free {system : DmaSystem} (mask : system.readyMask = 0) :
    system.interrupt = { system with
      readyMask := dmaReady (!system.stream.ct)
      dmaBlocksCompleted := dmaIncrementU32 system.dmaBlocksCompleted
      stream := { system.stream with tcif := false } } := by
  have none (target : Bool) : ¬ (0 : U8) &&& dmaReady target ≠ 0 := by
    cases target <;> decide
  have ready (target : Bool) : (0 : U8) ||| dmaReady target = dmaReady target := by
    cases target <;> rfl
  unfold DmaSystem.interrupt
  dsimp only
  rw [mask, if_neg (none _), mask, if_neg (none _), mask, ready]

/-- A completion while the block of the target that is written next is ready: that block is lost. -/
theorem DmaSystem.interrupt_invalid {system : DmaSystem} (mask : system.readyMask = dmaReady system.stream.ct) :
    system.interrupt = { system.countDrop 0 with
      readyMask := dmaReady (!system.stream.ct)
      dmaBlocksCompleted := dmaIncrementU32 system.dmaBlocksCompleted
      stream := { system.stream with tcif := false } } := by
  have none (target : Bool) : ¬ (0 : U8) &&& dmaReady target ≠ 0 := by
    cases target <;> decide
  have ready (target : Bool) : (0 : U8) ||| dmaReady target = dmaReady target := by
    cases target <;> rfl
  unfold DmaSystem.interrupt DmaSystem.countDrop
  dsimp only
  rw [mask, if_pos (ready_and_self _), ready_and_not]
  dsimp only
  rw [if_neg (none _), ready]

theorem DmaSystem.interrupt_kept (system : DmaSystem) :
    system.interrupt.buffers = system.buffers ∧ system.interrupt.stream = { system.stream with tcif := false } ∧
    system.interrupt.poll = system.poll ∧
    system.interrupt.dmaBlocksCompleted = dmaIncrementU32 system.dmaBlocksCompleted := by
  unfold DmaSystem.interrupt DmaSystem.countDrop
  dsimp only
  split_ifs <;> exact ⟨rfl, rfl, rfl, rfl⟩

theorem DmaRun.Invariant.completion (invariant : run.Invariant taken dropped)
    (pending : run.system.stream.tcif = true) :
    run.system.interrupt.readyMask = dmaReady (passTarget run.served) ∧
      run.system.interrupt.dmaBlocksDropped = saturated (dropped + readyCount run.system.readyMask) := by
  have passes := invariant.owned.pending
  rw [pending, if_pos rfl] at passes
  have active := invariant.streamed.active_last passes
  rcases invariant.owned.ready with none | ⟨pass, served, -, mask⟩
  · rw [DmaSystem.interrupt_free none]
    dsimp only
    rw [active, Bool.not_not, invariant.balanced.lost, none]
    exact ⟨rfl, rfl⟩
  · have same : dmaReady (passTarget pass) = dmaReady run.system.stream.ct := by
      rw [active, served, passTarget_succ, Bool.not_not]
    rw [DmaSystem.interrupt_invalid (mask.trans same)]
    unfold DmaSystem.countDrop
    dsimp only
    rw [active, Bool.not_not, invariant.balanced.lost, mask, readyCount_ready, dmaIncrementU32_saturated]
    exact ⟨rfl, rfl⟩

theorem DmaRun.Invariant.interrupt (invariant : run.Invariant taken dropped) (pending : run.system.stream.tcif = true) :
    ∃ lost, ({ run with system := run.system.interrupt, served := run.served + 1 } : DmaRun).Invariant taken lost := by
  obtain ⟨mask, lost⟩ := invariant.completion pending
  obtain ⟨buffers, stream, poll, completed⟩ := run.system.interrupt_kept
  rw [invariant.balanced.completed, dmaIncrementU32_saturated] at completed
  have passes := invariant.owned.pending
  rw [pending, if_pos rfl] at passes
  refine ⟨dropped + readyCount run.system.readyMask,
    invariant.streamed.moved rfl rfl buffers (by rw [stream]) (by rw [stream]), ?_, ?_, completed, lost, ?_⟩
  · refine ⟨?_, .inr ⟨run.served, rfl, invariant.owned.below, mask⟩, Nat.le_succ_of_le invariant.owned.below⟩
    dsimp only
    rw [stream, passes]
    rfl
  · dsimp only
    rw [poll]
    exact invariant.place.moved rfl rfl rfl rfl
  · have sum := invariant.balanced.sum
    dsimp only
    rw [mask, poll, readyCount_ready, sum]
    omega

theorem DmaSystem.claim_free {system : DmaSystem} (mask : system.readyMask = 0) (rpm : U16) (rpmValid : U8) :
    system.claim rpm rpmValid = { system with poll := .idle } := by
  unfold DmaSystem.claim
  dsimp only
  rw [mask, if_neg (by decide), if_neg (by decide)]

theorem DmaSystem.claim_ready {system : DmaSystem} {target : Bool} (mask : system.readyMask = dmaReady target) (rpm : U16)
    (rpmValid : U8) : ∃ aux, system.claim rpm rpmValid =
      { system with readyMask := 0, pendingQualityFlags := 0, poll := .claimed target aux } := by
  unfold DmaSystem.claim
  dsimp only
  rw [mask]
  cases target with
  | false =>
    rw [if_pos (by decide)]
    exact ⟨_, rfl⟩
  | true =>
    rw [if_neg (by decide), if_pos (by decide)]
    exact ⟨_, rfl⟩

theorem DmaRun.Invariant.claim (invariant : run.Invariant taken dropped) (begun : run.system.poll = .begun) (rpm : U16)
    (rpmValid : U8) : ∃ claimed, ({ run with
      system := run.system.claim rpm rpmValid
      claimedLate := run.system.stream.tcif } : DmaRun).Invariant claimed dropped := by
  have handed := invariant.place
  have sum := invariant.balanced.sum
  rw [begun] at handed sum
  have pending := invariant.owned.pending
  rcases invariant.owned.ready with none | ⟨pass, served, free, mask⟩
  · refine ⟨taken, ?_⟩
    rw [DmaSystem.claim_free none]
    exact ⟨invariant.streamed.moved rfl rfl rfl rfl rfl, ⟨pending, .inl none, invariant.owned.below⟩, handed,
      invariant.balanced.completed, invariant.balanced.lost, sum⟩
  · obtain ⟨aux, claimed⟩ := DmaSystem.claim_ready mask rpm rpmValid
    refine ⟨pass + 1, ?_⟩
    rw [claimed]
    refine ⟨invariant.streamed.moved rfl rfl rfl rfl rfl, ⟨pending, .inl rfl, served.ge⟩, ?_,
      invariant.balanced.completed, invariant.balanced.lost, ?_⟩
    · refine ⟨pass, ⟨rfl, handed.trans (List.take_sublist_take_left free)⟩, rfl, ?_⟩
      dsimp only
      rw [pending, served]
      cases run.system.stream.tcif with
      | false => exact .inl ⟨rfl, rfl⟩
      | true => exact .inr ⟨rfl, .inl rfl⟩
    · rw [mask, readyCount_ready] at sum
      change run.served = run.handed.length + dropped + 1 + 0 at sum
      change run.served = run.handed.length + dropped + readyCount 0 + 1
      rw [readyCount_zero]
      omega

theorem DmaRun.Invariant.checkBefore (invariant : run.Invariant taken dropped) {target : Bool} {aux : AcquisitionAux}
    (claimed : run.system.poll = .claimed target aux) :
    ({ run with system.poll :=
      if run.system.stream.ct = target then .dropping aux.hardwareStatusFlags else .copying target aux [] } :
        DmaRun).Invariant taken dropped := by
  have place := invariant.place
  have sum := invariant.balanced.sum
  rw [claimed] at place sum
  obtain ⟨pass, claim, targets, since⟩ := place
  have streamed : ({ run with system.poll :=
      if run.system.stream.ct = target then .dropping aux.hardwareStatusFlags else .copying target aux [] } :
        DmaRun).Streamed := invariant.streamed.moved rfl rfl rfl rfl rfl
  refine ⟨streamed, ⟨invariant.owned.pending, invariant.owned.ready, invariant.owned.below⟩, ?_,
    invariant.balanced.completed, invariant.balanced.lost, ?_⟩
  · dsimp only
    by_cases again : run.system.stream.ct = target
    · rw [if_pos again]
      exact ⟨pass, claim.moved rfl rfl⟩
    · rw [if_neg again]
      rcases since with ⟨last, -⟩ | ⟨earlier, -⟩
      · have inside : pass < run.passes.length := by omega
        exact ⟨pass, run.passes[pass], claim.moved rfl rfl, targets, List.getElem?_eq_getElem inside,
          .inl ⟨last, rfl⟩⟩
      · exact absurd ((invariant.streamed.active_earlier earlier).trans targets.symm) again
  · dsimp only
    rw [sum]
    split_ifs <;> rfl

theorem DmaRun.Invariant.copy (invariant : run.Invariant taken dropped) {target : Bool} {aux : AcquisitionAux}
    {copied : List StoredSample} (copying : run.system.poll = .copying target aux copied) {sample : StoredSample}
    (at' : (run.system.buffers target)[copied.length]? = some sample) :
    ({ run with system.poll := .copying target aux (copied ++ [sample]) } : DmaRun).Invariant taken dropped := by
  have place := invariant.place
  have sum := invariant.balanced.sum
  rw [copying] at place sum
  obtain ⟨pass, block, claim, targets, whole, since⟩ := place
  have streamed : ({ run with system.poll := .copying target aux (copied ++ [sample]) } : DmaRun).Streamed :=
    invariant.streamed.moved rfl rfl rfl rfl rfl
  refine ⟨streamed, ⟨invariant.owned.pending, invariant.owned.ready, invariant.owned.below⟩, ?_,
    invariant.balanced.completed, invariant.balanced.lost, sum⟩
  refine ⟨pass, block, claim.moved rfl rfl, targets, whole, ?_⟩
  rcases since with ⟨last, far⟩ | earlier
  · rw [targets, invariant.streamed.held last whole] at at'
    refine .inl ⟨last, ?_⟩
    rw [List.length_append, List.length_singleton, List.take_add_one, at', ← far]
    rfl
  · exact .inr earlier

theorem DmaRun.Invariant.checkAfter (invariant : run.Invariant taken dropped) {target : Bool} {aux : AcquisitionAux}
    {copied : List StoredSample} (copying : run.system.poll = .copying target aux copied)
    (full : copied.length = samplesPerBlock) :
    ({ run with system.poll :=
      if run.system.stream.ct = target then .dropping aux.hardwareStatusFlags else .processing aux copied } :
        DmaRun).Invariant taken dropped := by
  have place := invariant.place
  have sum := invariant.balanced.sum
  rw [copying] at place sum
  obtain ⟨pass, block, claim, targets, whole, since⟩ := place
  have streamed : ({ run with system.poll :=
      if run.system.stream.ct = target then .dropping aux.hardwareStatusFlags else .processing aux copied } :
        DmaRun).Streamed := invariant.streamed.moved rfl rfl rfl rfl rfl
  refine ⟨streamed, ⟨invariant.owned.pending, invariant.owned.ready, invariant.owned.below⟩, ?_,
    invariant.balanced.completed, invariant.balanced.lost, ?_⟩
  · dsimp only
    by_cases again : run.system.stream.ct = target
    · rw [if_pos again]
      exact ⟨pass, claim.moved rfl rfl⟩
    · rw [if_neg again]
      rcases since with ⟨-, far⟩ | ⟨earlier, -⟩
      · have length := (invariant.streamed.whole pass block whole).1
        rw [full, ← length, List.take_length] at far
        exact ⟨pass, claim.moved rfl rfl, by rw [far]; exact whole⟩
      · exact absurd ((invariant.streamed.active_earlier earlier).trans targets.symm) again
  · dsimp only
    rw [sum]
    split_ifs <;> rfl

theorem DmaRun.Invariant.drop (invariant : run.Invariant taken dropped) {hardwareFlags : U16}
    (dropping : run.system.poll = .dropping hardwareFlags) :
    ({ run with system := { run.system.countDrop hardwareFlags with poll := .idle } } : DmaRun).Invariant taken
      (dropped + 1) := by
  have place := invariant.place
  have sum := invariant.balanced.sum
  rw [dropping] at place sum
  obtain ⟨pass, claim⟩ := place
  refine ⟨invariant.streamed.moved rfl rfl rfl rfl rfl,
    ⟨invariant.owned.pending, invariant.owned.ready, invariant.owned.below⟩, ?_, invariant.balanced.completed, ?_, ?_⟩
  · have shorter : pass ≤ taken := by
      rw [claim.taken]
      exact Nat.le_succ pass
    exact claim.handed.trans (List.take_sublist_take_left shorter)
  · change dmaIncrementU32 run.system.dmaBlocksDropped = _
    rw [invariant.balanced.lost, dmaIncrementU32_saturated]
  · change run.served = _ + readyCount run.system.readyMask + 1 at sum
    change run.served = run.handed.length + (dropped + 1) + readyCount run.system.readyMask + 0
    omega

theorem DmaRun.Invariant.process (invariant : run.Invariant taken dropped) {aux : AcquisitionAux}
    {copied : List StoredSample} (processing : run.system.poll = .processing aux copied)
    (acquisition : AcquisitionProcessor) (result : AcquisitionResult) :
    ({ run with
      system.acquisition := acquisition
      system.poll := if result = .ok then .idle else .rejected aux.hardwareStatusFlags
      handed := run.handed ++ [copied] } : DmaRun).Invariant taken dropped := by
  have place := invariant.place
  have sum := invariant.balanced.sum
  rw [processing] at place sum
  obtain ⟨pass, claim, whole⟩ := place
  have handed : (run.handed ++ [copied]).Sublist (run.passes.take taken) := by
    rw [claim.taken, List.take_add_one, whole]
    exact claim.handed.append (List.Sublist.refl _)
  refine ⟨invariant.streamed.moved rfl rfl rfl rfl rfl,
    ⟨invariant.owned.pending, invariant.owned.ready, invariant.owned.below⟩, ?_,
    invariant.balanced.completed, invariant.balanced.lost, ?_⟩
  · dsimp only
    split_ifs
    · exact handed
    · exact handed
  · change run.served = run.handed.length + dropped + readyCount run.system.readyMask + 1 at sum
    dsimp only
    rw [List.length_append, List.length_singleton, sum]
    split_ifs
    · change _ = _ + 0
      omega
    · change _ = _ + 0
      omega

theorem DmaRun.Invariant.start (invariant : run.Invariant taken dropped) (idle : run.system.poll = .idle) :
    ({ run with system.poll := .begun, pollSwaps := 0 } : DmaRun).Invariant taken dropped := by
  have handed := invariant.place
  have sum := invariant.balanced.sum
  rw [idle] at handed sum
  exact ⟨invariant.streamed.moved rfl rfl rfl rfl rfl,
    ⟨invariant.owned.pending, invariant.owned.ready, invariant.owned.below⟩, handed,
    invariant.balanced.completed, invariant.balanced.lost, sum⟩

theorem DmaRun.Invariant.requeue (invariant : run.Invariant taken dropped) {hardwareFlags flags : U16}
    (rejected : run.system.poll = .rejected hardwareFlags) :
    ({ run with system.pendingQualityFlags := flags, system.poll := .idle } : DmaRun).Invariant taken dropped := by
  have handed := invariant.place
  have sum := invariant.balanced.sum
  rw [rejected] at handed sum
  exact ⟨invariant.streamed.moved rfl rfl rfl rfl rfl,
    ⟨invariant.owned.pending, invariant.owned.ready, invariant.owned.below⟩, handed,
    invariant.balanced.completed, invariant.balanced.lost, sum⟩

theorem DmaRun.Invariant.step (invariant : run.Invariant taken dropped) {next : DmaRun} {event : DmaEvent}
    (orderly : run.Orderly event) (fresh : run.FreshClaim event) (moves : run.Moves next event) :
    ∃ taken dropped, next.Invariant taken dropped := by
  cases event with
  | store value =>
    obtain rfl : next = run.stored value := moves
    exact ⟨taken, dropped, invariant.stored orderly fresh⟩
  | interrupt =>
    obtain ⟨pending, rfl⟩ := moves
    obtain ⟨lost, kept⟩ := invariant.interrupt pending
    exact ⟨taken, lost, kept⟩
  | start =>
    obtain ⟨idle, rfl⟩ := moves
    exact ⟨taken, dropped, invariant.start idle⟩
  | claim rpm rpmValid =>
    obtain ⟨begun, rfl⟩ := moves
    obtain ⟨claimed, kept⟩ := invariant.claim begun rpm rpmValid
    exact ⟨claimed, dropped, kept⟩
  | checkBefore =>
    obtain ⟨target, aux, claimed, rfl⟩ := moves
    exact ⟨taken, dropped, invariant.checkBefore claimed⟩
  | copy =>
    obtain ⟨target, aux, copied, sample, copying, at', rfl⟩ := moves
    exact ⟨taken, dropped, invariant.copy copying at'⟩
  | checkAfter =>
    obtain ⟨target, aux, copied, copying, full, rfl⟩ := moves
    exact ⟨taken, dropped, invariant.checkAfter copying full⟩
  | drop =>
    obtain ⟨flags, dropping, rfl⟩ := moves
    exact ⟨taken, dropped + 1, invariant.drop dropping⟩
  | process signalBlock =>
    obtain ⟨aux, copied, processing, rfl⟩ := moves
    exact ⟨taken, dropped, invariant.process processing _ _⟩
  | requeue =>
    obtain ⟨flags, rejected, rfl⟩ := moves
    exact ⟨taken, dropped, invariant.requeue rejected⟩

theorem dmaStart_invariant (acquisition : AcquisitionProcessor) (sampleRateHz : U32)
    (buffers : Bool → List StoredSample) (sized : ∀ target, (buffers target).length = samplesPerBlock) :
    (dmaStart acquisition sampleRateHz buffers).Invariant 0 0 := by
  refine ⟨?_, ⟨rfl, .inl rfl, Nat.le_refl 0⟩, List.Sublist.slnil, rfl, rfl, ?_⟩
  · exact
      { position := rfl
        room := by
          change 0 < samplesPerBlock
          decide
        sized := sized
        active := rfl
        filling := rfl
        complete := nofun
        whole := nofun
        tagged := nofun }
  · change 0 = 0 + readyCount 0 + 0
    rw [readyCount_zero]

theorem DmaRun.Invariant.sound (invariant : run.Invariant taken dropped) : DmaSound run := by
  have completed (below : run.served < 2 ^ 32 - 1) : run.system.dmaBlocksCompleted.toNat = run.served := by
    rw [invariant.balanced.completed, saturated_toNat, Nat.min_eq_left (by omega)]
  have handed : run.handed.Sublist run.passes := by
    have place := invariant.place
    have shorter (rest : run.handed.Sublist (run.passes.take taken)) : run.handed.Sublist run.passes :=
      rest.trans (List.take_sublist taken run.passes)
    have claimed {pass : ℕ} (claim : run.Claim taken pass) : run.handed.Sublist run.passes :=
      claim.handed.trans (List.take_sublist pass run.passes)
    cases poll : run.system.poll with
    | idle => rw [poll] at place; exact shorter place
    | begun => rw [poll] at place; exact shorter place
    | rejected flags => rw [poll] at place; exact shorter place
    | claimed target aux => rw [poll] at place; exact claimed place.choose_spec.1
    | copying target aux copied => rw [poll] at place; exact claimed place.choose_spec.choose_spec.1
    | dropping flags => rw [poll] at place; exact claimed place.choose_spec
    | processing aux copied => rw [poll] at place; exact claimed place.choose_spec.1
  refine ⟨invariant.streamed.whole, handed, completed, fun below => ?_⟩
  have sum := invariant.balanced.sum
  rw [completed below, invariant.balanced.lost, saturated_toNat, Nat.min_eq_left (by omega)]
  omega

end invariant

section example_runs

variable {condition : DmaRun → DmaEvent → Prop} {run : DmaRun}

theorem DmaReached.quiet (reached : DmaReached condition run)
    (calm : ∀ (run : DmaRun) (event : DmaEvent), ¬ run.Swaps event → condition run event) (event : DmaEvent)
    (stays : ¬ run.Swaps event) {next : DmaRun} (steps : run.step event = some next) : DmaReached condition next :=
  .step reached ⟨fun swaps => absurd swaps stays, fun swaps => absurd swaps stays⟩ (calm run event stays) steps

/-- The target under way holds `count` samples of one value. -/
def DmaRun.filling (run : DmaRun) (value : U16) (count : ℕ) : DmaRun :=
  let sample : StoredSample := ⟨value, run.passes.length⟩
  { run with
    system.buffers := Function.update run.system.buffers run.system.stream.ct
      (List.replicate count sample ++ (run.system.buffers run.system.stream.ct).drop count)
    system.stream := ⟨run.system.stream.ct, count, run.system.stream.tcif⟩
    current := List.replicate count sample }

def DmaRun.filled (run : DmaRun) (value : U16) : DmaRun :=
  let block := List.replicate samplesPerBlock (⟨value, run.passes.length⟩ : StoredSample)
  { run with
    system.buffers := Function.update run.system.buffers run.system.stream.ct block
    system.stream := ⟨!run.system.stream.ct, 0, true⟩
    passes := run.passes ++ [block]
    current := []
    pollSwaps := run.pollSwaps + 1 }

theorem replicate_append_set {cells : List StoredSample} {count : ℕ} (room : count < cells.length)
    (sample : StoredSample) : (List.replicate count sample ++ cells.drop count).set count sample =
      List.replicate (count + 1) sample ++ cells.drop (count + 1) := by
  have rest := List.drop_eq_getElem_cons room
  rw [List.set_append_right _ _ (by rw [List.length_replicate]), List.length_replicate, Nat.sub_self, rest,
    List.set_cons_zero, List.replicate_succ', List.append_assoc, List.singleton_append]

theorem DmaRun.filling_stored (run : DmaRun) (value : U16) {count : ℕ} (short : count + 1 < samplesPerBlock)
    (sized : (run.system.buffers run.system.stream.ct).length = samplesPerBlock) :
    (run.filling value count).stored value = run.filling value (count + 1) := by
  have more : ¬ count + 1 = samplesPerBlock := by omega
  unfold DmaRun.stored DmaRun.filling DmaSystem.store
  dsimp only
  rw [if_neg more, if_neg more, Function.update_self, Function.update_idem, replicate_append_set (by omega),
    List.replicate_succ']

theorem DmaRun.filling_filled (run : DmaRun) (value : U16) {count : ℕ} (full : count + 1 = samplesPerBlock)
    (sized : (run.system.buffers run.system.stream.ct).length = samplesPerBlock) :
    (run.filling value count).stored value = run.filled value := by
  unfold DmaRun.stored DmaRun.filling DmaRun.filled DmaSystem.store
  dsimp only
  rw [if_pos full, if_pos full, Function.update_self, Function.update_idem, replicate_append_set (by omega), full,
    ← sized, List.drop_length, List.append_nil, sized, ← full, List.replicate_succ']

theorem DmaReached.pass (reached : DmaReached condition run)
    (calm : ∀ (run : DmaRun) (event : DmaEvent), ¬ run.Swaps event → condition run event) (value : U16)
    (empty : run.system.stream.position = 0) (none : run.current = []) (served : run.system.stream.tcif = false)
    (single : run.system.poll ≠ .idle → run.pollSwaps = 0)
    (sized : (run.system.buffers run.system.stream.ct).length = samplesPerBlock)
    (last : ∀ (next : DmaRun) (event : DmaEvent), next.system.poll = run.system.poll →
      next.claimedLate = run.claimedLate → condition next event) : DmaReached condition (run.filled value) := by
  have before (count : ℕ) (short : count < samplesPerBlock) : DmaReached condition (run.filling value count) := by
    induction count with
    | zero =>
      have same : run.filling value 0 = run := by
        obtain ⟨⟨⟨ct, position, tcif⟩, buffers, mask, flags, completed, lost, acquisition, rate, poll⟩, passes, current,
          count, handed, swaps, late⟩ := run
        cases empty
        cases none
        unfold DmaRun.filling
        dsimp only
        rw [List.replicate_zero, List.nil_append, List.drop_zero, Function.update_eq_self]
      rw [same]
      exact reached
    | succ count ih =>
      refine (ih (by omega)).quiet calm (.store value) (fun swaps => ?_) ?_
      · change count + 1 = samplesPerBlock at swaps
        omega
      · exact congrArg some (run.filling_stored value short sized)
  refine .step (before (samplesPerBlock - 1) (by decide))
    ⟨fun _ => served, fun _ => single⟩ (last _ (.store value) rfl rfl) ?_
  exact congrArg some (run.filling_filled value (by decide) sized)

theorem DmaReached.copies (reached : DmaReached condition run)
    (calm : ∀ (run : DmaRun) (event : DmaEvent), ¬ run.Swaps event → condition run event) {target : Bool}
    {aux : AcquisitionAux} (copying : run.system.poll = .copying target aux []) (count : ℕ)
    (short : count ≤ (run.system.buffers target).length) :
    DmaReached condition { run with system.poll := .copying target aux ((run.system.buffers target).take count) } := by
  induction count with
  | zero =>
    rw [List.take_zero, ← copying]
    exact reached
  | succ count ih =>
    refine (ih (by omega)).quiet calm .copy nofun ?_
    have length : ((run.system.buffers target).take count).length = count := by
      rw [List.length_take, Nat.min_eq_left (by omega)]
    have inside : count < (run.system.buffers target).length := by omega
    have sample := List.getElem?_eq_getElem inside
    refine DmaRun.step_iff.mpr ⟨target, aux, _, (run.system.buffers target)[count], rfl, ?_, ?_⟩
    · rw [length]
      exact sample
    · rw [List.take_add_one, sample]
      rfl

theorem DmaReached.snapshot (reached : DmaReached condition run)
    (calm : ∀ (run : DmaRun) (event : DmaEvent), ¬ run.Swaps event → condition run event) {target : Bool}
    {aux : AcquisitionAux} (copying : run.system.poll = .copying target aux [])
    (sized : (run.system.buffers target).length = samplesPerBlock) (other : ¬ run.system.stream.ct = target) :
    DmaReached condition { run with system.poll := .processing aux (run.system.buffers target) } := by
  have copied := reached.copies calm copying samplesPerBlock sized.ge
  rw [← sized, List.take_length] at copied
  refine copied.quiet calm .checkAfter nofun ?_
  refine DmaRun.step_iff.mpr ⟨target, aux, _, rfl, sized, ?_⟩
  dsimp only
  rw [if_neg other]

theorem DmaReached.completes (reached : DmaReached condition run)
    (calm : ∀ (run : DmaRun) (event : DmaEvent), ¬ run.Swaps event → condition run event)
    (pending : run.system.stream.tcif = true) :
    DmaReached condition { run with system := run.system.interrupt, served := run.served + 1 } :=
  reached.quiet calm .interrupt nofun (DmaRun.step_iff.mpr ⟨pending, rfl⟩)

theorem DmaReached.claims (reached : DmaReached condition run)
    (calm : ∀ (run : DmaRun) (event : DmaEvent), ¬ run.Swaps event → condition run event)
    (begun : run.system.poll = .begun) {target : Bool} (mask : run.system.readyMask = dmaReady target) (rpm : U16)
    (rpmValid : U8) : ∃ aux, DmaReached condition { run with
      system.readyMask := 0
      system.pendingQualityFlags := 0
      system.poll := .claimed target aux
      claimedLate := run.system.stream.tcif } := by
  obtain ⟨aux, claimed⟩ := DmaSystem.claim_ready mask rpm rpmValid
  refine ⟨aux, reached.quiet calm (.claim rpm rpmValid) nofun (DmaRun.step_iff.mpr ⟨begun, ?_⟩)⟩
  rw [claimed]

theorem DmaReached.handsOver (reached : DmaReached condition run)
    (calm : ∀ (run : DmaRun) (event : DmaEvent), ¬ run.Swaps event → condition run event) {aux : AcquisitionAux}
    {copied : List StoredSample} (processing : run.system.poll = .processing aux copied) :
    ∃ acquisition flags, DmaReached condition { run with
      system.acquisition := acquisition
      system.pendingQualityFlags := flags
      system.poll := .idle
      handed := run.handed ++ [copied] } := by
  have after := reached.quiet calm (.process none) nofun (DmaRun.step_iff.mpr ⟨aux, copied, processing, rfl⟩)
  dsimp only at after
  revert after
  generalize (acquisitionProcessBlockEx run.system.acquisition (copied.map StoredSample.value) aux
    run.system.sampleRateHz none).value = outcome
  intro after
  by_cases ok : outcome.1 = .ok
  · rw [if_pos ok] at after
    exact ⟨_, _, after⟩
  · rw [if_neg ok] at after
    exact ⟨_, _, after.quiet calm .requeue nofun rfl⟩

end example_runs

/-- Whole blocks, in order, once: in every orderly run where no swap comes between a claim made with an interrupt pending
and the check of its target. -/
theorem dma_exact {run : DmaRun} (reached : DmaReached DmaRun.FreshClaim run) : DmaSound run := by
  have kept : ∃ taken dropped, run.Invariant taken dropped := by
    induction reached with
    | start acquisition sampleRateHz buffers sized =>
      exact ⟨0, 0, dmaStart_invariant acquisition sampleRateHz buffers sized⟩
    | step reached orderly fresh steps before =>
      obtain ⟨taken, dropped, invariant⟩ := before
      exact invariant.step orderly fresh (DmaRun.step_iff.mp steps)
  obtain ⟨taken, dropped, invariant⟩ := kept
  exact invariant.sound

def exampleCalibratedProcessor : AcquisitionProcessor :=
  ⟨⟨1500, 950, 1200, 2048, 8, 10, 2048, 5, 2, 11, 1, 0⟩, ⟨0, 0, 0, 0, 0, 0⟩, 0, ⟨0, 0, 0⟩⟩

def clearedTarget (_ : Bool) : List StoredSample := List.replicate samplesPerBlock ⟨0, 0⟩

theorem clearedTarget_length (target : Bool) : (clearedTarget target).length = samplesPerBlock :=
  List.length_replicate

def constantPass (value : U16) (pass : ℕ) : List StoredSample := List.replicate samplesPerBlock ⟨value, pass⟩

theorem dma_exact_example : ∃ run, DmaReached DmaRun.FreshClaim run ∧ DmaSound run ∧
    run.handed = [constantPass 2048 0] := by
  have calm (run : DmaRun) (event : DmaEvent) (stays : ¬ run.Swaps event) : run.FreshClaim event :=
    fun swaps => absurd swaps stays
  have started : DmaReached DmaRun.FreshClaim (dmaStart exampleCalibratedProcessor 1000 clearedTarget) :=
    .start _ _ _ clearedTarget_length
  have stored := started.pass calm 2048 rfl rfl rfl (fun busy => absurd rfl busy) (clearedTarget_length false)
    (fun next event idle _ _ target aux claimed => by rw [idle] at claimed; cases claimed)
  have served := stored.quiet calm .interrupt nofun rfl
  have begun := served.quiet calm .start nofun rfl
  have claimed := begun.quiet calm (.claim 0 0) nofun rfl
  have checked := claimed.quiet calm .checkBefore nofun rfl
  have copied := checked.snapshot calm rfl List.length_replicate nofun
  obtain ⟨acquisition, flags, reached⟩ := copied.handsOver calm rfl
  exact ⟨_, reached, dma_exact reached, rfl⟩

def thirdTargets : Bool → List StoredSample :=
  Function.update (Function.update (Function.update clearedTarget false (constantPass 2048 0)) true
    (constantPass 2048 1)) false (constantPass 2048 2)

/-- The first pass is claimed, and its target has just been filled again. -/
def staleClaim : DmaRun :=
  ⟨⟨⟨true, 0, true⟩, thirdTargets, dmaBuffer1Ready, 0, 2, 0, exampleCalibratedProcessor, 1000, .claimed false ⟨0, 0, 0⟩⟩,
    [constantPass 2048 0, constantPass 2048 1, constantPass 2048 2], [], 2, [], 1, true⟩

theorem staleClaim_reached : DmaReached (fun _ _ => True) staleClaim := by
  have calm (run : DmaRun) (event : DmaEvent) (_ : ¬ run.Swaps event) : True := trivial
  have started : DmaReached (fun _ _ => True) (dmaStart exampleCalibratedProcessor 1000 clearedTarget) :=
    .start _ _ _ clearedTarget_length
  have first := (started.pass calm 2048 rfl rfl rfl (fun busy => absurd rfl busy) (clearedTarget_length false)
    (fun _ _ _ _ => trivial)).quiet calm .interrupt nofun rfl
  have second := first.pass calm 2048 rfl rfl rfl (fun busy => absurd rfl busy) (clearedTarget_length true)
    (fun _ _ _ _ => trivial)
  have claimed := (second.quiet calm .start nofun rfl).quiet calm (.claim 0 0) nofun rfl
  have served := claimed.quiet calm .interrupt nofun rfl
  exact served.pass calm 2048 rfl rfl rfl (fun _ => rfl) List.length_replicate (fun _ _ _ _ => trivial)

/-- The third pass is handed over under the claim of the first, and again under its own. -/
theorem dma_pass_handed_twice : ∃ run, DmaReached (fun _ _ => True) run ∧
    run.handed = [constantPass 2048 2, constantPass 2048 2] ∧
    run.passes = [constantPass 2048 0, constantPass 2048 1, constantPass 2048 2] ∧ ¬ DmaSound run := by
  have calm (run : DmaRun) (event : DmaEvent) (_ : ¬ run.Swaps event) : True := trivial
  have checked : DmaReached (fun _ _ => True) { staleClaim with system.poll := .copying false ⟨0, 0, 0⟩ [] } :=
    staleClaim_reached.quiet calm .checkBefore nofun rfl
  have stale := checked.snapshot calm rfl List.length_replicate nofun
  obtain ⟨acquisition, flags, once⟩ := stale.handsOver calm rfl
  have ready := once.completes calm rfl
  rw [DmaSystem.interrupt_invalid rfl] at ready
  have begun := ready.quiet calm .start nofun rfl
  obtain ⟨aux, claimed⟩ := begun.claims calm rfl (by rfl : _ = dmaReady false) 0 0
  have fresh := (claimed.quiet calm .checkBefore nofun rfl).snapshot calm rfl List.length_replicate nofun
  obtain ⟨_, _, twice⟩ := fresh.handsOver calm rfl
  refine ⟨_, twice, rfl, rfl, fun sound => ?_⟩
  have ordered : [constantPass 2048 2, constantPass 2048 2].Sublist
    [constantPass 2048 0, constantPass 2048 1, constantPass 2048 2] := sound.handed
  have tags : [2, 2].Sublist [0, 1, 2] := by
    have mapped := ordered.map fun block => (block.headD ⟨0, 0⟩).pass
    exact mapped
  revert tags
  decide

end Guardian.Platform
