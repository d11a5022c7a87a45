import Guardian.Lib.RingQueue
import Guardian.Lib.Word
import Guardian.Platform.Uart2

namespace Guardian.Platform

open Word RingQueue

def Uart2Run.kept (run : Uart2Run) : List U8 := (run.received.filter fun entry => !entry.2).map Prod.fst

def Uart2Run.overruns (run : Uart2Run) : Nat := (run.received.filter Prod.snd).length

def Uart2Run.accepted (run : Uart2Run) : List (List U8) :=
  (run.returned.filter fun entry => entry.2 ≠ 0).map Prod.fst

/-- The write that has published its bytes and has not returned. -/
def Uart2Phase.publishing : Uart2Phase → List (List U8)
  | .writeLoadCr1 data | .writeStoreCr1 data _ => [data]
  | _ => []

structure Uart2Sound (stats : Uart2Stats) (run : Uart2Run) : Prop where
  whole : ∀ entry ∈ run.returned, entry.2 = 0 ∨ entry.2 = entry.1.length
  published : run.published = run.accepted ++ run.phase.publishing
  transmitted : run.transmitted <+: run.published.flatten
  drained : run.uart.txTail = run.uart.txHead → run.transmitted = run.published.flatten
  alive : run.phase = .idle → run.uart.txTail ≠ run.uart.txHead → run.uart.cr1 &&& usartCr1Txeie ≠ 0
  read : run.read <+: run.kept
  emptied : run.uart.rxTail = run.uart.rxHead → run.read = run.kept
  counted : run.uart.stats.rxQueueOverruns.toNat = min (stats.rxQueueOverruns.toNat + run.overruns) (2 ^ 32 - 1)

section Words

theorem uartNext_toNat {capacity index : U16} (small : capacity.toNat ≤ 2 ^ 15) (within : index.toNat < capacity.toNat) :
    (uartNext capacity index).toNat = next capacity.toNat index.toNat := by
  have raised : (index + 1).toNat = index.toNat + 1 := by bv_omega
  unfold uartNext next
  simp only [ge_iff_le, BitVec.le_def, raised]
  split
  · rfl
  · exact raised

theorem uartNext_mod {index : U16} {count : Nat} (place : index.toNat = count % 512) :
    (uartRxNext index).toNat = (count + 1) % 512 := by
  have within : index.toNat < uart2RxCapacity.toNat := by
    rw [place]
    exact Nat.mod_lt count (by decide)
  rw [uartRxNext, uartNext_toNat (by decide) within, place]
  exact next_mod (by decide) count

theorem uart2FreeSlots_eq (head tail : U16) : uart2FreeSlots head tail = freeSlots 512 head.toNat tail.toNat := rfl

theorem index_eq_iff {left right : U16} : left = right ↔ left.toNat = right.toNat := BitVec.toNat_inj.symm

theorem uartIncrementU32_toNat (value : U32) : (uartIncrementU32 value).toNat = min (value.toNat + 1) (2 ^ 32 - 1) := by
  rw [Nat.min_comm]
  exact saturate_toNat (by decide) value

theorem uart2ErrorFree_flagged {status : U32} (clean : uart2ErrorFree status = true) :
    status &&& (usartSrRxne ||| usartSrPe ||| usartSrFe ||| usartSrNe ||| usartSrOre) ≠ 0 := by
  intro none
  have within : status &&& usartSrRxne =
      status &&& (usartSrRxne ||| usartSrPe ||| usartSrFe ||| usartSrNe ||| usartSrOre) &&& usartSrRxne := by
    rw [BitVec.and_assoc]
    rfl
  simp [uart2ErrorFree, within, none] at clean

theorem txeie_set (cr1 : U32) : (cr1 ||| usartCr1Txeie) &&& usartCr1Txeie ≠ 0 := by
  intro clear
  have bit := congrArg (fun word : U32 => word.getLsbD 7) clear
  simp [usartCr1Txeie] at bit

end Words

section Receiving

def Uart2Run.ReadAt (run : Uart2Run) : Uart2Phase → Prop
  | .readHead tail => tail = run.uart.rxTail
  | .readQueue tail => tail = run.uart.rxTail ∧ run.read.length < run.kept.length
  | .readAdvance tail byte => tail = run.uart.rxTail ∧ run.kept[run.read.length]? = some byte
  | _ => True

structure ReceiveSide (stats : Uart2Stats) (run : Uart2Run) : Prop where
  sized : run.uart.rxQueue.length = 512
  ring : Ring run.uart.rxQueue run.kept run.read.length
  head : run.uart.rxHead.toNat = run.kept.length % 512
  tail : run.uart.rxTail.toNat = run.read.length % 512
  read : run.read <+: run.kept
  counted : run.uart.stats.rxQueueOverruns.toNat = min (stats.rxQueueOverruns.toNat + run.overruns) (2 ^ 32 - 1)
  place : run.ReadAt run.phase

variable {stats : Uart2Stats} {run next : Uart2Run}

theorem ReceiveSide.empty_iff (side : ReceiveSide stats run) :
    run.uart.rxTail = run.uart.rxHead ↔ run.kept.length = run.read.length := by
  rw [index_eq_iff, side.head, side.tail, ← side.sized, ← side.ring.empty_iff]
  exact eq_comm

theorem ReceiveSide.quiet (side : ReceiveSide stats run)
    (queue : next.uart.rxQueue = run.uart.rxQueue ∧ next.uart.rxHead = run.uart.rxHead ∧
      next.uart.rxTail = run.uart.rxTail)
    (counter : next.uart.stats.rxQueueOverruns = run.uart.stats.rxQueueOverruns)
    (history : next.received = run.received ∧ next.read = run.read) (place : next.ReadAt next.phase) :
    ReceiveSide stats next := by
  have kept : next.kept = run.kept := by rw [Uart2Run.kept, history.1, Uart2Run.kept]
  have overruns : next.overruns = run.overruns := by rw [Uart2Run.overruns, history.1, Uart2Run.overruns]
  refine ⟨?_, ?_, ?_, ?_, ?_, ?_, place⟩
  · rw [queue.1]
    exact side.sized
  · rw [queue.1, kept, history.2]
    exact side.ring
  · rw [queue.2.1, kept]
    exact side.head
  · rw [queue.2.2, history.2]
    exact side.tail
  · rw [kept, history.2]
    exact side.read
  · rw [counter, overruns]
    exact side.counted

theorem Uart2Run.ReadAt.grown {phase : Uart2Phase} (place : run.ReadAt phase)
    (tail : next.uart.rxTail = run.uart.rxTail) (read : next.read = run.read) (grown : run.kept <+: next.kept) :
    next.ReadAt phase := by
  obtain ⟨more, kept⟩ := grown
  cases phase with
  | readHead held =>
    rw [Uart2Run.ReadAt, tail]
    exact place
  | readQueue held =>
    obtain ⟨same, waiting⟩ := place
    refine ⟨same.trans tail.symm, ?_⟩
    rw [read, ← kept, List.length_append]
    omega
  | readAdvance held byte =>
    obtain ⟨same, front⟩ := place
    refine ⟨same.trans tail.symm, ?_⟩
    rw [read, ← kept, List.getElem?_append_left (List.getElem?_eq_some_iff.mp front).1]
    exact front
  | _ => trivial

theorem ReceiveSide.received (side : ReceiveSide stats run) {byte : U8}
    (queued : next.uart.rxQueue = (run.uart.queueReceived byte).rxQueue ∧
      next.uart.rxHead = (run.uart.queueReceived byte).rxHead ∧ next.uart.rxTail = run.uart.rxTail ∧
      next.uart.stats.rxQueueOverruns = (run.uart.queueReceived byte).stats.rxQueueOverruns)
    (recorded : next.received = run.received ++ [(byte, decide (uartRxNext run.uart.rxHead = run.uart.rxTail))])
    (same : next.read = run.read ∧ next.phase = run.phase) : ReceiveSide stats next := by
  obtain ⟨queue, head, tail, counter⟩ := queued
  have advanced := uartNext_mod side.head
  have full : uartRxNext run.uart.rxHead = run.uart.rxTail ↔ run.kept.length + 1 = run.read.length + 512 := by
    rw [index_eq_iff, advanced, side.tail, ← side.sized, side.ring.full_iff]
  unfold Uart2.queueReceived at queue head counter
  by_cases overran : uartRxNext run.uart.rxHead = run.uart.rxTail
  · rw [if_neg (not_not.mpr overran)] at queue head counter
    rw [decide_eq_true overran] at recorded
    have kept : next.kept = run.kept := by simp [Uart2Run.kept, recorded]
    have overruns : next.overruns = run.overruns + 1 := by simp [Uart2Run.overruns, recorded]
    refine ⟨?_, ?_, ?_, ?_, ?_, ?_, ?_⟩
    · rw [queue]
      exact side.sized
    · rw [queue, kept, same.1]
      exact side.ring
    · rw [head, kept]
      exact side.head
    · rw [tail, same.1]
      exact side.tail
    · rw [kept, same.1]
      exact side.read
    · rw [counter, overruns, uartIncrementU32_toNat, side.counted]
      omega
    · rw [same.2]
      exact side.place.grown tail same.1 ⟨[], by rw [kept, List.append_nil]⟩
  · rw [if_pos overran] at queue head counter
    rw [decide_eq_false overran] at recorded
    have kept : next.kept = run.kept ++ [byte] := by simp [Uart2Run.kept, recorded]
    have overruns : next.overruns = run.overruns := by simp [Uart2Run.overruns, recorded]
    have near := side.ring.near
    have space : run.kept.length + 1 < run.read.length + run.uart.rxQueue.length := by
      have open_ : ¬ run.kept.length + 1 = run.read.length + 512 := fun same => overran (full.mpr same)
      rw [side.sized] at near ⊢
      omega
    have put := side.ring.put space byte
    refine ⟨?_, ?_, ?_, ?_, ?_, ?_, ?_⟩
    · rw [queue, List.length_set]
      exact side.sized
    · rw [queue, kept, same.1, side.head, ← side.sized]
      exact put
    · rw [head, kept, advanced, List.length_append, List.length_singleton]
    · rw [tail, same.1]
      exact side.tail
    · rw [kept, same.1]
      exact side.read.trans (List.prefix_append _ _)
    · rw [counter, overruns]
      exact side.counted
    · rw [same.2]
      exact side.place.grown tail same.1 (by rw [kept]; exact List.prefix_append _ _)

theorem ReceiveSide.interrupt (side : ReceiveSide stats run) (status : U32) (byte : U8) (later : U32) :
    ReceiveSide stats (run.interrupt status byte later) := by
  have transmitted (uart : Uart2) : (uart.transmit later).1.rxQueue = uart.rxQueue ∧
      (uart.transmit later).1.rxHead = uart.rxHead ∧ (uart.transmit later).1.rxTail = uart.rxTail ∧
      (uart.transmit later).1.stats = uart.stats := by
    unfold Uart2.transmit
    split_ifs <;> exact ⟨rfl, rfl, rfl, rfl⟩
  obtain ⟨queue, head, tail, counters⟩ := transmitted (run.uart.receive status byte)
  have errors (stats : Uart2Stats) : (stats.countErrors status).rxQueueOverruns = stats.rxQueueOverruns := rfl
  cases clean : uart2ErrorFree status with
  | true =>
    have taken : run.uart.receive status byte =
        ({ run.uart with stats := run.uart.stats.countErrors status } : Uart2).queueReceived byte := by
      rw [Uart2.receive, if_pos (uart2ErrorFree_flagged clean), clean, if_pos rfl]
    have recorded : (run.interrupt status byte later).received =
        run.received ++ [(byte, decide (uartRxNext run.uart.rxHead = run.uart.rxTail))] := by
      rw [Uart2Run.interrupt, clean, if_pos rfl]
    apply side.received _ recorded ⟨rfl, rfl⟩
    rw [Uart2Run.interrupt, uart2IrqHandler]
    dsimp only
    rw [queue, head, tail, counters, taken]
    unfold Uart2.queueReceived
    dsimp only
    split <;> exact ⟨rfl, rfl, rfl, rfl⟩
  | false =>
    have kept : (run.uart.receive status byte).rxQueue = run.uart.rxQueue ∧
        (run.uart.receive status byte).rxHead = run.uart.rxHead ∧
        (run.uart.receive status byte).rxTail = run.uart.rxTail ∧
        (run.uart.receive status byte).stats.rxQueueOverruns = run.uart.stats.rxQueueOverruns := by
      unfold Uart2.receive
      simp only [clean, Bool.false_eq_true, if_false]
      split <;> exact ⟨rfl, rfl, rfl, rfl⟩
    have recorded : (run.interrupt status byte later).received = run.received := by
      rw [Uart2Run.interrupt, clean, if_neg Bool.false_ne_true]
    have same : (run.interrupt status byte later).kept = run.kept := by rw [Uart2Run.kept, recorded, Uart2Run.kept]
    refine side.quiet ⟨queue.trans kept.1, head.trans kept.2.1, tail.trans kept.2.2.1⟩ ?_ ⟨recorded, rfl⟩
      (side.place.grown (tail.trans kept.2.2.1) rfl ⟨[], by rw [same, List.append_nil]⟩)
    exact (congrArg Uart2Stats.rxQueueOverruns counters).trans kept.2.2.2

theorem ReceiveSide.access (side : ReceiveSide stats run) (accessed : run.access = some next) :
    ReceiveSide stats next := by
  have place := side.place
  have empty := side.empty_iff
  cases phase : run.phase with
  | idle =>
    rw [Uart2Run.access, phase] at accessed
    cases accessed
  | readTail =>
    rw [Uart2Run.access, phase] at accessed
    cases accessed
    exact side.quiet ⟨rfl, rfl, rfl⟩ rfl ⟨rfl, rfl⟩ rfl
  | readHead tail =>
    rw [phase] at place
    simp only [Uart2Run.access, phase] at accessed
    split at accessed
    · cases accessed
      exact side.quiet ⟨rfl, rfl, rfl⟩ rfl ⟨rfl, rfl⟩ trivial
    · next waiting =>
      cases accessed
      refine side.quiet ⟨rfl, rfl, rfl⟩ rfl ⟨rfl, rfl⟩ ⟨place, ?_⟩
      rw [show tail = run.uart.rxTail from place, empty] at waiting
      have after := side.ring.after
      change run.read.length < run.kept.length
      omega
  | readQueue tail =>
    rw [phase] at place
    simp only [Uart2Run.access, phase] at accessed
    cases accessed
    obtain ⟨same, waiting⟩ := place
    have front := side.ring.front waiting
    rw [side.sized, ← side.tail, ← same] at front
    refine side.quiet ⟨rfl, rfl, rfl⟩ rfl ⟨rfl, rfl⟩ ⟨same, ?_⟩
    change run.kept[run.read.length]? = some (run.uart.rxQueue.getD tail.toNat 0)
    rw [List.getD_eq_getElem?_getD, front, List.getElem?_eq_getElem waiting]
    rfl
  | readAdvance tail byte =>
    rw [phase] at place
    simp only [Uart2Run.access, phase] at accessed
    cases accessed
    obtain ⟨same, front⟩ := place
    have waiting := (List.getElem?_eq_some_iff.mp front).1
    have place : tail.toNat = run.read.length % 512 := by rw [same, side.tail]
    refine ⟨side.sized, ?_, side.head, ?_, start_snoc side.read front, side.counted, trivial⟩
    · change Ring run.uart.rxQueue run.kept (run.read ++ [byte]).length
      rw [List.length_append]
      exact side.ring.take waiting
    · change (uartRxNext tail).toNat = (run.read ++ [byte]).length % 512
      rw [uartNext_mod place, List.length_append, List.length_singleton]
  | writeHead data =>
    simp only [Uart2Run.access, phase] at accessed
    cases accessed
    exact side.quiet ⟨rfl, rfl, rfl⟩ rfl ⟨rfl, rfl⟩ trivial
  | writeTail data head =>
    simp only [Uart2Run.access, phase] at accessed
    split at accessed <;> cases accessed <;> exact side.quiet ⟨rfl, rfl, rfl⟩ rfl ⟨rfl, rfl⟩ trivial
  | writeCopy data rest head =>
    cases rest <;> simp only [Uart2Run.access, phase] at accessed <;> cases accessed <;>
      exact side.quiet ⟨rfl, rfl, rfl⟩ rfl ⟨rfl, rfl⟩ trivial
  | rejectCompare data =>
    simp only [Uart2Run.access, phase] at accessed
    split at accessed <;> cases accessed <;> exact side.quiet ⟨rfl, rfl, rfl⟩ rfl ⟨rfl, rfl⟩ trivial
  | writeLoadCr1 data | writeStoreCr1 data cr1 | rejectLoad data | rejectStore data rejections =>
    simp only [Uart2Run.access, phase] at accessed
    cases accessed
    exact side.quiet ⟨rfl, rfl, rfl⟩ rfl ⟨rfl, rfl⟩ trivial

end Receiving

section Transmitting

/-- The bytes of a write that are in the queue but not yet published. -/
def Uart2Phase.staged : Uart2Phase → List U8
  | .writeCopy data rest _ => data.take (data.length - rest.length)
  | _ => []

def Uart2Run.WriteAt (run : Uart2Run) : Uart2Phase → Prop
  | .writeHead data | .writeLoadCr1 data | .writeStoreCr1 data _ => data.length ≠ 0
  | .writeTail data head => data.length ≠ 0 ∧ head = run.uart.txHead
  | .writeCopy data rest head => data.length ≠ 0 ∧ ∃ copied, data = copied ++ rest ∧
    head.toNat = (run.published.flatten.length + copied.length) % 512 ∧
    run.published.flatten.length + data.length < run.transmitted.length + 512
  | _ => True

structure TransmitSide (run : Uart2Run) : Prop where
  sized : run.uart.txQueue.length = 512
  ring : Ring run.uart.txQueue (run.published.flatten ++ run.phase.staged) run.transmitted.length
  head : run.uart.txHead.toNat = run.published.flatten.length % 512
  tail : run.uart.txTail.toNat = run.transmitted.length % 512
  sent : run.transmitted <+: run.published.flatten
  alive : run.phase.publishing = [] → run.transmitted.length < run.published.flatten.length →
    run.uart.cr1 &&& usartCr1Txeie ≠ 0
  place : run.WriteAt run.phase
  published : run.published = run.accepted ++ run.phase.publishing
  whole : ∀ entry ∈ run.returned, entry.2 = 0 ∨ entry.2 = entry.1.length

variable {run next : Uart2Run}

theorem TransmitSide.near (side : TransmitSide run) :
    run.published.flatten.length < run.transmitted.length + 512 := by
  have near := side.ring.near
  rw [side.sized, List.length_append] at near
  omega

theorem TransmitSide.empty_iff (side : TransmitSide run) :
    run.uart.txTail = run.uart.txHead ↔ run.published.flatten.length = run.transmitted.length := by
  rw [index_eq_iff, side.head, side.tail, ← mod_eq_iff side.sent.length_le side.near]
  exact eq_comm

theorem TransmitSide.quiet (side : TransmitSide run)
    (queue : next.uart.txQueue = run.uart.txQueue ∧ next.uart.txHead = run.uart.txHead ∧
      next.uart.txTail = run.uart.txTail ∧ next.uart.cr1 = run.uart.cr1)
    (history : next.published = run.published ∧ next.transmitted = run.transmitted ∧ next.accepted = run.accepted)
    (whole : ∀ entry ∈ next.returned, entry.2 = 0 ∨ entry.2 = entry.1.length)
    (phase : next.phase.staged = run.phase.staged ∧ next.phase.publishing = run.phase.publishing)
    (place : next.WriteAt next.phase) : TransmitSide next := by
  obtain ⟨cells, head, tail, cr1⟩ := queue
  obtain ⟨published, transmitted, accepted⟩ := history
  refine ⟨?_, ?_, ?_, ?_, ?_, ?_, place, ?_, whole⟩
  · rw [cells]
    exact side.sized
  · rw [cells, published, phase.1, transmitted]
    exact side.ring
  · rw [head, published]
    exact side.head
  · rw [tail, transmitted]
    exact side.tail
  · rw [transmitted, published]
    exact side.sent
  · rw [phase.2, transmitted, published, cr1]
    exact side.alive
  · rw [published, accepted, phase.2]
    exact side.published

theorem Uart2Run.WriteAt.drained {phase : Uart2Phase} (place : run.WriteAt phase)
    (same : next.uart.txHead = run.uart.txHead ∧ next.published = run.published)
    (more : run.transmitted.length ≤ next.transmitted.length) : next.WriteAt phase := by
  cases phase with
  | writeTail data head => exact ⟨place.1, place.2.trans same.1.symm⟩
  | writeCopy data rest head =>
    obtain ⟨some, copied, split, index, room⟩ := place
    refine ⟨some, copied, split, ?_, ?_⟩
    · rw [same.2]
      exact index
    · rw [same.2]
      omega
  | writeHead data | writeLoadCr1 data | writeStoreCr1 data cr1 => exact place
  | _ => trivial

theorem Uart2.queueReceived_transmit (uart : Uart2) (byte : U8) :
    (uart.queueReceived byte).txQueue = uart.txQueue ∧ (uart.queueReceived byte).txHead = uart.txHead ∧
      (uart.queueReceived byte).txTail = uart.txTail ∧ (uart.queueReceived byte).cr1 = uart.cr1 := by
  unfold Uart2.queueReceived
  dsimp only
  split_ifs <;> exact ⟨rfl, rfl, rfl, rfl⟩

theorem Uart2.receive_transmit (uart : Uart2) (status : U32) (byte : U8) :
    (uart.receive status byte).txQueue = uart.txQueue ∧ (uart.receive status byte).txHead = uart.txHead ∧
      (uart.receive status byte).txTail = uart.txTail ∧ (uart.receive status byte).cr1 = uart.cr1 := by
  unfold Uart2.receive
  dsimp only
  split_ifs
  · exact Uart2.queueReceived_transmit _ byte
  · exact ⟨rfl, rfl, rfl, rfl⟩
  · exact ⟨rfl, rfl, rfl, rfl⟩

theorem TransmitSide.interrupt (side : TransmitSide run) (status : U32) (byte : U8) (later : U32) :
    TransmitSide (run.interrupt status byte later) := by
  obtain ⟨cells, head, tail, cr1⟩ := run.uart.receive_transmit status byte
  have waiting := side.empty_iff
  have within := side.sent.length_le
  rw [Uart2Run.interrupt, uart2IrqHandler, Uart2.transmit]
  generalize run.uart.receive status byte = uart at cells head tail cr1 ⊢
  by_cases enabled : uart.cr1 &&& usartCr1Txeie ≠ 0 ∧ later &&& usartSrTxe ≠ 0
  · rw [if_pos enabled]
    by_cases more : uart.txTail ≠ uart.txHead
    · rw [if_pos more]
      rw [tail, head, ne_eq, waiting] at more
      have room : run.transmitted.length < run.published.flatten.length := by omega
      have front : run.published.flatten[run.transmitted.length]? = some (uart.txQueue.getD uart.txTail.toNat 0) := by
        have front := side.ring.front (by rw [List.length_append]; omega)
        rw [List.getElem?_append_left room, side.sized, ← side.tail, ← cells, ← tail] at front
        rw [List.getD_eq_getElem?_getD, front, List.getElem?_eq_getElem room]
        rfl
      have longer : (run.transmitted ++ [uart.txQueue.getD uart.txTail.toNat 0]).length = run.transmitted.length + 1 := by
        rw [List.length_append, List.length_singleton]
      refine ⟨?_, ?_, ?_, ?_, start_snoc side.sent front, ?_, ?_, side.published, side.whole⟩
      · dsimp only
        rw [cells]
        exact side.sized
      · change Ring uart.txQueue _ (run.transmitted ++ [uart.txQueue.getD uart.txTail.toNat 0]).length
        rw [cells, List.length_append]
        exact side.ring.take (by rw [List.length_append]; omega)
      · dsimp only
        rw [head]
        exact side.head
      · change (uartTxNext uart.txTail).toNat = (run.transmitted ++ [uart.txQueue.getD uart.txTail.toNat 0]).length % 512
        rw [longer, tail]
        exact uartNext_mod side.tail
      · intro quiet _
        dsimp only
        rw [cr1]
        exact side.alive quiet room
      · refine side.place.drained ⟨head, rfl⟩ ?_
        change run.transmitted.length ≤ (run.transmitted ++ [uart.txQueue.getD uart.txTail.toNat 0]).length
        omega
    · rw [if_neg more]
      rw [tail, head, not_not, waiting] at more
      refine ⟨?_, ?_, ?_, ?_, ?_, ?_, ?_, side.published, side.whole⟩
      · dsimp only
        rw [cells]
        exact side.sized
      · change Ring uart.txQueue _ (run.transmitted ++ []).length
        rw [cells, List.append_nil]
        exact side.ring
      · dsimp only
        rw [head]
        exact side.head
      · change uart.txTail.toNat = (run.transmitted ++ []).length % 512
        rw [tail, List.append_nil]
        exact side.tail
      · change run.transmitted ++ [] <+: _
        rw [List.append_nil]
        exact side.sent
      · intro _ room
        change (run.transmitted ++ []).length < run.published.flatten.length at room
        rw [List.append_nil] at room
        omega
      · exact side.place.drained ⟨head, rfl⟩ (by simp)
  · rw [if_neg enabled]
    exact side.quiet ⟨cells, head, tail, cr1⟩ ⟨rfl, List.append_nil _, rfl⟩ side.whole ⟨rfl, rfl⟩
      (side.place.drained ⟨head, rfl⟩ (by simp))

theorem Uart2Run.finishWrite_refused (run : Uart2Run) (data : List U8) :
    (run.finishWrite data 0).accepted = run.accepted := by
  simp [Uart2Run.accepted, Uart2Run.finishWrite]

theorem finished_whole {returned : List (List U8 × Nat)} {data : List U8} {accepted : Nat}
    (whole : ∀ entry ∈ returned, entry.2 = 0 ∨ entry.2 = entry.1.length) (last : accepted = 0 ∨ accepted = data.length) :
    ∀ entry ∈ returned ++ [(data, accepted)], entry.2 = 0 ∨ entry.2 = entry.1.length := by
  intro entry member
  rcases List.mem_append.mp member with member | member
  · exact whole entry member
  · rw [List.mem_singleton.mp member]
    exact last

theorem TransmitSide.writeTail (side : TransmitSide run) {data : List U8} {head : U16}
    (phase : run.phase = .writeTail data head) (accessed : run.access = some next) : TransmitSide next := by
  have within := side.sent.length_le
  have near := side.near
  have place := side.place
  rw [phase] at place
  obtain ⟨some, index⟩ := place
  have free : uart2FreeSlots head run.uart.txTail =
      run.transmitted.length + 512 - 1 - run.published.flatten.length := by
    rw [uart2FreeSlots_eq, index, side.head, side.tail, freeSlots_mod within near]
  simp only [Uart2Run.access, phase, free] at accessed
  split at accessed
  · cases accessed
    exact side.quiet ⟨rfl, rfl, rfl, rfl⟩ ⟨rfl, rfl, rfl⟩ side.whole ⟨by rw [phase]; rfl, by rw [phase]; rfl⟩ trivial
  · next room =>
    cases accessed
    refine side.quiet ⟨rfl, rfl, rfl, rfl⟩ ⟨rfl, rfl, rfl⟩ side.whole ⟨?_, by rw [phase]; rfl⟩
      ⟨some, [], rfl, ?_, ?_⟩
    · rw [phase]
      simp [Uart2Phase.staged]
    · rw [index, side.head]
      rfl
    · change run.published.flatten.length + data.length < run.transmitted.length + 512
      omega

/-- The bytes of a write that are in the queue already. -/
theorem staged_take {data copied rest : List U8} (split : data = copied ++ rest) :
    data.take (data.length - rest.length) = copied := by
  rw [split, List.length_append, Nat.add_sub_cancel, List.take_left]

/-- With its last byte in the queue a write is published. -/
theorem TransmitSide.publishHead (side : TransmitSide run) {data : List U8} {head : U16}
    (phase : run.phase = .writeCopy data [] head) (accessed : run.access = some next) : TransmitSide next := by
  have place := side.place
  have published := side.published
  have ring := side.ring
  rw [phase] at place ring
  obtain ⟨some, copied, split, index, room⟩ := place
  rw [Uart2Phase.staged, staged_take split] at ring
  simp only [Uart2Run.access, phase] at accessed
  cases accessed
  rw [List.append_nil] at split
  have flattened : (run.published ++ [data]).flatten = run.published.flatten ++ data := by simp
  refine ⟨side.sized, ?_, ?_, side.tail, ?_, ?_, some, ?_, side.whole⟩
  · change Ring run.uart.txQueue ((run.published ++ [data]).flatten ++ []) run.transmitted.length
    rw [flattened, List.append_nil, split]
    exact ring
  · change head.toNat = (run.published ++ [data]).flatten.length % 512
    rw [flattened, List.length_append, index, split]
  · change run.transmitted <+: (run.published ++ [data]).flatten
    rw [flattened]
    exact side.sent.trans (List.prefix_append _ _)
  · intro none
    cases none
  · change run.published ++ [data] = run.accepted ++ [data]
    rw [published, phase]
    simp [Uart2Phase.publishing]

theorem TransmitSide.copyByte (side : TransmitSide run) {data rest : List U8} {byte : U8} {head : U16}
    (phase : run.phase = .writeCopy data (byte :: rest) head) (accessed : run.access = some next) :
    TransmitSide next := by
  have place := side.place
  have published := side.published
  have ring := side.ring
  have within := side.sent.length_le
  rw [phase] at place ring published
  obtain ⟨some, copied, split, index, room⟩ := place
  rw [Uart2Phase.staged, staged_take split] at ring
  simp only [Uart2Run.access, phase] at accessed
  cases accessed
  have size : data.length = copied.length + (rest.length + 1) := by rw [split, List.length_append, List.length_cons]
  have further : data = copied ++ [byte] ++ rest := by rw [split, List.append_assoc, List.singleton_append]
  have put := ring.put (by rw [List.length_append, side.sized]; omega) byte
  rw [List.length_append, side.sized, ← index, List.append_assoc] at put
  refine ⟨?_, ?_, side.head, side.tail, side.sent, ?_, ⟨some, copied ++ [byte], further, ?_, room⟩, published, side.whole⟩
  · change (run.uart.txQueue.set head.toNat byte).length = 512
    rw [List.length_set]
    exact side.sized
  · change Ring (run.uart.txQueue.set head.toNat byte) (run.published.flatten ++ data.take (data.length - rest.length))
      run.transmitted.length
    rw [staged_take further]
    exact put
  · intro _ waiting
    exact side.alive (by rw [phase]; rfl) waiting
  · change (uartTxNext head).toNat = (run.published.flatten.length + (copied ++ [byte]).length) % 512
    rw [List.length_append, List.length_singleton, ← Nat.add_assoc]
    exact uartNext_mod index

theorem TransmitSide.storeCr1 (side : TransmitSide run) {data : List U8} {cr1 : U32}
    (phase : run.phase = .writeStoreCr1 data cr1) (accessed : run.access = some next) : TransmitSide next := by
  have place := side.place
  have published := side.published
  have ring := side.ring
  rw [phase] at place published ring
  simp only [Uart2Run.access, phase] at accessed
  cases accessed
  refine ⟨side.sized, ring, side.head, side.tail, side.sent, fun _ _ => txeie_set cr1, trivial, ?_,
    finished_whole side.whole (Or.inr rfl)⟩
  rw [Uart2Run.accepted, Uart2Run.finishWrite]
  simpa [Uart2Run.accepted, Uart2Phase.publishing, show data.length ≠ 0 from place] using published

theorem TransmitSide.access (side : TransmitSide run) (accessed : run.access = some next) : TransmitSide next := by
  have place := side.place
  cases phase : run.phase with
  | idle =>
    rw [Uart2Run.access, phase] at accessed
    cases accessed
  | readTail | readQueue tail | readAdvance tail byte =>
    simp only [Uart2Run.access, phase] at accessed
    cases accessed
    exact side.quiet ⟨rfl, rfl, rfl, rfl⟩ ⟨rfl, rfl, rfl⟩ side.whole ⟨by rw [phase]; rfl, by rw [phase]; rfl⟩ trivial
  | readHead tail =>
    simp only [Uart2Run.access, phase] at accessed
    split at accessed <;> cases accessed <;>
      exact side.quiet ⟨rfl, rfl, rfl, rfl⟩ ⟨rfl, rfl, rfl⟩ side.whole ⟨by rw [phase]; rfl, by rw [phase]; rfl⟩ trivial
  | rejectCompare data =>
    simp only [Uart2Run.access, phase] at accessed
    split at accessed <;> cases accessed
    · exact side.quiet ⟨rfl, rfl, rfl, rfl⟩ ⟨rfl, rfl, rfl⟩ side.whole ⟨by rw [phase]; rfl, by rw [phase]; rfl⟩ trivial
    · exact side.quiet ⟨rfl, rfl, rfl, rfl⟩ ⟨rfl, rfl, run.finishWrite_refused data⟩
        (finished_whole side.whole (Or.inl rfl)) ⟨by rw [phase]; rfl, by rw [phase]; rfl⟩ trivial
  | rejectLoad data =>
    simp only [Uart2Run.access, phase] at accessed
    cases accessed
    exact side.quiet ⟨rfl, rfl, rfl, rfl⟩ ⟨rfl, rfl, rfl⟩ side.whole ⟨by rw [phase]; rfl, by rw [phase]; rfl⟩ trivial
  | rejectStore data rejections =>
    simp only [Uart2Run.access, phase] at accessed
    cases accessed
    exact side.quiet ⟨rfl, rfl, rfl, rfl⟩ ⟨rfl, rfl, run.finishWrite_refused data⟩
      (finished_whole side.whole (Or.inl rfl)) ⟨by rw [phase]; rfl, by rw [phase]; rfl⟩ trivial
  | writeHead data =>
    simp only [Uart2Run.access, phase] at accessed
    cases accessed
    rw [phase] at place
    exact side.quiet ⟨rfl, rfl, rfl, rfl⟩ ⟨rfl, rfl, rfl⟩ side.whole ⟨by rw [phase]; rfl, by rw [phase]; rfl⟩
      ⟨place, rfl⟩
  | writeTail data head => exact side.writeTail phase accessed
  | writeCopy data rest head =>
    cases rest with
    | nil => exact side.publishHead phase accessed
    | cons byte rest => exact side.copyByte phase accessed
  | writeLoadCr1 data =>
    rw [phase] at place
    simp only [Uart2Run.access, phase] at accessed
    cases accessed
    exact side.quiet ⟨rfl, rfl, rfl, rfl⟩ ⟨rfl, rfl, rfl⟩ side.whole ⟨by rw [phase]; rfl, by rw [phase]; rfl⟩ place
  | writeStoreCr1 data cr1 => exact side.storeCr1 phase accessed

theorem TransmitSide.beginWrite (side : TransmitSide run) (idle : run.phase = .idle) (data : List U8) :
    TransmitSide (run.beginWrite data) := by
  unfold Uart2Run.beginWrite
  split_ifs with empty long
  · refine side.quiet ⟨rfl, rfl, rfl, rfl⟩ ⟨rfl, rfl, ?_⟩ (finished_whole side.whole (Or.inl rfl)) ⟨rfl, rfl⟩ side.place
    simp [Uart2Run.accepted]
  · exact side.quiet ⟨rfl, rfl, rfl, rfl⟩ ⟨rfl, rfl, rfl⟩ side.whole ⟨by rw [idle]; rfl, by rw [idle]; rfl⟩ trivial
  · exact side.quiet ⟨rfl, rfl, rfl, rfl⟩ ⟨rfl, rfl, rfl⟩ side.whole ⟨by rw [idle]; rfl, by rw [idle]; rfl⟩ empty

end Transmitting

theorem uart2Start_sides {rxQueue txQueue : List U8} {stats : Uart2Stats} (rxSized : rxQueue.length = 512)
    (txSized : txQueue.length = 512) :
    ReceiveSide stats (uart2Start rxQueue txQueue stats) ∧ TransmitSide (uart2Start rxQueue txQueue stats) := by
  have bound := stats.rxQueueOverruns.isLt
  constructor
  · refine ⟨rxSized, Ring.empty (by change 0 < rxQueue.length; omega), rfl, rfl, List.prefix_rfl, ?_, trivial⟩
    change stats.rxQueueOverruns.toNat = min (stats.rxQueueOverruns.toNat + 0) (2 ^ 32 - 1)
    omega
  · exact ⟨txSized, Ring.empty (by change 0 < txQueue.length; omega), rfl, rfl, List.prefix_rfl,
      fun _ none => absurd none (Nat.lt_irrefl 0), trivial, rfl, nofun⟩

theorem Uart2Run.step_sides {stats : Uart2Stats} {run next : Uart2Run} {event : Uart2Event}
    (steps : run.step event = some next) (receiving : ReceiveSide stats run) (transmitting : TransmitSide run) :
    ReceiveSide stats next ∧ TransmitSide next := by
  cases event with
  | readByte =>
    cases phase : run.phase <;> simp only [Uart2Run.step, phase, Option.some.injEq, reduceCtorEq] at steps
    cases steps
    exact ⟨receiving.quiet ⟨rfl, rfl, rfl⟩ rfl ⟨rfl, rfl⟩ trivial,
      transmitting.quiet ⟨rfl, rfl, rfl, rfl⟩ ⟨rfl, rfl, rfl⟩ transmitting.whole
        ⟨by rw [phase]; rfl, by rw [phase]; rfl⟩ trivial⟩
  | write data =>
    cases phase : run.phase <;> simp only [Uart2Run.step, phase, Option.some.injEq, reduceCtorEq] at steps
    cases steps
    refine ⟨?_, transmitting.beginWrite phase data⟩
    unfold Uart2Run.beginWrite
    split_ifs
    · exact receiving.quiet ⟨rfl, rfl, rfl⟩ rfl ⟨rfl, rfl⟩ receiving.place
    · exact receiving.quiet ⟨rfl, rfl, rfl⟩ rfl ⟨rfl, rfl⟩ trivial
    · exact receiving.quiet ⟨rfl, rfl, rfl⟩ rfl ⟨rfl, rfl⟩ trivial
  | access => exact ⟨receiving.access steps, transmitting.access steps⟩
  | interrupt status received later =>
    cases steps
    exact ⟨receiving.interrupt status received later, transmitting.interrupt status received later⟩

/-- Whole writes in order, none stalled, and every byte received without an error read in order or counted. -/
theorem uart2_exact {stats : Uart2Stats} {run : Uart2Run} (reached : Uart2Reached stats run) : Uart2Sound stats run := by
  have sides : ReceiveSide stats run ∧ TransmitSide run := by
    induction reached with
    | start rxQueue txQueue rxSized txSized => exact uart2Start_sides rxSized txSized
    | step _ steps sides => exact Uart2Run.step_sides steps sides.1 sides.2
  obtain ⟨receiving, transmitting⟩ := sides
  refine ⟨transmitting.whole, transmitting.published, transmitting.sent, ?_, ?_, receiving.read, ?_, receiving.counted⟩
  · intro empty
    exact transmitting.sent.eq_of_length (transmitting.empty_iff.mp empty).symm
  · intro idle waiting
    have within := transmitting.sent.length_le
    rw [ne_eq, transmitting.empty_iff] at waiting
    exact transmitting.alive (by rw [idle]; rfl) (by omega)
  · intro empty
    exact receiving.read.eq_of_length (receiving.empty_iff.mp empty).symm

def Uart2Run.steps (run : Uart2Run) (events : List Uart2Event) : Option Uart2Run := events.foldlM Uart2Run.step run

theorem Uart2Reached.steps {stats : Uart2Stats} {run next : Uart2Run} (reached : Uart2Reached stats run)
    {events : List Uart2Event} (stepped : run.steps events = some next) : Uart2Reached stats next := by
  induction events generalizing run with
  | nil =>
    cases stepped
    exact reached
  | cons event events ih =>
    rw [Uart2Run.steps, List.foldlM_cons] at stepped
    obtain ⟨between, first, rest⟩ := Option.bind_eq_some_iff.mp stepped
    exact ih (reached.step first) rest

/-- A write of two bytes, with a byte received in its middle, and the first of the two sent before it returns. -/
def writeInterrupted : List Uart2Event :=
  [.write [0x47, 0x46], .access, .interrupt usartSrRxne 0xA5 0, .access, .access, .access, .access, .access,
    .interrupt 0 0 usartSrTxe, .access, .interrupt 0 0 usartSrTxe, .readByte, .access, .access, .access, .access]

theorem uart2_exact_example : ∃ run, Uart2Reached ⟨0, 0, 0, 0, 0, 0⟩ run ∧ Uart2Sound ⟨0, 0, 0, 0, 0, 0⟩ run ∧
    run.transmitted = [0x47] ∧ run.read = [0xA5] := by
  have started : Uart2Reached ⟨0, 0, 0, 0, 0, 0⟩ (uart2Start (List.replicate 512 0) (List.replicate 512 0) ⟨0, 0, 0, 0, 0, 0⟩) :=
    .start _ _ List.length_replicate List.length_replicate
  obtain ⟨run, stepped⟩ : ∃ run, (uart2Start (List.replicate 512 0) (List.replicate 512 0) ⟨0, 0, 0, 0, 0, 0⟩).steps
    writeInterrupted = some run := ⟨_, rfl⟩
  have reached := started.steps stepped
  refine ⟨run, reached, uart2_exact reached, ?_, ?_⟩
  · have sent : ((uart2Start (List.replicate 512 0) (List.replicate 512 0) ⟨0, 0, 0, 0, 0, 0⟩).steps
      writeInterrupted).map Uart2Run.transmitted = some [0x47] := by decide +kernel
    rw [stepped] at sent
    exact Option.some.inj sent
  · have read : ((uart2Start (List.replicate 512 0) (List.replicate 512 0) ⟨0, 0, 0, 0, 0, 0⟩).steps
      writeInterrupted).map Uart2Run.read = some [0xA5] := by decide +kernel
    rw [stepped] at read
    exact Option.some.inj read

end Guardian.Platform
