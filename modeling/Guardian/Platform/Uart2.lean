import Guardian.Lib.Word

namespace Guardian.Platform

open Word

def uart2RxCapacity : U16 := 512
def uart2TxCapacity : U16 := 512

def usartSrPe : U32 := 0x01
def usartSrFe : U32 := 0x02
def usartSrNe : U32 := 0x04
def usartSrOre : U32 := 0x08
def usartSrRxne : U32 := 0x20
def usartSrTxe : U32 := 0x80

def usartCr1Re : U32 := 0x04
def usartCr1Te : U32 := 0x08
def usartCr1Rxneie : U32 := 0x20
def usartCr1Txeie : U32 := 0x80
def usartCr1Ue : U32 := 0x2000

structure Uart2Stats where
  parityErrors : U32
  framingErrors : U32
  noiseErrors : U32
  hardwareOverruns : U32
  rxQueueOverruns : U32
  txQueueRejections : U32
  deriving DecidableEq, Repr

/-- What the foreground and the handler share, with the control register. -/
structure Uart2 where
  rxQueue : List U8
  rxHead : U16
  rxTail : U16
  txQueue : List U8
  txHead : U16
  txTail : U16
  stats : Uart2Stats
  cr1 : U32
  deriving DecidableEq, Repr

def uartIncrementU32 (value : U32) : U32 := if value ≠ 0xFFFFFFFF then value + 1 else value

def uartNext (capacity index : U16) : U16 :=
  let index := index + 1
  if index ≥ capacity then 0 else index

def uartRxNext (index : U16) : U16 := uartNext uart2RxCapacity index
def uartTxNext (index : U16) : U16 := uartNext uart2TxCapacity index

def uart2ErrorFree (status : U32) : Bool :=
  status &&& usartSrRxne ≠ 0 && status &&& (usartSrPe ||| usartSrFe ||| usartSrNe ||| usartSrOre) = 0

def Uart2Stats.countErrors (stats : Uart2Stats) (status : U32) : Uart2Stats :=
  { stats with
    parityErrors := if status &&& usartSrPe ≠ 0 then uartIncrementU32 stats.parityErrors else stats.parityErrors
    framingErrors := if status &&& usartSrFe ≠ 0 then uartIncrementU32 stats.framingErrors else stats.framingErrors
    noiseErrors := if status &&& usartSrNe ≠ 0 then uartIncrementU32 stats.noiseErrors else stats.noiseErrors
    hardwareOverruns :=
      if status &&& usartSrOre ≠ 0 then uartIncrementU32 stats.hardwareOverruns else stats.hardwareOverruns }

def Uart2.queueReceived (uart : Uart2) (received : U8) : Uart2 :=
  let next := uartRxNext uart.rxHead
  if next ≠ uart.rxTail then
    { uart with rxQueue := uart.rxQueue.set uart.rxHead.toNat received, rxHead := next }
  else { uart with stats := { uart.stats with rxQueueOverruns := uartIncrementU32 uart.stats.rxQueueOverruns } }

/-- The receive half of the handler. `status` and `received` are read from the port. -/
def Uart2.receive (uart : Uart2) (status : U32) (received : U8) : Uart2 :=
  if status &&& (usartSrRxne ||| usartSrPe ||| usartSrFe ||| usartSrNe ||| usartSrOre) ≠ 0 then
    let counted := { uart with stats := uart.stats.countErrors status }
    if uart2ErrorFree status then counted.queueReceived received else counted
  else uart

/-- The transmit half of the handler, and the byte it writes to the data register. -/
def Uart2.transmit (uart : Uart2) (status : U32) : Uart2 × Option U8 :=
  if uart.cr1 &&& usartCr1Txeie ≠ 0 ∧ status &&& usartSrTxe ≠ 0 then
    if uart.txTail ≠ uart.txHead then
      ({ uart with txTail := uartTxNext uart.txTail }, some (uart.txQueue.getD uart.txTail.toNat 0))
    else ({ uart with cr1 := uart.cr1 &&& ~~~usartCr1Txeie }, none)
  else (uart, none)

def uart2IrqHandler (uart : Uart2) (status : U32) (received : U8) (later : U32) : Uart2 × Option U8 :=
  (uart.receive status received).transmit later

/-- The access that the foreground makes next, with the values it holds. -/
inductive Uart2Phase
  | idle
  | readTail
  | readHead (tail : U16)
  | readQueue (tail : U16)
  | readAdvance (tail : U16) (byte : U8)
  | writeHead (data : List U8)
  | writeTail (data : List U8) (head : U16)
  | writeCopy (data rest : List U8) (head : U16)
  | writeLoadCr1 (data : List U8)
  | writeStoreCr1 (data : List U8) (cr1 : U32)
  | rejectCompare (data : List U8)
  | rejectLoad (data : List U8)
  | rejectStore (data : List U8) (rejections : U32)
  deriving DecidableEq, Repr

/-- The port and its foreground, beside what really happened: the error-free bytes with whether they overran the queue,
the bytes read and transmitted, the writes whose bytes were published, and the writes that have returned. -/
structure Uart2Run where
  uart : Uart2
  phase : Uart2Phase
  received : List (U8 × Bool)
  read : List U8
  transmitted : List U8
  published : List (List U8)
  returned : List (List U8 × Nat)

inductive Uart2Event
  | readByte
  | write (data : List U8)
  | access
  | interrupt (status : U32) (received : U8) (later : U32)
  deriving DecidableEq, Repr

def uart2FreeSlots (head tail : U16) : Nat :=
  if head ≥ tail then uart2TxCapacity.toNat - (head.toNat - tail.toNat) - 1 else tail.toNat - head.toNat - 1

/-- A write begins; what does not reach the queue needs no shared access but the diagnostics. -/
def Uart2Run.beginWrite (run : Uart2Run) (data : List U8) : Uart2Run :=
  if data.length = 0 then { run with returned := run.returned ++ [(data, 0)] }
  else if data.length ≥ uart2TxCapacity.toNat then { run with phase := .rejectCompare data }
  else { run with phase := .writeHead data }

def Uart2Run.finishWrite (run : Uart2Run) (data : List U8) (accepted : Nat) : Uart2Run :=
  { run with phase := .idle, returned := run.returned ++ [(data, accepted)] }

/-- The next access of the foreground, and what it does up to the one after it. -/
def Uart2Run.access (run : Uart2Run) : Option Uart2Run :=
  match run.phase with
  | .idle => none
  | .readTail => some { run with phase := .readHead run.uart.rxTail }
  | .readHead tail =>
    if tail = run.uart.rxHead then some { run with phase := .idle } else some { run with phase := .readQueue tail }
  | .readQueue tail => some { run with phase := .readAdvance tail (run.uart.rxQueue.getD tail.toNat 0) }
  | .readAdvance tail byte =>
    some
      { run with
        uart := { run.uart with rxTail := uartRxNext tail }
        phase := .idle
        read := run.read ++ [byte] }
  | .writeHead data => some { run with phase := .writeTail data run.uart.txHead }
  | .writeTail data head =>
    if uart2FreeSlots head run.uart.txTail < data.length then some { run with phase := .rejectCompare data }
    else some { run with phase := .writeCopy data data head }
  | .writeCopy data (byte :: rest) head =>
    some
      { run with
        uart := { run.uart with txQueue := run.uart.txQueue.set head.toNat byte }
        phase := .writeCopy data rest (uartTxNext head) }
  | .writeCopy data [] head =>
    some
      { run with
        uart := { run.uart with txHead := head }
        phase := .writeLoadCr1 data
        published := run.published ++ [data] }
  | .writeLoadCr1 data => some { run with phase := .writeStoreCr1 data run.uart.cr1 }
  | .writeStoreCr1 data cr1 =>
    some ({ run with uart := { run.uart with cr1 := cr1 ||| usartCr1Txeie } }.finishWrite data data.length)
  | .rejectCompare data =>
    if run.uart.stats.txQueueRejections ≠ 0xFFFFFFFF then some { run with phase := .rejectLoad data }
    else some (run.finishWrite data 0)
  | .rejectLoad data => some { run with phase := .rejectStore data run.uart.stats.txQueueRejections }
  | .rejectStore data rejections =>
    some ({ run with uart := { run.uart with stats := { run.uart.stats with txQueueRejections := rejections + 1 } } }
      |>.finishWrite data 0)

/-- The handler runs between two accesses, or while no call is under way. -/
def Uart2Run.interrupt (run : Uart2Run) (status : U32) (received : U8) (later : U32) : Uart2Run :=
  let handled := uart2IrqHandler run.uart status received later
  let overran : Bool := uartRxNext run.uart.rxHead = run.uart.rxTail
  { run with
    uart := handled.1
    received := if uart2ErrorFree status then run.received ++ [(received, overran)] else run.received
    transmitted := run.transmitted ++ handled.2.toList }

def Uart2Run.step (run : Uart2Run) : Uart2Event → Option Uart2Run
  | .readByte =>
    match run.phase with
    | .idle => some { run with phase := .readTail }
    | _ => none
  | .write data =>
    match run.phase with
    | .idle => some (run.beginWrite data)
    | _ => none
  | .access => run.access
  | .interrupt status received later => some (run.interrupt status received later)

/-- The port after its initialisation, which leaves the cells of the queues and the diagnostics. -/
def uart2Start (rxQueue txQueue : List U8) (stats : Uart2Stats) : Uart2Run where
  uart := ⟨rxQueue, 0, 0, txQueue, 0, 0, stats, usartCr1Re ||| usartCr1Te ||| usartCr1Rxneie ||| usartCr1Ue⟩
  phase := .idle
  received := []
  read := []
  transmitted := []
  published := []
  returned := []

inductive Uart2Reached (stats : Uart2Stats) : Uart2Run → Prop
  | start (rxQueue txQueue : List U8) (rxSized : rxQueue.length = uart2RxCapacity.toNat)
      (txSized : txQueue.length = uart2TxCapacity.toNat) : Uart2Reached stats (uart2Start rxQueue txQueue stats)
  | step {run next : Uart2Run} {event : Uart2Event} (reached : Uart2Reached stats run)
      (steps : run.step event = some next) : Uart2Reached stats next

end Guardian.Platform
