import Guardian.Platform.DmaTransfer

namespace Guardian.Platform

open Word Guardian.App Guardian.Acquisition

def acquisitionStatusDmaError : U16 := 0x0040
def dmaFeif0 : U32 := 0x01
def dmaDmeif0 : U32 := 0x04
def dmaTeif0 : U32 := 0x08
def dmaTcif0 : U32 := 0x20
def adcSrOvr : U32 := 0x20

/-- Between which of its accesses the rebuild of the stream is. -/
inductive RebuildPhase
  | disabling
  | disabled
  | configured
  | started
  | acknowledged
  deriving DecidableEq, Repr

/-- The poll is at `rebuild` while it rebuilds the stream, and at `dma.poll` otherwise. -/
structure AcquisitionDriver where
  dma : DmaSystem
  recoveryRequired : U8
  dmaErrors : U32
  adcOverruns : U32
  recoveries : U32
  rebuild : Option RebuildPhase

def dmaStatusError (status : U32) : Bool := status &&& (dmaTeif0 ||| dmaDmeif0 ||| dmaFeif0) ≠ 0

def adcStatusOverrun (status : U32) : Bool := status &&& adcSrOvr ≠ 0

def AcquisitionDriver.dmaIrqHandler (driver : AcquisitionDriver) (status : U32) : AcquisitionDriver :=
  if dmaStatusError status then
    { driver with
      dma :=
        { driver.dma with
          pendingQualityFlags := driver.dma.pendingQualityFlags ||| acquisitionStatusDmaError
          readyMask := 0
          stream := { driver.dma.stream with tcif := driver.dma.stream.tcif && status &&& dmaTcif0 = 0 } }
      dmaErrors := dmaIncrementU32 driver.dmaErrors
      recoveryRequired := 1 }
  else if status &&& dmaTcif0 ≠ 0 then { driver with dma := driver.dma.interrupt }
  else driver

def AcquisitionDriver.adcIrqHandler (driver : AcquisitionDriver) (status : U32) : AcquisitionDriver :=
  if adcStatusOverrun status then
    { driver with
      dma.pendingQualityFlags := driver.dma.pendingQualityFlags ||| acquisitionStatusAdcError
      adcOverruns := dmaIncrementU32 driver.adcOverruns
      recoveryRequired := 1 }
  else driver

/-- The converter and the stream at work, a handler with the status that it reads, or an access of the poll. -/
inductive AcquisitionEvent
  | hardware (stream : DmaStream) (buffers : Bool → List StoredSample)
  | dmaInterrupt (status : U32)
  | adcInterrupt (status : U32)
  | poll
  | disableDma (disabled : Bool)
  | configureDma
  | startTriggers
  | acknowledge
  | countRecovery
  | access (event : DmaEvent)

/-- The accesses of the poll once it does not, or no longer, rebuild. -/
def DmaEvent.InPoll : DmaEvent → Bool
  | .store _ | .interrupt | .start => false
  | .claim _ _ | .checkBefore | .copy | .checkAfter | .drop | .process _ | .requeue => true

def AcquisitionDriver.access (driver : AcquisitionDriver) (event : DmaEvent) : Option AcquisitionDriver :=
  (driver.dma.step event).map fun dma => { driver with dma }

def AcquisitionDriver.step (driver : AcquisitionDriver) : AcquisitionEvent → Option AcquisitionDriver
  | .hardware stream buffers => some { driver with dma := { driver.dma with stream, buffers } }
  | .dmaInterrupt status => some (driver.dmaIrqHandler status)
  | .adcInterrupt status => some (driver.adcIrqHandler status)
  | .poll =>
    match driver.rebuild, driver.dma.poll with
    | none, .idle =>
      if driver.recoveryRequired ≠ 0 then some { driver with rebuild := some .disabling } else driver.access .start
    | _, _ => none
  | .disableDma disabled =>
    match driver.rebuild with
    | some .disabling => some { driver with rebuild := if disabled then some .disabled else none }
    | _ => none
  | .configureDma =>
    match driver.rebuild with
    | some .disabled => some { driver with dma.readyMask := 0, rebuild := some .configured }
    | _ => none
  | .startTriggers =>
    match driver.rebuild with
    | some .configured => some { driver with rebuild := some .started }
    | _ => none
  | .acknowledge =>
    match driver.rebuild with
    | some .started => some { driver with recoveryRequired := 0, rebuild := some .acknowledged }
    | _ => none
  | .countRecovery =>
    match driver.rebuild with
    | some .acknowledged =>
      { driver with recoveries := dmaIncrementU32 driver.recoveries, rebuild := none }.access .start
    | _ => none
  | .access event =>
    match driver.rebuild with
    | none => if event.InPoll then driver.access event else none
    | some _ => none

/-- A handler finds a DMA error or an overrun of the converter. -/
def AcquisitionEvent.Faulty : AcquisitionEvent → Bool
  | .dmaInterrupt status => dmaStatusError status
  | .adcInterrupt status => adcStatusOverrun status
  | _ => false

def AcquisitionDriver.raises (driver : AcquisitionDriver) : AcquisitionEvent → List U16
  | .dmaInterrupt status =>
    if dmaStatusError status then [acquisitionStatusDmaError]
    else if status &&& dmaTcif0 ≠ 0 ∧ (driver.dma.readyMask &&& dmaReady driver.dma.stream.ct ≠ 0 ∨
        driver.dma.readyMask &&& dmaReady (!driver.dma.stream.ct) ≠ 0) then [acquisitionStatusDmaDrop]
    else []
  | .adcInterrupt status => if adcStatusOverrun status then [acquisitionStatusAdcError] else []
  | .access .drop => [acquisitionStatusDmaDrop]
  | .access .requeue => [acquisitionStatusAdcError]
  | _ => []

def AcquisitionDriver.delivers (next : AcquisitionDriver) : AcquisitionEvent → List U16
  | .access (.process _) => if next.dma.poll = .idle then [next.dma.acquisition.latest.statusFlags] else []
  | _ => []

/-- A fault, with what the run had counted when it was handled. -/
structure HandledFault where
  polls : ℕ
  attempted : ℕ
  started : ℕ
  deriving DecidableEq, Repr

/-- The driver beside what really happened: the polls begun, the rebuilds attempted and those whose triggers were
started, the faults handled, the flags raised with the number of blocks delivered before, and the flags of each block
delivered. -/
structure AcquisitionRun where
  driver : AcquisitionDriver
  polls : ℕ
  attempted : ℕ
  started : ℕ
  faults : List HandledFault
  raised : List (U16 × ℕ)
  delivered : List U16

def AcquisitionRun.step (run : AcquisitionRun) (event : AcquisitionEvent) : Option AcquisitionRun :=
  (run.driver.step event).map fun driver =>
    { driver
      polls := match event with
        | .poll => run.polls + 1
        | _ => run.polls
      attempted := match event with
        | .poll => if driver.rebuild.isSome then run.attempted + 1 else run.attempted
        | _ => run.attempted
      started := match event with
        | .startTriggers => run.started + 1
        | _ => run.started
      faults := if event.Faulty then run.faults ++ [⟨run.polls, run.attempted, run.started⟩] else run.faults
      raised := run.raised ++ (run.driver.raises event).map (·, run.delivered.length)
      delivered := run.delivered ++ driver.delivers event }

structure AcquisitionDriver.Initialized (driver : AcquisitionDriver) : Prop where
  rebuild : driver.rebuild = none
  poll : driver.dma.poll = .idle

def acquisitionStart (driver : AcquisitionDriver) : AcquisitionRun := ⟨driver, 0, 0, 0, [], [], []⟩

inductive AcquisitionReached (condition : AcquisitionRun → AcquisitionEvent → Prop) : AcquisitionRun → Prop
  | start {driver : AcquisitionDriver} (initialized : driver.Initialized) :
      AcquisitionReached condition (acquisitionStart driver)
  | step {run next : AcquisitionRun} {event : AcquisitionEvent} (reached : AcquisitionReached condition run)
      (met : condition run event) (steps : run.step event = some next) : AcquisitionReached condition next

end Guardian.Platform
