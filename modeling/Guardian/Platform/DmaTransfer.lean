import Guardian.Acquisition.Acquisition

namespace Guardian.Platform

open Word Guardian.App Guardian.Acquisition

def samplesPerBlock : ℕ := acquisitionChannelCount * acquisitionFramesPerBlock

def dmaBuffer0Ready : U8 := 0x01
def dmaBuffer1Ready : U8 := 0x02
def acquisitionStatusDmaDrop : U16 := 0x0008
def acquisitionStatusAdcError : U16 := 0x0020

/-- A sample in memory, and the pass of the stream that stored it. -/
structure StoredSample where
  value : U16
  pass : ℕ
  deriving DecidableEq, Repr

/-- Between which of its accesses the poll is. `target` is true for the second buffer. -/
inductive PollPhase
  | idle
  | begun
  | claimed (target : Bool) (aux : AcquisitionAux)
  | copying (target : Bool) (aux : AcquisitionAux) (copied : List StoredSample)
  | dropping (hardwareFlags : U16)
  | processing (aux : AcquisitionAux) (copied : List StoredSample)
  | rejected (hardwareFlags : U16)
  deriving DecidableEq, Repr

/-- The stream: the target it writes, how many samples it has stored there, and its completion flag. -/
structure DmaStream where
  ct : Bool
  position : ℕ
  tcif : Bool
  deriving DecidableEq, Repr

structure DmaSystem where
  stream : DmaStream
  buffers : Bool → List StoredSample
  readyMask : U8
  pendingQualityFlags : U16
  dmaBlocksCompleted : U32
  dmaBlocksDropped : U32
  acquisition : AcquisitionProcessor
  sampleRateHz : U32
  poll : PollPhase

def dmaIncrementU32 (value : U32) : U32 := if value ≠ 0xFFFFFFFF then value + 1 else value

def dmaReady (target : Bool) : U8 := if target then dmaBuffer1Ready else dmaBuffer0Ready

/-- The block of a target is lost, in the interrupt or in a masked section of the poll. -/
def DmaSystem.countDrop (system : DmaSystem) (hardwareFlags : U16) : DmaSystem :=
  { system with
    dmaBlocksDropped := dmaIncrementU32 system.dmaBlocksDropped
    pendingQualityFlags := system.pendingQualityFlags ||| hardwareFlags ||| acquisitionStatusDmaDrop }

/-- The completion branch of the handler, which runs before the next swap. -/
def DmaSystem.interrupt (system : DmaSystem) : DmaSystem :=
  let active := system.stream.ct
  let invalidated := if system.readyMask &&& dmaReady active ≠ 0 then
      { system with readyMask := system.readyMask &&& ~~~ dmaReady active }.countDrop 0
    else system
  let duplicate := if invalidated.readyMask &&& dmaReady (!active) ≠ 0 then invalidated.countDrop 0 else invalidated
  { duplicate with
    readyMask := duplicate.readyMask ||| dmaReady (!active)
    dmaBlocksCompleted := dmaIncrementU32 duplicate.dmaBlocksCompleted
    stream := { duplicate.stream with tcif := false } }

def DmaSystem.claim (system : DmaSystem) (rpm : U16) (rpmValid : U8) : DmaSystem :=
  let aux : AcquisitionAux := ⟨rpm, rpmValid, system.pendingQualityFlags⟩
  if system.readyMask &&& dmaBuffer0Ready ≠ 0 then
    { system with
      readyMask := system.readyMask &&& ~~~ dmaBuffer0Ready
      pendingQualityFlags := 0
      poll := .claimed false aux }
  else if system.readyMask &&& dmaBuffer1Ready ≠ 0 then
    { system with
      readyMask := system.readyMask &&& ~~~ dmaBuffer1Ready
      pendingQualityFlags := 0
      poll := .claimed true aux }
  else { system with poll := .idle }

def DmaSystem.store (system : DmaSystem) (sample : StoredSample) : DmaSystem :=
  let written := Function.update system.buffers system.stream.ct
    ((system.buffers system.stream.ct).set system.stream.position sample)
  if system.stream.position + 1 = samplesPerBlock then
    { system with buffers := written, stream := ⟨!system.stream.ct, 0, true⟩ }
  else { system with buffers := written, stream := { system.stream with position := system.stream.position + 1 } }

/-- A sample of the converter, the handler, or an access of the poll. -/
inductive DmaEvent
  | store (value : U16)
  | interrupt
  | start
  | claim (rpm : U16) (rpmValid : U8)
  | checkBefore
  | copy
  | checkAfter
  | drop
  | process (signalBlock : Option AcquisitionSignalBlock)
  | requeue
  deriving DecidableEq, Repr

def DmaSystem.step (system : DmaSystem) : DmaEvent → Option DmaSystem
  | .store _ => none
  | .interrupt => if system.stream.tcif then some system.interrupt else none
  | .start =>
    match system.poll with
    | .idle => some { system with poll := .begun }
    | _ => none
  | .claim rpm rpmValid =>
    match system.poll with
    | .begun => some (system.claim rpm rpmValid)
    | _ => none
  | .checkBefore =>
    match system.poll with
    | .claimed target aux =>
      if system.stream.ct = target then some { system with poll := .dropping aux.hardwareStatusFlags }
      else some { system with poll := .copying target aux [] }
    | _ => none
  | .copy =>
    match system.poll with
    | .copying target aux copied =>
      match (system.buffers target)[copied.length]? with
      | some sample => some { system with poll := .copying target aux (copied ++ [sample]) }
      | none => none
    | _ => none
  | .checkAfter =>
    match system.poll with
    | .copying target aux copied =>
      if copied.length ≠ samplesPerBlock then none
      else if system.stream.ct = target then some { system with poll := .dropping aux.hardwareStatusFlags }
      else some { system with poll := .processing aux copied }
    | _ => none
  | .drop =>
    match system.poll with
    | .dropping hardwareFlags => some { system.countDrop hardwareFlags with poll := .idle }
    | _ => none
  | .process signalBlock =>
    match system.poll with
    | .processing aux copied =>
      let outcome := (acquisitionProcessBlockEx system.acquisition (copied.map StoredSample.value) aux
        system.sampleRateHz signalBlock).value
      some
        { system with
          acquisition := outcome.2.1
          poll := if outcome.1 = .ok then .idle else .rejected aux.hardwareStatusFlags }
    | _ => none
  | .requeue =>
    match system.poll with
    | .rejected hardwareFlags =>
      some
        { system with
          pendingQualityFlags := system.pendingQualityFlags ||| hardwareFlags ||| acquisitionStatusAdcError
          poll := .idle }
    | _ => none

/-- The system beside what really happened: the whole passes, the one under way, the interrupts served, the blocks handed
to the processor, the swaps within the poll, and whether its claim was made with an interrupt pending. -/
structure DmaRun where
  system : DmaSystem
  passes : List (List StoredSample)
  current : List StoredSample
  served : ℕ
  handed : List (List StoredSample)
  pollSwaps : ℕ
  claimedLate : Bool

def DmaRun.Swaps (run : DmaRun) : DmaEvent → Prop
  | .store _ => run.system.stream.position + 1 = samplesPerBlock
  | _ => False

def DmaRun.stored (run : DmaRun) (value : U16) : DmaRun :=
  let sample : StoredSample := ⟨value, run.passes.length⟩
  if run.system.stream.position + 1 = samplesPerBlock then
    { run with
      system := run.system.store sample
      passes := run.passes ++ [run.current ++ [sample]]
      current := []
      pollSwaps := run.pollSwaps + 1 }
  else { run with system := run.system.store sample, current := run.current ++ [sample] }

def DmaRun.step (run : DmaRun) (event : DmaEvent) : Option DmaRun :=
  match event with
  | .store value => some (run.stored value)
  | _ =>
    (run.system.step event).map fun system =>
      match event, run.system.poll with
      | .interrupt, _ => { run with system, served := run.served + 1 }
      | .start, _ => { run with system, pollSwaps := 0 }
      | .claim _ _, _ => { run with system, claimedLate := run.system.stream.tcif }
      | .process _, .processing _ copied => { run with system, handed := run.handed ++ [copied] }
      | _, _ => { run with system }

/-- What each event does, and in which runs it is possible. -/
def DmaRun.Moves (run next : DmaRun) : DmaEvent → Prop
  | .store value => next = run.stored value
  | .interrupt => run.system.stream.tcif = true ∧
    next = { run with system := run.system.interrupt, served := run.served + 1 }
  | .start => run.system.poll = .idle ∧ next = { run with system.poll := .begun, pollSwaps := 0 }
  | .claim rpm rpmValid => run.system.poll = .begun ∧
    next = { run with system := run.system.claim rpm rpmValid, claimedLate := run.system.stream.tcif }
  | .checkBefore => ∃ target aux, run.system.poll = .claimed target aux ∧ next = { run with
      system.poll := if run.system.stream.ct = target then .dropping aux.hardwareStatusFlags
        else .copying target aux [] }
  | .copy => ∃ target aux copied sample, run.system.poll = .copying target aux copied ∧
    (run.system.buffers target)[copied.length]? = some sample ∧
    next = { run with system.poll := .copying target aux (copied ++ [sample]) }
  | .checkAfter => ∃ target aux copied, run.system.poll = .copying target aux copied ∧
    copied.length = samplesPerBlock ∧ next = { run with
      system.poll := if run.system.stream.ct = target then .dropping aux.hardwareStatusFlags
        else .processing aux copied }
  | .drop => ∃ hardwareFlags, run.system.poll = .dropping hardwareFlags ∧
    next = { run with system := { run.system.countDrop hardwareFlags with poll := .idle } }
  | .process signalBlock => ∃ aux copied, run.system.poll = .processing aux copied ∧
    let outcome := (acquisitionProcessBlockEx run.system.acquisition (copied.map StoredSample.value) aux
      run.system.sampleRateHz signalBlock).value
    next = { run with
      system.acquisition := outcome.2.1
      system.poll := if outcome.1 = .ok then .idle else .rejected aux.hardwareStatusFlags
      handed := run.handed ++ [copied] }
  | .requeue => ∃ hardwareFlags, run.system.poll = .rejected hardwareFlags ∧ next = { run with
      system.pendingQualityFlags := run.system.pendingQualityFlags ||| hardwareFlags ||| acquisitionStatusAdcError
      system.poll := .idle }

theorem DmaRun.step_iff {run next : DmaRun} {event : DmaEvent} :
    run.step event = some next ↔ run.Moves next event := by
  rw [@eq_comm _ (run.step event)]
  unfold DmaRun.Moves DmaRun.step DmaSystem.step
  cases event with
  | store value => simp only [Option.some.injEq]
  | interrupt =>
    by_cases pending : run.system.stream.tcif = true
    · simp only [pending, if_true, Option.map_some, Option.some.injEq, true_and]
    · simp [pending]
  | checkBefore =>
    cases poll : run.system.poll with
    | claimed target aux =>
      by_cases again : run.system.stream.ct = target
      · simp [again]
      · simp [again]
    | _ => simp
  | copy =>
    cases poll : run.system.poll with
    | copying target aux copied =>
      cases sample : (run.system.buffers target)[copied.length]? with
      | none => simp [sample]
      | some stored => simp [sample]
    | _ => simp
  | checkAfter =>
    cases poll : run.system.poll with
    | copying target aux copied =>
      by_cases full : copied.length = samplesPerBlock
      · by_cases again : run.system.stream.ct = target
        · simp [full, again]
        · simp [full, again]
      · simp [full]
    | _ => simp
  | _ => cases poll : run.system.poll <;> simp

def dmaStart (acquisition : AcquisitionProcessor) (sampleRateHz : U32) (buffers : Bool → List StoredSample) : DmaRun where
  system :=
    { stream := ⟨false, 0, false⟩
      buffers
      readyMask := 0
      pendingQualityFlags := 0
      dmaBlocksCompleted := 0
      dmaBlocksDropped := 0
      acquisition
      sampleRateHz
      poll := .idle }
  passes := []
  current := []
  served := 0
  handed := []
  pollSwaps := 0
  claimedLate := false

/-- Each interrupt is served before the next swap, and at most one swap falls within one poll. -/
structure DmaRun.Orderly (run : DmaRun) (event : DmaEvent) : Prop where
  served : run.Swaps event → run.system.stream.tcif = false
  single : run.Swaps event → run.system.poll ≠ .idle → run.pollSwaps = 0

/-- Orderly runs from the start whose steps meet a further condition. -/
inductive DmaReached (condition : DmaRun → DmaEvent → Prop) : DmaRun → Prop
  | start (acquisition : AcquisitionProcessor) (sampleRateHz : U32) (buffers : Bool → List StoredSample)
      (sized : ∀ target, (buffers target).length = samplesPerBlock) :
      DmaReached condition (dmaStart acquisition sampleRateHz buffers)
  | step {run next : DmaRun} {event : DmaEvent} (reached : DmaReached condition run) (orderly : run.Orderly event)
      (met : condition run event) (steps : run.step event = some next) : DmaReached condition next

end Guardian.Platform
