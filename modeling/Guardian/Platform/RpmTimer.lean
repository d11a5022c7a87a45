import Guardian.Lib.Word

namespace Guardian.Platform

open Word

def rpmReferenceHz : U32 := 10000
def rpmStaleMs : U32 := 2000

/-- `guardian_stm32f401_configure_rpm_timer`: the counter rate, where the clock allows one. -/
def configureRpmTimer (timerHz : U32) : Option U32 :=
  if timerHz = 0 then none
  else
    let divisor := (timerHz + rpmReferenceHz / 2) / rpmReferenceHz
    if divisor = 0 ∨ divisor > 65536 then none else some (timerHz / divisor)

structure RpmConfig where
  timerHz : U32
  pulsesPerRevolution : U16
  configured : ∃ clockHz, configureRpmTimer clockHz = some timerHz
  pulses : pulsesPerRevolution ≠ 0

/-- `UIF`, `CC1IF` and `CC1OF`. -/
structure Tim3Status where
  update : Bool
  capture : Bool
  overcapture : Bool
  deriving DecidableEq, Repr

structure Tim3 where
  cnt : U16
  sr : Tim3Status
  ccr1 : U16
  deriving DecidableEq, Repr

structure RpmMeasurement where
  overflowCount : U32
  lastTimestamp : U32
  hasCapture : U8
  rpm : U16
  ageMs : U32
  valid : U8
  edges : U32
  deriving DecidableEq, Repr

inductive RpmHandler
  | idle
  | entered (status : Tim3Status) (overflowSnapshot : U32)
  | serviced (status : Tim3Status) (published : Option U16)
  | clearing (status : Tim3Status) (published : Option U16)
  deriving DecidableEq, Repr

structure RpmSystem where
  timer : Tim3
  measurement : RpmMeasurement
  handler : RpmHandler
  deriving DecidableEq, Repr

def rpmIncrementU32 (value : U32) : U32 := if value ≠ 0xFFFFFFFF then value + 1 else value

/-- The rounded and clamped quotient, in 64-bit arithmetic that its operands cannot fill. -/
def rpmOf (config : RpmConfig) (periodTicks : U32) : U16 :=
  let denominator := periodTicks.toNat * config.pulsesPerRevolution.toNat
  let rpm := (config.timerHz.toNat * 60 + denominator / 2) / denominator
  BitVec.ofNat 16 (if rpm > 65535 then 65535 else rpm)

def rpmCapture (config : RpmConfig) (status : Tim3Status) (overflowSnapshot : U32) (capture : U16)
    (measurement : RpmMeasurement) : RpmMeasurement × Option U16 :=
  let captureOverflows := if status.update ∧ capture < 0x8000 then overflowSnapshot + 1 else overflowSnapshot
  let captureTimestamp := (captureOverflows <<< 16) ||| capture.setWidth 32
  let periodTicks := captureTimestamp - measurement.lastTimestamp
  let counted := { measurement with edges := rpmIncrementU32 measurement.edges }
  let kept (measurement : RpmMeasurement) : RpmMeasurement :=
    { measurement with lastTimestamp := captureTimestamp, hasCapture := 1 }
  if measurement.hasCapture ≠ 0 ∧ periodTicks ≠ 0 then
    let rpm := rpmOf config periodTicks
    (kept { counted with rpm, ageMs := 0, valid := 1 }, some rpm)
  else (kept counted, none)

def rpmFinish (status : Tim3Status) (serviced : RpmMeasurement × Option U16) : RpmMeasurement × Option U16 :=
  let counted : RpmMeasurement :=
    if status.update then { serviced.1 with overflowCount := serviced.1.overflowCount + 1 } else serviced.1
  if status.overcapture then ({ counted with valid := 0, hasCapture := 0 }, none) else (counted, serviced.2)

/-- A tick of the counter, an edge of the shaft, an access of the handler, or a millisecond of the foreground. -/
inductive RpmEvent
  | tick
  | edge
  | readStatus
  | service
  | readForClear
  | writeClear
  | millisecond
  deriving DecidableEq, Repr

def Tim3.tick (timer : Tim3) : Tim3 :=
  { timer with
    cnt := timer.cnt + 1
    sr := { timer.sr with update := timer.sr.update || timer.cnt = 0xFFFF } }

def Tim3.edge (timer : Tim3) : Tim3 :=
  { timer with
    ccr1 := timer.cnt
    sr := { timer.sr with capture := true, overcapture := timer.sr.overcapture || timer.sr.capture } }

def rpmTick1ms (measurement : RpmMeasurement) : RpmMeasurement :=
  let aged : RpmMeasurement :=
    if measurement.ageMs ≠ 0xFFFFFFFF then { measurement with ageMs := measurement.ageMs + 1 } else measurement
  if aged.ageMs > rpmStaleMs then { aged with valid := 0 } else aged

def RpmSystem.step (config : RpmConfig) (system : RpmSystem) : RpmEvent → Option RpmSystem
  | .tick => some { system with timer := system.timer.tick }
  | .edge => some { system with timer := system.timer.edge }
  | .readStatus =>
    match system.handler with
    | .idle => some { system with handler := .entered system.timer.sr system.measurement.overflowCount }
    | _ => none
  | .service =>
    match system.handler with
    | .entered status overflowSnapshot =>
      -- The read of `CCR1` clears `CC1IF`.
      let timer := if status.capture then
          { system.timer with sr := { system.timer.sr with capture := false } }
        else system.timer
      let serviced := rpmFinish status <|
        if status.capture then rpmCapture config status overflowSnapshot system.timer.ccr1 system.measurement
        else (system.measurement, none)
      some ⟨timer, serviced.1, .serviced status serviced.2⟩
    | _ => none
  | .readForClear =>
    match system.handler with
    | .serviced status published => some { system with handler := .clearing status published }
    | _ => none
  | .writeClear =>
    -- A zero is written to each of the three bits, whatever was read.
    match system.handler with
    | .clearing _ _ => some { system with timer := { system.timer with sr := ⟨false, false, false⟩ }, handler := .idle }
    | _ => none
  | .millisecond =>
    match system.handler with
    | .idle => some { system with measurement := rpmTick1ms system.measurement }
    | _ => none

/-- A speed that the handler left published, with the edges of the shaft so far, the newest first, and how many of them
came after the last overrun. -/
structure Publication where
  rpm : U16
  edges : List ℕ
  clean : ℕ
  deriving DecidableEq, Repr

/-- The system beside what really happened: the ticks, the edges, and what was published. -/
structure RpmRun where
  system : RpmSystem
  ticks : ℕ
  edges : List ℕ
  clean : ℕ
  publications : List Publication
  deriving DecidableEq, Repr

def RpmRun.record (run : RpmRun) : List Publication :=
  match run.system.handler with
  | .clearing _ (some rpm) => ⟨rpm, run.edges, run.clean⟩ :: run.publications
  | _ => run.publications

def RpmRun.step (config : RpmConfig) (run : RpmRun) (event : RpmEvent) : Option RpmRun :=
  (run.system.step config event).map fun system =>
    match event with
    | .tick => { run with system, ticks := run.ticks + 1 }
    | .edge =>
      { run with
        system
        edges := run.ticks :: run.edges
        clean := if run.system.timer.sr.capture then 0 else run.clean + 1 }
    | .writeClear => { run with system, publications := run.record }
    | _ => { run with system }

def rpmStart : RpmRun where
  system :=
    { timer := ⟨0, ⟨false, false, false⟩, 0⟩
      measurement := ⟨0, 0, 0, 0, 0xFFFFFFFF, 0, 0⟩
      handler := .idle }
  ticks := 0
  edges := []
  clean := 0
  publications := []

/-- Each pending event has waited less than half a counter period. -/
structure RpmRun.Prompt (run : RpmRun) : Prop where
  wrap : run.system.timer.sr.update = true → run.ticks % 2 ^ 16 < 2 ^ 15
  edge : run.system.timer.sr.capture = true → ∀ edge ∈ run.edges.head?, run.ticks < edge + 2 ^ 15

/-- Runs in which every pending event is served in time, and whose steps meet a further condition. -/
inductive RpmReached (config : RpmConfig) (condition : RpmRun → RpmEvent → Prop) : RpmRun → Prop
  | start : RpmReached config condition rpmStart
  | step {run next : RpmRun} {event : RpmEvent} (reached : RpmReached config condition run)
      (met : condition run event) (steps : run.step config event = some next) (prompt : next.Prompt) :
      RpmReached config condition next

end Guardian.Platform
