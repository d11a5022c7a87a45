import Mathlib.Data.Rat.Floor
import Guardian.Lib.Rounding
import Guardian.Platform.RpmTimer

namespace Guardian.Platform

open Word Rounding

/-- The quotient that a speed stands for, rounded and clamped to its field. -/
def exactRpm (config : RpmConfig) (ticks : ℕ) : ℕ :=
  min ⌊((60 * config.timerHz.toNat : ℕ) : ℚ) / ((ticks * config.pulsesPerRevolution.toNat : ℕ) : ℚ) + 1 / 2⌋₊ 65535

/-- A publication after two clean edges gives the speed of the last two edges. -/
def Publication.Exact (config : RpmConfig) (publication : Publication) : Prop :=
  2 ≤ publication.clean ∧ ∃ last previous earlier, publication.edges = last :: previous :: earlier ∧
    (last - previous < 2 ^ 32 → previous < last ∧ publication.rpm.toNat = exactRpm config (last - previous))

/-- The wraps that the software has counted and the one still pending are all there were. -/
def RpmRun.WrapsCounted (run : RpmRun) : Prop :=
  (if run.system.timer.sr.update then run.system.measurement.overflowCount + 1
    else run.system.measurement.overflowCount) = BitVec.ofNat 32 (run.ticks / 2 ^ 16)

structure RpmSound (config : RpmConfig) (run : RpmRun) : Prop where
  published : ∀ publication ∈ run.publications, publication.Exact config
  counted : run.system.handler = .idle → run.WrapsCounted

/-- The write of the handler clears no flag that came up since its read of the status. -/
def RpmRun.ClearsWhatWasSeen (run : RpmRun) (event : RpmEvent) : Prop :=
  match event, run.system.handler with
  | .writeClear, .clearing status _ =>
    run.system.timer.sr.capture = false ∧
    (run.system.timer.sr.overcapture = true → status.overcapture = true) ∧
    (run.system.timer.sr.update = true → status.update = true)
  | _, _ => True

section words

theorem rpmOf_exact (config : RpmConfig) (period : U32) : (rpmOf config period).toNat = exactRpm config period.toNat := by
  unfold rpmOf exactRpm
  dsimp only
  rw [halfUp_div, Nat.mul_comm 60]
  generalize (config.timerHz.toNat * 60 + period.toNat * config.pulsesPerRevolution.toNat / 2) /
    (period.toNat * config.pulsesPerRevolution.toNat) = rpm
  by_cases large : rpm > 65535
  · rw [if_pos large, Nat.min_eq_right (by omega)]
    rfl
  · rw [if_neg large, Nat.min_eq_left (by omega), BitVec.toNat_ofNat, Nat.mod_eq_of_lt (by omega)]

theorem timestamp_of {epoch : U32} {capture : U16} {time : ℕ} (high : epoch = BitVec.ofNat 32 (time / 2 ^ 16))
    (low : capture = BitVec.ofNat 16 time) : (epoch <<< 16) ||| capture.setWidth 32 = BitVec.ofNat 32 time := by
  subst high low
  apply BitVec.eq_of_toNat_eq
  rw [BitVec.toNat_or, BitVec.toNat_shiftLeft, BitVec.toNat_setWidth, BitVec.toNat_ofNat, BitVec.toNat_ofNat,
    BitVec.toNat_ofNat]
  have shifted : (time / 2 ^ 16 % 2 ^ 32) <<< 16 % 2 ^ 32 = (time / 2 ^ 16 % 2 ^ 16) <<< 16 := by
    rw [Nat.shiftLeft_eq, Nat.shiftLeft_eq]
    omega
  rw [shifted, Nat.mod_eq_of_lt (by omega : time % 2 ^ 16 < 2 ^ 32),
    ← Nat.shiftLeft_add_eq_or_of_lt (Nat.mod_lt _ (by decide)), Nat.shiftLeft_eq]
  omega

theorem period_of {last previous : ℕ} (order : previous ≤ last) (near : last - previous < 2 ^ 32) :
    (BitVec.ofNat 32 last - BitVec.ofNat 32 previous).toNat = last - previous := by
  rw [BitVec.toNat_sub, BitVec.toNat_ofNat, BitVec.toNat_ofNat]
  omega

end words

section invariant

structure RpmRun.Timed (run : RpmRun) : Prop where
  counter : run.system.timer.cnt = BitVec.ofNat 16 run.ticks
  order : (run.ticks :: run.edges).Pairwise (· ≥ ·)
  latched : ∀ edge ∈ run.edges.head?, run.system.timer.ccr1 = BitVec.ofNat 16 edge

def RpmRun.older (run : RpmRun) : List ℕ := if run.system.timer.sr.capture then run.edges.tail else run.edges

structure RpmRun.Pending (run : RpmRun) : Prop where
  counted : run.WrapsCounted
  seen : run.system.timer.sr.capture = true → ∃ edge earlier, run.edges = edge :: earlier ∧
    run.ticks / 2 ^ 16 ≤ edge / 2 ^ 16 + (if run.system.timer.sr.update then 1 else 0) ∧
    (run.system.timer.sr.overcapture = false → 1 ≤ run.clean)
  overrun : run.system.timer.sr.overcapture = true → run.system.timer.sr.capture = true
  paired : run.system.measurement.hasCapture ≠ 0 → run.system.timer.sr.overcapture = false →
    ∃ previous earlier, run.older = previous :: earlier ∧
      run.system.measurement.lastTimestamp = BitVec.ofNat 32 previous ∧
      1 + (if run.system.timer.sr.capture then 1 else 0) ≤ run.clean

/-- Once the handler has serviced what it saw, and before anything else has come up. -/
structure RpmRun.Serviced (config : RpmConfig) (run : RpmRun) (published : Option U16) : Prop where
  counted : run.system.measurement.overflowCount = BitVec.ofNat 32 (run.ticks / 2 ^ 16)
  paired : run.system.measurement.hasCapture ≠ 0 → ∃ previous earlier, run.edges = previous :: earlier ∧
    run.system.measurement.lastTimestamp = BitVec.ofNat 32 previous ∧ 1 ≤ run.clean
  published : ∀ rpm ∈ published, Publication.Exact config ⟨rpm, run.edges, run.clean⟩

structure Tim3Status.Within (status later : Tim3Status) : Prop where
  update : status.update = true → later.update = true
  capture : status.capture = true → later.capture = true
  overcapture : status.overcapture = true → later.overcapture = true

/-- Nothing has come up since the handler serviced what it saw. -/
structure Tim3Status.Calm (status later : Tim3Status) : Prop where
  capture : later.capture = false
  overcapture : later.overcapture = status.overcapture
  update : later.update = status.update

def RpmRun.At (config : RpmConfig) (run : RpmRun) : RpmHandler → Prop
  | .idle => run.Pending
  | .entered status overflowSnapshot =>
    overflowSnapshot = run.system.measurement.overflowCount ∧ status.Within run.system.timer.sr ∧
      (run.system.timer.sr = status → run.Pending)
  | .serviced status published | .clearing status published =>
    (status.update = true → run.system.timer.sr.update = true) ∧
      (status.overcapture = true → run.system.timer.sr.overcapture = true) ∧
      (status.Calm run.system.timer.sr → run.Serviced config published)

structure RpmRun.Invariant (config : RpmConfig) (run : RpmRun) : Prop where
  prompt : run.Prompt
  timed : run.Timed
  place : run.At config run.system.handler
  published : ∀ publication ∈ run.publications, publication.Exact config

def RpmRun.ticked (run : RpmRun) : RpmRun :=
  { run with system := { run.system with timer := run.system.timer.tick }, ticks := run.ticks + 1 }

def RpmRun.edged (run : RpmRun) : RpmRun :=
  { run with
    system := { run.system with timer := run.system.timer.edge }
    edges := run.ticks :: run.edges
    clean := if run.system.timer.sr.capture then 0 else run.clean + 1 }

variable {config : RpmConfig} {run : RpmRun}

theorem RpmRun.Timed.wraps (timed : run.Timed) : run.system.timer.cnt = 0xFFFF ↔ run.ticks % 2 ^ 16 = 65535 := by
  rw [timed.counter, ← BitVec.toNat_inj, BitVec.toNat_ofNat]
  rfl

theorem RpmRun.Timed.ticked (timed : run.Timed) : run.ticked.Timed where
  counter := by
    change run.system.timer.cnt + 1 = BitVec.ofNat 16 (run.ticks + 1)
    rw [timed.counter, BitVec.ofNat_add]
    rfl
  order := by
    obtain ⟨above, rest⟩ := List.pairwise_cons.mp timed.order
    exact List.pairwise_cons.mpr ⟨fun edge member => Nat.le_succ_of_le (above edge member), rest⟩
  latched := timed.latched

theorem RpmRun.Timed.edged (timed : run.Timed) : run.edged.Timed where
  counter := timed.counter
  order := by
    refine List.pairwise_cons.mpr ⟨fun edge member => ?_, timed.order⟩
    rcases List.mem_cons.mp member with rfl | earlier
    · exact le_refl _
    · exact (List.pairwise_cons.mp timed.order).1 edge earlier
  latched := by
    rintro edge ⟨⟩
    exact timed.counter

/-- While a flag is up its wrap is less than half a period old, so that the next tick does not wrap again. -/
theorem RpmRun.Pending.ticked (pending : run.Pending) (timed : run.Timed) (prompt : run.Prompt) :
    run.ticked.Pending := by
  have wraps := timed.wraps
  have flag : run.ticked.system.timer.sr.update = (run.system.timer.sr.update || decide (run.system.timer.cnt = 0xFFFF)) :=
    rfl
  have counted := pending.counted
  unfold RpmRun.WrapsCounted at counted
  cases up : run.system.timer.sr.update with
  | true =>
    have early := prompt.wrap up
    have same : (run.ticks + 1) / 2 ^ 16 = run.ticks / 2 ^ 16 := by omega
    rw [up, Bool.true_or] at flag
    rw [up] at counted
    exact
      { counted := by
          unfold RpmRun.WrapsCounted
          rw [flag]
          exact counted.trans (congrArg (BitVec.ofNat 32) same.symm)
        seen := fun capture => by
          obtain ⟨edge, earlier, edges, recent, clean⟩ := pending.seen capture
          rw [up] at recent
          refine ⟨edge, earlier, edges, ?_, clean⟩
          rw [flag]
          exact same.le.trans recent
        overrun := pending.overrun
        paired := pending.paired }
  | false =>
    rw [up, Bool.false_or] at flag
    rw [up, if_neg Bool.false_ne_true] at counted
    by_cases last : run.system.timer.cnt = 0xFFFF
    · have end' := wraps.mp last
      have next : (run.ticks + 1) / 2 ^ 16 = run.ticks / 2 ^ 16 + 1 := by omega
      rw [decide_eq_true last] at flag
      exact
        { counted := by
            unfold RpmRun.WrapsCounted
            rw [flag, if_pos rfl]
            change run.system.measurement.overflowCount + 1 = BitVec.ofNat 32 ((run.ticks + 1) / 2 ^ 16)
            rw [counted, next, BitVec.ofNat_add]
            rfl
          seen := fun capture => by
            obtain ⟨edge, earlier, edges, recent, clean⟩ := pending.seen capture
            rw [up] at recent
            refine ⟨edge, earlier, edges, ?_, clean⟩
            rw [flag, if_pos rfl]
            change (run.ticks + 1) / 2 ^ 16 ≤ edge / 2 ^ 16 + 1
            rw [next]
            exact Nat.succ_le_succ recent
          overrun := pending.overrun
          paired := pending.paired }
    · have before : ¬ run.ticks % 2 ^ 16 = 65535 := mt wraps.mpr last
      have same : (run.ticks + 1) / 2 ^ 16 = run.ticks / 2 ^ 16 := by omega
      rw [decide_eq_false last] at flag
      exact
        { counted := by
            unfold RpmRun.WrapsCounted
            rw [flag, if_neg Bool.false_ne_true]
            exact counted.trans (congrArg (BitVec.ofNat 32) same.symm)
          seen := fun capture => by
            obtain ⟨edge, earlier, edges, recent, clean⟩ := pending.seen capture
            rw [up] at recent
            refine ⟨edge, earlier, edges, ?_, clean⟩
            rw [flag]
            exact same.le.trans recent
          overrun := pending.overrun
          paired := pending.paired }

theorem RpmRun.Pending.edged (pending : run.Pending) : run.edged.Pending where
  counted := pending.counted
  seen := fun _ => ⟨run.ticks, run.edges, rfl, Nat.le_add_right _ _, fun clear => by
    have single : run.system.timer.sr.capture = false := (Bool.or_eq_false_iff.mp clear).2
    change 1 ≤ if run.system.timer.sr.capture = true then 0 else run.clean + 1
    rw [single]
    exact Nat.le_add_left _ _⟩
  overrun := fun _ => rfl
  paired := fun has clear => by
    obtain ⟨overran, single⟩ := Bool.or_eq_false_iff.mp clear
    obtain ⟨previous, earlier, older, stamp, clean⟩ := pending.paired has overran
    rw [RpmRun.older, single] at older
    refine ⟨previous, earlier, older, stamp, ?_⟩
    rw [single] at clean
    change 1 + 1 ≤ if run.system.timer.sr.capture = true then 0 else run.clean + 1
    rw [single]
    exact Nat.succ_le_succ clean

theorem RpmRun.Pending.epoch (pending : run.Pending) (timed : run.Timed) (prompt : run.Prompt)
    (capture : run.system.timer.sr.capture = true) {edge : ℕ} {earlier : List ℕ} (edges : run.edges = edge :: earlier) :
    (if run.system.timer.sr.update = true ∧ run.system.timer.ccr1 < 0x8000 then
      run.system.measurement.overflowCount + 1 else run.system.measurement.overflowCount) =
      BitVec.ofNat 32 (edge / 2 ^ 16) := by
  obtain ⟨_, _, same, recent, -⟩ := pending.seen capture
  rw [edges] at same
  obtain ⟨rfl, rfl⟩ := List.cons.inj same
  have past : edge ≤ run.ticks := (List.pairwise_cons.mp timed.order).1 edge (by rw [edges]; exact List.mem_cons_self)
  have young := prompt.edge capture edge (by rw [edges]; rfl)
  have latched := timed.latched edge (by rw [edges]; rfl)
  have low : run.system.timer.ccr1 < 0x8000 ↔ edge % 2 ^ 16 < 2 ^ 15 := by
    rw [latched, BitVec.lt_def, BitVec.toNat_ofNat]
    rfl
  have counted := pending.counted
  unfold RpmRun.WrapsCounted at counted
  cases up : run.system.timer.sr.update with
  | true =>
    have early := prompt.wrap up
    rw [up, if_pos rfl] at counted recent
    by_cases lower : run.system.timer.ccr1 < 0x8000
    · have here := low.mp lower
      rw [if_pos ⟨rfl, lower⟩, counted]
      congr 1
      omega
    · have there := mt low.mpr lower
      rw [if_neg fun both => lower both.2]
      have before : run.ticks / 2 ^ 16 = edge / 2 ^ 16 + 1 := by omega
      rw [before, BitVec.ofNat_add] at counted
      exact (BitVec.add_left_inj _).mp counted
  | false =>
    rw [up, if_neg Bool.false_ne_true] at counted recent
    rw [if_neg fun both => Bool.false_ne_true both.1, counted]
    congr 1
    omega

/-- The run after the handler has serviced the status that it read. -/
def RpmRun.servicedBy (config : RpmConfig) (run : RpmRun) (status : Tim3Status) (overflowSnapshot : U32) : RpmRun :=
  let timer := if status.capture then
      { run.system.timer with sr := { run.system.timer.sr with capture := false } }
    else run.system.timer
  let serviced := rpmFinish status <|
    if status.capture then rpmCapture config status overflowSnapshot run.system.timer.ccr1 run.system.measurement
    else (run.system.measurement, none)
  { run with system := ⟨timer, serviced.1, .serviced status serviced.2⟩ }

theorem rpmCapture_spec (config : RpmConfig) (status : Tim3Status) (overflowSnapshot : U32) (capture : U16)
    (measurement : RpmMeasurement) {stamp : U32}
    (stamped : ((if status.update ∧ capture < 0x8000 then overflowSnapshot + 1 else overflowSnapshot) <<< 16) |||
      capture.setWidth 32 = stamp) :
    (rpmCapture config status overflowSnapshot capture measurement).1.overflowCount = measurement.overflowCount ∧
    (rpmCapture config status overflowSnapshot capture measurement).1.lastTimestamp = stamp ∧
    (∀ rpm ∈ (rpmCapture config status overflowSnapshot capture measurement).2, measurement.hasCapture ≠ 0 ∧
      stamp - measurement.lastTimestamp ≠ 0 ∧ rpm = rpmOf config (stamp - measurement.lastTimestamp)) := by
  unfold rpmCapture
  dsimp only
  rw [stamped]
  by_cases period : measurement.hasCapture ≠ 0 ∧ stamp - measurement.lastTimestamp ≠ 0
  · rw [if_pos period]
    refine ⟨rfl, rfl, ?_⟩
    rintro rpm ⟨⟩
    exact ⟨period.1, period.2, rfl⟩
  · rw [if_neg period]
    exact ⟨rfl, rfl, nofun⟩

theorem rpmFinish_overcapture {status : Tim3Status} (overran : status.overcapture = true)
    (serviced : RpmMeasurement × Option U16) : (rpmFinish status serviced).2 = none ∧
      (rpmFinish status serviced).1.hasCapture = 0 := by
  unfold rpmFinish
  rw [if_pos overran]
  exact ⟨rfl, rfl⟩

theorem rpmFinish_clean {status : Tim3Status} (clean : status.overcapture = false)
    (serviced : RpmMeasurement × Option U16) : (rpmFinish status serviced).2 = serviced.2 ∧
      (rpmFinish status serviced).1.hasCapture = serviced.1.hasCapture ∧
      (rpmFinish status serviced).1.lastTimestamp = serviced.1.lastTimestamp := by
  unfold rpmFinish
  rw [clean, if_neg Bool.false_ne_true]
  cases status.update with
  | true => exact ⟨rfl, rfl, rfl⟩
  | false => exact ⟨rfl, rfl, rfl⟩

theorem rpmFinish_overflowCount (status : Tim3Status) (serviced : RpmMeasurement × Option U16) :
    (rpmFinish status serviced).1.overflowCount =
      if status.update then serviced.1.overflowCount + 1 else serviced.1.overflowCount := by
  unfold rpmFinish
  cases status.update with
  | true => cases status.overcapture <;> rfl
  | false => cases status.overcapture <;> rfl

theorem RpmRun.Pending.captured (pending : run.Pending) (timed : run.Timed) (prompt : run.Prompt) (config : RpmConfig)
    (capture : run.system.timer.sr.capture = true) (clear : run.system.timer.sr.overcapture = false) :
    ∃ edge earlier, run.edges = edge :: earlier ∧ 1 ≤ run.clean ∧
      (rpmCapture config run.system.timer.sr run.system.measurement.overflowCount run.system.timer.ccr1
        run.system.measurement).1.lastTimestamp = BitVec.ofNat 32 edge ∧
      ∀ rpm ∈ (rpmCapture config run.system.timer.sr run.system.measurement.overflowCount run.system.timer.ccr1
        run.system.measurement).2, Publication.Exact config ⟨rpm, run.edges, run.clean⟩ := by
  obtain ⟨edge, earlier, edges, -, clean⟩ := pending.seen capture
  have epoch := pending.epoch timed prompt capture edges
  have latched := timed.latched edge (by rw [edges]; rfl)
  obtain ⟨-, stamp, published⟩ := rpmCapture_spec config run.system.timer.sr run.system.measurement.overflowCount
    run.system.timer.ccr1 run.system.measurement (timestamp_of epoch latched)
  refine ⟨edge, earlier, edges, clean clear, stamp, fun rpm stored => ?_⟩
  obtain ⟨has, period, rfl⟩ := published rpm stored
  obtain ⟨previous, before, older, lastStamp, both⟩ := pending.paired has clear
  rw [RpmRun.older, capture, if_pos rfl, edges] at older
  rw [capture] at both
  have order : previous ≤ edge := by
    have pairs := (List.pairwise_cons.mp timed.order).2
    rw [edges] at pairs
    exact (List.pairwise_cons.mp pairs).1 previous (by rw [show earlier = previous :: before from older]; exact List.mem_cons_self)
  refine ⟨both, edge, previous, before, edges.trans (congrArg _ older), fun near => ?_⟩
  have ticks := period_of order near
  rw [lastStamp] at period ⊢
  have apart : edge - previous ≠ 0 := fun none => period (BitVec.eq_of_toNat_eq (ticks.trans none))
  refine ⟨by omega, ?_⟩
  rw [rpmOf_exact, ticks]

theorem RpmRun.Pending.serviced (pending : run.Pending) (timed : run.Timed) (prompt : run.Prompt) (config : RpmConfig) :
    ∀ published, (run.servicedBy config run.system.timer.sr run.system.measurement.overflowCount).system.handler =
      .serviced run.system.timer.sr published →
    (run.servicedBy config run.system.timer.sr run.system.measurement.overflowCount).Serviced config published := by
  rintro published ⟨⟩
  have counted := pending.counted
  unfold RpmRun.WrapsCounted at counted
  cases capture : run.system.timer.sr.capture with
  | true =>
    have kept : (rpmCapture config run.system.timer.sr run.system.measurement.overflowCount run.system.timer.ccr1
        run.system.measurement).1.overflowCount = run.system.measurement.overflowCount :=
      (rpmCapture_spec config _ _ _ _ rfl).1
    unfold RpmRun.servicedBy
    rw [capture, if_pos rfl, if_pos rfl]
    cases overran : run.system.timer.sr.overcapture with
    | true =>
      obtain ⟨none, zero⟩ := rpmFinish_overcapture overran (rpmCapture config run.system.timer.sr
        run.system.measurement.overflowCount run.system.timer.ccr1 run.system.measurement)
      exact
        { counted := by
            dsimp only
            rw [rpmFinish_overflowCount, kept, counted]
          paired := fun has => absurd zero has
          published := by
            rw [none]
            nofun }
    | false =>
      obtain ⟨edge, earlier, edges, clean, stamp, exact'⟩ := pending.captured timed prompt config capture overran
      obtain ⟨same, -, last⟩ := rpmFinish_clean overran (rpmCapture config run.system.timer.sr
        run.system.measurement.overflowCount run.system.timer.ccr1 run.system.measurement)
      exact
        { counted := by
            dsimp only
            rw [rpmFinish_overflowCount, kept, counted]
          paired := fun _ => ⟨edge, earlier, edges, last.trans stamp, clean⟩
          published := by
            rw [same]
            exact exact' }
  | false =>
    have clear : run.system.timer.sr.overcapture = false := by
      cases overran : run.system.timer.sr.overcapture with
      | true => exact absurd (pending.overrun overran) (by rw [capture]; exact Bool.false_ne_true)
      | false => rfl
    unfold RpmRun.servicedBy
    rw [capture, if_neg Bool.false_ne_true, if_neg Bool.false_ne_true]
    obtain ⟨same, has', last⟩ := rpmFinish_clean clear (run.system.measurement, (none : Option U16))
    exact
      { counted := by
          dsimp only
          rw [rpmFinish_overflowCount, counted]
        paired := fun has => by
          obtain ⟨previous, earlier, older, stamp, clean⟩ := pending.paired (by rw [← has']; exact has) clear
          rw [RpmRun.older, capture] at older
          rw [capture] at clean
          exact ⟨previous, earlier, older, last.trans stamp, clean⟩
        published := by
          rw [same]
          nofun }

theorem RpmRun.Pending.moved (pending : run.Pending) (handler : RpmHandler) :
    { run with system := { run.system with handler } }.Pending :=
  ⟨pending.counted, pending.seen, pending.overrun, pending.paired⟩

theorem rpmTick1ms_kept (measurement : RpmMeasurement) :
    (rpmTick1ms measurement).overflowCount = measurement.overflowCount ∧
    (rpmTick1ms measurement).hasCapture = measurement.hasCapture ∧
    (rpmTick1ms measurement).lastTimestamp = measurement.lastTimestamp := by
  unfold rpmTick1ms
  dsimp only
  by_cases young : measurement.ageMs ≠ 0xFFFFFFFF
  · rw [if_pos young]
    split_ifs <;> exact ⟨rfl, rfl, rfl⟩
  · rw [if_neg young]
    split_ifs <;> exact ⟨rfl, rfl, rfl⟩

theorem Tim3Status.Within.tick {status : Tim3Status} {timer : Tim3} (within : status.Within timer.sr)
    (same : timer.tick.sr = status) : timer.sr = status := by
  obtain ⟨rfl⟩ := same
  have update := within.update
  unfold Tim3.tick at update ⊢
  obtain ⟨cnt, ⟨up, capture, overran⟩, ccr1⟩ := timer
  dsimp only at update ⊢
  cases up with
  | true => rfl
  | false =>
    congr 1
    by_contra wrapped
    exact Bool.false_ne_true (update (by revert wrapped; cases (false || decide (cnt = 65535)) <;> simp))

theorem Tim3Status.Within.edge {status : Tim3Status} {timer : Tim3} (within : status.Within timer.sr)
    (same : timer.edge.sr = status) : timer.sr = status := by
  obtain ⟨rfl⟩ := same
  have capture : timer.sr.capture = true := within.capture rfl
  have overran : timer.sr.overcapture = true := within.overcapture (by
    unfold Tim3.edge
    dsimp only
    rw [capture, Bool.or_true])
  unfold Tim3.edge
  obtain ⟨cnt, ⟨up, _, _⟩, ccr1⟩ := timer
  dsimp only at capture overran ⊢
  rw [capture, overran]
  rfl

theorem RpmRun.Serviced.ticked {status : Tim3Status} {published : Option U16} (timed : run.Timed) (prompt : run.Prompt)
    (up : status.update = true → run.system.timer.sr.update = true)
    (serviced : status.Calm run.system.timer.sr → run.Serviced config published)
    (calm : status.Calm run.ticked.system.timer.sr) : run.ticked.Serviced config published := by
  have flag : run.ticked.system.timer.sr.update = (run.system.timer.sr.update || decide (run.system.timer.cnt = 0xFFFF)) :=
    rfl
  have wraps := timed.wraps
  have inside : run.ticks % 2 ^ 16 ≠ 65535 := by
    intro last
    have seen : status.update = true := by
      rw [← calm.update, flag, decide_eq_true (wraps.mpr last), Bool.or_true]
    have early := prompt.wrap (up seen)
    omega
  have quiet : run.system.timer.sr.update = status.update := by
    rw [← calm.update, flag, decide_eq_false (mt wraps.mp inside), Bool.or_false]
  have before := serviced ⟨calm.capture, calm.overcapture, quiet⟩
  have same : (run.ticks + 1) / 2 ^ 16 = run.ticks / 2 ^ 16 := by omega
  exact ⟨before.counted.trans (congrArg (BitVec.ofNat 32) same.symm), before.paired, before.published⟩

theorem RpmRun.Invariant.ticked (invariant : run.Invariant config) (prompt : run.ticked.Prompt) :
    run.ticked.Invariant config := by
  refine ⟨prompt, invariant.timed.ticked, ?_, invariant.published⟩
  have place := invariant.place
  have grows : run.system.timer.sr.update = true → run.ticked.system.timer.sr.update = true := fun up => by
    change (run.system.timer.sr.update || _) = true
    rw [up, Bool.true_or]
  change run.ticked.At config run.system.handler
  cases handler : run.system.handler with
  | idle =>
    rw [handler] at place
    exact RpmRun.Pending.ticked place invariant.timed invariant.prompt
  | entered status overflowSnapshot =>
    rw [handler] at place
    obtain ⟨snapshot, within, pending⟩ := place
    exact ⟨snapshot, ⟨fun up => grows (within.update up), within.capture, within.overcapture⟩, fun same =>
      (pending (within.tick same)).ticked invariant.timed invariant.prompt⟩
  | serviced status published =>
    rw [handler] at place
    obtain ⟨up, overran, serviced⟩ := place
    exact ⟨fun seen => grows (up seen), overran, RpmRun.Serviced.ticked invariant.timed invariant.prompt up serviced⟩
  | clearing status published =>
    rw [handler] at place
    obtain ⟨up, overran, serviced⟩ := place
    exact ⟨fun seen => grows (up seen), overran, RpmRun.Serviced.ticked invariant.timed invariant.prompt up serviced⟩

theorem RpmRun.Invariant.edged (invariant : run.Invariant config) (prompt : run.edged.Prompt) :
    run.edged.Invariant config := by
  refine ⟨prompt, invariant.timed.edged, ?_, invariant.published⟩
  have place := invariant.place
  have grows : run.system.timer.sr.overcapture = true → run.edged.system.timer.sr.overcapture = true := fun overran => by
    change (run.system.timer.sr.overcapture || _) = true
    rw [overran, Bool.true_or]
  change run.edged.At config run.system.handler
  cases handler : run.system.handler with
  | idle =>
    rw [handler] at place
    exact RpmRun.Pending.edged place
  | entered status overflowSnapshot =>
    rw [handler] at place
    obtain ⟨snapshot, within, pending⟩ := place
    exact ⟨snapshot, ⟨within.update, fun _ => rfl, fun overran => grows (within.overcapture overran)⟩, fun same =>
      (pending (within.edge same)).edged⟩
  | serviced status published =>
    rw [handler] at place
    exact ⟨place.1, fun overran => grows (place.2.1 overran), fun calm => nomatch calm.capture⟩
  | clearing status published =>
    rw [handler] at place
    exact ⟨place.1, fun overran => grows (place.2.1 overran), fun calm => nomatch calm.capture⟩

theorem RpmRun.Invariant.serviced (invariant : run.Invariant config) {status : Tim3Status} {overflowSnapshot : U32}
    (handler : run.system.handler = .entered status overflowSnapshot)
    (prompt : (run.servicedBy config status overflowSnapshot).Prompt) :
    (run.servicedBy config status overflowSnapshot).Invariant config := by
  have place := invariant.place
  rw [handler] at place
  obtain ⟨rfl, within, pending⟩ := place
  have sr : (run.servicedBy config status run.system.measurement.overflowCount).system.timer.sr =
      if status.capture then { run.system.timer.sr with capture := false } else run.system.timer.sr := by
    unfold RpmRun.servicedBy
    cases status.capture with
    | true => rfl
    | false => rfl
  have rest : (run.servicedBy config status run.system.measurement.overflowCount).system.timer.cnt =
      run.system.timer.cnt ∧ (run.servicedBy config status run.system.measurement.overflowCount).system.timer.ccr1 =
      run.system.timer.ccr1 := by
    unfold RpmRun.servicedBy
    cases status.capture with
    | true => exact ⟨rfl, rfl⟩
    | false => exact ⟨rfl, rfl⟩
  have flags : (run.servicedBy config status run.system.measurement.overflowCount).system.timer.sr.update =
      run.system.timer.sr.update ∧
      (run.servicedBy config status run.system.measurement.overflowCount).system.timer.sr.overcapture =
      run.system.timer.sr.overcapture := by
    rw [sr]
    cases status.capture with
    | true => exact ⟨rfl, rfl⟩
    | false => exact ⟨rfl, rfl⟩
  refine ⟨prompt, ⟨rest.1.trans invariant.timed.counter, invariant.timed.order, fun edge last =>
    rest.2.trans (invariant.timed.latched edge last)⟩, ⟨fun up => flags.1.trans (within.update up), fun overran =>
    flags.2.trans (within.overcapture overran), fun calm => ?_⟩, invariant.published⟩
  have same : run.system.timer.sr = status := by
    have update := flags.1.symm.trans calm.update
    have overran := flags.2.symm.trans calm.overcapture
    have capture : run.system.timer.sr.capture = status.capture := by
      cases seen : status.capture with
      | true => exact within.capture seen
      | false =>
        have quiet := calm.capture
        rw [sr, seen, if_neg Bool.false_ne_true] at quiet
        exact quiet
    generalize run.system.timer.sr = other at update overran capture
    obtain ⟨_, _, _⟩ := other
    obtain ⟨_, _, _⟩ := status
    dsimp only at update overran capture
    rw [update, overran, capture]
  have before := pending same
  subst same
  exact before.serviced invariant.timed invariant.prompt config _ rfl

theorem RpmRun.Serviced.cleared {published : Option U16} (serviced : run.Serviced config published)
    (publications : List Publication) :
    RpmRun.Pending
      { run with
        system := { run.system with timer := { run.system.timer with sr := ⟨false, false, false⟩ }, handler := .idle }
        publications } where
  counted := serviced.counted
  seen := nofun
  overrun := nofun
  paired := fun has _ => serviced.paired has

section steps

variable {next : RpmRun}

theorem RpmRun.Invariant.entered (invariant : run.Invariant config) (steps : run.step config .readStatus = some next)
    (prompt : next.Prompt) : next.Invariant config := by
  obtain ⟨system, moves, rfl⟩ := Option.map_eq_some_iff.mp steps
  have place := invariant.place
  cases handler : run.system.handler with
  | idle =>
    rw [handler] at place
    have pending : run.Pending := place
    rw [RpmSystem.step, handler] at moves
    cases moves
    exact ⟨prompt, ⟨invariant.timed.counter, invariant.timed.order, invariant.timed.latched⟩,
      ⟨rfl, ⟨id, id, id⟩, fun _ => pending.moved _⟩, invariant.published⟩
  | entered _ _ | serviced _ _ | clearing _ _ =>
    rw [RpmSystem.step, handler] at moves
    cases moves

theorem RpmRun.Invariant.services (invariant : run.Invariant config) (steps : run.step config .service = some next)
    (prompt : next.Prompt) : next.Invariant config := by
  obtain ⟨system, moves, rfl⟩ := Option.map_eq_some_iff.mp steps
  cases handler : run.system.handler with
  | entered status overflowSnapshot =>
    rw [RpmSystem.step, handler] at moves
    cases moves
    exact invariant.serviced handler prompt
  | idle | serviced _ _ | clearing _ _ =>
    rw [RpmSystem.step, handler] at moves
    cases moves

theorem RpmRun.Invariant.clearing (invariant : run.Invariant config)
    (steps : run.step config .readForClear = some next) (prompt : next.Prompt) : next.Invariant config := by
  obtain ⟨system, moves, rfl⟩ := Option.map_eq_some_iff.mp steps
  have place := invariant.place
  cases handler : run.system.handler with
  | serviced status published =>
    rw [handler] at place
    obtain ⟨up, overran, serviced⟩ := place
    rw [RpmSystem.step, handler] at moves
    cases moves
    exact ⟨prompt, ⟨invariant.timed.counter, invariant.timed.order, invariant.timed.latched⟩,
      ⟨up, overran, fun calm => ⟨(serviced calm).counted, (serviced calm).paired, (serviced calm).published⟩⟩,
      invariant.published⟩
  | idle | entered _ _ | clearing _ _ =>
    rw [RpmSystem.step, handler] at moves
    cases moves

theorem RpmRun.Invariant.clears (invariant : run.Invariant config) (met : run.ClearsWhatWasSeen .writeClear)
    (steps : run.step config .writeClear = some next) (prompt : next.Prompt) : next.Invariant config := by
  obtain ⟨system, moves, rfl⟩ := Option.map_eq_some_iff.mp steps
  have place := invariant.place
  cases handler : run.system.handler with
  | clearing status published =>
    rw [handler] at place
    obtain ⟨up, overran, serviced⟩ := place
    unfold RpmRun.ClearsWhatWasSeen at met
    rw [handler] at met
    obtain ⟨capture, sawOver, sawUpdate⟩ := met
    have calm : status.Calm run.system.timer.sr := by
      refine ⟨capture, ?_, ?_⟩
      · exact Bool.eq_iff_iff.mpr ⟨sawOver, overran⟩
      · exact Bool.eq_iff_iff.mpr ⟨sawUpdate, up⟩
    have done := serviced calm
    rw [RpmSystem.step, handler] at moves
    cases moves
    refine ⟨prompt, ⟨invariant.timed.counter, invariant.timed.order, invariant.timed.latched⟩, done.cleared _,
      fun publication member => ?_⟩
    change publication ∈ run.record at member
    unfold RpmRun.record at member
    rw [handler] at member
    cases published with
    | none => exact invariant.published publication member
    | some rpm =>
      rcases List.mem_cons.mp member with rfl | earlier
      · exact done.published rpm rfl
      · exact invariant.published publication earlier
  | idle | entered _ _ | serviced _ _ =>
    rw [RpmSystem.step, handler] at moves
    cases moves

theorem RpmRun.Invariant.aged (invariant : run.Invariant config) (steps : run.step config .millisecond = some next)
    (prompt : next.Prompt) : next.Invariant config := by
  obtain ⟨system, moves, rfl⟩ := Option.map_eq_some_iff.mp steps
  have place := invariant.place
  cases handler : run.system.handler with
  | idle =>
    rw [handler] at place
    have pending : run.Pending := place
    obtain ⟨count, has', last⟩ := rpmTick1ms_kept run.system.measurement
    rw [RpmSystem.step, handler] at moves
    cases moves
    refine ⟨prompt, ⟨invariant.timed.counter, invariant.timed.order, invariant.timed.latched⟩, ?_, invariant.published⟩
    change RpmRun.Pending _
    have counted := pending.counted
    unfold RpmRun.WrapsCounted at counted
    exact
      { counted := by
          unfold RpmRun.WrapsCounted
          dsimp only
          rw [count, counted]
        seen := pending.seen
        overrun := pending.overrun
        paired := fun has clear => by
          obtain ⟨previous, earlier, older, stamp, clean⟩ := pending.paired (by rw [← has']; exact has) clear
          exact ⟨previous, earlier, older, last.trans stamp, clean⟩ }
  | entered _ _ | serviced _ _ | clearing _ _ =>
    rw [RpmSystem.step, handler] at moves
    cases moves

theorem RpmRun.Invariant.step (invariant : run.Invariant config) {event : RpmEvent}
    (met : run.ClearsWhatWasSeen event) (steps : run.step config event = some next) (prompt : next.Prompt) :
    next.Invariant config := by
  cases event with
  | tick =>
    cases steps
    exact invariant.ticked prompt
  | edge =>
    cases steps
    exact invariant.edged prompt
  | readStatus => exact invariant.entered steps prompt
  | service => exact invariant.services steps prompt
  | readForClear => exact invariant.clearing steps prompt
  | writeClear => exact invariant.clears met steps prompt
  | millisecond => exact invariant.aged steps prompt

end steps

theorem rpmStart_invariant (config : RpmConfig) : rpmStart.Invariant config where
  prompt := ⟨nofun, nofun⟩
  timed := ⟨rfl, List.pairwise_singleton _ _, nofun⟩
  place := ⟨rfl, nofun, nofun, fun has => absurd rfl has⟩
  published := nofun

end invariant

/-- In a run whose clearing writes clear only flags that the handler saw, every speed is that of the last two edges and
every wrap is counted. -/
theorem rpm_exact {config : RpmConfig} {run : RpmRun}
    (reached : RpmReached config RpmRun.ClearsWhatWasSeen run) : RpmSound config run := by
  have invariant : run.Invariant config := by
    induction reached with
    | start => exact rpmStart_invariant config
    | step _ met steps prompt ih => exact ih.step met steps prompt
  refine ⟨invariant.published, fun idle => ?_⟩
  have place := invariant.place
  rw [idle] at place
  exact RpmRun.Pending.counted place

section example_runs

instance (run : RpmRun) : Decidable run.Prompt :=
  decidable_of_iff ((run.system.timer.sr.update = true → run.ticks % 2 ^ 16 < 2 ^ 15) ∧
    (run.system.timer.sr.capture = true → ∀ edge ∈ run.edges.head?, run.ticks < edge + 2 ^ 15))
    ⟨fun both => ⟨both.1, both.2⟩, fun prompt => ⟨prompt.wrap, prompt.edge⟩⟩

instance (run : RpmRun) (event : RpmEvent) : Decidable (run.ClearsWhatWasSeen event) := by
  unfold RpmRun.ClearsWhatWasSeen
  split <;> infer_instance

variable {config : RpmConfig} {condition : RpmRun → RpmEvent → Prop}

def RpmRun.follow (config : RpmConfig) (condition : RpmRun → RpmEvent → Prop)
    [∀ run event, Decidable (condition run event)] (run : RpmRun) : List RpmEvent → Option RpmRun
  | [] => some run
  | event :: events =>
    match run.step config event with
    | none => none
    | some next => if condition run event ∧ next.Prompt then next.follow config condition events else none

theorem RpmRun.follow_reached [∀ run event, Decidable (condition run event)] {run last : RpmRun}
    (reached : RpmReached config condition run) {events : List RpmEvent}
    (follows : run.follow config condition events = some last) : RpmReached config condition last := by
  induction events generalizing run with
  | nil =>
    cases follows
    exact reached
  | cons event events ih =>
    rw [RpmRun.follow] at follows
    cases steps : run.step config event with
    | none =>
      rw [steps] at follows
      cases follows
    | some next =>
      rw [steps] at follows
      dsimp only at follows
      by_cases admitted : condition run event ∧ next.Prompt
      · rw [if_pos admitted] at follows
        exact ih (.step reached admitted.1 steps admitted.2) follows
      · rw [if_neg admitted] at follows
        cases follows

def rpmQuiet (count : ℕ) : RpmRun :=
  { rpmStart with
    system := { rpmStart.system with timer := ⟨BitVec.ofNat 16 count, ⟨false, false, false⟩, 0⟩ }
    ticks := count }

theorem rpmQuiet_reached (free : ∀ run, condition run .tick) {count : ℕ} (short : count < 2 ^ 16) :
    RpmReached config condition (rpmQuiet count) := by
  induction count with
  | zero => exact .start
  | succ count ih =>
    have inside : BitVec.ofNat 16 count ≠ 0xFFFF := by
      rw [Ne, ← BitVec.toNat_inj, BitVec.toNat_ofNat]
      change count % 2 ^ 16 ≠ 65535
      omega
    have next : BitVec.ofNat 16 (count + 1) = BitVec.ofNat 16 count + 1 := BitVec.ofNat_add _ _
    have steps : (rpmQuiet count).step config .tick = some (rpmQuiet (count + 1)) := by
      unfold rpmQuiet
      rw [next]
      change some _ = some _
      unfold Tim3.tick
      dsimp only
      rw [decide_eq_false inside]
      rfl
    exact .step (ih (by omega)) (free _) steps ⟨nofun, nofun⟩

def exampleRpmConfig : RpmConfig := ⟨10000, 1, ⟨84000000, by decide⟩, by decide⟩

def rpmHandlerEvents : List RpmEvent := [.readStatus, .service, .readForClear, .writeClear]

theorem rpm_exact_example : ∃ run, RpmReached exampleRpmConfig RpmRun.ClearsWhatWasSeen run ∧
    RpmSound exampleRpmConfig run ∧ run.publications ≠ [] := by
  have follows : ∃ run, (rpmQuiet 3).follow exampleRpmConfig RpmRun.ClearsWhatWasSeen
      (.edge :: rpmHandlerEvents ++ [.tick, .tick, .edge] ++ rpmHandlerEvents) = some run ∧ run.publications ≠ [] := by
    refine ⟨_, by rfl, by decide⟩
  obtain ⟨run, follows, published⟩ := follows
  have reached := RpmRun.follow_reached (rpmQuiet_reached (fun _ => trivial) (by decide)) follows
  exact ⟨run, reached, rpm_exact reached, published⟩

instance (run : RpmRun) : Decidable run.WrapsCounted := by
  unfold RpmRun.WrapsCounted
  infer_instance

/-- A wrap between the read of the status and the clearing write is lost, and the next speed is wrong. -/
theorem rpm_wrap_lost : ∃ before run, RpmReached exampleRpmConfig (fun _ _ => True) before ∧
    before.system.handler = .idle ∧ ¬ before.WrapsCounted ∧
    RpmReached exampleRpmConfig (fun _ _ => True) run ∧
    run.publications = [⟨0, [65537, 65535], 2⟩] ∧ exactRpm exampleRpmConfig (65537 - 65535) = 65535 ∧
    ¬ RpmSound exampleRpmConfig run := by
  have begun : RpmReached exampleRpmConfig (fun _ _ => True) (rpmQuiet 65535) :=
    rpmQuiet_reached (fun _ => trivial) (by decide)
  have first : ∃ run, (rpmQuiet 65535).follow exampleRpmConfig (fun _ _ => True)
      [.edge, .readStatus, .tick, .service, .readForClear, .writeClear] = some run ∧ run.system.handler = .idle ∧
      ¬ run.WrapsCounted ∧ ∃ later, run.follow exampleRpmConfig (fun _ _ => True) ([.tick, .edge] ++ rpmHandlerEvents) =
        some later ∧ later.publications = [⟨0, [65537, 65535], 2⟩] :=
    ⟨_, by rfl, by decide, by decide, _, by rfl, by decide⟩
  obtain ⟨before, follows, idle, lost, run, more, published⟩ := first
  have reached := RpmRun.follow_reached begun follows
  have speed : exactRpm exampleRpmConfig (65537 - 65535) = 65535 := by
    unfold exactRpm
    rw [halfUp_div]
    decide
  refine ⟨before, run, reached, idle, lost, RpmRun.follow_reached reached more, published, speed, fun sound => ?_⟩
  obtain ⟨-, last, previous, earlier, edges, near⟩ := sound.published _ (by rw [published]; exact List.mem_singleton_self _)
  cases edges
  obtain ⟨-, same⟩ := near (by decide)
  rw [speed] at same
  cases same

end example_runs

end Guardian.Platform
