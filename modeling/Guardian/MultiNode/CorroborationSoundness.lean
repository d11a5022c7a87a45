import Mathlib.Data.List.GetD
import Guardian.MultiNode.CorroborationRun

namespace Guardian.MultiNode

open Word

structure GcEntry where
  operation : GcOperation
  result : GcResult

/-- The engine with its operations and their results, newest first. -/
structure GcHistory where
  context : GcContext
  log : List GcEntry

def GcHistory.perform (history : GcHistory) (operation : GcOperation) : GcHistory :=
  let moved := history.context.perform operation
  ⟨moved.2, ⟨operation, moved.1⟩ :: history.log⟩

def GcOperation.clock : GcOperation → Option (U64 × U8)
  | .submit _ now valid => some (now, valid)
  | .query now valid => some (now, valid)
  | .linkLoss _ now valid => some (now, valid)
  | .configure _ => none
  | .requireRejoin => none

/-- The operation was taken up with the clock value `now`. -/
def GcEntry.TakenAt (entry : GcEntry) (now : U64) (valid : U8) : Prop :=
  entry.result ≠ .rejected ∧ entry.operation.clock = some (now, valid)

/-- The operation loses the link of a peer or gives a later report of it. -/
def GcEntry.Supersedes (entry : GcEntry) (id : U32) : Prop :=
  (∃ now valid, entry.operation = .linkLoss id now valid) ∨
    ∃ report now valid, report.id = id ∧ entry = ⟨.submit report now valid, .ok⟩

/-- Neither a conflict, a clock failure, an epoch change nor a call for a rejoin. -/
def GcEntry.Clean (entry : GcEntry) : Prop :=
  (entry.result = .ok ∨ entry.result = .rejected) ∧ entry.operation ≠ .requireRejoin

def Accepted (log : List GcEntry) (report : GcReport) (receivedAt : U64) : Prop :=
  ∃ valid, ⟨.submit report receivedAt valid, .ok⟩ ∈ log

/-- The report is the last one accepted of its peer, and its link is not lost since. -/
def Standing (log : List GcEntry) (report : GcReport) (receivedAt : U64) : Prop :=
  ∃ newer valid older, log = newer ++ ⟨.submit report receivedAt valid, .ok⟩ :: older ∧
    ∀ entry ∈ newer, ¬ entry.Supersedes report.id

theorem Standing.accepted {log : List GcEntry} {report : GcReport} {receivedAt : U64}
    (standing : Standing log report receivedAt) : Accepted log report receivedAt := by
  obtain ⟨newer, valid, older, rfl, -⟩ := standing
  exact ⟨valid, by simp⟩

theorem Standing.cons {log : List GcEntry} {report : GcReport} {receivedAt : U64} {entry : GcEntry}
    (standing : Standing log report receivedAt) (other : ¬ entry.Supersedes report.id) :
    Standing (entry :: log) report receivedAt := by
  obtain ⟨newer, valid, older, rfl, kept⟩ := standing
  refine ⟨entry :: newer, valid, older, rfl, ?_⟩
  intro later member
  obtain rfl | member := List.mem_cons.mp member
  · exact other
  · exact kept later member

theorem Standing.head (log : List GcEntry) (report : GcReport) (receivedAt : U64) (valid : U8) :
    Standing (⟨.submit report receivedAt valid, .ok⟩ :: log) report receivedAt :=
  ⟨[], valid, log, rfl, nofun⟩

theorem Accepted.cases {log : List GcEntry} {report : GcReport} {receivedAt : U64} {entry : GcEntry}
    (accepted : Accepted (entry :: log) report receivedAt) :
    (∃ valid, entry = ⟨.submit report receivedAt valid, .ok⟩) ∨ Accepted log report receivedAt := by
  obtain ⟨valid, member⟩ := accepted
  obtain rfl | member := List.mem_cons.mp member
  · exact Or.inl ⟨valid, rfl⟩
  · exact Or.inr ⟨valid, member⟩

structure Timely (log : List GcEntry) (context : GcContext) : Prop where
  taken : ∀ entry ∈ log, ∀ now valid, entry.TakenAt now valid →
    valid = 1 ∧ context.clockSeen ≠ 0 ∧ now ≤ context.lastClock
  ordered : log.Pairwise fun newer older => ∀ late lateValid early earlyValid, newer.TakenAt late lateValid →
    older.TakenAt early earlyValid → early ≤ late

theorem Timely.refused {log : List GcEntry} {context : GcContext} (timely : Timely log context)
    (operation : GcOperation) : Timely (⟨operation, .rejected⟩ :: log) context := by
  constructor
  · intro entry member now valid taken
    obtain rfl | member := List.mem_cons.mp member
    · exact absurd rfl taken.1
    · exact timely.taken entry member now valid taken
  · refine List.pairwise_cons.mpr ⟨?_, timely.ordered⟩
    intro entry member late lateValid early earlyValid taken
    exact absurd rfl taken.1

theorem Timely.step {log : List GcEntry} {context after : GcContext} {now : U64} {valid : U8}
    {operation : GcOperation} (timely : Timely log context) (inTime : context.InTime now valid)
    (clock : operation.clock = some (now, valid)) (lastClock : after.lastClock = now) (clockSeen : after.clockSeen = 1) :
    Timely (⟨operation, .ok⟩ :: log) after := by
  have late : ∀ entry ∈ log, ∀ early earlyValid, entry.TakenAt early earlyValid → earlyValid = 1 ∧ early ≤ now := by
    intro entry member early earlyValid taken
    obtain ⟨trusted, seen, before⟩ := timely.taken entry member early earlyValid taken
    exact ⟨trusted, BitVec.le_trans before (inTime.2 seen)⟩
  have head : ∀ time timeValid, GcEntry.TakenAt ⟨operation, .ok⟩ time timeValid → time = now ∧ timeValid = 1 := by
    intro time timeValid taken
    have same := taken.2.symm.trans clock
    injection same with same
    injection same with time_eq valid_eq
    exact ⟨time_eq, valid_eq.trans inTime.1⟩
  have started : after.clockSeen ≠ 0 := by rw [clockSeen]; decide
  constructor
  · intro entry member time timeValid taken
    rw [lastClock]
    obtain rfl | member := List.mem_cons.mp member
    · obtain ⟨rfl, trusted⟩ := head time timeValid taken
      exact ⟨trusted, started, BitVec.le_refl _⟩
    · obtain ⟨trusted, before⟩ := late entry member time timeValid taken
      exact ⟨trusted, started, before⟩
  · refine List.pairwise_cons.mpr ⟨?_, timely.ordered⟩
    intro entry member time timeValid early earlyValid taken earlier
    obtain ⟨rfl, -⟩ := head time timeValid taken
    exact (late entry member early earlyValid earlier).2

structure Evidenced (log : List GcEntry) (context : GcContext) : Prop where
  peer : ∀ index, (context.slot index).seen ≠ 0 → context.peerIndex (context.slot index).report.id = some index
  admitted : ∀ index, (context.slot index).seen ≠ 0 → context.config.admits (context.slot index).report = true
  standing : ∀ index, (context.slot index).seen ≠ 0 → (context.slot index).available ≠ 0 →
    Standing log (context.slot index).report (context.slot index).receivedAt
  held : ∀ report receivedAt, Accepted log report receivedAt → ∃ index, context.peerIndex report.id = some index ∧
    (context.slot index).seen ≠ 0 ∧ (context.slot index).report.epoch = report.epoch ∧
    (context.slot index).report.commitment = report.commitment
  agree : ∀ first firstAt second secondAt, Accepted log first firstAt → Accepted log second secondAt →
    first.commitment = second.commitment
  epochs : ∀ first firstAt second secondAt, Accepted log first firstAt → Accepted log second secondAt →
    first.id = second.id → first.epoch = second.epoch

theorem Evidenced.keeps {log : List GcEntry} {context after : GcContext} {entry : GcEntry}
    (evidenced : Evidenced log context) (config : after.config = context.config)
    (seen : ∀ index, (after.slot index).seen = (context.slot index).seen)
    (report : ∀ index, (after.slot index).report = (context.slot index).report)
    (silent : ∀ report now valid, entry ≠ ⟨.submit report now valid, .ok⟩)
    (linked : ∀ index, (after.slot index).seen ≠ 0 → (after.slot index).available ≠ 0 →
      after.slot index = context.slot index ∧
        ∀ now valid, entry.operation ≠ .linkLoss (context.slot index).report.id now valid) :
    Evidenced (entry :: log) after := by
  have peerIndex (id : U32) : after.peerIndex id = context.peerIndex id := by
    rw [GcContext.peerIndex, config, GcContext.peerIndex]
  have earlier {other : GcReport} {receivedAt : U64} (accepted : Accepted (entry :: log) other receivedAt) :
      Accepted log other receivedAt := by
    obtain ⟨valid, same⟩ | accepted := accepted.cases
    · exact absurd same (silent other receivedAt valid)
    · exact accepted
  constructor
  · intro index here
    rw [seen] at here
    rw [report, peerIndex]
    exact evidenced.peer index here
  · intro index here
    rw [seen] at here
    rw [report, config]
    exact evidenced.admitted index here
  · intro index here available
    obtain ⟨same, up⟩ := linked index here available
    rw [same] at here available ⊢
    apply (evidenced.standing index here available).cons
    rintro (⟨now, valid, lost⟩ | ⟨other, now, valid, -, taken⟩)
    · exact up now valid lost
    · exact silent other now valid taken
  · intro other receivedAt accepted
    obtain ⟨index, known, facts⟩ := evidenced.held other receivedAt (earlier accepted)
    exact ⟨index, by rw [peerIndex, known], by rw [seen, report]; exact facts⟩
  · intro first firstAt second secondAt one two
    exact evidenced.agree first firstAt second secondAt (earlier one) (earlier two)
  · intro first firstAt second secondAt one two
    exact evidenced.epochs first firstAt second secondAt (earlier one) (earlier two)

theorem Evidenced.quiet {log : List GcEntry} {context after : GcContext} {entry : GcEntry}
    (evidenced : Evidenced log context) (config : after.config = context.config) (slots : after.slots = context.slots)
    (silent : ∀ report now valid, entry ≠ ⟨.submit report now valid, .ok⟩)
    (linked : ∀ id now valid, entry.operation = .linkLoss id now valid → context.peerIndex id = none) :
    Evidenced (entry :: log) after := by
  have slot (index : Nat) : after.slot index = context.slot index := by rw [GcContext.slot, slots, GcContext.slot]
  apply evidenced.keeps config (fun index => by rw [slot]) (fun index => by rw [slot]) silent
  intro index seen _
  refine ⟨slot index, ?_⟩
  intro now valid lost
  have known := evidenced.peer index (slot index ▸ seen)
  rw [linked _ now valid lost] at known
  cases known

theorem GcContext.peerIndex_get {context : GcContext} {id : U32} {index : Nat}
    (known : context.peerIndex id = some index) : ∃ peer, context.config.peers[index]? = some peer ∧ peer.id = id := by
  obtain ⟨bound, same, -⟩ := List.findIdx?_eq_some_iff_getElem.mp known
  exact ⟨context.config.peers[index], List.getElem?_eq_getElem bound, by simpa using same⟩

theorem GcContext.peerIndex_lt {context : GcContext} {id : U32} {index : Nat}
    (known : context.peerIndex id = some index) : index < context.config.peers.length :=
  (List.findIdx?_eq_some_iff_getElem.mp known).1

theorem GcContext.peerIndex_injective {context : GcContext} {one other : U32} {index : Nat}
    (known : context.peerIndex one = some index) (other_known : context.peerIndex other = some index) : one = other := by
  obtain ⟨peer, found, id⟩ := GcContext.peerIndex_get known
  obtain ⟨other_peer, other_found, other_id⟩ := GcContext.peerIndex_get other_known
  rw [found] at other_found
  cases other_found
  exact id.symm.trans other_id

theorem GcContext.slot_of_set {context after : GcContext} {index : Nat} {slot : GcSlot}
    (bound : index < context.slots.length) (slots : after.slots = context.slots.set index slot) (other : Nat) :
    after.slot other = if other = index then slot else context.slot other := by
  rw [GcContext.slot, slots, GcContext.slot, List.getD_eq_getElem?_getD, List.getD_eq_getElem?_getD,
    List.getElem?_set]
  split_ifs with here same
  · rfl
  · exact absurd here.symm same
  · exact absurd ‹other = index›.symm here
  · rfl

theorem GcContext.slot_unseen {context : GcContext} {index : Nat} (outside : context.slots.length ≤ index) :
    (context.slot index).seen = 0 := by
  rw [GcContext.slot, List.getD_eq_default _ _ outside]
  rfl

theorem GcContext.disagrees_iff {context : GcContext} {report : GcReport} :
    context.disagrees report = true ↔ ∃ index, index < context.config.peers.length ∧ (context.slot index).seen ≠ 0 ∧
      report.commitment ≠ (context.slot index).report.commitment := by
  simp only [GcContext.disagrees, List.any_eq_true, decide_eq_true_eq]
  constructor
  · rintro ⟨slot, member, seen, other⟩
    obtain ⟨index, bound, rfl⟩ := List.mem_take_iff_getElem.mp member
    have small := Nat.lt_min.mp bound
    refine ⟨index, small.1, ?_⟩
    rw [GcContext.slot, List.getD_eq_getElem _ _ small.2]
    exact ⟨seen, other⟩
  · rintro ⟨index, bound, seen, other⟩
    have inside : index < context.slots.length := by
      by_contra outside
      exact seen (GcContext.slot_unseen (Nat.not_lt.mp outside))
    refine ⟨context.slot index, ?_, seen, other⟩
    rw [GcContext.slot, List.getD_eq_getElem _ _ inside]
    exact List.mem_take_iff_getElem.mpr ⟨index, Nat.lt_min.mpr ⟨bound, inside⟩, rfl⟩

theorem GcContext.not_disagrees {context : GcContext} {report : GcReport} (agrees : context.disagrees report = false)
    {index : Nat} (bound : index < context.config.peers.length) (seen : (context.slot index).seen ≠ 0) :
    (context.slot index).report.commitment = report.commitment := by
  by_contra other
  rw [GcContext.disagrees_iff.mpr ⟨index, bound, seen, fun same => other same.symm⟩] at agrees
  cases agrees

/-- A configured engine's slots, one for each entry of the peer table. -/
def GcContext.Fits (context : GcContext) : Prop :=
  context.config.peers.length ≤ corroborationCapacity ∧ context.slots.length = corroborationCapacity

theorem GcContext.Fits.bound {context : GcContext} (fits : context.Fits) {id : U32} {index : Nat}
    (known : context.peerIndex id = some index) : index < context.slots.length := by
  have small := GcContext.peerIndex_lt known
  have := fits.1
  have := fits.2
  omega

theorem Evidenced.holds {log : List GcEntry} {context after : GcContext} {report : GcReport} {now : U64} {valid : U8}
    {index : Nat} (evidenced : Evidenced log context) (fits : context.Fits)
    (known : context.peerIndex report.id = some index) (admitted : context.config.admits report = true)
    (newer : (context.slot index).seen ≠ 0 → report.epoch = (context.slot index).report.epoch ∧
      (context.slot index).report.sequence < report.sequence)
    (agrees : context.disagrees report = false) (config : after.config = context.config)
    (slots : after.slots = context.slots.set index ⟨report, now, 1, 1⟩) :
    Evidenced (⟨.submit report now valid, .ok⟩ :: log) after := by
  have slot := GcContext.slot_of_set (fits.bound known) slots
  have peerIndex (id : U32) : after.peerIndex id = context.peerIndex id := by
    rw [GcContext.peerIndex, config, GcContext.peerIndex]
  -- What the accepted reports say of the new one, through the slot of their peer.
  have common : ∀ other receivedAt, Accepted log other receivedAt → other.commitment = report.commitment ∧
      (other.id = report.id → other.epoch = report.epoch) := by
    intro other receivedAt accepted
    obtain ⟨place, place_known, seen, epoch, commitment⟩ := evidenced.held other receivedAt accepted
    refine ⟨commitment.symm.trans (GcContext.not_disagrees agrees (GcContext.peerIndex_lt place_known) seen), ?_⟩
    intro same
    rw [same, known] at place_known
    cases place_known
    exact epoch.symm.trans (newer seen).1.symm
  have every : ∀ other receivedAt, Accepted (⟨.submit report now valid, .ok⟩ :: log) other receivedAt →
      other.commitment = report.commitment ∧ (other.id = report.id → other.epoch = report.epoch) := by
    intro other receivedAt accepted
    obtain ⟨_, taken⟩ | accepted := accepted.cases
    · cases taken
      exact ⟨rfl, fun _ => rfl⟩
    · exact common other receivedAt accepted
  constructor
  · intro place seen
    rw [slot, peerIndex] at *
    split_ifs at seen ⊢ with here
    · exact here ▸ known
    · exact evidenced.peer place seen
  · intro place seen
    rw [slot] at seen ⊢
    rw [config]
    split_ifs at seen ⊢ with here
    · exact admitted
    · exact evidenced.admitted place seen
  · intro place seen available
    rw [slot] at seen available ⊢
    split_ifs at seen available ⊢ with here
    · exact .head log report now valid
    · apply (evidenced.standing place seen available).cons
      rintro (⟨_, _, lost⟩ | ⟨_, _, _, same, taken⟩)
      · cases lost
      · cases taken
        have place_known := evidenced.peer place seen
        rw [← same, known] at place_known
        cases place_known
        exact here rfl
  · intro other receivedAt accepted
    obtain ⟨_, taken⟩ | accepted := accepted.cases
    · cases taken
      refine ⟨index, by rw [peerIndex, known], ?_⟩
      rw [slot, if_pos rfl]
      exact ⟨(by decide : (1 : U8) ≠ 0), rfl, rfl⟩
    · obtain ⟨place, place_known, facts⟩ := evidenced.held other receivedAt accepted
      refine ⟨place, by rw [peerIndex, place_known], ?_⟩
      rw [slot]
      split_ifs with here
      · have shared := common other receivedAt accepted
        have same_peer : other.id = report.id := GcContext.peerIndex_injective place_known (here ▸ known)
        exact ⟨(by decide : (1 : U8) ≠ 0), (shared.2 same_peer).symm, shared.1.symm⟩
      · exact facts
  · intro first firstAt second secondAt one two
    exact (every first firstAt one).1.trans (every second secondAt two).1.symm
  · intro first firstAt second secondAt one two same
    obtain ⟨_, taken⟩ | one := one.cases
    · cases taken
      exact ((every second secondAt two).2 same.symm).symm
    · obtain ⟨_, taken⟩ | two := two.cases
      · cases taken
        exact (common first firstAt one).2 same
      · exact evidenced.epochs first firstAt second secondAt one two same

theorem Evidenced.loses {log : List GcEntry} {context after : GcContext} {id : U32} {now : U64} {valid : U8}
    {index : Nat} (evidenced : Evidenced log context) (fits : context.Fits)
    (known : context.peerIndex id = some index) (config : after.config = context.config)
    (slots : after.slots = context.slots.set index { context.slot index with available := 0 }) :
    Evidenced (⟨.linkLoss id now valid, .ok⟩ :: log) after := by
  have slot := GcContext.slot_of_set (fits.bound known) slots
  have seen (place : Nat) : (after.slot place).seen = (context.slot place).seen := by
    rw [slot]
    split_ifs with here
    · rw [here]
    · rfl
  have report (place : Nat) : (after.slot place).report = (context.slot place).report := by
    rw [slot]
    split_ifs with here
    · rw [here]
    · rfl
  apply evidenced.keeps config seen report (fun _ _ _ same => by cases same)
  intro place here available
  rw [slot] at here available ⊢
  split_ifs at here available ⊢ with same
  · exact absurd rfl available
  · refine ⟨rfl, ?_⟩
    intro lostAt lostValid lost
    cases lost
    have place_known := evidenced.peer place here
    rw [known] at place_known
    cases place_known
    exact same rfl

structure Running (history : GcHistory) : Prop where
  slots : history.context.slots.length = corroborationCapacity
  clean : ∀ entry ∈ history.log, entry.Clean
  timely : Timely history.log history.context
  evidenced : Evidenced history.log history.context

structure Sound (config : GcConfig) (history : GcHistory) : Prop where
  configured : history.context.state ≠ .unconfigured
  config : history.context.config = config
  running : history.context.Unlatched → Running history

theorem gcEvaluate_configured {context : GcContext} (unlatched : context.Unlatched) (now : U64) :
    (gcEvaluate context now).state ≠ .unconfigured := by
  rw [gcEvaluate_unlatched unlatched]
  split_ifs <;> decide

theorem Running.clean_cons {history : GcHistory} (running : Running history) {entry : GcEntry} (fine : entry.Clean) :
    ∀ other ∈ entry :: history.log, other.Clean := by
  intro other member
  obtain rfl | member := List.mem_cons.mp member
  · exact fine
  · exact running.clean other member

theorem Sound.evaluates {config : GcConfig} {history : GcHistory} {changed : GcContext} {operation : GcOperation}
    {now : U64} {valid : U8} (sound : Sound config history) (unlatched : history.context.Unlatched)
    (inTime : history.context.InTime now valid) (clock : operation.clock = some (now, valid))
    (state : changed.state = history.context.state) (same : changed.config = history.context.config)
    (lastClock : changed.lastClock = now) (clockSeen : changed.clockSeen = 1)
    (length : changed.slots.length = history.context.slots.length)
    (evidenced : Evidenced (⟨operation, .ok⟩ :: history.log) (gcEvaluate changed now)) :
    Sound config ⟨gcEvaluate changed now, ⟨operation, .ok⟩ :: history.log⟩ := by
  have running := sound.running unlatched
  have still : changed.Unlatched := by rw [GcContext.Unlatched, state]; exact unlatched
  have timed : operation ≠ .requireRejoin := by
    rintro rfl
    cases clock
  constructor
  · exact gcEvaluate_configured still now
  · exact (gcEvaluate_config changed now).trans (same.trans sound.config)
  · intro _
    constructor
    · exact (congrArg List.length (gcEvaluate_slots changed now)).trans (length.trans running.slots)
    · exact running.clean_cons ⟨.inl rfl, timed⟩
    · exact running.timely.step inTime clock ((gcEvaluate_lastClock changed now).trans lastClock)
        ((gcEvaluate_clockSeen changed now).trans clockSeen)
    · exact evidenced

theorem Sound.perform {config : GcConfig} {history : GcHistory} (small : config.peers.length ≤ corroborationCapacity)
    (sound : Sound config history) (operation : GcOperation) : Sound config (history.perform operation) := by
  have moves := GcContext.perform_moves sound.configured operation
  have fits (running : Running history) : history.context.Fits := ⟨sound.config ▸ small, running.slots⟩
  rw [GcHistory.perform]
  generalize (history.context.perform operation).1 = result at moves ⊢
  generalize (history.context.perform operation).2 = after at moves ⊢
  cases moves with
  | refuses _ asked unknown =>
    refine ⟨sound.configured, sound.config, fun unlatched => ?_⟩
    have running := sound.running unlatched
    exact ⟨running.slots, running.clean_cons ⟨.inr rfl, asked⟩, running.timely.refused _,
      running.evidenced.quiet rfl rfl (fun _ _ _ same => by cases same) unknown⟩
  | latches latched stays same =>
    refine ⟨?_, same.trans sound.config, fun unlatched => absurd unlatched latched.not_unlatched⟩
    obtain conflict | rejoin := latched
    · exact conflict ▸ nofun
    · exact rejoin ▸ nofun
  | queries now valid unlatched inTime =>
    exact sound.evaluates unlatched inTime rfl rfl rfl rfl rfl rfl
      ((sound.running unlatched).evidenced.quiet (gcEvaluate_config _ _) (gcEvaluate_slots _ _)
        (fun _ _ _ same => by cases same) nofun)
  | holds report now valid index unlatched inTime peer admitted newer agrees =>
    have running := sound.running unlatched
    exact sound.evaluates unlatched inTime rfl rfl rfl rfl rfl List.length_set
      (running.evidenced.holds (fits running) peer admitted newer agrees (gcEvaluate_config _ _) (gcEvaluate_slots _ _))
  | loses id now valid index unlatched inTime peer =>
    have running := sound.running unlatched
    exact sound.evaluates unlatched inTime rfl rfl rfl rfl rfl List.length_set
      (running.evidenced.loses (fits running) peer (gcEvaluate_config _ _) (gcEvaluate_slots _ _))

/-- The peers that count at `now`, with their slots. -/
def GcContext.live (context : GcContext) (now : U64) : List (GcPeer × GcSlot) :=
  (context.config.peers.zip context.slots).filter fun entry => entry.2.live context.config.maxAge now

theorem GcContext.coverage_eq (context : GcContext) (now : U64) :
    context.coverage now =
      (context.live now).foldl (fun counted entry => (counted.1 + 1, counted.2 ||| entry.1.roleBit)) (0, 0) := by
  rw [GcContext.coverage, GcContext.live, List.foldl_filter]

theorem foldl_count (entries : List (GcPeer × GcSlot)) (start : U8 × U8) :
    (entries.foldl (fun counted entry => (counted.1 + 1, counted.2 ||| entry.1.roleBit)) start).1 =
      start.1 + BitVec.ofNat 8 entries.length := by
  induction entries generalizing start with
  | nil => simp
  | cons entry entries ih =>
    rw [List.foldl_cons, ih, List.length_cons]
    bv_omega

theorem GcPeer.roleBit_get {peer : GcPeer} {role : Nat} (bit : peer.roleBit.getLsbD role = true) :
    peer.role.toNat = role := by
  have shifted : (BitVec.ofNat 8 (1 <<< peer.role.toNat)).getLsbD role = true := bit
  rw [BitVec.getLsbD_ofNat, Bool.and_eq_true, Nat.one_shiftLeft, Nat.testBit_two_pow] at shifted
  exact of_decide_eq_true shifted.2

theorem foldl_roles (entries : List (GcPeer × GcSlot)) (start : U8 × U8) (role : Nat)
    (bit : (entries.foldl (fun counted entry => (counted.1 + 1, counted.2 ||| entry.1.roleBit)) start).2.getLsbD role
      = true) : start.2.getLsbD role = true ∨ ∃ entry ∈ entries, entry.1.role.toNat = role := by
  induction entries generalizing start with
  | nil => exact Or.inl bit
  | cons entry entries ih =>
    obtain low | ⟨other, member, same⟩ := ih _ bit
    · rw [BitVec.getLsbD_or, Bool.or_eq_true] at low
      obtain low | here := low
      · exact Or.inl low
      · exact Or.inr ⟨entry, List.mem_cons_self, GcPeer.roleBit_get here⟩
    · exact Or.inr ⟨other, List.mem_cons_of_mem _ member, same⟩

/-- What makes the evidence at `now` eligible, in terms of the operations since configuration. -/
structure Corroborates (config : GcConfig) (log : List GcEntry) (now : U64) (valid : U8) : Prop where
  support : ∃ (peers : List GcPeer) (commitment : Bytes 32), peers.Sublist config.peers ∧
    (peers.map GcPeer.id).Nodup ∧ config.threshold.toNat ≤ peers.length ∧
    (∀ role, config.requiredRoles.getLsbD role = true → ∃ peer ∈ peers, peer.role.toNat = role) ∧
    ∀ peer ∈ peers, ∃ report receivedAt, report.id = peer.id ∧ Standing log report receivedAt ∧
      receivedAt ≤ now ∧ now - receivedAt ≤ config.maxAge ∧ report.sameRoundAck = 1 ∧
      report.commitment = commitment ∧ config.admits report = true
  clean : ∀ entry ∈ log, entry.Clean
  commitments : ∀ first firstAt second secondAt, Accepted log first firstAt → Accepted log second secondAt →
    first.commitment = second.commitment
  epochs : ∀ first firstAt second secondAt, Accepted log first firstAt → Accepted log second secondAt →
    first.id = second.id → first.epoch = second.epoch
  trusted : valid = 1
  current : ∀ entry ∈ log, ∀ time timeValid, entry.TakenAt time timeValid → timeValid = 1 ∧ time ≤ now
  monotone : log.Pairwise fun newer older => ∀ late lateValid early earlyValid, newer.TakenAt late lateValid →
    older.TakenAt early earlyValid → early ≤ late

theorem GcContext.live_sublist {context : GcContext} (fits : context.Fits) (now : U64) :
    ((context.live now).map Prod.fst).Sublist context.config.peers := by
  have firsts : (context.config.peers.zip context.slots).map Prod.fst = context.config.peers :=
    List.map_fst_zip (by rw [fits.2]; exact fits.1)
  have filtered : ((context.live now).map Prod.fst).Sublist ((context.config.peers.zip context.slots).map Prod.fst) :=
    List.filter_sublist.map Prod.fst
  rwa [firsts] at filtered

theorem GcContext.mem_live {context : GcContext} {now : U64} {entry : GcPeer × GcSlot}
    (member : entry ∈ context.live now) : ∃ index, context.config.peers[index]? = some entry.1 ∧
      context.slot index = entry.2 ∧ entry.2.live context.config.maxAge now = true := by
  obtain ⟨zipped, live⟩ := List.mem_filter.mp member
  obtain ⟨index, bound, rfl⟩ := List.getElem_of_mem zipped
  rw [List.length_zip, Nat.lt_min] at bound
  refine ⟨index, ?_, ?_, live⟩
  · rw [List.getElem_zip, List.getElem?_eq_getElem bound.1]
  · rw [GcContext.slot, List.getD_eq_getElem _ _ bound.2, List.getElem_zip]

theorem Evidenced.supports {log : List GcEntry} {context : GcContext} {now : U64} {entry : GcPeer × GcSlot}
    (evidenced : Evidenced log context) (member : entry ∈ context.live now) :
    entry.2.report.id = entry.1.id ∧ Standing log entry.2.report entry.2.receivedAt ∧ entry.2.receivedAt ≤ now ∧
      now - entry.2.receivedAt ≤ context.config.maxAge ∧ entry.2.report.sameRoundAck = 1 ∧
      context.config.admits entry.2.report = true := by
  obtain ⟨index, found, slot, live⟩ := GcContext.mem_live member
  obtain ⟨seen, available, round, past, fresh⟩ := of_decide_eq_true live
  rw [← slot] at seen available round past fresh ⊢
  refine ⟨?_, evidenced.standing index seen available, past, fresh, round, evidenced.admitted index seen⟩
  obtain ⟨peer, same, id⟩ := GcContext.peerIndex_get (evidenced.peer index seen)
  rw [found] at same
  cases same
  exact id.symm

theorem gcConfigure_accepts {config : GcConfig} (accepted : (gcConfigure gcInit config).1 = .ok) :
    config.peers.length ≤ corroborationCapacity ∧ (config.peers.map GcPeer.id).Nodup ∧
      (gcConfigure gcInit config).2 = { gcInit with config, state := .insufficient } := by
  rw [gcConfigure] at accepted ⊢
  split_ifs at accepted ⊢ with configured bounds peers distinct
  dsimp only at accepted ⊢
  split_ifs at accepted ⊢ with roles
  simp only [not_or, Nat.not_lt] at bounds
  exact ⟨bounds.2.2.2.2.2.2.1, distinct, rfl⟩

theorem GcContext.zero_slot {context : GcContext} (zero : context.slots = zeroSlots) (index : Nat) :
    (context.slot index).seen = 0 := by
  obtain inside | outside := Nat.lt_or_ge index context.slots.length
  · rw [GcContext.slot, List.getD_eq_getElem _ _ inside]
    simp [zero, zeroSlots]
  · exact GcContext.slot_unseen outside

theorem sound_start {config : GcConfig} (accepted : (gcConfigure gcInit config).1 = .ok) :
    Sound config ⟨(gcConfigure gcInit config).2, []⟩ := by
  rw [(gcConfigure_accepts accepted).2.2]
  have unseen (index : Nat) : ¬ (GcContext.slot { gcInit with config, state := .insufficient } index).seen ≠ 0 :=
    fun seen => seen (GcContext.zero_slot rfl index)
  refine ⟨nofun, rfl, fun _ => ⟨rfl, nofun, ⟨nofun, .nil⟩, ?_⟩⟩
  constructor
  · exact fun index seen => absurd seen (unseen index)
  · exact fun index seen => absurd seen (unseen index)
  · exact fun index seen => absurd seen (unseen index)
  · exact fun report receivedAt ⟨_, member⟩ => absurd member List.not_mem_nil
  · exact fun first firstAt second secondAt ⟨_, member⟩ => absurd member List.not_mem_nil
  · exact fun first firstAt second secondAt ⟨_, member⟩ => absurd member List.not_mem_nil

theorem corroborates_of_meets {config : GcConfig} {history : GcHistory} {now : U64} {valid : U8}
    (small : config.peers.length ≤ corroborationCapacity) (distinct : (config.peers.map GcPeer.id).Nodup)
    (sound : Sound config history) (unlatched : history.context.Unlatched)
    (inTime : history.context.InTime now valid) (meets : history.context.meets now = true) :
    Corroborates config history.log now valid := by
  obtain ⟨slots, clean, timely, evidenced⟩ := sound.running unlatched
  have same := sound.config
  have fits : history.context.Fits := ⟨same ▸ small, slots⟩
  have sublist := GcContext.live_sublist fits now
  obtain ⟨enough, cover⟩ := of_decide_eq_true meets
  rw [GcContext.coverage_eq] at enough cover
  rw [same] at enough cover sublist
  obtain ⟨commitment, common⟩ : ∃ commitment, ∀ entry ∈ history.context.live now, entry.2.report.commitment = commitment := by
    cases live : history.context.live now with
    | nil => exact ⟨zeroReport.commitment, nofun⟩
    | cons first rest =>
      refine ⟨first.2.report.commitment, fun entry member => ?_⟩
      have one := (evidenced.supports (live ▸ member)).2.1.accepted
      have two := (evidenced.supports (live ▸ List.mem_cons_self (a := first) (l := rest))).2.1.accepted
      exact evidenced.agree _ _ _ _ one two
  constructor
  · refine ⟨(history.context.live now).map Prod.fst, commitment, sublist, (sublist.map _).nodup distinct, ?_, ?_, ?_⟩
    · rw [foldl_count, BitVec.le_def] at enough
      rw [List.length_map]
      refine Nat.le_trans enough ?_
      simpa using Nat.mod_le _ _
    · intro role required
      rw [← cover, BitVec.getLsbD_and, Bool.and_eq_true] at required
      obtain zero | ⟨entry, member, bit⟩ := foldl_roles _ _ role required.1
      · simp at zero
      · exact ⟨entry.1, List.mem_map_of_mem member, bit⟩
    · intro peer member
      obtain ⟨entry, live, rfl⟩ := List.mem_map.mp member
      obtain ⟨id, standing, past, fresh, round, admitted⟩ := evidenced.supports live
      rw [same] at fresh admitted
      exact ⟨entry.2.report, entry.2.receivedAt, id, standing, past, fresh, round, common entry live, admitted⟩
  · exact clean
  · exact evidenced.agree
  · exact evidenced.epochs
  · exact inTime.1
  · intro entry member time timeValid taken
    obtain ⟨trusted, seen, before⟩ := timely.taken entry member time timeValid taken
    exact ⟨trusted, BitVec.le_trans before (inTime.2 seen)⟩
  · exact timely.ordered

/-- An eligible query is supported by the operations since configuration, and a latch stays until the engine is
initialised anew. -/
theorem eligibility_soundness (config : GcConfig) (accepted : (gcConfigure gcInit config).1 = .ok)
    (operations : List GcOperation) :
    let history := Run.after GcHistory.perform operations ⟨(gcConfigure gcInit config).2, []⟩
    (∀ now valid, (gcQuery history.context now valid).2.1.eligibleForLocalReview ≠ 0 →
      Corroborates config history.log now valid) ∧
    (history.context.state = .conflictLatched ∨ history.context.state = .rejoinRequired → ∀ further,
      (Run.after GcHistory.perform further history).context.state = history.context.state) := by
  intro history
  obtain ⟨small, distinct, -⟩ := gcConfigure_accepts accepted
  have sound : Sound config history := Run.after_invariant (fun _ operation sound => sound.perform small operation)
    (sound_start accepted) operations
  constructor
  · intro now valid eligible
    obtain ⟨unlatched, inTime, meets⟩ := gcQuery_eligible eligible
    exact corroborates_of_meets small distinct sound unlatched inTime meets
  · intro latched further
    have kept (other : GcHistory) (operation : GcOperation) (same : other.context.state = history.context.state) :
        (other.perform operation).context.state = history.context.state := by
      have still : other.context.Latched := by rw [GcContext.Latched, same]; exact latched
      exact (GcContext.perform_latched still operation).trans same
    exact Run.after_invariant kept rfl further

def pairConfig : GcConfig := ⟨1, 2, 3, 4, 10, 2, 1, [⟨7, 0⟩, ⟨8, 1⟩]⟩

def pairReport (id : U32) (commitment : Bytes 32) : GcReport := ⟨id, 1, 2, 3, 4, 1, 1, 1, 1, 1, 0, commitment⟩

theorem eligibility_of_pair :
    Corroborates pairConfig
      (Run.after GcHistory.perform
        [.submit (pairReport 7 zeroReport.commitment) 3 1, .submit (pairReport 8 zeroReport.commitment) 5 1]
        ⟨(gcConfigure gcInit pairConfig).2, []⟩).log 13 1 :=
  (eligibility_soundness pairConfig (by decide)
    [.submit (pairReport 7 zeroReport.commitment) 3 1, .submit (pairReport 8 zeroReport.commitment) 5 1]).1 13 1
    (by decide)

end Guardian.MultiNode
