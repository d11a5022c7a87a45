import Guardian.Lib.Run
import Guardian.MultiNode.Corroboration

namespace Guardian.MultiNode

open Word

def GcContext.Unlatched (context : GcContext) : Prop := context.state = .insufficient ∨ context.state = .corroborated

def GcContext.Latched (context : GcContext) : Prop :=
  context.state = .conflictLatched ∨ context.state = .rejoinRequired

theorem GcContext.Latched.not_unlatched {context : GcContext} (latched : context.Latched) : ¬ context.Unlatched := by
  rintro (state | state) <;> rcases latched with latch | latch <;> cases state.symm.trans latch

theorem GcContext.latched_or_unlatched {context : GcContext} (configured : context.state ≠ .unconfigured) :
    context.Latched ∨ context.Unlatched := by
  rw [GcContext.Latched, GcContext.Unlatched]
  cases state : context.state <;> simp_all

@[simp] theorem gcRequireRejoin_config (context : GcContext) : (gcRequireRejoin context).config = context.config := by
  rw [gcRequireRejoin]
  split_ifs <;> rfl

theorem gcRequireRejoin_latches {context : GcContext} (configured : context.state ≠ .unconfigured) :
    (gcRequireRejoin context).Latched := by
  rw [gcRequireRejoin]
  split_ifs with open'
  · exact Or.inr rfl
  · refine Or.inl ?_
    by_contra other
    exact open' ⟨configured, other⟩

def GcContext.clocked (context : GcContext) (now : U64) : GcContext := { context with lastClock := now, clockSeen := 1 }

theorem gcClockCheck_cases (context : GcContext) (now : U64) (valid : U8) :
    gcClockCheck context now valid = (.clockFailure, gcRequireRejoin context) ∨
      (valid = 1 ∧ (context.clockSeen ≠ 0 → context.lastClock ≤ now) ∧
        gcClockCheck context now valid = (.ok, context.clocked now)) := by
  rw [gcClockCheck]
  split_ifs with failed
  · exact Or.inl rfl
  · simp only [not_or, not_and, not_not] at failed
    exact Or.inr ⟨failed.1, fun seen => BitVec.not_lt.mp (failed.2 seen), rfl⟩

@[simp] theorem gcEvaluate_config (context : GcContext) (now : U64) : (gcEvaluate context now).config = context.config := by
  rw [gcEvaluate]
  split_ifs <;> rfl

@[simp] theorem gcEvaluate_slots (context : GcContext) (now : U64) : (gcEvaluate context now).slots = context.slots := by
  rw [gcEvaluate]
  split_ifs <;> rfl

@[simp] theorem gcEvaluate_lastClock (context : GcContext) (now : U64) :
    (gcEvaluate context now).lastClock = context.lastClock := by
  rw [gcEvaluate]
  split_ifs <;> rfl

@[simp] theorem gcEvaluate_clockSeen (context : GcContext) (now : U64) :
    (gcEvaluate context now).clockSeen = context.clockSeen := by
  rw [gcEvaluate]
  split_ifs <;> rfl

theorem gcEvaluate_unlatched {context : GcContext} (unlatched : context.Unlatched) (now : U64) :
    (gcEvaluate context now).state = if context.meets now then .corroborated else .insufficient := by
  unfold GcContext.Unlatched at unlatched
  rw [gcEvaluate, if_pos unlatched]

theorem gcEvaluate_latched {context : GcContext} (latched : context.Latched) (now : U64) :
    gcEvaluate context now = context := by
  have closed : ¬ (context.state = .insufficient ∨ context.state = .corroborated) := latched.not_unlatched
  rw [gcEvaluate, if_neg closed]

inductive GcOperation
  | configure (config : GcConfig)
  | submit (report : GcReport) (now : U64) (valid : U8)
  | query (now : U64) (valid : U8)
  | linkLoss (id : U32) (now : U64) (valid : U8)
  | requireRejoin

def GcContext.perform (context : GcContext) : GcOperation → GcResult × GcContext
  | .configure config => gcConfigure context config
  | .submit report now valid => gcSubmit context report now valid
  | .query now valid => ((gcQuery context now valid).1, (gcQuery context now valid).2.2)
  | .linkLoss id now valid => gcLinkLoss context id now valid
  | .requireRejoin => (.ok, gcRequireRejoin context)

def GcContext.slot (context : GcContext) (index : Nat) : GcSlot := context.slots.getD index zeroSlot

def GcContext.hold (context : GcContext) (index : Nat) (report : GcReport) (now : U64) : GcContext :=
  { context with slots := context.slots.set index ⟨report, now, 1, 1⟩ }

def GcContext.lose (context : GcContext) (index : Nat) : GcContext :=
  { context with slots := context.slots.set index { context.slot index with available := 0 } }

/-- The clock value is valid and not before the last one taken. -/
def GcContext.InTime (context : GcContext) (now : U64) (valid : U8) : Prop :=
  valid = 1 ∧ (context.clockSeen ≠ 0 → context.lastClock ≤ now)

inductive GcContext.Moves (context : GcContext) : GcOperation → GcResult → GcContext → Prop
  | refuses (operation : GcOperation) (asked : operation ≠ .requireRejoin)
      (unknown : ∀ id now valid, operation = .linkLoss id now valid → context.peerIndex id = none) :
      Moves context operation .rejected context
  | latches {operation : GcOperation} {result : GcResult} {after : GcContext} (latched : after.Latched)
      (stays : context.Latched → after.state = context.state) (same : after.config = context.config) :
      Moves context operation result after
  | queries (now : U64) (valid : U8) (unlatched : context.Unlatched) (inTime : context.InTime now valid) :
      Moves context (.query now valid) .ok (gcEvaluate (context.clocked now) now)
  | holds (report : GcReport) (now : U64) (valid : U8) (index : Nat) (unlatched : context.Unlatched)
      (inTime : context.InTime now valid) (peer : context.peerIndex report.id = some index)
      (admitted : context.config.admits report = true)
      (newer : (context.slot index).seen ≠ 0 → report.epoch = (context.slot index).report.epoch ∧
        (context.slot index).report.sequence < report.sequence)
      (agrees : context.disagrees report = false) :
      Moves context (.submit report now valid) .ok (gcEvaluate ((context.clocked now).hold index report now) now)
  | loses (id : U32) (now : U64) (valid : U8) (index : Nat) (unlatched : context.Unlatched)
      (inTime : context.InTime now valid) (peer : context.peerIndex id = some index) :
      Moves context (.linkLoss id now valid) .ok (gcEvaluate ((context.clocked now).lose index) now)

theorem GcContext.Moves.rejoins {context : GcContext} (configured : context.state ≠ .unconfigured)
    (operation : GcOperation) (result : GcResult) : context.Moves operation result (gcRequireRejoin context) := by
  refine .latches (gcRequireRejoin_latches configured) ?_ (gcRequireRejoin_config context)
  rintro (conflict | rejoin)
  · rw [gcRequireRejoin, if_neg fun open' => open'.2 conflict]
  · rw [gcRequireRejoin, if_pos ⟨configured, by rw [rejoin]; decide⟩, rejoin]

theorem gcConfigure_moves {context : GcContext} (configured : context.state ≠ .unconfigured) (config : GcConfig) :
    context.Moves (.configure config) (gcConfigure context config).1 (gcConfigure context config).2 := by
  rw [gcConfigure, if_pos configured]
  exact .refuses _ nofun nofun

theorem gcQuery_moves {context : GcContext} (configured : context.state ≠ .unconfigured) (now : U64) (valid : U8) :
    context.Moves (.query now valid) (gcQuery context now valid).1 (gcQuery context now valid).2.2 := by
  rw [gcQuery, if_neg configured]
  obtain failed | ⟨trusted, ordered, checked⟩ := gcClockCheck_cases context now valid
  · have latched : (gcRequireRejoin context).Latched := gcRequireRejoin_latches configured
    simp only [failed, gcEvaluate_latched latched]
    exact .rejoins configured _ _
  · simp only [checked]
    obtain latched | unlatched := GcContext.latched_or_unlatched configured
    · have later : (context.clocked now).Latched := latched
      rw [gcEvaluate_latched later]
      exact .latches later (fun _ => rfl) rfl
    · exact .queries now valid unlatched ⟨trusted, ordered⟩

theorem gcLinkLoss_moves {context : GcContext} (configured : context.state ≠ .unconfigured) (id : U32) (now : U64)
    (valid : U8) :
    context.Moves (.linkLoss id now valid) (gcLinkLoss context id now valid).1 (gcLinkLoss context id now valid).2 := by
  rw [gcLinkLoss, if_neg configured]
  cases peer : context.peerIndex id with
  | none =>
    refine .refuses _ nofun fun other _ _ same => ?_
    injection same with same
    exact same ▸ peer
  | some index =>
    obtain failed | ⟨trusted, ordered, checked⟩ := gcClockCheck_cases context now valid
    · simp only [failed, ne_eq, reduceCtorEq, not_false_eq_true, if_true]
      exact .rejoins configured _ _
    · simp only [checked, ne_eq, not_true_eq_false, if_false]
      obtain latched | unlatched := GcContext.latched_or_unlatched configured
      · have later : ((context.clocked now).lose index).Latched := latched
        show context.Moves _ .ok (gcEvaluate ((context.clocked now).lose index) now)
        rw [gcEvaluate_latched later]
        exact .latches later (fun _ => rfl) rfl
      · exact .loses id now valid index unlatched ⟨trusted, ordered⟩ peer

theorem gcSubmit_moves {context : GcContext} (configured : context.state ≠ .unconfigured) (report : GcReport)
    (now : U64) (valid : U8) :
    context.Moves (.submit report now valid) (gcSubmit context report now valid).1
      (gcSubmit context report now valid).2 := by
  rw [gcSubmit, if_neg configured]
  cases peer : context.peerIndex report.id with
  | none => exact .refuses _ nofun nofun
  | some index =>
    obtain failed | ⟨trusted, ordered, checked⟩ := gcClockCheck_cases context now valid
    · simp only [failed, ne_eq, reduceCtorEq, not_false_eq_true, if_true]
      split_ifs with refused replayed
      · exact .refuses _ nofun nofun
      · exact .refuses _ nofun nofun
      · exact .rejoins configured _ _
    · simp only [checked, ne_eq, not_true_eq_false, if_false]
      split_ifs with refused replayed latched epoch claims disagrees
      · exact .refuses _ nofun nofun
      · exact .refuses _ nofun nofun
      · exact .latches latched (fun _ => rfl) rfl
      · have running : (context.clocked now).state ≠ .unconfigured := configured
        exact .latches (gcRequireRejoin_latches running) (fun other => absurd other latched) (gcRequireRejoin_config _)
      · exact .latches (Or.inl rfl) (fun other => absurd other latched) rfl
      · exact .latches (Or.inl rfl) (fun other => absurd other latched) rfl
      · have unlatched : context.Unlatched := (GcContext.latched_or_unlatched configured).resolve_left latched
        refine .holds report now valid index unlatched ⟨trusted, ordered⟩ peer ?_ ?_ ?_
        · simpa using refused
        · intro seen
          have same : report.epoch = (context.slot index).report.epoch := by
            by_contra other
            exact epoch ⟨seen, other⟩
          refine ⟨same, ?_⟩
          by_contra old
          exact replayed ⟨seen, same, BitVec.not_lt.mp old⟩
        · exact Bool.not_eq_true _ ▸ disagrees

theorem GcContext.perform_moves {context : GcContext} (configured : context.state ≠ .unconfigured)
    (operation : GcOperation) :
    context.Moves operation (context.perform operation).1 (context.perform operation).2 := by
  cases operation with
  | configure config => exact gcConfigure_moves configured config
  | submit report now valid => exact gcSubmit_moves configured report now valid
  | query now valid => exact gcQuery_moves configured now valid
  | linkLoss id now valid => exact gcLinkLoss_moves configured id now valid
  | requireRejoin => exact .rejoins configured _ _

theorem gcQuery_eligible {context : GcContext} {now : U64} {valid : U8}
    (eligible : (gcQuery context now valid).2.1.eligibleForLocalReview ≠ 0) :
    context.Unlatched ∧ context.InTime now valid ∧ context.meets now = true := by
  rw [gcQuery] at eligible
  split_ifs at eligible with unconfigured
  · exact absurd rfl eligible
  have flag {held : Prop} [Decidable held] (set : (if held then (1 : U8) else 0) ≠ 0) : held := by
    by_contra clear
    exact set (if_neg clear)
  obtain ⟨ok, corroborated⟩ := flag eligible
  obtain failed | ⟨trusted, ordered, checked⟩ := gcClockCheck_cases context now valid
  · rw [failed] at ok
    cases ok
  · rw [checked] at corroborated
    obtain latched | unlatched := GcContext.latched_or_unlatched unconfigured
    · have later : (context.clocked now).Latched := latched
      rw [gcEvaluate_latched later] at corroborated
      exact absurd (Or.inr corroborated) later.not_unlatched
    · have later : (context.clocked now).Unlatched := unlatched
      rw [gcEvaluate_unlatched later] at corroborated
      refine ⟨unlatched, ⟨trusted, ordered⟩, ?_⟩
      by_contra low
      have short : ¬ (context.clocked now).meets now = true := low
      rw [if_neg short] at corroborated
      cases corroborated

theorem GcContext.perform_latched {context : GcContext} (latched : context.Latched) (operation : GcOperation) :
    (context.perform operation).2.state = context.state := by
  have configured : context.state ≠ .unconfigured := by
    rcases latched with state | state <;> rw [state] <;> decide
  have moves := GcContext.perform_moves configured operation
  generalize (context.perform operation).1 = result at moves
  generalize (context.perform operation).2 = after at moves ⊢
  cases moves with
  | refuses => rfl
  | latches _ stays _ => exact stays latched
  | queries _ _ unlatched => exact absurd unlatched latched.not_unlatched
  | holds _ _ _ _ unlatched => exact absurd unlatched latched.not_unlatched
  | loses _ _ _ _ unlatched => exact absurd unlatched latched.not_unlatched

end Guardian.MultiNode
