import Guardian.MultiNode.CorroborationSoundness

namespace Guardian.MultiNode

open Word

variable {now : U64} {valid : U8}

/-- The peer at `index` may not claim actuation, or the report disagrees with one that the engine holds. -/
def GcContext.Opposes (context : GcContext) (index : Nat) (report : GcReport) : Prop :=
  (report.claimsActuation = 1 ∧ (context.config.peers.getD index zeroPeer).role ≠ 0) ∨ context.disagrees report = true

/-- The engine looks at the report, as the one of the peer at `index`. -/
def GcContext.Considers (context : GcContext) (index : Nat) (report : GcReport) : Prop :=
  context.peerIndex report.id = some index ∧ context.config.admits report = true

theorem gcSubmit_ignored {context : GcContext} {report : GcReport} (ignored : ∀ index, ¬ context.Considers index report)
    (now : U64) (valid : U8) : (gcSubmit context report now valid).2 = context := by
  by_cases unconfigured : context.state = .unconfigured
  · rw [gcSubmit, if_pos unconfigured]
  · rw [gcSubmit, if_neg unconfigured]
    cases known : context.peerIndex report.id with
    | none => rfl
    | some index =>
      have refused : (!context.config.admits report) = true := by
        rw [Bool.not_eq_true', Bool.eq_false_iff]
        exact fun admitted => ignored index ⟨known, admitted⟩
      dsimp only
      rw [if_pos refused]

theorem gcClockCheck_inTime {context : GcContext} (inTime : context.InTime now valid) :
    gcClockCheck context now valid = (.ok, context.clocked now) := by
  obtain failed | ⟨-, -, checked⟩ := gcClockCheck_cases context now valid
  · rw [gcClockCheck] at failed
    split_ifs at failed with late
    · exfalso
      rcases late with untrusted | ⟨seen, regressed⟩
      · exact untrusted inTime.1
      · exact BitVec.not_lt.mpr (inTime.2 seen) regressed
    · cases failed
  · exact checked

theorem gcClockCheck_late {context : GcContext} (late : ¬ context.InTime now valid) :
    gcClockCheck context now valid = (.clockFailure, gcRequireRejoin context) := by
  obtain failed | ⟨trusted, ordered, -⟩ := gcClockCheck_cases context now valid
  · exact failed
  · exact absurd ⟨trusted, ordered⟩ late

section considered

variable {context : GcContext} {index : Nat} {report : GcReport} (configured : context.state ≠ .unconfigured)
  (considered : context.Considers index report) (unseen : (context.slot index).seen = 0)

include configured considered unseen

theorem gcSubmit_late (late : ¬ context.InTime now valid) :
    (gcSubmit context report now valid).2 = gcRequireRejoin context := by
  unfold GcContext.slot at unseen
  rw [gcSubmit, if_neg configured, considered.1]
  simp only [considered.2, unseen, gcClockCheck_late late]
  simp

theorem gcSubmit_latched (inTime : context.InTime now valid) (latched : context.Latched) :
    (gcSubmit context report now valid).2 = context.clocked now := by
  unfold GcContext.slot at unseen
  have still : (context.clocked now).state = .conflictLatched ∨ (context.clocked now).state = .rejoinRequired := latched
  rw [gcSubmit, if_neg configured, considered.1]
  simp only [considered.2, unseen, gcClockCheck_inTime inTime]
  simp [still]

theorem gcSubmit_opposed (inTime : context.InTime now valid) (unlatched : context.Unlatched)
    (opposes : context.Opposes index report) :
    (gcSubmit context report now valid).2 = (context.clocked now).latchConflict report := by
  unfold GcContext.slot at unseen
  have still : ¬ ((context.clocked now).state = .conflictLatched ∨ (context.clocked now).state = .rejoinRequired) :=
    fun latched => GcContext.Latched.not_unlatched latched unlatched
  rw [gcSubmit, if_neg configured, considered.1]
  simp only [considered.2, unseen, gcClockCheck_inTime inTime, still]
  obtain usurps | disagrees := opposes
  · simp only [Bool.not_true, Bool.false_eq_true, ne_eq, not_true_eq_false, false_and, if_false]
    rw [if_pos usurps]
  · have other : (context.clocked now).disagrees report = true := disagrees
    simp [other]

theorem gcSubmit_held (inTime : context.InTime now valid) (unlatched : context.Unlatched)
    (agrees : ¬ context.Opposes index report) :
    (gcSubmit context report now valid).2 = gcEvaluate ((context.clocked now).hold index report now) now := by
  unfold GcContext.slot at unseen
  have still : ¬ ((context.clocked now).state = .conflictLatched ∨ (context.clocked now).state = .rejoinRequired) :=
    fun latched => GcContext.Latched.not_unlatched latched unlatched
  rw [GcContext.Opposes, not_or] at agrees
  have other : ¬ (context.clocked now).disagrees report = true := agrees.2
  rw [gcSubmit, if_neg configured, considered.1]
  simp only [considered.2, unseen, gcClockCheck_inTime inTime, still, agrees.1, other]
  simp [GcContext.hold]

end considered

/-- The engine latched a conflict at the clock value of the submissions. -/
structure Settled (now : U64) (valid : U8) (context : GcContext) : Prop where
  conflict : context.state = .conflictLatched
  present : context.conflictPresent = 1
  lastClock : context.lastClock = now
  clockSeen : context.clockSeen = 1
  trusted : valid = 1

theorem GcContext.clocked_inTime (context : GcContext) (trusted : valid = 1) :
    (context.clocked now).InTime now valid := ⟨trusted, fun _ => BitVec.le_refl _⟩

theorem Settled.submit {context : GcContext} (settled : Settled now valid context) (report : GcReport) :
    (gcSubmit context report now valid).2 = context := by
  have configured : context.state ≠ .unconfigured := settled.conflict ▸ nofun
  have inTime : context.InTime now valid := ⟨settled.trusted, fun _ => settled.lastClock ▸ BitVec.le_refl _⟩
  have same : context.clocked now = context := by
    rw [GcContext.clocked, ← settled.lastClock, ← settled.clockSeen]
  rw [gcSubmit, if_neg configured]
  cases context.peerIndex report.id with
  | none => rfl
  | some index =>
    simp only [gcClockCheck_inTime inTime, same]
    split_ifs with refused replayed late latched
    · rfl
    · rfl
    · exact absurd rfl late
    · rfl
    all_goals exact absurd (Or.inl settled.conflict) latched

theorem settled_latchConflict {context : GcContext} (inTime : context.InTime now valid) (report : GcReport) :
    Settled now valid ((context.clocked now).latchConflict report) := ⟨rfl, rfl, rfl, rfl, inTime.1⟩

/-- The same context, or two conflicts latched under one configuration. -/
def Reordered (now : U64) (valid : U8) (left right : GcContext) : Prop :=
  left = right ∨ (Settled now valid left ∧ Settled now valid right ∧ left.config = right.config)

theorem reordered_equivalence (now : U64) (valid : U8) : Equivalence (Reordered now valid) := by
  refine ⟨fun _ => Or.inl rfl, ?_, ?_⟩
  · rintro left right (rfl | ⟨one, two, config⟩)
    · exact Or.inl rfl
    · exact Or.inr ⟨two, one, config.symm⟩
  · rintro left middle right (rfl | ⟨one, two, config⟩) (rfl | ⟨three, four, same⟩)
    · exact Or.inl rfl
    · exact Or.inr ⟨three, four, same⟩
    · exact Or.inr ⟨one, two, config⟩
    · exact Or.inr ⟨one, four, config.trans same⟩

theorem Reordered.submit {left right : GcContext} (reordered : Reordered now valid left right) (report : GcReport) :
    Reordered now valid (gcSubmit left report now valid).2 (gcSubmit right report now valid).2 := by
  obtain rfl | ⟨one, two, config⟩ := reordered
  · exact Or.inl rfl
  · rw [one.submit report, two.submit report]
    exact Or.inr ⟨one, two, config⟩

/-- The context once the report is held and the evidence evaluated. -/
def GcContext.held (context : GcContext) (now : U64) (index : Nat) (report : GcReport) : GcContext :=
  gcEvaluate ((context.clocked now).hold index report now) now

@[simp] theorem GcContext.held_config (context : GcContext) (now : U64) (index : Nat) (report : GcReport) :
    (context.held now index report).config = context.config := gcEvaluate_config _ _

theorem GcContext.held_slots (context : GcContext) (now : U64) (index : Nat) (report : GcReport) :
    (context.held now index report).slots = context.slots.set index ⟨report, now, 1, 1⟩ := gcEvaluate_slots _ _

theorem GcContext.held_slot {context : GcContext} {index : Nat} (bound : index < context.slots.length) (now : U64)
    (report : GcReport) (other : Nat) :
    (context.held now index report).slot other = if other = index then ⟨report, now, 1, 1⟩ else context.slot other :=
  GcContext.slot_of_set bound (context.held_slots now index report) other

theorem GcContext.Unlatched.held {context : GcContext} (unlatched : context.Unlatched) (now : U64) (index : Nat)
    (report : GcReport) : (context.held now index report).Unlatched := by
  have still : ((context.clocked now).hold index report now).Unlatched := unlatched
  rw [GcContext.held, GcContext.Unlatched, gcEvaluate_unlatched still]
  split_ifs
  · exact Or.inr rfl
  · exact Or.inl rfl

theorem GcContext.held_inTime {context : GcContext} (trusted : valid = 1) (now : U64) (index : Nat)
    (report : GcReport) : (context.held now index report).InTime now valid := by
  refine ⟨trusted, fun _ => ?_⟩
  rw [GcContext.held, gcEvaluate_lastClock]
  exact BitVec.le_refl _

theorem gcEvaluate_eq {context : GcContext} (unlatched : context.Unlatched) (now : U64) :
    gcEvaluate context now = { context with state := if context.meets now then .corroborated else .insufficient } := by
  unfold GcContext.Unlatched at unlatched
  rw [gcEvaluate, if_pos unlatched]

theorem GcContext.held_held {context : GcContext} (unlatched : context.Unlatched) (first second : Nat)
    (one two : GcReport) :
    (context.held now first one).held now second two =
      gcEvaluate (((context.clocked now).hold first one now).hold second two now) now := by
  have before : ((context.clocked now).hold first one now).Unlatched := unlatched
  have after : (((context.clocked now).hold first one now).hold second two now).Unlatched := unlatched
  have again : (((context.held now first one).clocked now).hold second two now).Unlatched := unlatched.held now first one
  rw [GcContext.held, gcEvaluate_eq again, gcEvaluate_eq after]
  simp only [GcContext.held, gcEvaluate_eq before]
  rfl

theorem GcContext.held_comm {context : GcContext} (unlatched : context.Unlatched) {first second : Nat}
    (apart : first ≠ second) (one two : GcReport) :
    (context.held now first one).held now second two = (context.held now second two).held now first one := by
  rw [GcContext.held_held unlatched, GcContext.held_held unlatched]
  have swapped : ((context.clocked now).hold first one now).hold second two now =
      ((context.clocked now).hold second two now).hold first one now := by
    simp only [GcContext.hold, List.set_comm _ _ apart]
  rw [swapped]

theorem GcContext.Opposes.held {context : GcContext} {index other : Nat} {report held : GcReport}
    (opposes : context.Opposes index report) (bound : other < context.slots.length)
    (unseen : (context.slot other).seen = 0) : (context.held now other held).Opposes index report := by
  obtain usurps | disagrees := opposes
  · exact Or.inl (by rw [GcContext.held_config]; exact usurps)
  · obtain ⟨place, small, seen, differs⟩ := GcContext.disagrees_iff.mp disagrees
    refine Or.inr (GcContext.disagrees_iff.mpr ⟨place, by rw [GcContext.held_config]; exact small, ?_⟩)
    have elsewhere : place ≠ other := by
      rintro rfl
      exact seen unseen
    rw [GcContext.held_slot bound, if_neg elsewhere]
    exact ⟨seen, differs⟩

/-- A report that was not opposed is opposed by a held one exactly when their commitments differ. -/
theorem GcContext.opposes_held (now : U64) {context : GcContext} {index : Nat} (other : Nat) {report : GcReport}
    (held : GcReport) (agrees : ¬ context.Opposes index report) (known : other < context.config.peers.length)
    (bound : other < context.slots.length) :
    (context.held now other held).Opposes index report ↔ report.commitment ≠ held.commitment := by
  rw [GcContext.Opposes, not_or] at agrees
  rw [GcContext.Opposes, GcContext.held_config, GcContext.disagrees_iff]
  constructor
  · rintro (usurps | ⟨place, small, seen, differs⟩)
    · exact absurd usurps agrees.1
    · rw [GcContext.held_slot bound] at seen differs
      split_ifs at seen differs with here
      · exact differs
      · rw [GcContext.held_config] at small
        exact absurd (GcContext.disagrees_iff.mpr ⟨place, small, seen, differs⟩) agrees.2
  · intro differs
    refine Or.inr ⟨other, by rw [GcContext.held_config]; exact known, ?_⟩
    rw [GcContext.held_slot bound, if_pos rfl]
    exact ⟨(by decide : (1 : U8) ≠ 0), differs⟩

/-- Reports that the engine considers come from different peers, and no report of these peers is held. -/
structure Fresh (context : GcContext) (reports : List GcReport) : Prop where
  configured : context.state = .unconfigured → context.config.peers = []
  fits : context.Fits
  once : reports.Pairwise fun one other => one.id = other.id → context.peerIndex one.id = none
  unseen : ∀ report ∈ reports, ∀ index, context.peerIndex report.id = some index → (context.slot index).seen = 0

theorem gcSubmit_config (context : GcContext) (report : GcReport) (now : U64) (valid : U8) :
    (gcSubmit context report now valid).2.config = context.config := by
  by_cases unconfigured : context.state = .unconfigured
  · rw [gcSubmit, if_pos unconfigured]
  · have moves := gcSubmit_moves unconfigured report now valid
    generalize (gcSubmit context report now valid).1 = result at moves
    generalize (gcSubmit context report now valid).2 = after at moves ⊢
    cases moves with
    | refuses => rfl
    | latches _ _ same => exact same
    | holds => exact gcEvaluate_config _ _

theorem Fresh.considered {context : GcContext} {reports : List GcReport} (fresh : Fresh context reports) {index : Nat}
    {report : GcReport} (considered : context.Considers index report) : context.state ≠ .unconfigured := by
  intro unconfigured
  have bound := GcContext.peerIndex_lt considered.1
  rw [fresh.configured unconfigured] at bound
  exact absurd bound (Nat.not_lt_zero _)

/-- Two reports that the engine considers, of different peers of which it holds none. -/
structure Apart (context : GcContext) (i j : Nat) (first second : GcReport) : Prop where
  configured : context.state ≠ .unconfigured
  fits : context.Fits
  different : i ≠ j
  first : context.Considers i first
  second : context.Considers j second
  firstUnseen : (context.slot i).seen = 0
  secondUnseen : (context.slot j).seen = 0

theorem Apart.symm {context : GcContext} {i j : Nat} {first second : GcReport} (apart : Apart context i j first second) :
    Apart context j i second first :=
  ⟨apart.configured, apart.fits, apart.different.symm, apart.second, apart.first, apart.secondUnseen, apart.firstUnseen⟩

section apart

variable {context : GcContext} {i j : Nat} {first second : GcReport}

theorem Apart.submit_opposed (apart : Apart context i j first second) (inTime : context.InTime now valid)
    (unlatched : context.Unlatched) (opposes : context.Opposes i first) :
    Settled now valid (gcSubmit context first now valid).2 := by
  rw [gcSubmit_opposed apart.configured apart.first apart.firstUnseen inTime unlatched opposes]
  exact settled_latchConflict inTime first

theorem Apart.submit_held (apart : Apart context i j first second) (inTime : context.InTime now valid)
    (unlatched : context.Unlatched) (agrees : ¬ context.Opposes i first) :
    (gcSubmit context first now valid).2 = context.held now i first :=
  gcSubmit_held apart.configured apart.first apart.firstUnseen inTime unlatched agrees

theorem GcContext.Unlatched.configured {context : GcContext} (unlatched : context.Unlatched) :
    context.state ≠ .unconfigured := by
  rcases unlatched with state | state <;> rw [state] <;> decide

theorem Apart.held (apart : Apart context i j first second) (unlatched : context.Unlatched) (now : U64) :
    (context.held now i first).state ≠ .unconfigured ∧ (context.held now i first).Considers j second ∧
      ((context.held now i first).slot j).seen = 0 := by
  refine ⟨(unlatched.held now i first).configured, ?_, ?_⟩
  · have second := apart.second
    rw [GcContext.Considers, GcContext.peerIndex] at second ⊢
    rw [GcContext.held_config]
    exact second
  · rw [GcContext.held_slot (apart.fits.bound apart.first.1), if_neg apart.different.symm]
    exact apart.secondUnseen

theorem Apart.submit_held_opposed (apart : Apart context i j first second) (inTime : context.InTime now valid)
    (unlatched : context.Unlatched) (opposes : (context.held now i first).Opposes j second) :
    Settled now valid (gcSubmit (context.held now i first) second now valid).2 := by
  obtain ⟨configured, considered, unseen⟩ := apart.held unlatched now
  have later : (context.held now i first).InTime now valid := GcContext.held_inTime inTime.1 now i first
  rw [gcSubmit_opposed configured considered unseen later (unlatched.held now i first) opposes]
  exact settled_latchConflict later second

theorem Apart.submit_held_held (apart : Apart context i j first second) (inTime : context.InTime now valid)
    (unlatched : context.Unlatched) (agrees : ¬ (context.held now i first).Opposes j second) :
    (gcSubmit (context.held now i first) second now valid).2 = (context.held now i first).held now j second := by
  obtain ⟨configured, considered, unseen⟩ := apart.held unlatched now
  exact gcSubmit_held configured considered unseen (GcContext.held_inTime inTime.1 now i first)
    (unlatched.held now i first) agrees

theorem Apart.settles (apart : Apart context i j first second) (inTime : context.InTime now valid)
    (unlatched : context.Unlatched) (opposes : context.Opposes i first) :
    Settled now valid (gcSubmit (gcSubmit context first now valid).2 second now valid).2 ∧
      Settled now valid (gcSubmit (gcSubmit context second now valid).2 first now valid).2 := by
  have settled := apart.submit_opposed inTime unlatched opposes
  refine ⟨by rw [settled.submit second]; exact settled, ?_⟩
  by_cases other : context.Opposes j second
  · have settled := apart.symm.submit_opposed inTime unlatched other
    rw [settled.submit first]
    exact settled
  · rw [apart.symm.submit_held inTime unlatched other]
    apply apart.symm.submit_held_opposed inTime unlatched
    exact opposes.held (apart.fits.bound apart.second.1) apart.secondUnseen

theorem gcRequireRejoin_keeps (context : GcContext) : (gcRequireRejoin context).slots = context.slots ∧
    (gcRequireRejoin context).lastClock = context.lastClock ∧ (gcRequireRejoin context).clockSeen = context.clockSeen := by
  rw [gcRequireRejoin]
  split_ifs
  · exact ⟨rfl, rfl, rfl⟩
  · exact ⟨rfl, rfl, rfl⟩

theorem Apart.submit_late (apart : Apart context i j first second) (late : ¬ context.InTime now valid) :
    (gcSubmit (gcSubmit context first now valid).2 second now valid).2 = gcRequireRejoin (gcRequireRejoin context) := by
  obtain ⟨slots, lastClock, clockSeen⟩ := gcRequireRejoin_keeps context
  have configured : (gcRequireRejoin context).state ≠ .unconfigured := by
    obtain conflict | rejoin := gcRequireRejoin_latches apart.configured
    · exact conflict ▸ nofun
    · exact rejoin ▸ nofun
  have considered : (gcRequireRejoin context).Considers j second := by
    have second := apart.second
    rw [GcContext.Considers, GcContext.peerIndex] at second ⊢
    rwa [gcRequireRejoin_config]
  have unseen : ((gcRequireRejoin context).slot j).seen = 0 := by
    rw [GcContext.slot, slots]
    exact apart.secondUnseen
  have still : ¬ (gcRequireRejoin context).InTime now valid := by
    rw [GcContext.InTime, lastClock, clockSeen]
    exact late
  rw [gcSubmit_late apart.configured apart.first apart.firstUnseen late, gcSubmit_late configured considered unseen still]

theorem Apart.submit_latched (apart : Apart context i j first second) (inTime : context.InTime now valid)
    (latched : context.Latched) :
    (gcSubmit (gcSubmit context first now valid).2 second now valid).2 = context.clocked now := by
  have still : (context.clocked now).InTime now valid := context.clocked_inTime inTime.1
  have later : (context.clocked now).Latched := latched
  have configured : (context.clocked now).state ≠ .unconfigured := apart.configured
  have considered : (context.clocked now).Considers j second := apart.second
  have unseen : ((context.clocked now).slot j).seen = 0 := apart.secondUnseen
  rw [gcSubmit_latched apart.configured apart.first apart.firstUnseen inTime latched,
    gcSubmit_latched configured considered unseen still later]
  rfl

theorem Apart.commutes (apart : Apart context i j first second) (now : U64) (valid : U8) :
    Reordered now valid (gcSubmit (gcSubmit context first now valid).2 second now valid).2
      (gcSubmit (gcSubmit context second now valid).2 first now valid).2 := by
  have config : (gcSubmit (gcSubmit context first now valid).2 second now valid).2.config =
      (gcSubmit (gcSubmit context second now valid).2 first now valid).2.config := by
    simp only [gcSubmit_config]
  by_cases inTime : context.InTime now valid
  swap
  · rw [apart.submit_late inTime, apart.symm.submit_late inTime]
    exact Or.inl rfl
  obtain latched | unlatched := GcContext.latched_or_unlatched apart.configured
  · rw [apart.submit_latched inTime latched, apart.symm.submit_latched inTime latched]
    exact Or.inl rfl
  by_cases one : context.Opposes i first
  · obtain ⟨left, right⟩ := apart.settles inTime unlatched one
    exact Or.inr ⟨left, right, config⟩
  by_cases two : context.Opposes j second
  · obtain ⟨right, left⟩ := apart.symm.settles inTime unlatched two
    exact Or.inr ⟨left, right, config⟩
  have first_known := GcContext.peerIndex_lt apart.first.1
  have second_known := GcContext.peerIndex_lt apart.second.1
  have second_meets := GcContext.opposes_held now _ first two first_known (apart.fits.bound apart.first.1)
  have first_meets := GcContext.opposes_held now _ second one second_known (apart.fits.bound apart.second.1)
  rw [apart.submit_held inTime unlatched one, apart.symm.submit_held inTime unlatched two] at config ⊢
  by_cases same : first.commitment = second.commitment
  · rw [apart.submit_held_held inTime unlatched (fun opposes => second_meets.mp opposes same.symm),
      apart.symm.submit_held_held inTime unlatched (fun opposes => first_meets.mp opposes same)]
    exact Or.inl (GcContext.held_comm unlatched apart.different first second)
  · have left := apart.submit_held_opposed inTime unlatched (second_meets.mpr fun equal => same equal.symm)
    have right := apart.symm.submit_held_opposed inTime unlatched (first_meets.mpr same)
    exact Or.inr ⟨left, right, config⟩

end apart

theorem submit_commutes {context : GcContext} {first second : GcReport} {rest : List GcReport}
    (fresh : Fresh context (first :: second :: rest)) (now : U64) (valid : U8) :
    Reordered now valid (gcSubmit (gcSubmit context first now valid).2 second now valid).2
      (gcSubmit (gcSubmit context second now valid).2 first now valid).2 := by
  have considers (report other : GcReport) (index : Nat) :
      (gcSubmit context other now valid).2.Considers index report ↔ context.Considers index report := by
    rw [GcContext.Considers, GcContext.peerIndex, gcSubmit_config, GcContext.Considers, GcContext.peerIndex]
  by_cases one : ∃ index, context.Considers index first
  swap
  · have ignored := not_exists.mp one
    rw [gcSubmit_ignored ignored, gcSubmit_ignored fun index => mt (considers first second index).mp (ignored index)]
    exact (reordered_equivalence now valid).refl _
  by_cases two : ∃ index, context.Considers index second
  swap
  · have ignored := not_exists.mp two
    rw [gcSubmit_ignored ignored, gcSubmit_ignored fun index => mt (considers second first index).mp (ignored index)]
    exact (reordered_equivalence now valid).refl _
  obtain ⟨i, one⟩ := one
  obtain ⟨j, two⟩ := two
  have configured := fresh.considered one
  have different : i ≠ j := by
    rintro rfl
    have once := (List.pairwise_cons.mp fresh.once).1 second List.mem_cons_self (GcContext.peerIndex_injective one.1 two.1)
    rw [one.1] at once
    cases once
  have first_unseen := fresh.unseen first List.mem_cons_self i one.1
  have second_unseen := fresh.unseen second (List.mem_cons_of_mem _ List.mem_cons_self) j two.1
  have apart : Apart context i j first second :=
    ⟨configured, fresh.fits, different, one, two, first_unseen, second_unseen⟩
  exact apart.commutes now valid

theorem gcSubmit_elsewhere {context : GcContext} {index : Nat} {report : GcReport} (configured : context.state ≠ .unconfigured)
    (fits : context.Fits) (considered : context.Considers index report) (unseen : (context.slot index).seen = 0)
    (now : U64) (valid : U8) :
    (gcSubmit context report now valid).2.state ≠ .unconfigured ∧
      (gcSubmit context report now valid).2.slots.length = context.slots.length ∧
      ∀ other, other ≠ index → (gcSubmit context report now valid).2.slot other = context.slot other := by
  by_cases inTime : context.InTime now valid
  swap
  · rw [gcSubmit_late configured considered unseen inTime]
    have slots := (gcRequireRejoin_keeps context).1
    refine ⟨?_, by rw [slots], fun other _ => by rw [GcContext.slot, slots, GcContext.slot]⟩
    obtain conflict | rejoin := gcRequireRejoin_latches configured
    · simp [conflict]
    · simp [rejoin]
  obtain latched | unlatched := GcContext.latched_or_unlatched configured
  · rw [gcSubmit_latched configured considered unseen inTime latched]
    exact ⟨configured, rfl, fun _ _ => rfl⟩
  by_cases opposes : context.Opposes index report
  · rw [gcSubmit_opposed configured considered unseen inTime unlatched opposes]
    exact ⟨by simp [GcContext.latchConflict], rfl, fun _ _ => rfl⟩
  · have held : (gcSubmit context report now valid).2 = context.held now index report :=
      gcSubmit_held configured considered unseen inTime unlatched opposes
    rw [held]
    refine ⟨(unlatched.held now index report).configured, ?_, fun other apart => ?_⟩
    · rw [GcContext.held_slots, List.length_set]
    · rw [GcContext.held_slot (fits.bound considered.1), if_neg apart]

theorem Fresh.submit {context : GcContext} {report : GcReport} {rest : List GcReport}
    (fresh : Fresh context (report :: rest)) (now : U64) (valid : U8) : Fresh (gcSubmit context report now valid).2 rest := by
  have config := gcSubmit_config context report now valid
  obtain ⟨first, once⟩ := List.pairwise_cons.mp fresh.once
  have later (other : GcReport) (member : other ∈ rest) := fresh.unseen other (List.mem_cons_of_mem _ member)
  by_cases one : ∃ index, context.Considers index report
  swap
  · rw [gcSubmit_ignored (not_exists.mp one)]
    exact ⟨fresh.configured, fresh.fits, once, later⟩
  obtain ⟨index, one⟩ := one
  obtain ⟨configured, length, elsewhere⟩ := gcSubmit_elsewhere (fresh.considered one) fresh.fits one
    (fresh.unseen report List.mem_cons_self index one.1) now valid
  have peerIndex (id : U32) : (gcSubmit context report now valid).2.peerIndex id = context.peerIndex id := by
    rw [GcContext.peerIndex, config, GcContext.peerIndex]
  constructor
  · exact fun unconfigured => absurd unconfigured configured
  · exact ⟨by rw [config]; exact fresh.fits.1, length.trans fresh.fits.2⟩
  · exact once.imp fun unknown same => by rw [peerIndex]; exact unknown same
  · intro other member place known
    rw [peerIndex] at known
    have apart : place ≠ index := by
      rintro rfl
      have unknown := first other member (GcContext.peerIndex_injective one.1 known)
      rw [one.1] at unknown
      cases unknown
    rw [elsewhere place apart]
    exact later other member place known

theorem Fresh.reorders {context : GcContext} {left right : List GcReport} (perm : left.Perm right)
    (fresh : Fresh context left) : Fresh context right := by
  refine ⟨fresh.configured, fresh.fits, (perm.pairwise_iff ?_).mp fresh.once, ?_⟩
  · intro one other unknown same
    rw [same]
    exact unknown same.symm
  · intro report member
    exact fresh.unseen report (perm.mem_iff.mpr member)

/-- The engine after the reports, submitted one after another at one clock value. -/
def submitAll (context : GcContext) (reports : List GcReport) (now : U64) (valid : U8) : GcContext :=
  Run.after (fun context report => (gcSubmit context report now valid).2) reports context

theorem submitAll_perm {context : GcContext} {reports reordered : List GcReport} (fresh : Fresh context reports)
    (perm : reports.Perm reordered) (now : U64) (valid : U8) :
    Reordered now valid (submitAll context reports now valid) (submitAll context reordered now valid) :=
  Run.after_perm (reordered_equivalence now valid) (fun _ _ report close => close.submit report)
    (fun _ _ _ fresh => fresh.submit now valid) (fun _ _ _ perm fresh => fresh.reorders perm)
    (fun _ _ _ _ fresh => submit_commutes fresh now valid) perm fresh

theorem gcConfigure_fresh (config : GcConfig) {reports : List GcReport}
    (once : reports.Pairwise fun one other => one.id = other.id → one.id ∉ config.peers.map GcPeer.id) :
    Fresh (gcConfigure gcInit config).2 reports := by
  by_cases accepted : (gcConfigure gcInit config).1 = .ok
  · obtain ⟨small, -, configured⟩ := gcConfigure_accepts accepted
    rw [configured]
    refine ⟨nofun, ⟨small, rfl⟩, once.imp ?_, fun _ _ index _ => GcContext.zero_slot rfl index⟩
    intro one other unlisted same
    rw [GcContext.peerIndex, List.findIdx?_eq_none_iff]
    intro peer member
    exact decide_eq_false fun listed => unlisted same (listed ▸ List.mem_map_of_mem member)
  · have refused : (gcConfigure gcInit config).2 = gcInit := by
      rw [gcConfigure] at accepted ⊢
      split_ifs at accepted ⊢
      · rfl
      · rfl
      · rfl
      · dsimp only at accepted ⊢
        split_ifs at accepted ⊢
        · rfl
        · exact absurd rfl accepted
      · rfl
    rw [refused]
    exact ⟨fun _ => rfl, ⟨by decide, rfl⟩, once.imp fun _ _ => rfl, fun _ _ _ known => by cases known⟩

theorem Settled.query {context : GcContext} (settled : Settled now valid context) (later : U64) (laterValid : U8) :
    (gcQuery context later laterValid).1 = (if laterValid ≠ 1 ∨ later < now then .clockFailure else .ok) ∧
      (gcQuery context later laterValid).2.1.state = .conflictLatched ∧
      (gcQuery context later laterValid).2.1.eligibleForLocalReview = 0 ∧
      (gcQuery context later laterValid).2.1.config = context.config ∧
      (gcQuery context later laterValid).2.1.conflictPresent = 1 := by
  have configured : context.state ≠ .unconfigured := by simp [settled.conflict]
  have latched : context.Latched := Or.inl settled.conflict
  have rejoin : gcRequireRejoin context = context := by rw [gcRequireRejoin, if_neg fun open' => open'.2 settled.conflict]
  have started : context.clockSeen ≠ 0 := settled.clockSeen ▸ by decide
  rw [gcQuery, if_neg configured]
  by_cases late : laterValid ≠ 1 ∨ later < now
  · have failed : ¬ context.InTime later laterValid := by
      rintro ⟨trusted, ordered⟩
      rw [settled.lastClock] at ordered
      rcases late with untrusted | regressed
      · exact untrusted trusted
      · exact BitVec.not_lt.mpr (ordered started) regressed
    rw [if_pos late, gcClockCheck_late failed, rejoin]
    dsimp only
    rw [gcEvaluate_latched latched]
    exact ⟨rfl, settled.conflict, rfl, rfl, settled.present⟩
  · rw [not_or, not_not] at late
    have inTime : context.InTime later laterValid :=
      ⟨late.1, fun _ => by rw [settled.lastClock]; exact BitVec.not_lt.mp late.2⟩
    have still : (context.clocked later).Latched := latched
    have open' : ¬ (context.clocked later).state = .corroborated := by simp [GcContext.clocked, settled.conflict]
    rw [if_neg (not_or.mpr ⟨not_not.mpr late.1, late.2⟩), gcClockCheck_inTime inTime]
    dsimp only
    rw [gcEvaluate_latched still]
    exact ⟨rfl, settled.conflict, if_neg fun both => open' both.2, rfl, settled.present⟩

/-- The class, and what a query answers apart from the evidence before a conflict, do not depend on the order. -/
theorem submission_order (config : GcConfig) {reports reordered : List GcReport} (perm : reports.Perm reordered)
    (once : reports.Pairwise fun one other => one.id = other.id → one.id ∉ config.peers.map GcPeer.id) (now : U64)
    (valid : U8) :
    let first := submitAll (gcConfigure gcInit config).2 reports now valid
    let second := submitAll (gcConfigure gcInit config).2 reordered now valid
    first.state = second.state ∧
    (first.state ≠ .conflictLatched → first.slots = second.slots ∧
      ∀ later laterValid, gcQuery first later laterValid = gcQuery second later laterValid) ∧
    ∀ later laterValid, (gcQuery first later laterValid).1 = (gcQuery second later laterValid).1 ∧
      (gcQuery first later laterValid).2.1.state = (gcQuery second later laterValid).2.1.state ∧
      (gcQuery first later laterValid).2.1.eligibleForLocalReview =
        (gcQuery second later laterValid).2.1.eligibleForLocalReview ∧
      (gcQuery first later laterValid).2.1.config = (gcQuery second later laterValid).2.1.config ∧
      (gcQuery first later laterValid).2.1.conflictPresent = (gcQuery second later laterValid).2.1.conflictPresent := by
  intro first second
  have reordered : Reordered now valid first second := submitAll_perm (gcConfigure_fresh config once) perm now valid
  obtain same | ⟨one, two, config_same⟩ := reordered
  · rw [same]
    exact ⟨rfl, fun _ => ⟨rfl, fun _ _ => rfl⟩, fun _ _ => ⟨rfl, rfl, rfl, rfl, rfl⟩⟩
  · refine ⟨one.conflict.trans two.conflict.symm, fun open' => absurd one.conflict open', ?_⟩
    intro later laterValid
    obtain ⟨result, state, eligible, config, present⟩ := one.query later laterValid
    obtain ⟨result', state', eligible', config', present'⟩ := two.query later laterValid
    rw [result, state, eligible, config, present, result', state', eligible', config', present', config_same]
    exact ⟨rfl, rfl, rfl, rfl, rfl⟩

/-- In a conflict the slots keep what was held before it, which depends on the order. -/
theorem submission_order_in_conflict :
    let first := pairReport 7 zeroReport.commitment
    let second := pairReport 8 ⟨List.replicate 32 1, rfl⟩
    let start := (gcConfigure gcInit pairConfig).2
    (submitAll start [first, second] 3 1).slots ≠ (submitAll start [second, first] 3 1).slots ∧
      (gcQuery (submitAll start [first, second] 3 1) 3 1).2.1 ≠ (gcQuery (submitAll start [second, first] 3 1) 3 1).2.1 := by
  decide

theorem submission_order_of_pair :
    let first := pairReport 7 zeroReport.commitment
    let second := pairReport 8 zeroReport.commitment
    let start := (gcConfigure gcInit pairConfig).2
    let one := submitAll start [second, first] 3 1
    let other := submitAll start [first, second] 3 1
    one.state = other.state ∧ one.state ≠ .conflictLatched ∧ one.slots = other.slots ∧
      gcQuery one 4 1 = gcQuery other 4 1 ∧ (gcQuery one 4 1).2.1.eligibleForLocalReview = 1 := by
  intro first second start one other
  have order := submission_order pairConfig (List.Perm.swap first second []) (by decide) 3 1
  have agreed : one.state ≠ .conflictLatched := by decide
  exact ⟨order.1, agreed, (order.2.1 agreed).1, (order.2.1 agreed).2 4 1, by decide⟩

end Guardian.MultiNode
