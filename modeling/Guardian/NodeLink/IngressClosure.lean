import Guardian.NodeLink.IngressRun

namespace Guardian.NodeLink

open Word Device

theorem giEncodeRecord_some {c : GiConfig} {s : GiState} (configured : giConfigOk c = true) (state : giStateOk s = true) :
    giEncodeRecord c s = some (giRecord c s) := by
  rw [giEncodeRecord, if_neg (by simp [configured, state])]

theorem giDecode_encode {x : GiContext} {s : GiState} {b : Bytes 256}
    (encoded : giEncodeRecord x.config s = some b) : giDecode x b = some s := by
  have state : giRecordState b.1 = s := by
    rw [(giEncodeRecord_eq encoded).1]
    exact giRecordState_body x.config s _
  rw [giDecode, state, if_pos encoded]

theorem giEncode_decode {x : GiContext} {s : GiState} {b : Bytes 256} (decoded : giDecode x b = some s) :
    giEncodeRecord x.config s = some b := by
  unfold giDecode at decoded
  split_ifs at decoded with encoded
  cases decoded
  exact encoded

theorem giStateOk_iff (s : GiState) : giStateOk s = true ↔
    s.hasReport ≤ 1 ∧ s.pending ≤ 1 ∧ s.eligible ≤ 1 ∧
      (s.hasReport = 0 → s.obsSequence = 0 ∧ s.eligible = 0) ∧ (s.hasReport ≠ 0 → s.obsSequence ≠ 0) ∧
      (s.pending ≠ 0 → s.eligible = 0 ∧ s.localEpoch ≠ 0 ∧ s.localSequence ≠ 0 ∧ s.lastTime < s.deadline) ∧
      (s.eligible ≠ 0 → s.hasReport = 1 ∧ s.pending = 0 ∧ s.ackSequence ≠ 0 ∧ s.localEpoch ≠ 0 ∧
        s.localSequence ≠ 0 ∧ s.lastTime < s.deadline) := by
  simp only [giStateOk, Bool.and_eq_true, Bool.or_eq_true, beq_iff_eq, bne_iff_ne, decide_eq_true_eq, and_assoc,
    gt_iff_lt]
  simp only [or_iff_not_imp_left, not_not, ne_eq]

/-- A state that can be encoded at every time before its deadline. -/
def GiState.Committable (s : GiState) : Prop :=
  ∀ now : U32, ¬ ((s.pending ≠ 0 ∨ s.eligible ≠ 0) ∧ now ≥ s.deadline) → giStateOk { s with lastTime := now } = true

theorem flag_le : (0 : U8) ≤ 1 ∧ (1 : U8) ≤ 1 ∧ (1 : U8) ≠ 0 := by decide

theorem giNext_committable {live next : GiState} {e : GseUnverified} {now time revision : U32}
    (state : giStateOk live = true) (valid : gseValid e = true) (passes : giNext live e now = .ok next) :
    GiState.Committable { next with lastTime := time, revision } := by
  obtain ⟨report, pending, eligible, silent, reported, referred, heard⟩ := (giStateOk_iff live).mp state
  have sequence : e.sequence ≠ 0 := ((gseValid_iff e).mp valid).2.2.2.2.2.1
  intro later early
  apply (giStateOk_iff _).mpr
  unfold giNext at passes
  split_ifs at passes with observation old replayed mismatched late
  · cases passes
    have inTime (waits : live.pending ≠ 0) : later < live.deadline :=
      BitVec.not_le.mp fun late => early ⟨Or.inl waits, late⟩
    refine ⟨flag_le.2.1, pending, flag_le.1, fun none => absurd none flag_le.2.2, fun _ => sequence, ?_,
      fun some => absurd rfl some⟩
    intro waits
    obtain ⟨-, epoch, reference, -⟩ := referred waits
    exact ⟨rfl, epoch, reference, inTime waits⟩
  · cases passes
    simp only [not_or, not_not] at mismatched
    obtain ⟨waits, reports, -⟩ := mismatched
    have some : live.pending ≠ 0 := by
      rw [waits]
      decide
    have has : live.hasReport ≠ 0 := by
      rw [reports]
      decide
    obtain ⟨-, epoch, reference, -⟩ := referred some
    have inTime : later < live.deadline := BitVec.not_le.mp fun late => early ⟨Or.inr flag_le.2.2, late⟩
    exact ⟨report, flag_le.1, flag_le.2.1, fun none => absurd none has, fun _ => reported has,
      fun some => absurd rfl some, fun _ => ⟨reports, rfl, sequence, epoch, reference, inTime⟩⟩

theorem reference_committable {live : GiState} {epoch sequence deadline now revision : U32}
    (state : giStateOk live = true) (epochs : epoch ≠ 0) (sequences : sequence ≠ 0) (unheard : live.eligible = 0) :
    GiState.Committable { live with
      localEpoch := epoch, localSequence := sequence, pending := 1, deadline, lastTime := now, revision } := by
  obtain ⟨report, -, eligible, silent, reported, -, -⟩ := (giStateOk_iff live).mp state
  intro later early
  have inTime : later < deadline := BitVec.not_le.mp fun late => early ⟨Or.inl flag_le.2.2, late⟩
  apply (giStateOk_iff _).mpr
  exact ⟨report, flag_le.2.1, eligible, silent, reported, fun _ => ⟨unheard, epochs, sequences, inTime⟩,
    fun some => absurd unheard some⟩

/-- What a context that does not hold has: a configuration and a live state that passed their checks, and a proposed
state that its commit can encode. -/
structure GiContext.Closed (x : GiContext) : Prop where
  configured : x.mode ≠ .hold → giConfigOk x.config = true
  live : x.mode ≠ .hold → giStateOk x.live = true
  proposed : x.mode = .prepared → x.proposed.Committable

theorem closed_hold {x : GiContext} (hold : x.mode = .hold) : x.Closed :=
  ⟨fun active => absurd hold active, fun active => absurd hold active, fun prepared => nomatch hold.symm.trans prepared⟩

theorem GiContext.Closed.at_clock {x : GiContext} (closed : x.Closed) (floor : U32) :
    GiContext.Closed { x with clockFloor := floor } := ⟨closed.configured, closed.live, closed.proposed⟩

theorem prepared_closed {x : GiContext} (closed : x.Closed) (ready : x.mode = .ready) (floor : U32) {proposed : GiState}
    (committable : proposed.Committable) (kind : U8) (wire : List U8) :
    GiContext.Closed { x with
      clockFloor := floor, proposed, preparedKind := kind, preparedWire := wire, mode := .prepared } := by
  have active : x.mode ≠ .hold := by
    rw [ready]
    decide
  exact ⟨fun _ => closed.configured active, fun _ => closed.live active, fun _ => committable⟩

section calls

variable (check : Bytes 64 → Bytes 32 → List U8 → Bool) {x : GiContext} (a : GseaContext)

theorem giPrepare_closed (closed : x.Closed) (wire : List U8) (now : U32) :
    (giPrepare check x a wire now).2.Closed := by
  unfold giPrepare
  dsimp only
  rcases giBegin_cases x a now with ⟨refused, same | ⟨floor, latched⟩⟩ | ⟨ready, -, begun⟩
  · rw [if_pos refused, same]
    exact closed
  · rw [if_pos refused, latched]
    exact closed_hold rfl
  rw [begun, if_neg (not_not.mpr rfl)]
  cases verified : gseaVerify check a wire with
  | error refusal => exact closed.at_clock now
  | ok evidence =>
    dsimp only
    by_cases other : !giSemantics { x with clockFloor := now } evidence.envelope
    · rw [if_pos other]
      exact closed.at_clock now
    rw [if_neg other]
    cases passes : giNext x.live evidence.envelope now with
    | error refusal => exact closed.at_clock now
    | ok next =>
      have state : giStateOk x.live = true := closed.live (by rw [ready]; decide)
      have valid := gseDecode_valid (gseaVerify_decoded verified)
      exact prepared_closed closed ready now (giNext_committable state valid passes) _ _

theorem giPreparePending_closed (closed : x.Closed) (epoch sequence deadline now : U32) :
    (giPreparePending x a epoch sequence deadline now).2.Closed := by
  unfold giPreparePending
  dsimp only
  rcases giBegin_cases x a now with ⟨refused, same | ⟨floor, latched⟩⟩ | ⟨ready, -, begun⟩
  · rw [if_pos refused, same]
    exact closed
  · rw [if_pos refused, latched]
    exact closed_hold rfl
  rw [begun, if_neg (not_not.mpr rfl)]
  split_ifs with invalid
  · exact closed.at_clock now
  · simp only [not_or, not_not] at invalid
    obtain ⟨epochs, sequences, -, -, -, -, unheard, -⟩ := invalid
    have state : giStateOk x.live = true := closed.live (by rw [ready]; decide)
    exact prepared_closed closed ready now (reference_committable state epochs sequences unheard) _ _

structure GiRecovered (returned : GiResult × GiContext) : Prop where
  closed : returned.2.Closed

structure GiPublished (y : GiContext) (proposed : GiState) (returned : GiResult × GiContext) : Prop where
  encoded : returned.1 ≠ .invalid
  context : returned.2 = y ∨
    ∃ digest, returned.2 = { y with live := proposed, digest, mode := .ready, preparedWire := [] }

structure GiSettled (x : GiContext) (returned : GiResult × GiContext) : Prop where
  encoded : returned.1 ≠ .invalid
  closed : returned.2.Closed
  live : giStateOk x.live = true → giStateOk returned.2.live = true

variable {σ : Type} (provider : GiProvider σ)

theorem giRecover_closed (x : GiContext) (now : U32) : Dev.Returns GiRecovered (giRecover provider x a now) := by
  have holds : GiRecovered (.hold, { x with mode := .hold, preparedWire := [] }) := ⟨closed_hold rfl⟩
  unfold giRecover
  dsimp only
  apply Dev.Returns.ite (Dev.Returns.pure holds)
  apply Dev.Returns.bind
  rintro (_ | ⟨revision, hash⟩)
  · exact Dev.Returns.pure holds
  apply Dev.Returns.bind
  rintro (_ | b)
  · exact Dev.Returns.pure holds
  apply Dev.Returns.pure
  unfold giAccept
  cases decoded : giDecode { x with mode := GiMode.hold, preparedWire := [] } b with
  | none => exact holds
  | some s =>
    dsimp only
    split_ifs
    · exact holds
    · obtain ⟨-, configured, state⟩ := giEncodeRecord_eq (giEncode_decode decoded)
      exact ⟨fun _ => configured, fun _ => state, fun prepared => nomatch prepared⟩

theorem giPublish_returns (y : GiContext) (proposed : GiState) (b : Bytes 256) :
    Dev.Returns (GiPublished y proposed) (giPublish provider y proposed b) := by
  have fails : GiPublished y proposed (.storage, y) := ⟨GiResult.noConfusion, Or.inl rfl⟩
  unfold giPublish
  apply Dev.Returns.bind
  intro staged
  apply Dev.Returns.ite (Dev.Returns.pure fails)
  apply Dev.Returns.bind
  intro advanced
  apply Dev.Returns.ite (Dev.Returns.pure fails)
  apply Dev.Returns.bind
  rintro (_ | ⟨revision, hash⟩)
  · exact Dev.Returns.pure fails
  apply Dev.Returns.ite (Dev.Returns.pure fails)
  apply Dev.Returns.bind
  rintro (_ | readback)
  · exact Dev.Returns.pure fails
  apply Dev.Returns.ite (Dev.Returns.pure fails)
  exact Dev.Returns.pure ⟨GiResult.noConfusion, Or.inr ⟨hash, rfl⟩⟩

theorem giCommit_closed (closed : x.Closed) (now : U32) :
    Dev.Returns (GiSettled x) (giCommit check provider x a now) := by
  have holds {result : GiResult} (failed : result ≠ .invalid) (floor : U32) :
      GiSettled x (result, { x with mode := .hold, clockFloor := floor }) := ⟨failed, closed_hold rfl, id⟩
  unfold giCommit
  by_cases unprepared : x.mode ≠ .prepared
  · rw [if_pos unprepared]
    exact Dev.Returns.pure ⟨GiResult.noConfusion, closed, id⟩
  rw [if_neg unprepared]
  have prepared := not_not.mp unprepared
  have active : x.mode ≠ .hold := by
    rw [prepared]
    decide
  dsimp only
  apply Dev.Returns.ite (Dev.Returns.pure (holds GiResult.noConfusion x.clockFloor))
  by_cases late : (x.proposed.pending ≠ 0 ∨ x.proposed.eligible ≠ 0) ∧ now ≥ x.proposed.deadline
  · rw [if_pos late]
    exact Dev.Returns.pure (holds GiResult.noConfusion x.clockFloor)
  rw [if_neg late]
  apply Dev.Returns.ite (Dev.Returns.pure (holds GiResult.noConfusion x.clockFloor))
  have state := closed.proposed prepared now late
  have configured := closed.configured active
  rw [giEncodeRecord_some configured state]
  intro store returned run
  have published := giPublish_returns provider _ _ _ store returned run
  rcases published.context with same | ⟨digest, same⟩
  · obtain ⟨result, context⟩ := returned
    cases same
    exact holds published.encoded now
  · obtain ⟨result, context⟩ := returned
    cases same
    exact ⟨published.encoded, ⟨fun _ => configured, fun _ => state, fun prepared => nomatch prepared⟩, fun _ => state⟩

end calls

theorem giBegin_ready {x : GiContext} {a : GseaContext} {now : U32} (begun : (giBegin x a now).1 = .ok) :
    x.mode = .ready := by
  rcases giBegin_cases x a now with ⟨refused, -⟩ | ⟨ready, -, -⟩
  · exact absurd begun refused
  · exact ready

theorem ready_closed {x : GiContext} (ready : x.mode = .ready) (configured : giConfigOk x.config = true)
    (state : giStateOk x.live = true) : x.Closed :=
  ⟨fun _ => configured, fun _ => state, fun prepared => nomatch ready.symm.trans prepared⟩

theorem GiPrepares.live {x context : GiContext} {wire : List U8} (prepares : GiPrepares x wire context) :
    context.live = x.live := by
  cases prepares <;> rfl

theorem giPrepare_ready {check : Bytes 64 → Bytes 32 → List U8 → Bool} {x : GiContext} {a : GseaContext}
    {wire : List U8} {now : U32} (prepared : (giPrepare check x a wire now).1 = .ok) : x.mode = .ready := by
  by_contra unready
  have refused : (giBegin x a now).1 ≠ .ok := fun begun => unready (giBegin_ready begun)
  unfold giPrepare at prepared
  dsimp only at prepared
  rw [if_pos refused] at prepared
  exact refused prepared

theorem giPreparePending_ready {x : GiContext} {a : GseaContext} {epoch sequence deadline now : U32}
    (prepared : (giPreparePending x a epoch sequence deadline now).1 = .ok) : x.mode = .ready := by
  by_contra unready
  have refused : (giBegin x a now).1 ≠ .ok := fun begun => unready (giBegin_ready begun)
  unfold giPreparePending at prepared
  dsimp only at prepared
  rw [if_pos refused] at prepared
  exact refused prepared

section run

variable (check : Bytes 64 → Bytes 32 → List U8 → Bool) (config : GiConfig)

theorem giInit_closed : (giInit config).2.Closed := by
  unfold giInit
  split_ifs <;> exact closed_hold rfl

theorem giStep_closed (system : GiSystem) (event : GiEvent) (closed : system.context.Closed) :
    (giStep check config system event).context.Closed := by
  have resumed {holds : GiResult × GiContext → Prop} {program : Dev GiStore (GiResult × GiContext)}
      (returns : Dev.Returns holds program) (keeps : ∀ returned, holds returned → returned.2.Closed) :
      (giResume config (program system.store).1).Closed := by
    rcases returned : (program system.store).1 with _ | ⟨result, context⟩
    · exact giInit_closed config
    · exact keeps _ (returns system.store _ returned)
  cases event with
  | restart => exact giInit_closed config
  | recover registry now => exact resumed (giRecover_closed registry _ _ now) fun _ recovered => recovered.closed
  | prepare registry wire now => exact giPrepare_closed check registry closed wire now
  | preparePending registry epoch sequence deadline now =>
    exact giPreparePending_closed registry closed epoch sequence deadline now
  | commit registry now => exact resumed (giCommit_closed check registry _ closed now) fun _ settled => settled.closed

theorem giRun_closed (genesis : GiState) (schedule : Nat → GiFault) (events : List GiEvent) :
    (giRun check config genesis schedule events).context.Closed :=
  Run.after_invariant (giStep_closed check config) (giInit_closed config) events

end run

/-- States survive their records and records their states; a transaction from a state that can be encoded ends in one,
and in no run does a commit fail because its state cannot be encoded. -/
theorem ingress_record_closed :
    (∀ c s, giConfigOk c = true → giStateOk s = true →
      ∃ b, giEncodeRecord c s = some b ∧ ∀ x : GiContext, x.config = c → giDecode x b = some s) ∧
    (∀ x b s, giDecode x b = some s → giEncodeRecord x.config s = some b) ∧
    (∀ (σ : Type) (provider : GiProvider σ) (store : σ) check x registry registry' wire now later result y,
      giConfigOk x.config = true → giStateOk x.live = true → (giPrepare check x registry wire now).1 = .ok →
      (giCommit check provider (giPrepare check x registry wire now).2 registry' later store).1 = some (result, y) →
      result ≠ .invalid ∧ giStateOk y.live = true) ∧
    (∀ (σ : Type) (provider : GiProvider σ) (store : σ) check x registry registry' epoch sequence deadline now later
        result y,
      giConfigOk x.config = true → giStateOk x.live = true →
      (giPreparePending x registry epoch sequence deadline now).1 = .ok →
      (giCommit check provider (giPreparePending x registry epoch sequence deadline now).2 registry' later store).1 =
        some (result, y) → result ≠ .invalid ∧ giStateOk y.live = true) ∧
    ∀ check config genesis schedule events registry now result y,
      let system := giRun check config genesis schedule events
      (giCommit check giStoreProvider system.context registry now system.store).1 = some (result, y) →
        result ≠ .invalid ∧ (system.context.mode = .prepared → giStateOk y.live = true) := by
  refine ⟨?_, ?_, ?_, ?_, ?_⟩
  · intro c s configured state
    refine ⟨giRecord c s, giEncodeRecord_some configured state, ?_⟩
    rintro x rfl
    exact giDecode_encode (giEncodeRecord_some configured state)
  · intro x b s decoded
    exact giEncode_decode decoded
  · intro σ provider store check x registry registry' wire now later result y configured state prepared committed
    have closed := giPrepare_closed check registry (ready_closed (giPrepare_ready prepared) configured state) wire now
    have settled := giCommit_closed check registry' provider closed later store _ committed
    have live := (giPrepare_prepares check x registry wire now).live
    exact ⟨settled.encoded, settled.live (live ▸ state)⟩
  · intro σ provider store check x registry registry' epoch sequence deadline now later result y configured state
      prepared committed
    have closed := giPreparePending_closed registry (ready_closed (giPreparePending_ready prepared) configured state)
      epoch sequence deadline now
    have settled := giCommit_closed check registry' provider closed later store _ committed
    have live := (giPreparePending_prepares x registry epoch sequence deadline now).live
    exact ⟨settled.encoded, settled.live (live ▸ state)⟩
  · intro check config genesis schedule events registry now result y system committed
    have closed := giRun_closed check config genesis schedule events
    have settled := giCommit_closed check registry giStoreProvider closed now system.store _ committed
    refine ⟨settled.encoded, fun prepared => settled.live (closed.live ?_)⟩
    rw [prepared]
    decide

end Guardian.NodeLink
