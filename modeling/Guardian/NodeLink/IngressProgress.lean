import Guardian.NodeLink.IngressSafety

namespace Guardian.NodeLink

open Word ByteString Device Guardian.Crypto

/-- With working providers, an observation or a reference can be prepared at `now` and committed then or later. -/
def GiSystem.Progresses (check : Bytes 64 → Bytes 32 → List U8 → Bool) (system : GiSystem) (registry : GseaContext)
    (now : U32) : Prop :=
  ∃ prepared later, now ≤ later ∧
    ((∃ wire e, gseDecode wire = some e ∧ e.type = 7 ∧
        giPrepare check system.context registry wire now = (.ok, prepared)) ∨
      ∃ epoch sequence deadline,
        giPreparePending system.context registry epoch sequence deadline now = (.ok, prepared)) ∧
    ∃ committed reached,
      giCommit check giStoreProvider prepared registry later system.store.working = (some (.ok, committed), reached)

section stall

variable {check : Bytes 64 → Bytes 32 → List U8 → Bool} {x prepared : GiContext} {a : GseaContext} {now : U32}

theorem giPrepare_observation {wire : List U8} {e : GseUnverified} (decoded : gseDecode wire = some e)
    (observation : e.type = 7) (passes : giPrepare check x a wire now = (.ok, prepared)) :
    prepared.proposed.pending = x.live.pending ∧ prepared.proposed.deadline = x.live.deadline := by
  unfold giPrepare at passes
  dsimp only at passes
  rcases giBegin_cases x a now with ⟨refused, -⟩ | ⟨ready, more, begun⟩
  · rw [if_pos refused] at passes
    exact absurd (congrArg Prod.fst passes) refused
  · rw [begun, if_neg (not_not.mpr rfl)] at passes
    cases verified : gseaVerify check a wire with
    | error refusal =>
      rw [verified] at passes
      cases passes
    | ok evidence =>
      have same := gseaVerify_decoded verified
      rw [decoded] at same
      rw [verified] at passes
      dsimp only at passes
      rw [← Option.some.inj same] at passes
      split_ifs at passes with semantics
      · cases passes
      · unfold giNext at passes
        rw [if_pos observation] at passes
        split_ifs at passes with old
        · cases passes
        · cases passes
          exact ⟨rfl, rfl⟩

theorem giPreparePending_idle {epoch sequence deadline : U32}
    (passes : giPreparePending x a epoch sequence deadline now = (.ok, prepared)) : x.live.pending = 0 := by
  unfold giPreparePending at passes
  dsimp only at passes
  rcases giBegin_cases x a now with ⟨refused, -⟩ | ⟨ready, more, begun⟩
  · rw [if_pos refused] at passes
    exact absurd (congrArg Prod.fst passes) refused
  · rw [begun, if_neg (not_not.mpr rfl)] at passes
    split_ifs at passes with invalid
    · cases passes
    · simp only [not_or, not_not] at invalid
      exact invalid.2.2.2.2.2.1

theorem giCommit_inTime {provider : GiProvider GiStore} {store reached : GiStore} {committed : GiContext}
    (passes : giCommit check provider x a now store = (some (.ok, committed), reached)) :
    x.proposed.pending = 0 ∨ now < x.proposed.deadline := by
  unfold giCommit at passes
  dsimp only at passes
  split_ifs at passes with unprepared conflict late
  · cases passes
  · cases passes
  · cases passes
  all_goals
    by_cases idle : x.proposed.pending = 0
    · exact Or.inl idle
    · exact Or.inr (BitVec.not_le.mp fun expired => late ⟨Or.inl idle, expired⟩)

theorem expired_stalls {system : GiSystem} (waiting : system.context.live.pending ≠ 0)
    (expired : system.context.live.deadline ≤ now) : ¬ system.Progresses check a now := by
  rintro ⟨prepared, later, after, observation | reference, committed, reached, passes⟩
  · obtain ⟨wire, e, decoded, type, prepares⟩ := observation
    obtain ⟨pending, deadline⟩ := giPrepare_observation decoded type prepares
    rcases giCommit_inTime passes with idle | inTime
    · exact waiting (pending.symm.trans idle)
    · rw [deadline] at inTime
      exact absurd (BitVec.le_trans expired after) (BitVec.not_le.mpr inTime)
  · obtain ⟨epoch, sequence, deadline, prepares⟩ := reference
    exact waiting (giPreparePending_idle prepares)

end stall

theorem giPublish_working (x : GiContext) {proposed : GiState} (b : Bytes 256) {store : GiStore}
    (anchor : store.anchor = (x.live.revision, x.digest)) (next : proposed.revision = x.live.revision + 1) :
    ∃ committed reached, giPublish giStoreProvider x proposed b store.working = (some (.ok, committed), reached) := by
  let staged : GiStore :=
    { store.working.next with
      seen := b :: store.seen, staged := (proposed.revision, b) :: store.staged }
  have stage : giStoreProvider.stage proposed.revision b store.working = (some true, staged) := rfl
  let advanced : GiStore := { staged.next with anchor := (proposed.revision, giRecordDigest b) }
  have advance : giStoreProvider.advance x.live.revision x.digest proposed.revision (giRecordDigest b) staged =
      (some true, advanced) := by
    have swapped : staged.next.compareAndAdvance x.live.revision x.digest proposed.revision (giRecordDigest b) =
        (true, advanced) := if_pos ⟨anchor, next⟩
    change (some (staged.next.compareAndAdvance x.live.revision x.digest proposed.revision (giRecordDigest b)).1,
      (staged.next.compareAndAdvance x.live.revision x.digest proposed.revision (giRecordDigest b)).2) = _
    rw [swapped]
  have readAnchor : giStoreProvider.readAnchor advanced =
      (some (some (proposed.revision, giRecordDigest b)), advanced.next) := rfl
  have found : advanced.next.record proposed.revision = some b := by
    change (((proposed.revision, b) :: store.staged).find? (·.1 = proposed.revision)).map Prod.snd = some b
    rw [List.find?_cons_of_pos (by simp)]
    rfl
  have readRecord : ∃ reached, giStoreProvider.readRecord proposed.revision advanced.next = (some (some b), reached) :=
    ⟨_, congrArg (fun record => (some record, { advanced.next.next with seen := record.toList ++ advanced.next.seen }))
      found⟩
  obtain ⟨reached, readRecord⟩ := readRecord
  unfold giPublish
  rw [Dev.bind_value stage, if_neg (by decide), Dev.bind_value advance, if_neg (by decide), Dev.bind_value readAnchor]
  dsimp only
  rw [if_neg (by simp), Dev.bind_value readRecord]
  dsimp only
  rw [if_neg (not_not.mpr rfl)]
  exact ⟨_, _, rfl⟩

section observation

variable (c : GiConfig) (sequence : U32) (signature : Bytes 64)

def giReport : List U8 :=
  [1, 0, 0, 0] ++ putU32Le c.generation ++ putU32Le c.policy ++ putU32Le c.profile ++ putU32Le c.round ++
    (giCommitment c).1

def giObservation : GseUnverified where
  type := 7
  state := c.expectedState
  payloadLength := 52
  sender := c.sender
  producer := c.producer
  key := c.key
  epoch := c.epoch
  sequence
  payload := padded 64 (giReport c)
  signature

theorem giReport_length : (giReport c).length = 52 := by
  simp [giReport, (giCommitment c).2]

theorem giObservation_payload : (giObservation c sequence signature).payload.1 = giReport c ++ List.replicate 12 0 := by
  have short : (padded 64 (giReport c)).1 = giReport c ++ List.replicate (64 - (giReport c).length) 0 :=
    padded_short (Nat.le_trans (Nat.le_of_eq (giReport_length c)) (by decide))
  rw [giReport_length] at short
  exact short

variable {c sequence}

theorem giObservation_canonical (configOk : giConfigOk c = true) (numbered : sequence ≠ 0) :
    (giObservation c sequence signature).Canonical := by
  have payload := giObservation_payload c sequence signature
  simp only [giConfigOk, Bool.and_eq_true, bne_iff_ne, decide_eq_true_eq] at configOk
  constructor
  · rw [gseValid_iff]
    obtain ⟨⟨⟨⟨⟨⟨⟨⟨⟨⟨⟨sender, producer⟩, key⟩, epoch⟩, -⟩, -⟩, -⟩, -⟩, -⟩, -⟩, -⟩, state⟩ := configOk
    exact ⟨state, sender, producer, key, epoch, numbered, Or.inl ⟨rfl, rfl⟩⟩
  · have body : (giObservation c sequence signature).body = giReport c := by
      unfold GseUnverified.body
      rw [payload]
      exact List.take_left' (giReport_length c)
    rw [body]
    rfl

theorem giObservation_verified {check : Bytes 64 → Bytes 32 → List U8 → Bool} {x : GiContext} {a : GseaContext}
    (configOk : giConfigOk c = true) (numbered : sequence ≠ 0) (configured : x.config = c)
    (registryOk : giRegistryOk x a = true)
    (signs : ∀ message, ∃ signature, check signature c.publicKey message = true) :
    ∃ signature, gseaVerify check a (gseWire (giObservation c sequence signature)) =
      .ok ⟨giObservation c sequence signature, a.registryRevision⟩ := by
  obtain ⟨once, few, revision, peer, found, trusted⟩ := giRegistryOk_peer registryOk
  rw [configured] at found trusted revision
  have registered : a.registryRevision ≠ 0 := by
    simp only [giConfigOk, Bool.and_eq_true, bne_iff_ne] at configOk
    rw [revision]
    exact configOk.1.1.1.1.1.1.2
  simp only [GiConfig.trusts, Bool.and_eq_true, beq_iff_eq] at trusted
  obtain ⟨⟨kept, allowed⟩, publicKey⟩ := trusted
  -- the signature is not part of what is signed
  obtain ⟨signature, signed⟩ := signs (gseSigned (giObservation c sequence (padded 64 [])))
  rw [← publicKey] at signed
  exact ⟨signature, gseaVerify_signed once few registered (giObservation_canonical signature configOk numbered) found kept
    allowed signed⟩

theorem giObservation_semantics {x : GiContext} (configured : x.config = c)
    (commitment : x.commitment = giCommitment c) (more : sequence ≠ 0xFFFFFFFF) :
    giSemantics x (giObservation c sequence signature) = true := by
  have words : getU32Le ((giReport c ++ List.replicate 12 0).drop 4) = c.generation ∧
      getU32Le ((giReport c ++ List.replicate 12 0).drop 8) = c.policy ∧
      getU32Le ((giReport c ++ List.replicate 12 0).drop 12) = c.profile ∧
      getU32Le ((giReport c ++ List.replicate 12 0).drop 16) = c.round := by
    unfold giReport
    generalize (giCommitment c).1 = commitment
    exact ⟨getU32Le_put c.generation _, getU32Le_put c.policy _, getU32Le_put c.profile _, getU32Le_put c.round _⟩
  have bytes : (giReport c ++ List.replicate 12 0).getD 0 0 = 1 ∧ (giReport c ++ List.replicate 12 0).getD 1 0 = 0 ∧
      (giReport c ++ List.replicate 12 0).getD 2 0 = 0 ∧ (giReport c ++ List.replicate 12 0).getD 3 0 = 0 :=
    ⟨rfl, rfl, rfl, rfl⟩
  have committed : slice 20 32 (giReport c ++ List.replicate 12 0) = (giCommitment c).1 := List.take_left' (giCommitment c).2
  have type : (giObservation c sequence signature).type = 7 := rfl
  obtain ⟨generation, policy, profile, round⟩ := words
  obtain ⟨version, kind, high, low⟩ := bytes
  unfold giSemantics
  simp only [giObservation_payload, type, if_pos, configured, commitment, generation, policy, profile, round, version, kind,
    high, low, committed]
  simpa [giObservation] using more

end observation

section resume

variable {check : Bytes 64 → Bytes 32 → List U8 → Bool} {x : GiContext} {a : GseaContext} {now : U32} {wire : List U8}
  {e : GseUnverified} {revision : U32}

def giObserved (live : GiState) (e : GseUnverified) (now : U32) : GiState :=
  { live with
    obsSequence := e.sequence, hasReport := 1, eligible := 0, lastTime := now, revision := live.revision + 1 }

theorem giPrepare_observes (ready : x.mode = .ready) (registryOk : giRegistryOk x a = true)
    (forward : x.live.lastTime ≤ now) (floor : x.clockFloor ≤ now) (more : x.live.revision ≠ 0xFFFFFFFF)
    (verified : gseaVerify check a wire = .ok ⟨e, revision⟩) (semantics : giSemantics x e = true) (type : e.type = 7)
    (fresh : x.live.obsSequence < e.sequence) :
    giPrepare check x a wire now = (.ok, { x with
      clockFloor := now, proposed := giObserved x.live e now, preparedKind := 7, preparedWire := wire
      mode := .prepared }) := by
  have begun : giBegin x a now = (.ok, { x with clockFloor := now }) := by
    unfold giBegin
    rw [if_neg (not_not.mpr ready), if_neg, if_neg more]
    simp only [registryOk, not_or, BitVec.not_lt]
    exact ⟨by decide, forward, floor⟩
  have next : giNext x.live e now =
      .ok { x.live with obsSequence := e.sequence, hasReport := 1, eligible := 0 } := by
    unfold giNext
    rw [if_pos type, if_neg (BitVec.not_le.mpr fresh)]
  unfold giPrepare
  simp only [begun, verified, next]
  have same : giSemantics { x with clockFloor := now } e = true := semantics
  rw [same, type]
  rfl

theorem giObserved_ok {live : GiState} (valid : giStateOk live = true) (numbered : e.sequence ≠ 0)
    (inTime : live.pending = 0 ∨ now < live.deadline) : giStateOk (giObserved live e now) = true := by
  simp only [giStateOk, Bool.and_eq_true, Bool.or_eq_true, beq_iff_eq, bne_iff_ne, decide_eq_true_eq] at valid ⊢
  obtain ⟨⟨⟨⟨⟨⟨-, pending⟩, -⟩, -⟩, -⟩, waiting⟩, -⟩ := valid
  have reported : (1 : U8) ≤ 1 ∧ (1 : U8) ≠ 0 ∧ (0 : U8) ≤ 1 := by decide
  refine ⟨⟨⟨⟨⟨⟨reported.1, pending⟩, reported.2.2⟩, Or.inl reported.2.1⟩, Or.inr numbered⟩, ?_⟩, Or.inl rfl⟩
  rcases inTime with idle | inTime
  · exact Or.inl idle
  · rcases waiting with idle | ⟨⟨⟨-, epoch⟩, sequence⟩, -⟩
    · exact Or.inl idle
    · exact Or.inr ⟨⟨⟨rfl, epoch⟩, sequence⟩, inTime⟩

theorem giCommit_observed {store : GiStore} (registryOk : giRegistryOk x a = true) (configOk : giConfigOk x.config = true)
    (valid : giStateOk x.live = true) (numbered : e.sequence ≠ 0) (inTime : x.live.pending = 0 ∨ now < x.live.deadline)
    (verified : gseaVerify check a wire = .ok ⟨e, revision⟩) (semantics : giSemantics x e = true)
    (anchor : store.anchor = (x.live.revision, x.digest)) :
    ∃ committed reached, giCommit check giStoreProvider
      { x with
        clockFloor := now, proposed := giObserved x.live e now, preparedKind := 7, preparedWire := wire
        mode := .prepared } a now store.working = (some (.ok, committed), reached) := by
  have unexpired : ¬ (((giObserved x.live e now).pending ≠ 0 ∨ (giObserved x.live e now).eligible ≠ 0) ∧
      now ≥ (giObserved x.live e now).deadline) := by
    rintro ⟨waiting | eligible, expired⟩
    · rcases inTime with idle | inTime
      · exact waiting idle
      · exact absurd expired (BitVec.not_le.mpr inTime)
    · exact eligible rfl
  have stateOk := giObserved_ok valid numbered inTime
  have encoded : giEncodeRecord x.config { giObserved x.live e now with lastTime := now } =
      some (giRecord x.config (giObserved x.live e now)) := by
    unfold giEncodeRecord
    rw [if_neg]
    · rfl
    · change ¬ ((!giConfigOk x.config) = true ∨ (!giStateOk (giObserved x.live e now)) = true)
      simp [configOk, stateOk]
  let stored : GiContext :=
    { x with
      clockFloor := now, proposed := giObserved x.live e now, preparedKind := 7, preparedWire := wire, mode := .hold }
  have authentic : giStillAuthentic check stored a = true := by
    have kept : gseaVerify check a stored.preparedWire = .ok ⟨e, revision⟩ := verified
    rw [giStillAuthentic, kept]
    exact semantics
  have registered : giRegistryOk stored a = true := registryOk
  have before : ¬ (giObserved x.live e now).lastTime > now := BitVec.not_lt.mpr (BitVec.le_refl _)
  unfold giCommit
  dsimp only
  rw [if_neg (not_not.mpr rfl), if_neg, if_neg unexpired, if_neg, encoded]
  · exact giPublish_working stored (giRecord x.config (giObserved x.live e now)) anchor rfl
  · change ¬ (_ ∧ (!giStillAuthentic check stored a) = true)
    simp [authentic]
  · change ¬ ((!giRegistryOk stored a) = true ∨ _)
    rw [registered]
    rintro (refused | earlier | earlier)
    · cases refused
    · exact before earlier
    · exact before earlier

end resume

/-- Without failures, a ready context goes on exactly while it has no expired reference. -/
theorem ingress_progress (check : Bytes 64 → Bytes 32 → List U8 → Bool) (config : GiConfig) (genesis : GiState)
    (configOk : giConfigOk config = true) (genesisOk : giStateOk genesis = true) (schedule : Nat → GiFault)
    (events : List GiEvent) (free : GiCollisionFree (giRun check config genesis schedule events).store.seen)
    (ready : (giRun check config genesis schedule events).context.mode = .ready)
    (revisions : (giRun check config genesis schedule events).context.live.revision ≠ 0xFFFFFFFF)
    (sequences : (giRun check config genesis schedule events).context.live.obsSequence < 0xFFFFFFFE)
    (signs : ∀ message, ∃ signature, check signature config.publicKey message = true) (registry : GseaContext)
    (registryOk : giRegistryOk (giRun check config genesis schedule events).context registry = true) (now : U32)
    (forward : (giRun check config genesis schedule events).context.live.lastTime ≤ now)
    (floor : (giRun check config genesis schedule events).context.clockFloor ≤ now) :
    (giRun check config genesis schedule events).Progresses check registry now ↔
      ((giRun check config genesis schedule events).context.live.pending = 0 ∨
        now < (giRun check config genesis schedule events).context.live.deadline) := by
  have coherent := giRun_coherent configOk schedule events free
  generalize giRun check config genesis schedule events = system at *
  constructor
  · intro progresses
    by_cases idle : system.context.live.pending = 0
    · exact Or.inl idle
    · apply Or.inr
      exact BitVec.not_le.mp fun expired => expired_stalls idle expired progresses
  · intro inTime
    have live : system.context.mode ≠ .hold := by
      rw [ready]
      decide
    obtain ⟨anchored, digest⟩ := coherent.published live
    have valid : giStateOk system.context.live = true := by
      rw [anchored]
      exact coherent.history.last_ok genesisOk
    have numbered : system.context.live.obsSequence + 1 ≠ 0 := by
      bv_omega
    have last : system.context.live.obsSequence + 1 ≠ 0xFFFFFFFF := by
      bv_omega
    have fresh : system.context.live.obsSequence < system.context.live.obsSequence + 1 := by
      bv_omega
    obtain ⟨signature, verified⟩ :=
      giObservation_verified configOk numbered coherent.configured registryOk signs
    have semantics := giObservation_semantics signature coherent.configured coherent.commitment last
    have prepares := giPrepare_observes ready registryOk forward floor revisions verified semantics rfl fresh
    have kept : giConfigOk system.context.config = true := by
      rw [coherent.configured]
      exact configOk
    have anchor : system.store.anchor = (system.context.live.revision, system.context.digest) := by
      rw [digest, anchored, coherent.anchor]
    have canonical := giObservation_canonical signature configOk numbered
    have commits := giCommit_observed registryOk kept valid numbered inTime verified semantics anchor
    have decoded := gseDecode_wire canonical
    exact ⟨_, now, BitVec.le_refl _, Or.inl ⟨_, _, decoded, rfl, prepares⟩, commits⟩

def keyedCheck (signature : Bytes 64) (key : Bytes 32) (message : List U8) : Bool :=
  signature.1 == blake2b 64 (key.1 ++ message)

theorem keyedCheck_signs (key : Bytes 32) (message : List U8) :
    ∃ signature, keyedCheck signature key message = true :=
  ⟨⟨blake2b 64 (key.1 ++ message), blake2b_length (by decide) _⟩, beq_self_eq_true _⟩

/-- A device that starts again at `now` with a reference that waits until 100. -/
def vectorWaiting (now : U32) : List GiEvent :=
  [.recover vectorRegistry 1, .preparePending vectorRegistry 88 99 100 2, .commit vectorRegistry 2, .restart,
    .recover vectorRegistry now]

theorem ingress_progress_waiting :
    (giRun keyedCheck vectorConfig zeroGiState (fun _ => .none) (vectorWaiting 50)).Progresses keyedCheck
      vectorRegistry 60 := by
  have reached :
      let system := giRun keyedCheck vectorConfig zeroGiState (fun _ => .none) (vectorWaiting 50)
      GiCollisionFree system.store.seen ∧ system.context.mode = .ready ∧
        system.context.live = ⟨1, 0, 0, 88, 99, 100, 2, 0, 1, 0⟩ ∧ system.context.clockFloor = 50 ∧
        giRegistryOk system.context vectorRegistry = true := by
    decide +kernel
  obtain ⟨free, ready, live, floor, registryOk⟩ := reached
  have progress := ingress_progress keyedCheck vectorConfig zeroGiState (by decide) (by decide) (fun _ => .none)
    (vectorWaiting 50) free ready (by rw [live]; decide) (by rw [live]; decide) (keyedCheck_signs _) vectorRegistry
    registryOk 60 (by rw [live]; decide) (by rw [floor]; decide)
  apply progress.mpr
  rw [live]
  exact Or.inr (by decide)

/-- Recovered after its deadline, the reference is there to stay. -/
theorem ingress_stalled :
    let system := giRun keyedCheck vectorConfig zeroGiState (fun _ => .none) (vectorWaiting 100)
    system.context.mode = .ready ∧ system.context.live = ⟨1, 0, 0, 88, 99, 100, 2, 0, 1, 0⟩ ∧
      system.context.clockFloor = 100 ∧ giRegistryOk system.context vectorRegistry = true ∧
      ∀ now, 100 ≤ now → ¬ system.Progresses keyedCheck vectorRegistry now := by
  intro system
  have reached : system.context.mode = .ready ∧ system.context.live = ⟨1, 0, 0, 88, 99, 100, 2, 0, 1, 0⟩ ∧
      system.context.clockFloor = 100 ∧ giRegistryOk system.context vectorRegistry = true := by
    decide +kernel
  obtain ⟨ready, live, floor, registryOk⟩ := reached
  refine ⟨ready, live, floor, registryOk, ?_⟩
  intro now late
  apply expired_stalls
  · rw [live]
    decide
  · rw [live]
    exact late

end Guardian.NodeLink
