import Guardian.NodeLink.IngressRun
import Mathlib.Data.List.Induction

namespace Guardian.NodeLink

open Word Guardian.Crypto

section run

variable {check : Bytes 64 → Bytes 32 → List U8 → Bool} {config : GiConfig} {genesis : GiState}

def GiSystem.anchored (genesis : GiState) (system : GiSystem) : GiState := giLast genesis system.commits

/-- The anchor is the last stored state, and the context follows it. -/
structure GiSystem.Coherent (config : GiConfig) (genesis : GiState) (system : GiSystem) : Prop where
  configured : system.context.config = config
  commitment : system.context.commitment = giCommitment config
  history : GiHistory genesis system.commits
  anchor : system.store.anchor =
    ((system.anchored genesis).revision, giRecordDigest (giRecord config (system.anchored genesis)))
  seen : giRecord config (system.anchored genesis) ∈ system.store.seen
  behind : system.context.live.revision ≤ (system.anchored genesis).revision
  published : system.context.mode ≠ .hold →
    system.context.live = system.anchored genesis ∧ system.context.digest = system.store.anchor.2
  proposed : system.context.mode = .prepared → GiAdvances (system.anchored genesis)
    ⟨system.context.preparedKind, system.context.preparedWire, system.context.proposed⟩

structure GiContext.Follows (config : GiConfig) (state : GiState) (anchor : U32 × Bytes 32) (x : GiContext) : Prop where
  configured : x.config = config
  commitment : x.commitment = giCommitment config
  behind : x.live.revision ≤ state.revision
  published : x.mode ≠ .hold → x.live = state ∧ x.digest = anchor.2
  proposed : x.mode = .prepared → GiAdvances state ⟨x.preparedKind, x.preparedWire, x.proposed⟩

theorem GiSystem.Coherent.follows {system : GiSystem} (coherent : system.Coherent config genesis) :
    system.context.Follows config (system.anchored genesis) system.store.anchor :=
  ⟨coherent.configured, coherent.commitment, coherent.behind, coherent.published, coherent.proposed⟩

theorem GiSystem.Coherent.replace {system : GiSystem} (coherent : system.Coherent config genesis) {context : GiContext}
    {store : GiStore} (anchor : store.anchor = system.store.anchor) (seen : system.store.seen ⊆ store.seen)
    (follows : context.Follows config (system.anchored genesis) system.store.anchor) :
    GiSystem.Coherent config genesis ⟨context, store, system.commits⟩ :=
  ⟨follows.configured, follows.commitment, coherent.history, anchor.trans coherent.anchor, seen coherent.seen,
    follows.behind, fun published => anchor ▸ follows.published published, follows.proposed⟩

theorem giInit_follows (configOk : giConfigOk config = true) (state : GiState) (anchor : U32 × Bytes 32) :
    (giInit config).2.Follows config state anchor := by
  unfold giInit
  rw [if_neg (by simp [configOk])]
  refine ⟨rfl, rfl, ?_, fun published => absurd rfl published, fun prepared => nomatch prepared⟩
  rw [BitVec.le_def]
  exact Nat.zero_le _

theorem GiContext.Follows.hold {x : GiContext} {state : GiState} {anchor : U32 × Bytes 32}
    (follows : x.Follows config state anchor) (floor : U32) (wire : List U8) :
    GiContext.Follows config state anchor { x with mode := .hold, clockFloor := floor, preparedWire := wire } :=
  ⟨follows.configured, follows.commitment, follows.behind, fun published => absurd rfl published,
    fun prepared => nomatch prepared⟩

theorem GiPrepares.follows {x context : GiContext} {wire : List U8} {state : GiState} {anchor : U32 × Bytes 32}
    (prepares : GiPrepares x wire context) (follows : x.Follows config state anchor) :
    context.Follows config state anchor := by
  cases prepares with
  | kept floor =>
    exact ⟨follows.configured, follows.commitment, follows.behind, follows.published, follows.proposed⟩
  | latched floor => exact follows.hold floor x.preparedWire
  | proposed proposed kind floor ready advances =>
    have live : x.mode ≠ .hold := by
      rw [ready]
      decide
    have published := follows.published live
    rw [published.1] at advances
    exact ⟨follows.configured, follows.commitment, follows.behind, fun _ => published, fun _ => advances⟩

theorem recover_coherent {system : GiSystem} (coherent : system.Coherent config genesis)
    (configOk : giConfigOk config = true) (registry : GseaContext) (now : U32)
    (free : GiCollisionFree (giStep check config system (.recover registry now)).store.seen) :
    (giStep check config system (.recover registry now)).Coherent config genesis := by
  obtain ⟨kept, returns⟩ := giRecover_moves system.context registry now system.store
  apply coherent.replace kept.anchor kept.seen
  unfold giStep at free
  dsimp only at free
  rcases returned : (giRecover giStoreProvider system.context registry now system.store).1 with _ | ⟨result, context⟩
  · exact giInit_follows configOk _ _
  · change context.Follows config (system.anchored genesis) system.store.anchor
    rcases returns result context returned with rfl | ⟨s, seen, revision, digest, rfl⟩
    · exact coherent.follows.hold system.context.clockFloor []
    · rw [coherent.configured] at seen digest
      have stored := kept.seen coherent.seen
      have anchored := coherent.anchor
      rw [anchored] at digest
      have same : system.anchored genesis = s := free.same stored seen digest
      rw [same]
      refine ⟨coherent.configured, coherent.commitment, BitVec.le_refl _, fun _ => ⟨rfl, rfl⟩, fun prepared => nomatch prepared⟩

theorem commit_coherent {system : GiSystem} (coherent : system.Coherent config genesis)
    (configOk : giConfigOk config = true) (registry : GseaContext) (now : U32) :
    (giStep check config system (.commit registry now)).Coherent config genesis := by
  have commits := giCommit_commits check system.context registry now system.store
  unfold giStep
  dsimp only
  generalize giCommit check giStoreProvider system.context registry now system.store = run at commits ⊢
  obtain ⟨returned, reached⟩ := run
  cases commits with
  | kept anchor seen returns =>
    dsimp only
    rw [if_pos anchor]
    apply coherent.replace anchor seen
    rcases returned with _ | ⟨result, context⟩
    · exact giInit_follows configOk _ _
    · change context.Follows config (system.anchored genesis) system.store.anchor
      rcases returns result context rfl with rfl | ⟨floor, rfl⟩
      · exact coherent.follows
      · exact coherent.follows.hold floor system.context.preparedWire
  | moved prepared before next valid anchor seen staged returns =>
    have live : system.context.mode ≠ .hold := by
      rw [prepared]
      decide
    have published := coherent.published live
    have advances := (coherent.proposed prepared).later now
    have grown : ¬ reached.anchor = system.store.anchor := by
      rw [anchor, before, next]
      intro same
      have revision := congrArg Prod.fst same
      dsimp only at revision
      bv_omega
    have newer := advances.follows.revision
    dsimp only at newer ⊢
    rw [if_neg grown]
    rw [coherent.configured] at anchor staged
    have follows : (giResume config returned).Follows config { system.context.proposed with lastTime := now }
        reached.anchor := by
      rcases returned with _ | ⟨result, context⟩
      · exact giInit_follows configOk _ _
      · change context.Follows config { system.context.proposed with lastTime := now } reached.anchor
        rcases returns result context rfl with rfl | rfl
        · refine ⟨coherent.configured, coherent.commitment, ?_, fun ready => absurd rfl ready, fun idle => nomatch idle⟩
          have behind := coherent.behind
          rw [BitVec.le_def] at behind ⊢
          dsimp only
          omega
        · rw [anchor, coherent.configured]
          exact ⟨rfl, coherent.commitment, BitVec.le_refl _, fun _ => ⟨rfl, rfl⟩, fun idle => nomatch idle⟩
    exact ⟨follows.configured, follows.commitment, .commit coherent.history advances valid, anchor, staged, follows.behind,
      follows.published, follows.proposed⟩

theorem giStep_coherent {system : GiSystem} (coherent : system.Coherent config genesis)
    (configOk : giConfigOk config = true) (event : GiEvent)
    (free : GiCollisionFree (giStep check config system event).store.seen) :
    (giStep check config system event).Coherent config genesis := by
  have same : system.store.seen ⊆ system.store.seen := List.Subset.refl _
  cases event with
  | restart => exact coherent.replace rfl same (giInit_follows configOk _ _)
  | recover registry now => exact recover_coherent coherent configOk registry now free
  | prepare registry wire now =>
    have prepares := giPrepare_prepares check system.context registry wire now
    exact coherent.replace rfl same (prepares.follows coherent.follows)
  | preparePending registry epoch sequence deadline now =>
    have prepares := giPreparePending_prepares system.context registry epoch sequence deadline now
    exact coherent.replace rfl same (prepares.follows coherent.follows)
  | commit registry now => exact commit_coherent coherent configOk registry now

theorem giStep_seen (system : GiSystem) (event : GiEvent) :
    system.store.seen ⊆ (giStep check config system event).store.seen := by
  cases event with
  | recover registry now => exact (giRecover_moves system.context registry now system.store).1.seen
  | commit registry now =>
    have commits := giCommit_commits check system.context registry now system.store
    cases commits with
    | kept anchor seen returns => exact seen
    | moved prepared before next valid anchor seen staged returns => exact seen
  | _ => exact List.Subset.refl _

theorem giStart_coherent (configOk : giConfigOk config = true) (schedule : Nat → GiFault) :
    (giStart config genesis schedule).Coherent config genesis := by
  have follows := giInit_follows configOk genesis (giStart config genesis schedule).store.anchor
  exact ⟨follows.configured, follows.commitment, .start, rfl, List.mem_singleton_self _, follows.behind, follows.published,
    follows.proposed⟩

theorem giRun_coherent (configOk : giConfigOk config = true) (schedule : Nat → GiFault) (events : List GiEvent)
    (free : GiCollisionFree (giRun check config genesis schedule events).store.seen) :
    (giRun check config genesis schedule events).Coherent config genesis := by
  induction events using List.reverseRecOn with
  | nil => exact giStart_coherent configOk schedule
  | append_singleton events event ih =>
    unfold giRun at free ih ⊢
    rw [Run.after_snoc] at free ⊢
    exact giStep_coherent (ih (free.subset (giStep_seen _ event))) configOk event free

end run

def vectorKey : Bytes 32 := padded 32
  [0xD7, 0x5A, 0x98, 1, 0x82, 0xB1, 0x0A, 0xB7, 0xD5, 0x4B, 0xFE, 0xD3, 0xC9, 0x64, 7, 0x3A, 0x0E, 0xE1, 0x72, 0xF3,
   0xDA, 0xA6, 0x23, 0x25, 0xAF, 2, 0x1A, 0x68, 0xF7, 7, 0x51, 0x1A]

def vectorConfig : GiConfig :=
  ⟨11, 22, 33, 44, 1, 1, 2, 3, 4, 1, padded 32 ((List.range 32).map (BitVec.ofNat 8)), vectorKey⟩

def vectorRegistry : GseaContext := (gseaConfigure [⟨11, 22, 33, vectorKey, 0, gseaBoth⟩] 1).2

def vectorObservation : List U8 :=
  [0x47, 0x53, 2, 7, 0, 1, 1, 0, 0x34, 0, 0x40, 0, 0x0B, 0, 0, 0, 0x16, 0, 0, 0, 0x21, 0, 0, 0, 0x2C, 0, 0, 0, 1, 0,
   0, 0, 1, 0, 0, 0, 1, 0, 0, 0, 2, 0, 0, 0, 3, 0, 0, 0, 4, 0, 0, 0, 0xCD, 0xB2, 0x64, 0xB7, 0x33, 1, 0xB1, 0x80,
   0x70, 0x83, 0x28, 0x21, 0x4E, 0xA7, 0x2B, 0x93, 0x5C, 4, 0x6E, 0x3A, 0x18, 0x41, 6, 0x7E, 0x4E, 0xEE, 0x58, 0x9C,
   0x36, 0x8F, 0x8F, 0xA7, 0x5D, 0x8E, 0x20, 0xA6, 0x9D, 0xF7, 0xB4, 0xA3, 0x60, 0xC5, 0x39, 0x68, 0xA4, 0xD3, 0xFF,
   1, 0x95, 0xFE, 0x91, 0x90, 0xFE, 0xEF, 0x4E, 0x27, 2, 0x35, 0x89, 0xD0, 0xAB, 0x34, 0x5E, 0x23, 0xA3, 0x88, 0xF2,
   0xCC, 0xBA, 0x9F, 0x6B, 5, 0x8A, 0xF2, 0xBB, 0x68, 0x3D, 0x1B, 0x67, 0xD8, 0x87, 0xC7, 0xE4, 0xCD, 0x14, 0x3E,
   0xC2, 0x57, 0x0F, 0x82, 0xF5, 0x7D, 0x60, 0x9D, 0xFE, 3]

def vectorAck : List U8 :=
  [0x47, 0x53, 2, 8, 0, 1, 1, 0, 0x3C, 0, 0x40, 0, 0x0B, 0, 0, 0, 0x16, 0, 0, 0, 0x21, 0, 0, 0, 0x2C, 0, 0, 0, 1, 0,
   0, 0, 1, 0xA1, 0, 0, 1, 0, 0, 0, 2, 0, 0, 0, 3, 0, 0, 0, 4, 0, 0, 0, 0x58, 0, 0, 0, 0x63, 0, 0, 0, 0xCD, 0xB2,
   0x64, 0xB7, 0x33, 1, 0xB1, 0x80, 0x70, 0x83, 0x28, 0x21, 0x4E, 0xA7, 0x2B, 0x93, 0x5C, 4, 0x6E, 0x3A, 0x18, 0x41,
   6, 0x7E, 0x4E, 0xEE, 0x58, 0x9C, 0x36, 0x8F, 0x8F, 0xA7, 0xC5, 0xF1, 0x9D, 0xF9, 0xA3, 0x29, 0x78, 0xE6, 0xFF,
   0x25, 0x69, 0x4F, 0x1A, 0xDD, 0xF7, 0xBA, 0x9F, 0xF4, 0x95, 0xBD, 0x39, 0x35, 0xCE, 0x58, 0x6B, 0x0C, 0x73, 0xE8,
   0x4D, 0xE1, 0x63, 0xEA, 0xAC, 0xAE, 0xAF, 0x14, 0x0A, 0xB7, 0xEC, 0x1F, 0x2B, 0x0A, 0x3A, 0xEC, 0x4D, 0xB2, 0x7A,
   0xAE, 0xD0, 0xA1, 0x20, 0x0E, 0x31, 0x90, 0x40, 0x30, 0x8E, 0x8E, 0x1E, 0xD7, 0x2F, 0xD5, 0xB2, 6]

def vectorCheck (_ : Bytes 64) (_ : Bytes 32) (_ : List U8) : Bool := true

/-- After every run, with failures and power loss at any provider call: each transaction that reached the anchor follows
the one before it, no wire did twice, and the context is never ahead of the anchor. -/
theorem ingress_replay_safety (check : Bytes 64 → Bytes 32 → List U8 → Bool) (config : GiConfig) (genesis : GiState)
    (configOk : giConfigOk config = true) (schedule : Nat → GiFault) (events : List GiEvent)
    (free : GiCollisionFree (giRun check config genesis schedule events).store.seen) :
    let system := giRun check config genesis schedule events
    (∀ after commit before, system.commits = after ++ commit :: before → commit.Follows (giLast genesis before)) ∧
      ((system.commits.filter (·.kind ≠ 0)).map GiCommitted.wire).Nodup ∧
      system.store.anchor.1 = (giLast genesis system.commits).revision ∧
      system.context.live.revision ≤ system.store.anchor.1 ∧
      (system.context.mode ≠ .hold → system.context.live = giLast genesis system.commits ∧
        system.store.anchor.2 = giRecordDigest (giRecord config system.context.live)) := by
  intro system
  have coherent : system.Coherent config genesis := giRun_coherent configOk schedule events free
  have anchor := coherent.anchor
  refine ⟨fun _ _ _ split => coherent.history.follows split, coherent.history.wires_nodup, ?_, ?_, ?_⟩
  · rw [anchor]
    rfl
  · rw [anchor]
    exact coherent.behind
  · intro live
    have published := (coherent.published live).1
    refine ⟨published, ?_⟩
    rw [anchor, published]

/-- Power is lost as the anchor moves, and the observation follows the recovery. -/
def vectorInterrupted : GiSystem :=
  giRun vectorCheck vectorConfig zeroGiState (fun operation => if operation = 3 then .powerLoss true else .none)
    [.recover vectorRegistry 1, .preparePending vectorRegistry 88 99 100 2, .commit vectorRegistry 2,
      .recover vectorRegistry 3, .prepare vectorRegistry vectorObservation 4, .commit vectorRegistry 4]

theorem ingress_replay_safety_interrupted :
    vectorInterrupted.commits.map GiCommitted.kind = [7, 0] ∧
      vectorInterrupted.context.live = giLast zeroGiState vectorInterrupted.commits := by
  have reached : GiCollisionFree vectorInterrupted.store.seen ∧ vectorInterrupted.context.mode ≠ .hold ∧
      vectorInterrupted.commits.map GiCommitted.kind = [7, 0] := by
    decide +kernel
  obtain ⟨free, live, kinds⟩ := reached
  have safety := ingress_replay_safety vectorCheck vectorConfig zeroGiState (by decide)
    (fun operation => if operation = 3 then .powerLoss true else .none)
    [.recover vectorRegistry 1, .preparePending vectorRegistry 88 99 100 2, .commit vectorRegistry 2,
      .recover vectorRegistry 3, .prepare vectorRegistry vectorObservation 4, .commit vectorRegistry 4] free
  exact ⟨kinds, (safety.2.2.2.2 live).1⟩

theorem giRegistryOk_peer {x : GiContext} {a : GseaContext} (registryOk : giRegistryOk x a = true) :
    a.configured = 1 ∧ a.peers.length ≤ gseaMaxPeers ∧ a.registryRevision = x.config.registryRevision ∧
      ∃ peer, a.peers.filter x.config.names = [peer] ∧ x.config.trusts peer = true := by
  unfold giRegistryOk at registryOk
  split_ifs at registryOk with refused
  dsimp only at registryOk
  simp only [not_or, not_not] at refused
  obtain ⟨trusted, single⟩ := Bool.and_eq_true_iff.mp registryOk
  obtain ⟨peer, found⟩ := List.length_eq_one_iff.mp (beq_iff_eq.mp single)
  rw [found] at trusted
  refine ⟨refused.1, Nat.not_lt.mp refused.2.2.1, refused.2.2.2, peer, found, ?_⟩
  simpa using trusted

/-- A snapshot that is eligible comes right after an ACK in time for its reference, with an observation before it. -/
theorem ingress_snapshot_soundness (check : Bytes 64 → Bytes 32 → List U8 → Bool) (config : GiConfig)
    (genesis : GiState) (configOk : giConfigOk config = true) (unreported : genesis.hasReport = 0)
    (idle : genesis.pending = 0) (ineligible : genesis.eligible = 0) (schedule : Nat → GiFault) (events : List GiEvent)
    (free : GiCollisionFree (giRun check config genesis schedule events).store.seen) (registry : GseaContext) (now : U32)
    (s : GiState)
    (snapshot : giSnapshot (giRun check config genesis schedule events).context registry now = .ok s)
    (eligible : s.eligible ≠ 0) :
    (∃ ack between reference before,
      (giRun check config genesis schedule events).commits = ack :: between ++ reference :: before ∧
      ack.Acknowledges s ∧ reference.References s ∧ (∀ commit ∈ between, commit.kind = 7) ∧
      ∃ commit ∈ between ++ reference :: before, commit.kind = 7) ∧
    now < s.deadline ∧ registry.registryRevision = config.registryRevision ∧
    ∃ peer, registry.peers.filter config.names = [peer] ∧ config.trusts peer = true := by
  have coherent := giRun_coherent configOk schedule events free
  unfold giSnapshot at snapshot
  split_ifs at snapshot with refused
  simp only [not_or, not_not, Bool.not_eq_true', not_and] at refused
  obtain ⟨registryOk, ready, -, -, inTime⟩ := refused
  have same := Except.ok.inj snapshot
  have live : (giRun check config genesis schedule events).context.mode ≠ .hold := by
    rw [ready]
    decide
  have published := (coherent.published live).1
  rw [same] at published inTime
  obtain ⟨-, -, revision, peer, found, trusted⟩ := giRegistryOk_peer (by simpa using registryOk)
  rw [coherent.configured] at revision found trusted
  have anchored : s = giLast genesis (giRun check config genesis schedule events).commits := published
  have deadline := BitVec.not_le.mp (inTime eligible)
  rw [anchored] at eligible ⊢
  rw [anchored] at deadline
  have history := coherent.history.eligible unreported idle ineligible eligible
  exact ⟨history, deadline, revision, peer, found, trusted⟩

def vectorEvents : List GiEvent :=
  [.recover vectorRegistry 1, .preparePending vectorRegistry 88 99 100 2, .commit vectorRegistry 2,
    .prepare vectorRegistry vectorObservation 3, .commit vectorRegistry 3, .prepare vectorRegistry vectorAck 4,
    .commit vectorRegistry 4]

def vectorEligible : GiState := ⟨3, 1, 1, 88, 99, 100, 4, 1, 0, 1⟩

theorem ingress_snapshot_soundness_vector :
    ∃ ack between reference before,
      (giRun vectorCheck vectorConfig zeroGiState (fun _ => .none) vectorEvents).commits =
        ack :: between ++ reference :: before ∧
      ack.Acknowledges vectorEligible ∧ reference.References vectorEligible ∧ ∀ commit ∈ between, commit.kind = 7 := by
  have reached :
      let system := giRun vectorCheck vectorConfig zeroGiState (fun _ => .none) vectorEvents
      GiCollisionFree system.store.seen ∧ giSnapshot system.context vectorRegistry 4 = .ok vectorEligible := by
    decide +kernel
  obtain ⟨⟨ack, between, reference, before, split, acknowledges, references, observations, -⟩, -⟩ :=
    ingress_snapshot_soundness vectorCheck vectorConfig zeroGiState (by decide) rfl rfl rfl (fun _ => .none)
      vectorEvents reached.1 vectorRegistry 4 vectorEligible reached.2 (by decide)
  exact ⟨ack, between, reference, before, split, acknowledges, references, observations⟩

end Guardian.NodeLink
