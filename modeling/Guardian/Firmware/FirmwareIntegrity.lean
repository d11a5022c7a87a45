import Guardian.Firmware.FirmwareRun

namespace Guardian.Firmware

open Word Guardian.Crypto

namespace FirmwarePlatform

variable {platform : FirmwarePlatform}

theorem image_length (platform : FirmwarePlatform) (size : Nat) : (platform.image size).length = size := by
  rw [image, List.length_map, List.length_range]

theorem image_congr {other : FirmwarePlatform} {size : Nat}
    (same : ∀ index, index < size → other.staging index = platform.staging index) :
    other.image size = platform.image size :=
  List.map_congr_left fun index member => same index (List.mem_range.mp member)

theorem write_image_below (offset : U32) (data : List U8) (outcome : CallbackOutcome) :
    (platform.write offset data outcome).2.image offset.toNat = platform.image offset.toNat :=
  image_congr fun _ below => if_pos below

theorem write_image (platform : FirmwarePlatform) (offset : U32) (data : List U8) {outcome : CallbackOutcome}
    (succeeded : outcome.succeeds = true) :
    (platform.write offset data outcome).2.image (offset.toNat + data.length) = platform.image offset.toNat ++ data := by
  rw [image, List.range_add, List.map_append, List.map_map, ← image, write_image_below]
  congr 1
  apply List.ext_getElem
  · simp
  · intro index inside bound
    have above : ¬ offset.toNat + index < offset.toNat := by omega
    simp only [Function.comp_apply, List.getElem_map, List.getElem_range, write, succeeded, above]
    simp [bound]

end FirmwarePlatform

theorem FirmwareChunk.bytes_length {chunk : FirmwareChunk} (short : chunk.length.toNat ≤ 192) :
    chunk.bytes.length = chunk.length.toNat := by
  rw [FirmwareChunk.bytes, List.length_take, chunk.data.2]
  exact Nat.min_eq_left short

def FirmwareEntry.Leaves (entry : FirmwareEntry) : Prop :=
  ¬ entry.operation.IsRestart ∧ (entry.result = .ok → ∃ mark, entry.operation = .activate mark)

section integrity

variable (trusted : U8 → U32 → List U8 → List U8 → Bool)

/-- The candidate was finalized, over exactly the bytes accepted, and left as it was since. -/
def Finalized (log : List FirmwareEntry) (manifest : FirmwareManifest) : Prop :=
  ∃ newer hash verify older bytes, log = newer ++ ⟨.finalize hash verify, .ok⟩ :: older ∧
    acceptedBytes log = some bytes ∧ acceptedBytes older = some bytes ∧ manifest.Checked trusted bytes ∧
    ∀ entry ∈ newer, entry.Leaves

structure FirmwareHistory.Sound (history : FirmwareHistory) : Prop where
  received : history.system.lifecycle.bytesReceived ≤ history.system.lifecycle.manifest.imageSize
  floor : history.system.lifecycle.config.rollbackFloor ≤ history.system.lifecycle.config.activeVersionCounter
  above : history.system.lifecycle.state.Live →
    history.system.lifecycle.config.activeVersionCounter < history.system.lifecycle.manifest.versionCounter
  configured : history.system.lifecycle.state.Live → history.system.lifecycle.configured ≠ 0
  staged : ∀ bytes, acceptedBytes history.log = some bytes →
    history.system.platform.image history.system.lifecycle.bytesReceived.toNat = bytes
  torn : acceptedBytes history.log = none → history.system.lifecycle.state = .failed
  finalized : history.system.lifecycle.state = .verified ∨ history.system.lifecycle.state = .pendingActivation →
    history.system.lifecycle.bytesReceived = history.system.lifecycle.manifest.imageSize ∧
      Finalized trusted history.log history.system.lifecycle.manifest

variable {trusted}

theorem Finalized.cons {log : List FirmwareEntry} {manifest : FirmwareManifest} {entry : FirmwareEntry}
    (finalized : Finalized trusted log manifest) (leaves : entry.Leaves)
    (same : acceptedBytes (entry :: log) = acceptedBytes log) : Finalized trusted (entry :: log) manifest := by
  obtain ⟨newer, hash, verify, older, bytes, rfl, accepted, before, checked, kept⟩ := finalized
  refine ⟨entry :: newer, hash, verify, older, bytes, rfl, same.trans accepted, before, checked, ?_⟩
  intro later member
  obtain rfl | member := List.mem_cons.mp member
  · exact leaves
  · exact kept later member

theorem acceptedBytes_refused {operation : FirmwareOperation} {result : FirmwareResult} (log : List FirmwareEntry)
    (running : ¬ operation.IsRestart) (refused : result ≠ .ok)
    (intact : ∀ manifest erase, operation = .begin manifest erase → result ≠ .storage) :
    acceptedBytes (⟨operation, result⟩ :: log) = acceptedBytes log := by
  cases operation with
  | restart => exact absurd trivial running
  | begin manifest erase =>
    have other := intact manifest erase rfl
    cases result <;> first | rfl | contradiction
  | writeChunk chunk write => cases result <;> first | rfl | contradiction
  | finalize hash verify => rfl
  | activate mark => rfl
  | confirmBoot booted persist complete => rfl
  | reportBootFailure attempted complete => rfl

theorem firmwareMinimumCounter_eq {lifecycle : FirmwareLifecycle}
    (floor : lifecycle.config.rollbackFloor ≤ lifecycle.config.activeVersionCounter) :
    firmwareMinimumCounter lifecycle = lifecycle.config.activeVersionCounter :=
  if_neg (BitVec.not_lt.mpr floor)

theorem FirmwareState.Live.not_failed {state : FirmwareState} (live : state.Live) : state ≠ .failed := by
  rcases live with state | state | state <;> rw [state] <;> decide

theorem not_live_failing (lifecycle : FirmwareLifecycle) (failure : FirmwareFailure) :
    ¬ (lifecycle.failing failure).state.Live := fun live => live.not_failed rfl

theorem FirmwareHistory.Sound.stops {history : FirmwareHistory} (sound : history.Sound trusted) {entry : FirmwareEntry}
    {after : FirmwareSystem} (dead : ¬ after.lifecycle.state.Live)
    (manifest : after.lifecycle.manifest = history.system.lifecycle.manifest)
    (bytes : after.lifecycle.bytesReceived = history.system.lifecycle.bytesReceived)
    (floor : after.lifecycle.config.rollbackFloor ≤ after.lifecycle.config.activeVersionCounter)
    (image : after.platform.image history.system.lifecycle.bytesReceived.toNat =
      history.system.platform.image history.system.lifecycle.bytesReceived.toNat)
    (log : acceptedBytes (entry :: history.log) = acceptedBytes history.log)
    (torn : history.system.lifecycle.state = .failed → after.lifecycle.state = .failed) :
    FirmwareHistory.Sound trusted ⟨after, entry :: history.log⟩ := by
  constructor
  · rw [manifest, bytes]
    exact sound.received
  · exact floor
  · exact fun live => absurd live dead
  · exact fun live => absurd live dead
  · intro accepted_bytes accepted
    rw [bytes, image]
    exact sound.staged accepted_bytes (log ▸ accepted)
  · exact fun lost => torn (sound.torn (log ▸ lost))
  · rintro (verified | pending)
    · exact absurd (Or.inr (Or.inl verified)) dead
    · exact absurd (Or.inr (Or.inr pending)) dead

theorem firmwareRestart_config (system : FirmwareSystem) (requiredSignatureAlgorithm : U8) (maxImageSize : U32) :
    (firmwareRestart system requiredSignatureAlgorithm maxImageSize).2.platform = system.platform ∧
    (firmwareRestart system requiredSignatureAlgorithm maxImageSize).2.lifecycle.state = .idle ∧
    (firmwareRestart system requiredSignatureAlgorithm maxImageSize).2.lifecycle.bytesReceived = 0 ∧
    ((firmwareRestart system requiredSignatureAlgorithm maxImageSize).2.lifecycle = firmwareLifecycleInit ∨
      (system.platform.rollbackFloor ≤ system.platform.activeVersionCounter ∧
        (firmwareRestart system requiredSignatureAlgorithm maxImageSize).2.lifecycle.config =
          ⟨requiredSignatureAlgorithm, maxImageSize, system.platform.activeVersionCounter,
            system.platform.rollbackFloor⟩)) := by
  rw [firmwareRestart]
  dsimp only
  unfold firmwareLifecycleConfigure
  split_ifs with empty algorithm contradictory
  · exact ⟨rfl, rfl, rfl, Or.inl rfl⟩
  · exact ⟨rfl, rfl, rfl, Or.inl rfl⟩
  · exact ⟨rfl, rfl, rfl, Or.inl rfl⟩
  · exact ⟨rfl, rfl, rfl, Or.inr ⟨BitVec.not_lt.mp contradictory, rfl⟩⟩

section steps

variable {history : FirmwareHistory} (sound : history.Sound trusted)

theorem FirmwareHistory.restarts_sound (requiredSignatureAlgorithm : U8) (maxImageSize : U32) :
    FirmwareHistory.Sound trusted
      ⟨(firmwareRestart history.system requiredSignatureAlgorithm maxImageSize).2,
        ⟨.restart requiredSignatureAlgorithm maxImageSize,
          (firmwareRestart history.system requiredSignatureAlgorithm maxImageSize).1⟩ :: history.log⟩ := by
  obtain ⟨platform, idle, bytes, config⟩ :=
    firmwareRestart_config history.system requiredSignatureAlgorithm maxImageSize
  have dead : ¬ (firmwareRestart history.system requiredSignatureAlgorithm maxImageSize).2.lifecycle.state.Live := by
    rw [idle]
    nofun
  constructor
  · rw [bytes, BitVec.le_def]
    exact Nat.zero_le _
  · obtain zero | ⟨ordered, config⟩ := config
    · rw [zero]
      exact BitVec.le_refl _
    · rw [config]
      exact ordered
  · exact fun live => absurd live dead
  · exact fun live => absurd live dead
  · intro accepted_bytes accepted
    cases accepted
    rw [bytes]
    rfl
  · nofun
  · rintro (verified | pending)
    · exact absurd (Or.inr (Or.inl verified)) dead
    · exact absurd (Or.inr (Or.inr pending)) dead

include sound

theorem FirmwareHistory.Sound.refuses {operation : FirmwareOperation} {result : FirmwareResult}
    (refuses : history.system.Refuses operation) (refused : result = .invalidState ∨ result = .invalidPayload) :
    FirmwareHistory.Sound trusted ⟨history.system, ⟨operation, result⟩ :: history.log⟩ := by
  have unaccepted : result ≠ .ok := by rcases refused with rfl | rfl <;> decide
  have log : acceptedBytes (⟨operation, result⟩ :: history.log) = acceptedBytes history.log :=
    acceptedBytes_refused _ refuses.running unaccepted fun _ _ _ => by rcases refused with rfl | rfl <;> decide
  refine ⟨sound.received, sound.floor, sound.above, sound.configured, fun bytes accepted => ?_, fun lost => ?_, ?_⟩
  · exact sound.staged bytes (log ▸ accepted)
  · exact sound.torn (log ▸ lost)
  · intro finalized
    obtain ⟨complete, finalized⟩ := sound.finalized finalized
    exact ⟨complete, finalized.cons ⟨refuses.running, fun ok => absurd ok unaccepted⟩ log⟩

theorem FirmwareHistory.Sound.begins {manifest : FirmwareManifest} {erase : CallbackOutcome}
    (configured : history.system.lifecycle.configured ≠ 0)
    (above : firmwareMinimumCounter history.system.lifecycle < manifest.versionCounter) :
    FirmwareHistory.Sound trusted
      ⟨⟨{ history.system.lifecycle with manifest, bytesReceived := 0, failure := .none, state := .receiving },
        (history.system.platform.erase manifest.imageSize erase).2⟩, ⟨.begin manifest erase, .ok⟩ :: history.log⟩ := by
  rw [firmwareMinimumCounter_eq sound.floor] at above
  refine ⟨?_, sound.floor, fun _ => above, fun _ => configured, ?_, nofun, nofun⟩
  · rw [BitVec.le_def]
    exact Nat.zero_le _
  · intro bytes accepted
    cases accepted
    rfl

theorem FirmwareHistory.Sound.writes {chunk : FirmwareChunk} {write : CallbackOutcome}
    (receiving : history.system.lifecycle.state = .receiving)
    (next : chunk.offset = history.system.lifecycle.bytesReceived) (short : chunk.length.toNat ≤ 192)
    (fits : history.system.lifecycle.bytesReceived.toNat + chunk.length.toNat ≤
      history.system.lifecycle.manifest.imageSize.toNat) (succeeded : write.succeeds = true) :
    FirmwareHistory.Sound trusted
      ⟨⟨{ history.system.lifecycle with
          bytesReceived := history.system.lifecycle.bytesReceived + chunk.length.setWidth 32 },
        (history.system.platform.write chunk.offset chunk.bytes write).2⟩,
        ⟨.writeChunk chunk write, .ok⟩ :: history.log⟩ := by
  have live : history.system.lifecycle.state.Live := Or.inl receiving
  have total : (history.system.lifecycle.bytesReceived + chunk.length.setWidth 32).toNat =
      history.system.lifecycle.bytesReceived.toNat + chunk.length.toNat := by
    have := history.system.lifecycle.manifest.imageSize.isLt
    rw [BitVec.toNat_add, BitVec.toNat_setWidth]
    omega
  refine ⟨?_, sound.floor, fun _ => sound.above live, fun _ => sound.configured live, ?_, ?_, ?_⟩
  · rw [BitVec.le_def, total]
    exact fits
  · intro bytes accepted
    obtain ⟨before, accepted_before, rfl⟩ := Option.map_eq_some_iff.mp accepted
    have image := history.system.platform.write_image chunk.offset chunk.bytes succeeded
    have before_bytes : history.system.platform.image chunk.offset.toNat = before := by
      rw [next]
      exact sound.staged before accepted_before
    rw [FirmwareChunk.bytes_length short, before_bytes] at image
    rw [total, ← next]
    exact image
  · intro lost
    have failed := sound.torn (Option.map_eq_none_iff.mp lost)
    exact absurd failed live.not_failed
  · rintro (verified | pending)
    · cases receiving.symm.trans verified
    · cases receiving.symm.trans pending

theorem FirmwareHistory.Sound.finalizes {hash verify : CallbackOutcome}
    (receiving : history.system.lifecycle.state = .receiving)
    (complete : history.system.lifecycle.bytesReceived = history.system.lifecycle.manifest.imageSize)
    (digest : sha256 (history.system.platform.image history.system.lifecycle.manifest.imageSize.toNat) =
      history.system.lifecycle.manifest.imageSha256.1)
    (signed : history.system.lifecycle.manifest.Signed trusted) :
    FirmwareHistory.Sound trusted
      ⟨{ history.system with lifecycle := { history.system.lifecycle with state := .verified, failure := .none } },
        ⟨.finalize hash verify, .ok⟩ :: history.log⟩ := by
  have live : history.system.lifecycle.state.Live := Or.inl receiving
  refine ⟨sound.received, sound.floor, fun _ => sound.above live, fun _ => sound.configured live, sound.staged,
    fun lost => absurd (sound.torn lost) live.not_failed, fun _ => ⟨complete, ?_⟩⟩
  cases accepted : acceptedBytes history.log with
  | none => exact absurd (sound.torn accepted) live.not_failed
  | some bytes =>
    have image := sound.staged bytes accepted
    rw [complete] at image
    refine ⟨[], hash, verify, history.log, bytes, rfl, accepted, accepted, ⟨?_, ?_, signed⟩, nofun⟩
    · rw [← image, FirmwarePlatform.image_length]
    · rw [← image]
      exact digest

theorem FirmwareHistory.Sound.activates {mark : CallbackOutcome} (verified : history.system.lifecycle.state = .verified) :
    FirmwareHistory.Sound trusted
      ⟨⟨{ history.system.lifecycle with state := .pendingActivation, failure := .none },
        { history.system.platform with pending := some history.system.lifecycle.manifest.marker }⟩,
        ⟨.activate mark, .ok⟩ :: history.log⟩ := by
  have live : history.system.lifecycle.state.Live := Or.inr (Or.inl verified)
  obtain ⟨complete, finalized⟩ := sound.finalized (Or.inl verified)
  refine ⟨sound.received, sound.floor, fun _ => sound.above live, fun _ => sound.configured live, sound.staged,
    fun lost => absurd (sound.torn lost) live.not_failed, fun _ => ⟨complete, finalized.cons ⟨id, ?_⟩ rfl⟩⟩
  exact fun _ => ⟨mark, rfl⟩

/-- The boot of the candidate ended. -/
theorem FirmwareHistory.Sound.settles {entry : FirmwareEntry} {after : FirmwareSystem}
    (pending : history.system.lifecycle.state = .pendingActivation) (dead : ¬ after.lifecycle.state.Live)
    (manifest : after.lifecycle.manifest = history.system.lifecycle.manifest)
    (bytes : after.lifecycle.bytesReceived = history.system.lifecycle.bytesReceived)
    (floor : after.lifecycle.config.rollbackFloor ≤ after.lifecycle.config.activeVersionCounter)
    (staging : after.platform.staging = history.system.platform.staging)
    (log : acceptedBytes (entry :: history.log) = acceptedBytes history.log) :
    FirmwareHistory.Sound trusted ⟨after, entry :: history.log⟩ := by
  refine sound.stops dead manifest bytes floor ?_ log fun failed => ?_
  · exact FirmwarePlatform.image_congr fun index _ => by rw [staging]
  · rw [pending] at failed
    cases failed

theorem FirmwareHistory.Sound.perform (operation : FirmwareOperation) :
    (history.perform trusted operation).Sound trusted := by
  have moves := history.system.perform_moves trusted operation
  rw [FirmwareHistory.perform]
  generalize (history.system.perform trusted operation).1 = result at moves ⊢
  generalize (history.system.perform trusted operation).2 = after at moves ⊢
  cases moves with
  | restarts requiredSignatureAlgorithm maxImageSize =>
    exact FirmwareHistory.restarts_sound requiredSignatureAlgorithm maxImageSize
  | refuses operation result refuses refused => exact sound.refuses refuses refused
  | fails operation result failure fails refused intact =>
    exact sound.stops (not_live_failing _ _) rfl rfl sound.floor rfl
      (acceptedBytes_refused _ fails.running refused intact) fun _ => rfl
  | eraseFails manifest erase failed =>
    exact ⟨sound.received, sound.floor, fun live => absurd live (not_live_failing _ _),
      fun live => absurd live (not_live_failing _ _), nofun, fun _ => rfl, nofun⟩
  | begins manifest erase configured above => exact sound.begins configured above
  | writeFails chunk write receiving next =>
    refine sound.stops (not_live_failing _ _) rfl rfl sound.floor ?_ rfl fun _ => rfl
    rw [← next]
    exact FirmwarePlatform.write_image_below _ _ _
  | writes chunk write receiving next short fits succeeded => exact sound.writes receiving next short fits succeeded
  | finalizes hash verify receiving complete digest signed => exact sound.finalizes receiving complete digest signed
  | activates mark verified succeeded => exact sound.activates verified
  | activationFails mark verified failed =>
    exact sound.stops (not_live_failing _ _) rfl rfl sound.floor
      (FirmwarePlatform.image_congr fun index _ => by rw [FirmwarePlatform.markPending_staging]) rfl fun _ => rfl
  | confirms booted persist complete pending same persisted completed =>
    exact sound.settles pending nofun rfl rfl (BitVec.le_refl _) rfl rfl
  | mismatches booted persist complete pending other =>
    exact sound.settles pending (not_live_failing _ _) rfl rfl sound.floor rfl rfl
  | persistFails booted persist complete pending same failed =>
    exact sound.settles pending (not_live_failing _ _) rfl rfl sound.floor
      (FirmwarePlatform.persistFloor_staging ..) rfl
  | completionFails booted persist complete pending same persisted failed =>
    exact sound.settles pending (not_live_failing _ _) rfl rfl (BitVec.le_refl _)
      (FirmwarePlatform.completePending_staging ..) rfl
  | rollsBack attempted complete pending same completed =>
    exact sound.settles pending nofun rfl rfl sound.floor rfl rfl
  | rollbackFails attempted complete pending same failed =>
    exact sound.settles pending (not_live_failing _ _) rfl rfl sound.floor
      (FirmwarePlatform.completePending_staging ..) rfl

end steps

/-- No version below these is accepted again, and what is configured is persisted. -/
structure FirmwareSystem.Guarded (floor active : U32) (system : FirmwareSystem) : Prop where
  floorKept : floor ≤ system.platform.rollbackFloor
  activeKept : active ≤ system.platform.activeVersionCounter ∨ active ≤ system.platform.rollbackFloor
  configured : system.lifecycle.configured ≠ 0 → floor ≤ system.lifecycle.config.rollbackFloor ∧
    active ≤ system.lifecycle.config.activeVersionCounter
  persisted : system.lifecycle.configured ≠ 0 →
    system.lifecycle.config.rollbackFloor ≤ system.platform.rollbackFloor ∧
    (system.lifecycle.config.activeVersionCounter ≤ system.platform.activeVersionCounter ∨
      system.lifecycle.config.activeVersionCounter ≤ system.platform.rollbackFloor)

theorem FirmwareSystem.Guarded.same {floor active : U32} {system after : FirmwareSystem}
    (guarded : system.Guarded floor active) (config : after.lifecycle.config = system.lifecycle.config)
    (configured : after.lifecycle.configured = system.lifecycle.configured)
    (persistedFloor : after.platform.rollbackFloor = system.platform.rollbackFloor)
    (persistedActive : after.platform.activeVersionCounter = system.platform.activeVersionCounter) :
    after.Guarded floor active := by
  constructor
  · rw [persistedFloor]
    exact guarded.floorKept
  · rw [persistedFloor, persistedActive]
    exact guarded.activeKept
  · rw [config, configured]
    exact guarded.configured
  · rw [config, configured, persistedFloor, persistedActive]
    exact guarded.persisted

/-- A confirmed boot raises the persisted floor above all that was configured, whatever becomes of the rest. -/
theorem FirmwareSystem.Guarded.raised {floor active booted : U32} {system after : FirmwareSystem}
    (guarded : system.Guarded floor active) (configured : system.lifecycle.configured ≠ 0)
    (ordered : system.lifecycle.config.rollbackFloor ≤ system.lifecycle.config.activeVersionCounter)
    (above : system.lifecycle.config.activeVersionCounter < booted) (persisted : after.platform.rollbackFloor = booted)
    (config : (after.lifecycle.config.rollbackFloor = system.lifecycle.config.rollbackFloor ∧
        after.lifecycle.config.activeVersionCounter = system.lifecycle.config.activeVersionCounter) ∨
      (after.lifecycle.config.rollbackFloor = booted ∧ after.lifecycle.config.activeVersionCounter = booted)) :
    after.Guarded floor active := by
  obtain ⟨floor_low, active_low⟩ := guarded.configured configured
  have floor_booted : floor ≤ booted := by bv_omega
  have active_booted : active ≤ booted := by bv_omega
  constructor
  · rwa [persisted]
  · rw [persisted]
    exact Or.inr active_booted
  · intro _
    obtain ⟨floor_same, active_same⟩ | ⟨floor_same, active_same⟩ := config
    · rw [floor_same, active_same]
      exact ⟨floor_low, active_low⟩
    · rw [floor_same, active_same]
      exact ⟨floor_booted, active_booted⟩
  · intro _
    rw [persisted]
    obtain ⟨floor_same, active_same⟩ | ⟨floor_same, active_same⟩ := config
    · rw [floor_same, active_same]
      exact ⟨by bv_omega, Or.inr (by bv_omega)⟩
    · rw [floor_same, active_same]
      exact ⟨BitVec.le_refl _, Or.inr (BitVec.le_refl _)⟩

theorem FirmwareHistory.Sound.guarded {history : FirmwareHistory} (sound : history.Sound trusted) {floor active : U32}
    (guarded : history.system.Guarded floor active) (operation : FirmwareOperation) :
    (history.perform trusted operation).system.Guarded floor active := by
  have moves := history.system.perform_moves trusted operation
  rw [FirmwareHistory.perform]
  generalize (history.system.perform trusted operation).1 = result at moves ⊢
  generalize (history.system.perform trusted operation).2 = after at moves ⊢
  cases moves with
  | restarts requiredSignatureAlgorithm maxImageSize =>
    obtain ⟨platform, -, -, config⟩ := firmwareRestart_config history.system requiredSignatureAlgorithm maxImageSize
    constructor
    · rw [platform]
      exact guarded.floorKept
    · rw [platform]
      exact guarded.activeKept
    · intro configured
      obtain zero | ⟨ordered, config⟩ := config
      · rw [zero] at configured
        exact absurd rfl configured
      · rw [config]
        have floor_low := guarded.floorKept
        obtain low | low := guarded.activeKept
        · exact ⟨floor_low, low⟩
        · exact ⟨floor_low, BitVec.le_trans low ordered⟩
    · intro configured
      obtain zero | ⟨ordered, config⟩ := config
      · rw [zero] at configured
        exact absurd rfl configured
      · rw [config, platform]
        exact ⟨BitVec.le_refl _, Or.inl (BitVec.le_refl _)⟩
  | refuses operation result refuses refused => exact guarded
  | fails operation result failure fails refused intact => exact guarded.same rfl rfl rfl rfl
  | eraseFails manifest erase failed => exact guarded.same rfl rfl rfl rfl
  | begins manifest erase configured above => exact guarded.same rfl rfl rfl rfl
  | writeFails chunk write receiving next => exact guarded.same rfl rfl rfl rfl
  | writes chunk write receiving next short fits succeeded => exact guarded.same rfl rfl rfl rfl
  | finalizes hash verify receiving complete digest signed => exact guarded.same rfl rfl rfl rfl
  | activates mark verified succeeded => exact guarded.same rfl rfl rfl rfl
  | activationFails mark verified failed =>
    refine guarded.same rfl rfl ?_ ?_
    · rw [FirmwarePlatform.markPending]
      split_ifs <;> rfl
    · rw [FirmwarePlatform.markPending]
      split_ifs <;> rfl
  | confirms booted persist complete pending same persisted completed =>
    have live : history.system.lifecycle.state.Live := Or.inr (Or.inr pending)
    have above := sound.above live
    rw [← same] at above
    exact guarded.raised (sound.configured live) sound.floor above rfl (Or.inr ⟨rfl, rfl⟩)
  | mismatches booted persist complete pending other => exact guarded.same rfl rfl rfl rfl
  | persistFails booted persist complete pending same failed =>
    have live : history.system.lifecycle.state.Live := Or.inr (Or.inr pending)
    have above := sound.above live
    rw [← same] at above
    rw [FirmwarePlatform.persistFloor]
    split_ifs with effective
    · exact guarded.raised (sound.configured live) sound.floor above rfl (Or.inl ⟨rfl, rfl⟩)
    · exact guarded.same rfl rfl rfl rfl
  | completionFails booted persist complete pending same persisted failed =>
    have live : history.system.lifecycle.state.Live := Or.inr (Or.inr pending)
    have above := sound.above live
    rw [← same] at above
    exact guarded.raised (sound.configured live) sound.floor above (FirmwarePlatform.completePending_rollbackFloor _ _ _ _)
      (Or.inr ⟨rfl, rfl⟩)
  | rollsBack attempted complete pending same completed => exact guarded.same rfl rfl rfl rfl
  | rollbackFails attempted complete pending same failed =>
    exact guarded.same rfl rfl (FirmwarePlatform.completePending_rollbackFloor _ _ _ _)
      (FirmwarePlatform.completePending_active _ _ _)

def firmwareStart (platform : FirmwarePlatform) : FirmwareHistory := ⟨⟨firmwareLifecycleInit, platform⟩, []⟩

theorem sound_start (platform : FirmwarePlatform) : (firmwareStart platform).Sound trusted := by
  refine ⟨BitVec.le_refl _, BitVec.le_refl _, nofun, nofun, ?_, nofun, nofun⟩
  intro bytes accepted
  cases accepted
  rfl

theorem guarded_start (platform : FirmwarePlatform) : (firmwareStart platform).system.Guarded 0 0 := by
  have zero (value : U32) : 0 ≤ value := BitVec.le_def.mpr (Nat.zero_le _)
  exact ⟨zero _, Or.inl (zero _), fun configured => absurd rfl configured, fun configured => absurd rfl configured⟩

theorem sound_run (platform : FirmwarePlatform) (operations : List FirmwareOperation) :
    (Run.after (FirmwareHistory.perform trusted) operations (firmwareStart platform)).Sound trusted :=
  Run.after_invariant (fun _ operation sound => sound.perform operation) (sound_start platform) operations

theorem guarded_run {history : FirmwareHistory} (sound : history.Sound trusted) {floor active : U32}
    (guarded : history.system.Guarded floor active) (operations : List FirmwareOperation) :
    (Run.after (FirmwareHistory.perform trusted) operations history).system.Guarded floor active := by
  have preserved (history : FirmwareHistory) (operation : FirmwareOperation)
      (both : history.Sound trusted ∧ history.system.Guarded floor active) :
      (history.perform trusted operation).Sound trusted ∧
        (history.perform trusted operation).system.Guarded floor active :=
    ⟨both.1.perform operation, both.1.guarded both.2 operation⟩
  exact (Run.after_invariant preserved ⟨sound, guarded⟩ operations).2

end integrity

theorem firmwareActivate_ok {system : FirmwareSystem} {mark : CallbackOutcome}
    (accepted : (firmwareActivate system mark).1 = .ok) : system.lifecycle.state = .verified ∧
      (firmwareActivate system mark).2.platform.pending = some system.lifecycle.manifest.marker := by
  rw [firmwareActivate] at accepted ⊢
  dsimp only at accepted ⊢
  split_ifs at accepted ⊢ with unverified failed
  · cases accepted
  · have succeeded : mark.succeeds = true := by simpa using failed
    rw [FirmwarePlatform.markPending_ok _ _ succeeded]
    exact ⟨not_not.mp unverified, rfl⟩

/-- Anti-rollback and staging integrity, after every run from the first configuration on. -/
theorem firmware_integrity (trusted : U8 → U32 → List U8 → List U8 → Bool) (platform : FirmwarePlatform)
    (operations : List FirmwareOperation) :
    let history := Run.after (FirmwareHistory.perform trusted) operations (firmwareStart platform)
    let lifecycle := history.system.lifecycle
    (∀ further, let later := Run.after (FirmwareHistory.perform trusted) further history
      lifecycle.configured ≠ 0 → later.system.lifecycle.configured ≠ 0 →
        lifecycle.config.rollbackFloor ≤ later.system.lifecycle.config.rollbackFloor ∧
        lifecycle.config.activeVersionCounter ≤ later.system.lifecycle.config.activeVersionCounter) ∧
    lifecycle.config.rollbackFloor ≤ lifecycle.config.activeVersionCounter ∧
    lifecycle.bytesReceived ≤ lifecycle.manifest.imageSize ∧
    (∀ bytes, acceptedBytes history.log = some bytes →
      history.system.platform.image lifecycle.bytesReceived.toNat = bytes) ∧
    (acceptedBytes history.log = none → lifecycle.state = .failed) ∧
    ∀ mark, (firmwareActivate history.system mark).1 = .ok →
      lifecycle.config.activeVersionCounter < lifecycle.manifest.versionCounter ∧
      lifecycle.config.rollbackFloor < lifecycle.manifest.versionCounter ∧
      Finalized trusted history.log lifecycle.manifest ∧
      (firmwareActivate history.system mark).2.platform.pending = some lifecycle.manifest.marker := by
  intro history lifecycle
  have sound : history.Sound trusted := sound_run platform operations
  refine ⟨?_, sound.floor, sound.received, sound.staged, sound.torn, ?_⟩
  · intro further later configured later_configured
    have guarded : history.system.Guarded 0 0 := guarded_run (sound_start platform) (guarded_start platform) operations
    obtain ⟨floor_persisted, active_persisted⟩ := guarded.persisted configured
    have self : history.system.Guarded lifecycle.config.rollbackFloor lifecycle.config.activeVersionCounter :=
      ⟨floor_persisted, active_persisted, fun _ => ⟨BitVec.le_refl _, BitVec.le_refl _⟩, guarded.persisted⟩
    exact (guarded_run sound self further).configured later_configured
  · intro mark accepted
    obtain ⟨verified, marked⟩ := firmwareActivate_ok accepted
    have above := sound.above (Or.inr (Or.inl verified))
    have floor := sound.floor
    have below : history.system.lifecycle.config.rollbackFloor < history.system.lifecycle.manifest.versionCounter := by
      bv_omega
    exact ⟨above, below, (sound.finalized (Or.inl verified)).2, marked⟩

end Guardian.Firmware
