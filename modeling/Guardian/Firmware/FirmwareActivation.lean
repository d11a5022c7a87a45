import Guardian.Firmware.FirmwareIntegrity

namespace Guardian.Firmware

open Word Guardian.Crypto

/-- With callbacks that work, the outcome of the marked version's boot is accepted. -/
def FirmwareSystem.Answerable (system : FirmwareSystem) (marker : PendingMarker) : Prop :=
  ∀ persist complete : CallbackOutcome, persist.succeeds = true → complete.succeeds = true →
    (firmwareConfirmBoot system marker.versionCounter persist complete).1 = .ok ∧
    (firmwareReportBootFailure system marker.versionCounter complete).1 = .ok

section activation

variable (trusted : U8 → U32 → List U8 → List U8 → Bool)

/-- The marker is that of a manifest whose signature verified and whose digest is that of the staged image. -/
def FirmwareSystem.Names (system : FirmwareSystem) (marker : PendingMarker) : Prop :=
  ∃ manifest : FirmwareManifest, manifest.marker = marker ∧ manifest.Signed trusted ∧
    sha256 (system.platform.image manifest.imageSize.toNat) = manifest.imageSha256.1

def FirmwareSystem.PendingVerified (system : FirmwareSystem) : Prop :=
  ∀ marker, system.platform.pending = some marker → system.Names trusted marker ∧ system.Answerable marker

/-- While the marker is set, nothing but the outcome of its boot, persisted by the platform; and the marker is not set
by a call that reports failure. -/
def FirmwareSystem.Keeps (system : FirmwareSystem) : FirmwareOperation → Prop
  | .restart .. => system.platform.pending = none
  | .begin .. => system.platform.pending = none
  | .writeChunk .. => True
  | .finalize .. => True
  | .activate mark => system.lifecycle.state = .verified → mark.effective = true → mark.succeeds = true
  | .confirmBoot booted persist complete => ∀ marker, system.platform.pending = some marker →
      booted = marker.versionCounter ∧ persist.succeeds = true ∧ complete.effective = true
  | .reportBootFailure attempted complete => ∀ marker, system.platform.pending = some marker →
      attempted = marker.versionCounter → complete.effective = true

def FirmwareSystem.Matches (system : FirmwareSystem) : Prop :=
  ∀ marker, system.platform.pending = some marker →
    system.lifecycle.state = .pendingActivation ∧ system.lifecycle.manifest.marker = marker

variable {trusted}

theorem FirmwareSystem.answerable {system : FirmwareSystem} (pending : system.lifecycle.state = .pendingActivation) :
    system.Answerable system.lifecycle.manifest.marker := by
  intro persist complete persisted completed
  constructor
  · rw [firmwareConfirmBoot]
    simp [pending, FirmwareManifest.marker, persisted, completed]
  · rw [firmwareReportBootFailure]
    simp [pending, FirmwareManifest.marker, completed]

theorem FirmwareSystem.not_answerable {system : FirmwareSystem} (other : system.lifecycle.state ≠ .pendingActivation)
    (marker : PendingMarker) : ¬ system.Answerable marker := by
  intro answerable
  have accepted := (answerable ⟨true, true, fun _ => 0⟩ ⟨true, true, fun _ => 0⟩ rfl rfl).1
  rw [firmwareConfirmBoot, if_pos other] at accepted
  cases accepted

theorem FirmwareSystem.not_pendingVerified {system : FirmwareSystem} {marker : PendingMarker}
    (set : system.platform.pending = some marker) (other : system.lifecycle.state ≠ .pendingActivation) :
    ¬ system.PendingVerified trusted := fun verified => system.not_answerable other marker (verified marker set).2

theorem FirmwareHistory.Sound.pendingVerified {history : FirmwareHistory} (sound : history.Sound trusted)
    (matches' : history.system.Matches) : history.system.PendingVerified trusted := by
  intro marker set
  obtain ⟨pending, rfl⟩ := matches' marker set
  obtain ⟨complete, newer, hash, verify, older, bytes, -, accepted, -, checked, -⟩ := sound.finalized (Or.inr pending)
  refine ⟨⟨history.system.lifecycle.manifest, rfl, checked.2.2, ?_⟩, FirmwareSystem.answerable pending⟩
  rw [← complete, sound.staged bytes accepted]
  exact checked.2.1

/-- The marker is set, and the lifecycle does not wait for the outcome of its boot. -/
def FirmwareSystem.Orphaned (system : FirmwareSystem) : Prop :=
  ∃ marker, system.platform.pending = some marker ∧ system.lifecycle.state ≠ .pendingActivation

/-- The match is kept exactly under the condition, and the marker orphaned otherwise. -/
def FirmwareSystem.MatchesIff (after : FirmwareSystem) (kept : Prop) : Prop :=
  (kept → after.Matches) ∧ (¬ kept → after.Orphaned)

/-- An operation that ends the wait for an outcome keeps the match exactly when no marker is left. -/
theorem FirmwareSystem.matches_or_orphaned {after : FirmwareSystem} (other : after.lifecycle.state ≠ .pendingActivation)
    {kept : Prop} (cleared : kept ↔ after.platform.pending = none) : after.MatchesIff kept := by
  constructor
  · intro holds marker set
    rw [cleared.mp holds] at set
    cases set
  · intro broken
    obtain ⟨marker, set⟩ := Option.ne_none_iff_exists'.mp (mt cleared.mpr broken)
    exact ⟨marker, set, other⟩

theorem FirmwareSystem.matches_of_unmarked {after : FirmwareSystem} (unmarked : after.platform.pending = none)
    {kept : Prop} (holds : kept) : after.MatchesIff kept := by
  refine ⟨fun _ marker set => ?_, fun broken => absurd holds broken⟩
  rw [unmarked] at set
  cases set

theorem FirmwareSystem.persistFails_keeps {system : FirmwareSystem} {booted : U32}
    {persist complete : CallbackOutcome} (failed : persist.succeeds = false) :
    FirmwareSystem.MatchesIff
      ⟨system.lifecycle.failing .confirmation, (system.platform.persistFloor booted persist).2⟩
      (system.Keeps (.confirmBoot booted persist complete)) := by
  apply FirmwareSystem.matches_or_orphaned (fun same => by cases same)
  rw [FirmwarePlatform.persistFloor_pending]
  constructor
  · intro kept
    by_contra set
    obtain ⟨marker, set⟩ := Option.ne_none_iff_exists'.mp set
    cases failed.symm.trans (kept marker set).2.1
  · intro unset marker set
    cases unset.symm.trans set

section keeps

variable {system : FirmwareSystem} (before : system.Matches)
include before

/-- Without the wait for an outcome there is no marker. -/
theorem FirmwareSystem.Matches.unset (other : system.lifecycle.state ≠ .pendingActivation) :
    system.platform.pending = none := by
  by_contra set
  obtain ⟨marker, set⟩ := Option.ne_none_iff_exists'.mp set
  exact other (before marker set).1

theorem FirmwareSystem.Matches.progresses {after : FirmwareSystem}
    (unchanged : after.platform.pending = system.platform.pending)
    (other : system.lifecycle.state ≠ .pendingActivation) : after.MatchesIff True :=
  FirmwareSystem.matches_of_unmarked (unchanged.trans (before.unset other)) trivial

theorem FirmwareSystem.Matches.refuses {operation : FirmwareOperation} (refuses : system.Refuses operation) :
    system.MatchesIff (system.Keeps operation) := by
  refine ⟨fun _ => before, fun broken => absurd ?_ broken⟩
  cases operation with
  | restart => exact refuses.elim
  | begin => exact refuses.elim
  | writeChunk => trivial
  | finalize => trivial
  | activate mark => exact fun verified => absurd verified refuses
  | confirmBoot booted persist complete =>
    intro marker set
    exact absurd (before marker set).1 refuses
  | reportBootFailure attempted complete =>
    intro marker set same
    obtain ⟨pending, named⟩ := before marker set
    obtain other | other := refuses
    · exact absurd pending other
    · rw [← named] at same
      exact absurd same other

theorem FirmwareSystem.Matches.fails {operation : FirmwareOperation} (fails : system.Fails operation)
    (failure : FirmwareFailure) :
    FirmwareSystem.MatchesIff { system with lifecycle := system.lifecycle.failing failure } (system.Keeps operation) := by
  cases operation with
  | begin => exact FirmwareSystem.matches_or_orphaned (fun same => by cases same) Iff.rfl
  | writeChunk => exact before.progresses rfl (fails ▸ nofun)
  | finalize => exact before.progresses rfl (fails ▸ nofun)
  | restart => exact fails.elim
  | activate => exact fails.elim
  | confirmBoot => exact fails.elim
  | reportBootFailure => exact fails.elim

theorem FirmwareSystem.Matches.activationFails {mark : CallbackOutcome} (verified : system.lifecycle.state = .verified)
    (failed : mark.succeeds = false) :
    FirmwareSystem.MatchesIff ⟨system.lifecycle.failing .activation,
      (system.platform.markPending system.lifecycle.manifest.marker mark).2⟩ (system.Keeps (.activate mark)) := by
  apply FirmwareSystem.matches_or_orphaned (fun same => by cases same)
  have unset := before.unset (verified ▸ nofun)
  rw [FirmwarePlatform.markPending_pending, unset]
  cases effective : mark.effective with
  | true => simp [FirmwareSystem.Keeps, verified, effective, failed]
  | false => simp [FirmwareSystem.Keeps, effective]

theorem FirmwareSystem.Matches.mismatches {booted : U32} {persist complete : CallbackOutcome}
    (other : booted ≠ system.lifecycle.manifest.versionCounter) :
    FirmwareSystem.MatchesIff { system with lifecycle := system.lifecycle.failing .confirmation }
      (system.Keeps (.confirmBoot booted persist complete)) := by
  apply FirmwareSystem.matches_or_orphaned (fun same => by cases same)
  constructor
  · intro kept
    by_contra set
    obtain ⟨marker, set⟩ := Option.ne_none_iff_exists'.mp set
    obtain ⟨-, rfl⟩ := before marker set
    exact other (kept _ set).1
  · intro unset marker set
    cases unset.symm.trans set

theorem FirmwareSystem.Matches.completionFails {booted : U32} {persist complete : CallbackOutcome}
    {after : FirmwareSystem} (other : after.lifecycle.state ≠ .pendingActivation)
    (same : booted = system.lifecycle.manifest.versionCounter) (persisted : persist.succeeds = true)
    (cleared : after.platform.pending = if complete.effective then none else system.platform.pending) :
    after.MatchesIff (system.Keeps (.confirmBoot booted persist complete)) := by
  apply FirmwareSystem.matches_or_orphaned other
  rw [cleared]
  constructor
  · intro kept
    split_ifs with effective
    · rfl
    · by_contra set
      obtain ⟨marker, set⟩ := Option.ne_none_iff_exists'.mp set
      exact effective (kept marker set).2.2
  · intro cleared marker set
    obtain ⟨-, rfl⟩ := before marker set
    refine ⟨same, persisted, ?_⟩
    by_contra effective
    rw [if_neg effective] at cleared
    cases cleared.symm.trans set

theorem FirmwareSystem.Matches.rollbackFails {attempted : U32} {complete : CallbackOutcome}
    (same : attempted = system.lifecycle.manifest.versionCounter) :
    FirmwareSystem.MatchesIff
      ⟨system.lifecycle.failing .confirmation, (system.platform.completePending attempted 0 complete).2⟩
      (system.Keeps (.reportBootFailure attempted complete)) := by
  apply FirmwareSystem.matches_or_orphaned (fun same => by cases same)
  rw [FirmwarePlatform.completePending_pending]
  constructor
  · intro kept
    split_ifs with effective
    · rfl
    · by_contra set
      obtain ⟨marker, set⟩ := Option.ne_none_iff_exists'.mp set
      obtain ⟨-, rfl⟩ := before marker set
      exact effective (kept _ set same)
  · intro cleared marker set _
    by_contra effective
    rw [if_neg effective] at cleared
    cases cleared.symm.trans set

theorem FirmwareSystem.Moves.keeps {after : FirmwareSystem} {operation : FirmwareOperation} {result : FirmwareResult}
    (moves : system.Moves trusted operation result after) : after.MatchesIff (system.Keeps operation) := by
  cases moves with
  | restarts requiredSignatureAlgorithm maxImageSize =>
    obtain ⟨platform, idle, -, -⟩ := firmwareRestart_config system requiredSignatureAlgorithm maxImageSize
    apply FirmwareSystem.matches_or_orphaned
    · rw [idle]
      decide
    · rw [platform]
      exact Iff.rfl
  | refuses operation result refuses refused => exact before.refuses refuses
  | fails operation result failure fails refused intact => exact before.fails fails failure
  | eraseFails manifest erase failed => exact FirmwareSystem.matches_or_orphaned (fun same => by cases same) Iff.rfl
  | begins manifest erase configured above =>
    exact FirmwareSystem.matches_or_orphaned (fun same => by cases same) Iff.rfl
  | writeFails chunk write receiving next => exact before.progresses rfl (receiving ▸ nofun)
  | writes chunk write receiving next short fits succeeded => exact before.progresses rfl (receiving ▸ nofun)
  | finalizes hash verify receiving complete digest signed => exact before.progresses rfl (receiving ▸ nofun)
  | activates mark verified succeeded =>
    refine ⟨fun _ marker set => ⟨rfl, Option.some.inj set⟩, fun broken => absurd ?_ broken⟩
    exact fun _ _ => succeeded
  | activationFails mark verified failed => exact before.activationFails verified failed
  | confirms booted persist complete pending same persisted completed =>
    refine FirmwareSystem.matches_of_unmarked rfl ?_
    intro marker set
    obtain ⟨-, rfl⟩ := before marker set
    exact ⟨same, persisted, CallbackOutcome.effective_of_succeeds completed⟩
  | mismatches booted persist complete pending other => exact before.mismatches other
  | persistFails booted persist complete pending same failed => exact FirmwareSystem.persistFails_keeps failed
  | completionFails booted persist complete pending same persisted failed =>
    exact before.completionFails (fun same => by cases same) same persisted
      (FirmwarePlatform.completePending_pending ..)
  | rollsBack attempted complete pending same completed =>
    refine FirmwareSystem.matches_of_unmarked rfl ?_
    intro marker set same'
    exact CallbackOutcome.effective_of_succeeds completed
  | rollbackFails attempted complete pending same failed => exact before.rollbackFails same

end keeps

/-- Every operation meets the condition in the state it starts from. -/
def FirmwareHistory.KeptRun (trusted : U8 → U32 → List U8 → List U8 → Bool) (history : FirmwareHistory) :
    List FirmwareOperation → Prop
  | [] => True
  | operation :: operations =>
    history.system.Keeps operation ∧ FirmwareHistory.KeptRun trusted (history.perform trusted operation) operations

theorem FirmwareHistory.Sound.matches_run {history : FirmwareHistory} (sound : history.Sound trusted)
    (before : history.system.Matches) {operations : List FirmwareOperation}
    (kept : history.KeptRun trusted operations) :
    (Run.after (FirmwareHistory.perform trusted) operations history).Sound trusted ∧
      (Run.after (FirmwareHistory.perform trusted) operations history).system.Matches := by
  induction operations generalizing history with
  | nil => exact ⟨sound, before⟩
  | cons operation operations ih =>
    have moves := history.system.perform_moves trusted operation
    exact ih (sound.perform operation) ((FirmwareSystem.Moves.keeps before moves).1 kept.1) kept.2

end activation

/-- In a run whose operations meet the condition the marker names a verified image and its outcome is accepted; the
next operation keeps this exactly when it meets the condition too. -/
theorem pending_marker_verified (trusted : U8 → U32 → List U8 → List U8 → Bool) (platform : FirmwarePlatform)
    (unmarked : platform.pending = none) (operations : List FirmwareOperation)
    (kept : (firmwareStart platform).KeptRun trusted operations) :
    let history := Run.after (FirmwareHistory.perform trusted) operations (firmwareStart platform)
    history.system.PendingVerified trusted ∧
      ∀ operation, (history.perform trusted operation).system.PendingVerified trusted ↔ history.system.Keeps operation := by
  intro history
  have start : (firmwareStart platform).system.Matches := by
    intro marker set
    cases unmarked.symm.trans set
  obtain ⟨sound, matches'⟩ := (sound_start platform).matches_run start kept
  refine ⟨sound.pendingVerified matches', fun operation => ?_⟩
  obtain ⟨keeps, orphans⟩ := FirmwareSystem.Moves.keeps matches' (FirmwareSystem.perform_moves trusted _ operation)
  constructor
  · intro verified
    by_contra broken
    obtain ⟨marker, set, other⟩ := orphans broken
    exact FirmwareSystem.not_pendingVerified set other verified
  · intro kept
    exact (sound.perform operation).pendingVerified (keeps kept)

section example_run

def workingCallback : CallbackOutcome := ⟨true, true, fun _ => 0⟩

def sampleManifest (versionCounter : U32) : FirmwareManifest :=
  ⟨firmwareSignatureDemoHmacSha256, 1, versionCounter, 0, 12, 0, 1, ⟨sha256 [0x5A], rfl⟩, 32, padded 64 []⟩

def samplePlatform : FirmwarePlatform := ⟨fun _ => 0, none, 1, 1⟩

/-- Configure, stage one byte under version 2, verify and mark it. -/
def sampleUpdate : List FirmwareOperation :=
  [.restart firmwareSignatureDemoHmacSha256 16, .begin (sampleManifest 2) workingCallback,
    .writeChunk ⟨0, 1, padded 192 [0x5A]⟩ workingCallback, .finalize workingCallback workingCallback,
    .activate workingCallback]

theorem pending_marker_of_update :
    (Run.after (FirmwareHistory.perform fun _ _ _ _ => true) sampleUpdate
      (firmwareStart samplePlatform)).system.PendingVerified fun _ _ _ _ => true :=
  (pending_marker_verified (fun _ _ _ _ => true) samplePlatform rfl sampleUpdate
    ⟨rfl, rfl, trivial, trivial, fun _ _ => rfl, trivial⟩).1

/-- The marker of version 2 outlives a restart, and a new transfer, and its outcome is refused. -/
theorem pending_marker_orphaned :
    let restarted := Run.after (FirmwareHistory.perform fun _ _ _ _ => true)
      (sampleUpdate ++ [.restart firmwareSignatureDemoHmacSha256 16]) (firmwareStart samplePlatform)
    let erased := Run.after (FirmwareHistory.perform fun _ _ _ _ => true)
      (sampleUpdate ++ [.begin (sampleManifest 3) workingCallback]) (firmwareStart samplePlatform)
    restarted.system.platform.pending = some (sampleManifest 2).marker ∧
      (firmwareConfirmBoot restarted.system 2 workingCallback workingCallback).1 = .invalidState ∧
      (firmwareReportBootFailure restarted.system 2 workingCallback).1 = .invalidState ∧
      erased.system.platform.pending = some (sampleManifest 2).marker ∧
      sha256 (erased.system.platform.image 1) ≠ (sampleManifest 2).imageSha256.1 ∧
      ¬ restarted.system.PendingVerified (fun _ _ _ _ => true) ∧
      ¬ erased.system.PendingVerified (fun _ _ _ _ => true) := by
  have restarted : (fun system : FirmwareSystem =>
      system.platform.pending = some (sampleManifest 2).marker ∧
        (firmwareConfirmBoot system 2 workingCallback workingCallback).1 = .invalidState ∧
        (firmwareReportBootFailure system 2 workingCallback).1 = .invalidState ∧
        system.lifecycle.state ≠ .pendingActivation)
      (Run.after (FirmwareHistory.perform fun _ _ _ _ => true)
        (sampleUpdate ++ [.restart firmwareSignatureDemoHmacSha256 16]) (firmwareStart samplePlatform)).system := by
    decide +kernel
  have erased : (fun system : FirmwareSystem =>
      system.platform.pending = some (sampleManifest 2).marker ∧
        sha256 (system.platform.image 1) ≠ (sampleManifest 2).imageSha256.1 ∧
        system.lifecycle.state ≠ .pendingActivation)
      (Run.after (FirmwareHistory.perform fun _ _ _ _ => true)
        (sampleUpdate ++ [.begin (sampleManifest 3) workingCallback]) (firmwareStart samplePlatform)).system := by
    decide +kernel
  obtain ⟨marked, confirmed, reported, other⟩ := restarted
  obtain ⟨still, image, next⟩ := erased
  refine ⟨marked, confirmed, reported, still, image, ?_, ?_⟩
  · exact FirmwareSystem.not_pendingVerified marked other
  · exact FirmwareSystem.not_pendingVerified still next

end example_run

end Guardian.Firmware
