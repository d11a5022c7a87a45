import Guardian.Platform.AcquisitionFaults
import Guardian.Platform.DmaExact

namespace Guardian.Platform

open Word Watched Guardian.App Guardian.Acquisition

def Carries (flags flag : U16) : Prop := flags ||| flag = flags

/-- The quality flags that the poll has taken for the block at hand. -/
def PollPhase.owned : PollPhase → Option U16
  | .idle | .begun => none
  | .claimed _ aux | .copying _ aux _ | .processing aux _ => some aux.hardwareStatusFlags
  | .dropping hardwareFlags | .rejected hardwareFlags => some hardwareFlags

/-- The flag is pending, for the next block or for the one that the poll under way has claimed. -/
def DmaSystem.Holds (system : DmaSystem) (flag : U16) : Prop :=
  Carries system.pendingQualityFlags flag ∨ ∃ flags ∈ system.poll.owned, Carries flags flag

/-- Each flag raised is still pending, or marks a block delivered after. -/
def AcquisitionRun.FlagsKept (run : AcquisitionRun) : Prop :=
  ∀ flag count, (flag, count) ∈ run.raised → count ≤ run.delivered.length ∧
    (run.driver.dma.Holds flag ∨ ∃ status ∈ run.delivered.drop count, Carries status flag)

/-- A fault after which no triggers have been started, and a poll has begun, has had a further rebuild attempted. -/
def AcquisitionRun.FaultsAnswered (run : AcquisitionRun) : Prop :=
  ∀ fault ∈ run.faults, fault.started = run.started → fault.polls < run.polls → fault.attempted < run.attempted

/-- No fault is handled between the start of the triggers in a rebuild and the clearing of its request. -/
def AcquisitionRun.Calm (run : AcquisitionRun) (event : AcquisitionEvent) : Prop :=
  event.Faulty → run.driver.rebuild ≠ some .started

section flags

variable {flags more flag : U16}

theorem Carries.self (flag : U16) : Carries flag flag := BitVec.or_self

theorem Carries.left (carries : Carries flags flag) (more : U16) : Carries (flags ||| more) flag := by
  unfold Carries at *
  rw [BitVec.or_assoc, BitVec.or_comm more flag, ← BitVec.or_assoc, carries]

theorem Carries.right (carries : Carries more flag) (flags : U16) : Carries (flags ||| more) flag := by
  unfold Carries at *
  rw [BitVec.or_assoc, carries]

theorem acquisitionStatusFlags_carries (calibration : AcquisitionCalibration) {aux : AcquisitionAux}
    (saturated : Bool) (carries : Carries aux.hardwareStatusFlags flag) :
    Carries (acquisitionStatusFlags calibration aux saturated) flag :=
  ((((carries.right _).left _).left _).left _)

theorem process_statusFlags {acquisition : AcquisitionProcessor} {samples : List U16} {aux : AcquisitionAux}
    {sampleRateHz : U32} {signalBlock : Option AcquisitionSignalBlock}
    (ok : (acquisitionProcessBlockEx acquisition samples aux sampleRateHz signalBlock).value.1 = .ok) :
    (acquisitionProcessBlockEx acquisition samples aux sampleRateHz signalBlock).value.2.1.latest.statusFlags =
      acquisitionStatusFlags acquisition.calibration aux (acquisitionSaturated samples) := by
  revert ok
  unfold acquisitionProcessBlockEx
  by_cases usable : acquisitionCalibrationValid acquisition.calibration
  swap
  · rw [if_pos (by simpa using usable)]
    exact nofun
  rw [if_neg (by simpa using usable)]
  by_cases whole : samples.length = 0 ∨ samples.length % acquisitionChannelCount ≠ 0
  · rw [if_pos whole]
    exact nofun
  rw [if_neg whole]
  by_cases few : samples.length / acquisitionChannelCount > acquisitionFramesPerBlock
  · rw [if_pos few]
    exact nofun
  rw [if_neg few]
  by_cases rate : signalBlock.isSome ∧ sampleRateHz = 0
  · rw [if_pos rate]
    exact nofun
  rw [if_neg rate]
  dsimp only
  rw [bind_value, bind_value, bind_value, bind_value, bind_value]
  by_cases blind : (acquisitionAverage samples (samples.length / acquisitionChannelCount) .vrefint).value = 0
  · rw [if_pos blind]
    exact nofun
  · rw [if_neg blind, bind_value, bind_value, bind_value, bind_value, bind_value, bind_value]
    exact fun _ => rfl

theorem ready_other (mask : U8) (target : Bool) :
    mask &&& ~~~ dmaReady target &&& dmaReady (!target) = mask &&& dmaReady (!target) := by
  have apart : ~~~ dmaReady target &&& dmaReady (!target) = dmaReady (!target) := by cases target <;> decide
  rw [BitVec.and_assoc, apart]

theorem DmaSystem.interrupt_flags (system : DmaSystem) :
    system.interrupt.pendingQualityFlags = system.pendingQualityFlags |||
      if system.readyMask &&& dmaReady system.stream.ct ≠ 0 ∨
        system.readyMask &&& dmaReady (!system.stream.ct) ≠ 0 then acquisitionStatusDmaDrop else 0 := by
  have twice (flags : U16) : flags ||| acquisitionStatusDmaDrop ||| acquisitionStatusDmaDrop =
      flags ||| acquisitionStatusDmaDrop := by
    rw [BitVec.or_assoc, BitVec.or_self]
  have none (flags : U16) : flags ||| 0 = flags := BitVec.or_zero
  unfold DmaSystem.interrupt DmaSystem.countDrop
  by_cases invalid : system.readyMask &&& dmaReady system.stream.ct = 0 <;>
    by_cases duplicate : system.readyMask &&& dmaReady (!system.stream.ct) = 0 <;>
    simp only [invalid, duplicate, ready_other, twice, none, ne_eq, not_false_eq_true, not_true_eq_false, if_true,
      if_false, or_self, or_false, or_true]

theorem DmaSystem.interrupt_poll (system : DmaSystem) : system.interrupt.poll = system.poll := by
  unfold DmaSystem.interrupt DmaSystem.countDrop
  dsimp only
  split_ifs <;> rfl

end flags

section steps

variable {system next : DmaSystem} {flag : U16}

theorem DmaSystem.Holds.kept (holds : system.Holds flag)
    (pending : Carries system.pendingQualityFlags flag → Carries next.pendingQualityFlags flag)
    (owned : next.poll.owned = system.poll.owned) : next.Holds flag := by
  rcases holds with carries | taken
  · exact Or.inl (pending carries)
  · right
    rwa [owned]

theorem DmaSystem.Holds.claim (holds : system.Holds flag) (begun : system.poll = .begun) (rpm : U16) (rpmValid : U8) :
    (system.claim rpm rpmValid).Holds flag := by
  have pending : Carries system.pendingQualityFlags flag := by
    rcases holds with carries | ⟨flags, taken, -⟩
    · exact carries
    · rw [begun] at taken
      cases taken
  unfold DmaSystem.claim
  dsimp only
  split_ifs
  · exact Or.inr ⟨_, rfl, pending⟩
  · exact Or.inr ⟨_, rfl, pending⟩
  · exact Or.inl pending

theorem DmaSystem.Holds.returned (holds : system.Holds flag) {hardwareFlags : U16}
    (owned : system.poll.owned = some hardwareFlags) (more : U16) :
    Carries (system.pendingQualityFlags ||| hardwareFlags ||| more) flag := by
  rcases holds with carries | ⟨flags, taken, carries⟩
  · exact (carries.left _).left _
  · rw [owned] at taken
    cases taken
    exact (carries.right _).left _

theorem DmaSystem.step_holds {event : DmaEvent} (steps : system.step event = some next) (holds : system.Holds flag) :
    next.Holds flag ∨ next.poll = .idle ∧ Carries next.acquisition.latest.statusFlags flag ∧
      ∃ signalBlock, event = .process signalBlock := by
  cases event with
  | store value => cases steps
  | interrupt =>
    unfold DmaSystem.step at steps
    dsimp only at steps
    split_ifs at steps
    cases steps
    left
    apply holds.kept
    · intro carries
      rw [DmaSystem.interrupt_flags]
      exact carries.left _
    · rw [DmaSystem.interrupt_poll]
  | start =>
    unfold DmaSystem.step at steps
    cases poll : system.poll <;> simp only [poll] at steps <;> cases steps
    left
    exact holds.kept (fun carries => carries) (by rw [poll]; rfl)
  | claim rpm rpmValid =>
    unfold DmaSystem.step at steps
    cases poll : system.poll <;> simp only [poll] at steps <;> cases steps
    exact Or.inl (holds.claim poll rpm rpmValid)
  | checkBefore =>
    unfold DmaSystem.step at steps
    cases poll : system.poll <;> simp only [poll] at steps <;> try cases steps
    left
    split_ifs at steps <;> cases steps <;> exact holds.kept (fun carries => carries) (by rw [poll]; rfl)
  | copy =>
    unfold DmaSystem.step at steps
    cases poll : system.poll <;> simp only [poll] at steps <;> try cases steps
    left
    split at steps <;> cases steps
    exact holds.kept (fun carries => carries) (by rw [poll]; rfl)
  | checkAfter =>
    unfold DmaSystem.step at steps
    cases poll : system.poll <;> simp only [poll] at steps <;> try cases steps
    left
    split_ifs at steps <;> cases steps <;> exact holds.kept (fun carries => carries) (by rw [poll]; rfl)
  | drop =>
    unfold DmaSystem.step at steps
    cases poll : system.poll <;> simp only [poll] at steps <;> cases steps
    exact Or.inl (Or.inl (holds.returned (by rw [poll]; rfl) _))
  | process signalBlock =>
    unfold DmaSystem.step at steps
    cases poll : system.poll <;> simp only [poll] at steps <;> try cases steps
    rename_i aux copied
    rcases holds with carries | ⟨flags, taken, carries⟩
    · exact Or.inl (Or.inl carries)
    rw [poll] at taken
    cases taken
    by_cases ok : (acquisitionProcessBlockEx system.acquisition (copied.map StoredSample.value) aux system.sampleRateHz
        signalBlock).value.1 = .ok
    · right
      refine ⟨if_pos ok, ?_, signalBlock, rfl⟩
      dsimp only
      rw [process_statusFlags ok]
      exact acquisitionStatusFlags_carries _ _ carries
    · left
      right
      exact ⟨_, by rw [if_neg ok]; rfl, carries⟩
  | requeue =>
    unfold DmaSystem.step at steps
    cases poll : system.poll <;> simp only [poll] at steps <;> cases steps
    exact Or.inl (Or.inl (holds.returned (by rw [poll]; rfl) _))

variable {driver after : AcquisitionDriver}

theorem AcquisitionDriver.dmaIrqHandler_holds (status : U32) (holds : driver.dma.Holds flag) :
    (driver.dmaIrqHandler status).dma.Holds flag := by
  unfold AcquisitionDriver.dmaIrqHandler
  split_ifs
  · exact holds.kept (fun carries => carries.left _) rfl
  · apply holds.kept
    · intro carries
      rw [DmaSystem.interrupt_flags]
      exact carries.left _
    · rw [DmaSystem.interrupt_poll]
  · exact holds

theorem AcquisitionDriver.adcIrqHandler_holds (status : U32) (holds : driver.dma.Holds flag) :
    (driver.adcIrqHandler status).dma.Holds flag := by
  unfold AcquisitionDriver.adcIrqHandler
  split_ifs
  · exact holds.kept (fun carries => carries.left _) rfl
  · exact holds

theorem AcquisitionDriver.access_holds {event : DmaEvent} (steps : driver.access event = some after)
    (holds : driver.dma.Holds flag) :
    after.dma.Holds flag ∨ ∃ status ∈ after.delivers (.access event), Carries status flag := by
  obtain ⟨dma, stepped, rfl⟩ := Option.map_eq_some_iff.mp steps
  rcases DmaSystem.step_holds stepped holds with held | ⟨idle, carries, signalBlock, rfl⟩
  · exact Or.inl held
  · right
    refine ⟨_, ?_, carries⟩
    unfold AcquisitionDriver.delivers
    rw [if_pos idle]
    exact List.mem_singleton_self _

theorem AcquisitionDriver.step_holds {event : AcquisitionEvent} (steps : driver.step event = some after)
    (holds : driver.dma.Holds flag) :
    after.dma.Holds flag ∨ ∃ status ∈ after.delivers event, Carries status flag := by
  unfold AcquisitionDriver.step at steps
  cases event with
  | hardware stream buffers =>
    cases steps
    exact Or.inl (holds.kept (fun carries => carries) rfl)
  | dmaInterrupt status =>
    cases steps
    exact Or.inl (dmaIrqHandler_holds status holds)
  | adcInterrupt status =>
    cases steps
    exact Or.inl (adcIrqHandler_holds status holds)
  | poll =>
    dsimp only at steps
    split at steps
    · split_ifs at steps
      · cases steps
        exact Or.inl holds
      · rcases access_holds steps holds with held | ⟨status, delivered, -⟩
        · exact Or.inl held
        · cases delivered
    · cases steps
  | disableDma disabled =>
    dsimp only at steps
    split at steps <;> cases steps
    exact Or.inl holds
  | configureDma =>
    dsimp only at steps
    split at steps <;> cases steps
    exact Or.inl (holds.kept (fun carries => carries) rfl)
  | startTriggers =>
    dsimp only at steps
    split at steps <;> cases steps
    exact Or.inl holds
  | acknowledge =>
    dsimp only at steps
    split at steps <;> cases steps
    exact Or.inl holds
  | countRecovery =>
    dsimp only at steps
    split at steps
    · rcases access_holds steps holds with held | ⟨status, delivered, -⟩
      · exact Or.inl held
      · cases delivered
    · cases steps
  | access event =>
    dsimp only at steps
    split at steps
    · split_ifs at steps
      exact access_holds steps holds
    · cases steps

theorem AcquisitionDriver.dmaIrqHandler_raises (driver : AcquisitionDriver) (status : U32)
    (raised : flag ∈ driver.raises (.dmaInterrupt status)) :
    Carries (driver.dmaIrqHandler status).dma.pendingQualityFlags flag := by
  unfold AcquisitionDriver.raises at raised
  unfold AcquisitionDriver.dmaIrqHandler
  dsimp only at raised
  by_cases error : dmaStatusError status
  · rw [if_pos error] at raised ⊢
    rw [List.mem_singleton.mp raised]
    exact (Carries.self _).right _
  rw [if_neg error] at raised ⊢
  split_ifs at raised with dropped
  · rw [if_pos dropped.1, List.mem_singleton.mp raised, DmaSystem.interrupt_flags, if_pos dropped.2]
    exact (Carries.self _).right _
  · cases raised

theorem AcquisitionDriver.adcIrqHandler_raises (driver : AcquisitionDriver) (status : U32)
    (raised : flag ∈ driver.raises (.adcInterrupt status)) :
    Carries (driver.adcIrqHandler status).dma.pendingQualityFlags flag := by
  unfold AcquisitionDriver.raises at raised
  unfold AcquisitionDriver.adcIrqHandler
  dsimp only at raised
  split_ifs at raised ⊢ with overrun
  · rw [List.mem_singleton.mp raised]
    exact (Carries.self _).right _
  · cases raised

theorem AcquisitionDriver.access_raises {event : DmaEvent} (steps : driver.access event = some after)
    (raised : flag ∈ driver.raises (.access event)) : Carries after.dma.pendingQualityFlags flag := by
  obtain ⟨dma, stepped, rfl⟩ := Option.map_eq_some_iff.mp steps
  cases event with
  | drop =>
    rw [List.mem_singleton.mp raised]
    unfold DmaSystem.step at stepped
    cases poll : driver.dma.poll <;> simp only [poll] at stepped <;> cases stepped
    exact (Carries.self _).right _
  | requeue =>
    rw [List.mem_singleton.mp raised]
    unfold DmaSystem.step at stepped
    cases poll : driver.dma.poll <;> simp only [poll] at stepped <;> cases stepped
    exact (Carries.self _).right _
  | store _ | interrupt | start | claim _ _ | checkBefore | copy | checkAfter | process _ => cases raised

theorem AcquisitionDriver.step_raises {event : AcquisitionEvent} (steps : driver.step event = some after)
    (raised : flag ∈ driver.raises event) : Carries after.dma.pendingQualityFlags flag := by
  unfold AcquisitionDriver.step at steps
  cases event with
  | dmaInterrupt status =>
    cases steps
    exact driver.dmaIrqHandler_raises status raised
  | adcInterrupt status =>
    cases steps
    exact driver.adcIrqHandler_raises status raised
  | access event =>
    dsimp only at steps
    split at steps
    · split_ifs at steps
      exact access_raises steps raised
    · cases steps
  | hardware _ _ | poll | disableDma _ | configureDma | startTriggers | acknowledge | countRecovery => cases raised

theorem AcquisitionRun.FlagsKept.step {run next : AcquisitionRun} {event : AcquisitionEvent} (kept : run.FlagsKept)
    (steps : run.step event = some next) : next.FlagsKept := by
  obtain ⟨driver, stepped, rfl⟩ := Option.map_eq_some_iff.mp steps
  intro flag count member
  change _ ≤ (run.delivered ++ driver.delivers event).length ∧
    (driver.dma.Holds flag ∨ ∃ status ∈ (run.delivered ++ driver.delivers event).drop count, Carries status flag)
  rw [List.length_append]
  rcases List.mem_append.mp member with earlier | now
  · obtain ⟨counted, here⟩ := kept flag count earlier
    rw [List.drop_append_of_le_length counted]
    refine ⟨by omega, ?_⟩
    rcases here with holds | ⟨status, delivered, carries⟩
    · rcases AcquisitionDriver.step_holds stepped holds with held | ⟨status, delivered, carries⟩
      · exact Or.inl held
      · exact Or.inr ⟨status, List.mem_append_right _ delivered, carries⟩
    · exact Or.inr ⟨status, List.mem_append_left _ delivered, carries⟩
  · obtain ⟨_, raised, same⟩ := List.mem_map.mp now
    cases same
    exact ⟨by omega, Or.inl (Or.inl (AcquisitionDriver.step_raises stepped raised))⟩

end steps

section faults

/-- A fault that no rebuild has answered still has its request, and no poll has begun since. -/
structure AcquisitionRun.Requested (run : AcquisitionRun) (fault : HandledFault) : Prop where
  polls : fault.polls ≤ run.polls
  attempted : fault.attempted ≤ run.attempted
  started : fault.started ≤ run.started
  restarted : run.driver.rebuild = some .started → fault.started < run.started
  requested : fault.started = run.started → fault.attempted = run.attempted →
    run.driver.recoveryRequired ≠ 0 ∧ fault.polls = run.polls

variable {run next : AcquisitionRun} {event : AcquisitionEvent} {fault : HandledFault}

theorem AcquisitionRun.Requested.answered (requested : run.Requested fault) (current : fault.started = run.started)
    (polled : fault.polls < run.polls) : fault.attempted < run.attempted := by
  have below := requested.attempted
  by_contra
  obtain ⟨-, same⟩ := requested.requested current (by omega)
  omega

theorem AcquisitionDriver.dmaIrqHandler_rebuild (driver : AcquisitionDriver) (status : U32) :
    (driver.dmaIrqHandler status).rebuild = driver.rebuild := by
  unfold AcquisitionDriver.dmaIrqHandler
  split_ifs <;> rfl

theorem AcquisitionDriver.adcIrqHandler_rebuild (driver : AcquisitionDriver) (status : U32) :
    (driver.adcIrqHandler status).rebuild = driver.rebuild := by
  unfold AcquisitionDriver.adcIrqHandler
  split_ifs <;> rfl

theorem AcquisitionDriver.dmaIrqHandler_required {driver : AcquisitionDriver} (status : U32)
    (required : driver.recoveryRequired ≠ 0 ∨ dmaStatusError status) :
    (driver.dmaIrqHandler status).recoveryRequired ≠ 0 := by
  unfold AcquisitionDriver.dmaIrqHandler
  by_cases error : dmaStatusError status
  · rw [if_pos error]
    exact (by decide : (1 : U8) ≠ 0)
  · rw [if_neg error]
    have kept := required.resolve_right error
    split_ifs <;> exact kept

theorem AcquisitionDriver.adcIrqHandler_required {driver : AcquisitionDriver} (status : U32)
    (required : driver.recoveryRequired ≠ 0 ∨ adcStatusOverrun status) :
    (driver.adcIrqHandler status).recoveryRequired ≠ 0 := by
  unfold AcquisitionDriver.adcIrqHandler
  by_cases overrun : adcStatusOverrun status
  · rw [if_pos overrun]
    exact (by decide : (1 : U8) ≠ 0)
  · rw [if_neg overrun]
    exact required.resolve_right overrun

theorem AcquisitionDriver.access_kept {driver after : AcquisitionDriver} {event : DmaEvent}
    (steps : driver.access event = some after) :
    after.rebuild = driver.rebuild ∧ after.recoveryRequired = driver.recoveryRequired := by
  obtain ⟨dma, -, rfl⟩ := Option.map_eq_some_iff.mp steps
  exact ⟨rfl, rfl⟩

/-- A step between polls that starts no stream and answers no fault. -/
theorem AcquisitionRun.Requested.kept (requested : run.Requested fault)
    (counts : next.polls = run.polls ∧ next.attempted = run.attempted ∧ next.started = run.started)
    (rebuild : next.driver.rebuild = some .started → run.driver.rebuild = some .started)
    (required : run.driver.recoveryRequired ≠ 0 → next.driver.recoveryRequired ≠ 0) : next.Requested fault := by
  obtain ⟨polls, attempted, started⟩ := counts
  constructor
  · rw [polls]
    exact requested.polls
  · rw [attempted]
    exact requested.attempted
  · rw [started]
    exact requested.started
  · intro at'
    rw [started]
    exact requested.restarted (rebuild at')
  · intro current last
    have known := requested.requested (current.trans started) (last.trans attempted)
    exact ⟨required known.1, known.2.trans polls.symm⟩

theorem AcquisitionRun.Requested.polled (requested : run.Requested fault) (steps : run.step .poll = some next) :
    next.Requested fault := by
  obtain ⟨driver, stepped, rfl⟩ := Option.map_eq_some_iff.mp steps
  have ⟨polls, attempted, started, restarted, pending⟩ := requested
  unfold AcquisitionDriver.step at stepped
  dsimp only at stepped
  split at stepped
  swap
  · cases stepped
  rename_i idle _
  by_cases required : run.driver.recoveryRequired = 0
  · rw [if_neg (not_not.mpr required)] at stepped
    have kept := AcquisitionDriver.access_kept stepped
    have calm : driver.rebuild = none := kept.1.trans idle
    refine ⟨Nat.le_succ_of_le polls, ?_, started, fun at' => ?_, fun current last => ?_⟩
    · dsimp only
      rwa [calm]
    · rw [calm] at at'
      cases at'
    · dsimp only at last
      rw [calm] at last
      exact absurd required (pending current last).1
  · rw [if_pos required] at stepped
    cases stepped
    refine ⟨Nat.le_succ_of_le polls, Nat.le_succ_of_le attempted, started, nofun, fun _ last => ?_⟩
    change fault.attempted = run.attempted + 1 at last
    omega

/-- The request of a fault stays until a poll attempts a rebuild or the triggers of a new stream are started. -/
theorem AcquisitionRun.Requested.step (requested : run.Requested fault) (steps : run.step event = some next) :
    next.Requested fault := by
  cases event with
  | poll => exact requested.polled steps
  | hardware stream buffers =>
    cases steps
    exact requested.kept ⟨rfl, rfl, rfl⟩ id id
  | dmaInterrupt status =>
    cases steps
    refine requested.kept ⟨rfl, rfl, rfl⟩ (fun at' => ?_) fun required => ?_
    · exact (run.driver.dmaIrqHandler_rebuild status).symm.trans at'
    · exact AcquisitionDriver.dmaIrqHandler_required status (Or.inl required)
  | adcInterrupt status =>
    cases steps
    refine requested.kept ⟨rfl, rfl, rfl⟩ (fun at' => ?_) fun required => ?_
    · exact (run.driver.adcIrqHandler_rebuild status).symm.trans at'
    · exact AcquisitionDriver.adcIrqHandler_required status (Or.inl required)
  | disableDma disabled =>
    obtain ⟨driver, stepped, rfl⟩ := Option.map_eq_some_iff.mp steps
    unfold AcquisitionDriver.step at stepped
    dsimp only at stepped
    split at stepped <;> cases stepped
    exact requested.kept ⟨rfl, rfl, rfl⟩ (fun at' => by cases disabled <;> cases at') id
  | configureDma =>
    obtain ⟨driver, stepped, rfl⟩ := Option.map_eq_some_iff.mp steps
    unfold AcquisitionDriver.step at stepped
    dsimp only at stepped
    split at stepped <;> cases stepped
    exact requested.kept ⟨rfl, rfl, rfl⟩ nofun id
  | startTriggers =>
    obtain ⟨driver, stepped, rfl⟩ := Option.map_eq_some_iff.mp steps
    unfold AcquisitionDriver.step at stepped
    dsimp only at stepped
    split at stepped <;> cases stepped
    refine ⟨requested.polls, requested.attempted, Nat.le_succ_of_le requested.started, fun _ =>
      Nat.lt_succ_of_le requested.started, fun current _ => ?_⟩
    have before := requested.started
    change fault.started = run.started + 1 at current
    omega
  | acknowledge =>
    obtain ⟨driver, stepped, rfl⟩ := Option.map_eq_some_iff.mp steps
    unfold AcquisitionDriver.step at stepped
    dsimp only at stepped
    split at stepped
    · rename_i at'
      cases stepped
      have earlier := requested.restarted at'
      refine ⟨requested.polls, requested.attempted, requested.started, nofun, fun current _ => ?_⟩
      change fault.started = run.started at current
      omega
    · cases stepped
  | countRecovery =>
    obtain ⟨driver, stepped, rfl⟩ := Option.map_eq_some_iff.mp steps
    unfold AcquisitionDriver.step at stepped
    dsimp only at stepped
    split at stepped
    · have same := AcquisitionDriver.access_kept stepped
      exact requested.kept ⟨rfl, rfl, rfl⟩ (fun at' => nomatch same.1.symm.trans at') fun required =>
        same.2.trans_ne required
    · cases stepped
  | access event =>
    obtain ⟨driver, stepped, rfl⟩ := Option.map_eq_some_iff.mp steps
    unfold AcquisitionDriver.step at stepped
    dsimp only at stepped
    split at stepped
    · split_ifs at stepped
      have same := AcquisitionDriver.access_kept stepped
      exact requested.kept ⟨rfl, rfl, rfl⟩ (fun at' => same.1.symm.trans at') fun required => same.2.trans_ne required
    · cases stepped

theorem AcquisitionRun.Calm.requested (calm : run.Calm event) (steps : run.step event = some next)
    (faulty : event.Faulty) : next.Requested ⟨run.polls, run.attempted, run.started⟩ := by
  obtain ⟨driver, stepped, rfl⟩ := Option.map_eq_some_iff.mp steps
  have outside := calm faulty
  cases event with
  | dmaInterrupt status =>
    cases stepped
    refine ⟨le_rfl, le_rfl, le_rfl, fun at' => ?_, fun _ _ => ⟨?_, rfl⟩⟩
    · exact absurd ((run.driver.dmaIrqHandler_rebuild status).symm.trans at') outside
    · exact AcquisitionDriver.dmaIrqHandler_required status (Or.inr faulty)
  | adcInterrupt status =>
    cases stepped
    refine ⟨le_rfl, le_rfl, le_rfl, fun at' => ?_, fun _ _ => ⟨?_, rfl⟩⟩
    · exact absurd ((run.driver.adcIrqHandler_rebuild status).symm.trans at') outside
    · exact AcquisitionDriver.adcIrqHandler_required status (Or.inr faulty)
  | hardware _ _ | poll | disableDma _ | configureDma | startTriggers | acknowledge | countRecovery | access _ =>
    cases faulty

theorem AcquisitionReached.requested (reached : AcquisitionReached AcquisitionRun.Calm run) :
    ∀ fault ∈ run.faults, run.Requested fault := by
  induction reached with
  | start initialized => exact nofun
  | @step before next event _ calm steps kept =>
    intro fault member
    obtain ⟨driver, stepped, same⟩ := Option.map_eq_some_iff.mp steps
    have faults : next.faults = if event.Faulty then
        before.faults ++ [⟨before.polls, before.attempted, before.started⟩] else before.faults := by
      rw [← same]
    rw [faults] at member
    split_ifs at member with faulty
    · rcases List.mem_append.mp member with earlier | now
      · exact (kept fault earlier).step steps
      · rw [List.mem_singleton.mp now]
        exact calm.requested steps faulty
    · exact (kept fault member).step steps

end faults

theorem AcquisitionReached.flagsKept {condition : AcquisitionRun → AcquisitionEvent → Prop} {run : AcquisitionRun}
    (reached : AcquisitionReached condition run) : run.FlagsKept := by
  induction reached with
  | start initialized => exact nofun
  | step reached met steps kept => exact kept.step steps

/-- Every quality flag is pending or reaches a block in every run, and every fault is answered by a rebuild in the runs
where none is handled between the start of the triggers and the clearing of the request. -/
theorem acquisition_faults_kept (run : AcquisitionRun) :
    (AcquisitionReached (fun _ _ => True) run → run.FlagsKept) ∧
      (AcquisitionReached AcquisitionRun.Calm run → run.FlagsKept ∧ run.FaultsAnswered) :=
  ⟨AcquisitionReached.flagsKept, fun reached => ⟨reached.flagsKept, fun _ member current polled =>
    (reached.requested _ member).answered current polled⟩⟩

section examples

def exampleDriver : AcquisitionDriver :=
  ⟨⟨⟨false, 0, false⟩, clearedTarget, 0, 0, 0, 0, exampleCalibratedProcessor, 1000, .idle⟩, 0, 0, 0, 0, none⟩

/-- An overrun, a DMA error, and the poll that rebuilds the stream for them. -/
theorem acquisition_faults_kept_example : ∃ run, AcquisitionReached AcquisitionRun.Calm run ∧ run.FlagsKept ∧
    run.FaultsAnswered ∧ run.faults = [⟨0, 0, 0⟩, ⟨0, 0, 0⟩] ∧ run.attempted = 1 ∧
    run.driver.dma.pendingQualityFlags = acquisitionStatusAdcError ||| acquisitionStatusDmaError := by
  have started : AcquisitionReached AcquisitionRun.Calm (acquisitionStart exampleDriver) := .start ⟨rfl, rfl⟩
  have overrun := @AcquisitionReached.step _ _ _ (.adcInterrupt adcSrOvr) started (fun _ => nofun) rfl
  have error := @AcquisitionReached.step _ _ _ (.dmaInterrupt dmaTeif0) overrun (fun _ => nofun) rfl
  have polled := @AcquisitionReached.step _ _ _ .poll error (fun _ => nofun) rfl
  have kept := (acquisition_faults_kept _).2 polled
  exact ⟨_, polled, kept.1, kept.2, rfl, rfl, rfl⟩

/-- An overrun handled between the start of the triggers and the clearing of the request is never answered. -/
theorem acquisition_fault_lost : ∃ run, AcquisitionReached (fun _ _ => True) run ∧ ¬ run.FaultsAnswered ∧
    run.faults = [⟨0, 0, 0⟩, ⟨1, 1, 1⟩] ∧ run.polls = 2 ∧ run.attempted = 1 ∧ run.started = 1 ∧
    run.driver.recoveryRequired = 0 := by
  have started : AcquisitionReached (fun _ _ => True) (acquisitionStart exampleDriver) := .start ⟨rfl, rfl⟩
  have first := @AcquisitionReached.step _ _ _ (.adcInterrupt adcSrOvr) started trivial rfl
  have polled := @AcquisitionReached.step _ _ _ .poll first trivial rfl
  have disabled := @AcquisitionReached.step _ _ _ (.disableDma true) polled trivial rfl
  have configured := @AcquisitionReached.step _ _ _ .configureDma disabled trivial rfl
  have running := @AcquisitionReached.step _ _ _ .startTriggers configured trivial rfl
  have second := @AcquisitionReached.step _ _ _ (.adcInterrupt adcSrOvr) running trivial rfl
  have acknowledged := @AcquisitionReached.step _ _ _ .acknowledge second trivial rfl
  have counted := @AcquisitionReached.step _ _ _ .countRecovery acknowledged trivial rfl
  have ended := @AcquisitionReached.step _ _ _ (.access (.claim 0 0)) counted trivial rfl
  have again := @AcquisitionReached.step _ _ _ .poll ended trivial rfl
  refine ⟨_, again, fun answered => ?_, rfl, rfl, rfl, rfl, rfl⟩
  have lost := answered ⟨1, 1, 1⟩ (List.mem_cons_of_mem _ (List.mem_singleton_self _)) rfl (by decide : 1 < 2)
  exact absurd lost (lt_irrefl 1)

end examples

end Guardian.Platform
