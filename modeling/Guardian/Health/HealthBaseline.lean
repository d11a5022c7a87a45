import Guardian.Health.HealthIngest
import Guardian.Lib.Run
import Guardian.Lib.Welford

namespace Guardian.Health

open Word Guardian.Dsp HealthNumber

/-- A block is learned while the target is not reached, if it is valid and has the sample rate of the first one. -/
def learningStep (target : U16) (learned : List DspFeatures) (features : DspFeatures) : List DspFeatures :=
  if learned.length < target.toNat ∧ healthInputValid features = true ∧
      ∀ first ∈ learned.head?, features.sampleRateHz = first.sampleRateHz then learned ++ [features]
  else learned

def learnedBlocks (target : U16) (blocks : List DspFeatures) : List DspFeatures :=
  Run.after (learningStep target) blocks []

theorem learnedBlocks_full {target : U16} {learned : List DspFeatures} (full : learned.length = target.toNat)
    (blocks : List DspFeatures) : Run.after (learningStep target) blocks learned = learned := by
  induction blocks with
  | nil => rfl
  | cons features blocks ih =>
    have same : learningStep target learned features = learned := if_neg fun accepted => by omega
    rw [Run.after_cons, same, ih]

structure BaselineExact (target : U16) (learned : List DspFeatures) (health : HealthModel ℚ) : Prop where
  fits : learned.length ≤ target.toNat
  asked : health.status.baselineTarget = target
  samples : health.status.baselineSamples.toNat = learned.length
  rate : health.baselineSampleRateHz = learned.head?.elim 0 fun first => first.sampleRateHz.setWidth 32
  learning : health.status.state = .learning ↔ learned.length < target.toNat
  trained : health.status.state ≠ .untrained
  mean : ∀ feature, (health.stats feature).mean = Welford.batchMean (learned.map fun block => healthVector block feature)
  spread : ∀ feature, (health.stats feature).m2 = Welford.batchSpread (learned.map fun block => healthVector block feature)
  valid : ∀ block ∈ learned, block.sampleRateHz ≠ 0

section steps

variable {target : U16} {learned : List DspFeatures} {health : HealthModel ℚ}

theorem healthInputValid_rate {features : DspFeatures} (valid : healthInputValid features = true) :
    features.sampleRateHz ≠ 0 := by
  intro zero
  unfold healthInputValid at valid
  rw [zero] at valid
  split_ifs at valid
  exact absurd rfl ‹_›

theorem healthScore_keeps (health : HealthModel ℚ) (features : DspFeatures) :
    (healthScore health features).stats = health.stats ∧
      (healthScore health features).baselineSampleRateHz = health.baselineSampleRateHz ∧
      (healthScore health features).status.baselineSamples = health.status.baselineSamples ∧
      (healthScore health features).status.baselineTarget = health.status.baselineTarget := by
  unfold healthScore healthQualify
  dsimp only
  split_ifs <;> exact ⟨rfl, rfl, rfl, rfl⟩

theorem healthScore_trained (learned : health.status.state ≠ .learning) (trained : health.status.state ≠ .untrained)
    (features : DspFeatures) : (healthScore health features).status.state ≠ .learning ∧
      (healthScore health features).status.state ≠ .untrained := by
  unfold healthScore healthQualify
  dsimp only
  split_ifs <;> first | exact ⟨learned, trained⟩ | exact ⟨nofun, nofun⟩

theorem BaselineExact.kept (exact : BaselineExact target learned health) {after : HealthModel ℚ}
    (stats : after.stats = health.stats) (rate : after.baselineSampleRateHz = health.baselineSampleRateHz)
    (samples : after.status.baselineSamples = health.status.baselineSamples)
    (same : after.status.baselineTarget = health.status.baselineTarget)
    (learning : after.status.state = .learning ↔ health.status.state = .learning)
    (trained : after.status.state ≠ .untrained) : BaselineExact target learned after where
  fits := exact.fits
  asked := same.trans exact.asked
  samples := by rw [samples, exact.samples]
  rate := rate.trans exact.rate
  learning := learning.trans exact.learning
  trained := trained
  mean feature := by rw [stats, exact.mean]
  spread feature := by rw [stats, exact.spread]
  valid := exact.valid

theorem BaselineExact.rejected (exact : BaselineExact target learned health) (qualityFlag : U16) :
    BaselineExact target learned (healthRejectInput health qualityFlag) :=
  exact.kept rfl rfl rfl rfl Iff.rfl exact.trained

theorem HealthStat.learn_exact {stat : HealthStat ℚ} {samples : List ℚ} (mean : stat.mean = Welford.batchMean samples)
    (spread : stat.m2 = Welford.batchSpread samples) {count : U16} (counted : count.toNat = samples.length + 1)
    (sample : ℚ) : (stat.learn sample count).mean = Welford.batchMean (samples ++ [sample]) ∧
      (stat.learn sample count).m2 = Welford.batchSpread (samples ++ [sample]) := by
  have updated : stat.mean + (sample - stat.mean) / (count.toNat : ℚ) = Welford.batchMean (samples ++ [sample]) := by
    rw [Welford.batchMean_snoc, Welford.update, mean, counted]
  refine ⟨updated, ?_⟩
  change stat.m2 + (sample - stat.mean) * (sample - (stat.mean + (sample - stat.mean) / (count.toNat : ℚ))) = _
  rw [updated, Welford.batchSpread_snoc, ← Welford.batchMean_snoc, mean, spread]

theorem healthLearn_keeps (health : HealthModel ℚ) (features : DspFeatures) :
    (healthLearn health features).stats = (fun feature =>
        (health.stats feature).learn (healthVector features feature) (health.status.baselineSamples + 1)) ∧
      (healthLearn health features).baselineSampleRateHz = (if health.status.baselineSamples = 0 then
        features.sampleRateHz.setWidth 32 else health.baselineSampleRateHz) ∧
      (healthLearn health features).status.baselineSamples = health.status.baselineSamples + 1 ∧
      (healthLearn health features).status.baselineTarget = health.status.baselineTarget ∧
      (healthLearn health features).status.state = (if health.status.baselineSamples + 1 ≥ health.status.baselineTarget
        then .ready else health.status.state) := by
  unfold healthLearn healthFinishBaseline healthUpdateBaselineSummary
  dsimp only
  split_ifs <;> exact ⟨rfl, rfl, rfl, rfl, rfl⟩

theorem BaselineExact.learn (exact : BaselineExact target learned health) (bounded : target ≤ healthBaselineMaxSamples)
    (short : learned.length < target.toNat) {features : DspFeatures} (valid : healthInputValid features = true) :
    BaselineExact target (learned ++ [features]) (healthLearn health features) := by
  have limit : target.toNat ≤ 1024 := by simpa [healthBaselineMaxSamples, BitVec.le_def] using bounded
  have counted : (health.status.baselineSamples + 1).toNat = learned.length + 1 := by
    have small := exact.samples
    rw [BitVec.toNat_add, small, show (1 : U16).toNat = 1 from rfl]
    exact Nat.mod_eq_of_lt (by omega)
  have statistics (feature : Fin 7) := HealthStat.learn_exact (exact.mean feature) (exact.spread feature)
    (by rw [counted, List.length_map]) (healthVector features feature)
  obtain ⟨stats, rate, samples, same, state⟩ := healthLearn_keeps health features
  have reached : health.status.baselineSamples + 1 ≥ health.status.baselineTarget ↔
      target.toNat ≤ learned.length + 1 := by
    rw [exact.asked, ge_iff_le, BitVec.le_def, counted]
  refine ⟨by rw [List.length_append]; exact short, same.trans exact.asked, ?_, ?_, ?_, ?_, ?_, ?_, ?_⟩
  · rw [samples, counted, List.length_append, List.length_singleton]
  · rw [rate, exact.rate]
    cases learned with
    | nil =>
      have zero : health.status.baselineSamples = 0 := BitVec.eq_of_toNat_eq exact.samples
      rw [if_pos zero]
      rfl
    | cons first rest =>
      have some : health.status.baselineSamples ≠ 0 := by
        intro zero
        have none := exact.samples
        rw [zero] at none
        cases none
      rw [if_neg some]
      rfl
  · rw [state, List.length_append, List.length_singleton]
    by_cases complete : target.toNat ≤ learned.length + 1
    · rw [if_pos (reached.mpr complete)]
      exact iff_of_false nofun (Nat.not_lt_of_le complete)
    · rw [if_neg (mt reached.mp complete), exact.learning]
      exact iff_of_true short (Nat.lt_of_not_le complete)
  · rw [state]
    split_ifs
    · nofun
    · exact exact.trained
  · intro feature
    rw [stats, List.map_append]
    exact (statistics feature).1
  · intro feature
    rw [stats, List.map_append]
    exact (statistics feature).2
  · intro block member
    rcases List.mem_append.mp member with old | new
    · exact exact.valid block old
    · rw [List.mem_singleton.mp new]
      exact healthInputValid_rate valid

theorem BaselineExact.ingest (exact : BaselineExact target learned health) (bounded : target ≤ healthBaselineMaxSamples)
    (features : DspFeatures) :
    BaselineExact target (learningStep target learned features) (healthIngest health features) := by
  have other (refused : ¬ (learned.length < target.toNat ∧ healthInputValid features = true ∧
      ∀ first ∈ learned.head?, features.sampleRateHz = first.sampleRateHz)) :
      learningStep target learned features = learned := if_neg refused
  unfold healthIngest
  by_cases valid : healthInputValid features = true
  · rw [if_neg (by rw [valid]; decide)]
    have consistent : (health.baselineSampleRateHz ≠ 0 ∧
        features.sampleRateHz.setWidth 32 ≠ health.baselineSampleRateHz) ↔
        ¬ ∀ first ∈ learned.head?, features.sampleRateHz = first.sampleRateHz := by
      rw [exact.rate]
      cases learned with
      | nil => simp
      | cons first rest =>
        have set := exact.valid first (List.mem_cons_self ..)
        have nonzero : first.sampleRateHz.setWidth 32 ≠ 0 := by bv_omega
        have same : features.sampleRateHz.setWidth 32 = first.sampleRateHz.setWidth 32 ↔
            features.sampleRateHz = first.sampleRateHz := by
          constructor
          · intro equal
            bv_omega
          · intro equal
            rw [equal]
        simp only [List.head?_cons, Option.elim_some, Option.mem_def, Option.some.injEq, forall_eq', ne_eq, same]
        exact ⟨And.right, fun apart => ⟨nonzero, apart⟩⟩
    by_cases mismatch : ¬ ∀ first ∈ learned.head?, features.sampleRateHz = first.sampleRateHz
    · rw [if_pos (consistent.mpr mismatch), other fun accepted => mismatch accepted.2.2]
      exact exact.rejected _
    · rw [if_neg (mt consistent.mp mismatch)]
      by_cases short : learned.length < target.toNat
      · rw [exact.learning.mpr short, learningStep, if_pos ⟨short, valid, not_not.mp mismatch⟩]
        exact exact.learn bounded short valid
      · have notLearning : health.status.state ≠ .learning := mt exact.learning.mp short
        have trained := exact.trained
        have scored : BaselineExact target learned (healthScore health features) := by
          obtain ⟨stats, rate, samples, same⟩ := healthScore_keeps health features
          obtain ⟨stillNot, stillTrained⟩ := healthScore_trained notLearning trained features
          exact exact.kept stats rate samples same (iff_of_false stillNot notLearning) stillTrained
        rw [other fun accepted => short accepted.1]
        cases state : health.status.state with
        | untrained => exact absurd state trained
        | learning => exact absurd state notLearning
        | ready => exact scored
        | warning => exact scored
        | alarm => exact scored
  · rw [if_pos (by simpa using valid), other fun accepted => valid accepted.2.1]
    exact exact.rejected _

end steps

theorem BaselineExact.start {target : U16} {before started : HealthModel ℚ}
    (starts : healthStartBaseline before target = (true, started)) :
    target ≤ healthBaselineMaxSamples ∧ BaselineExact target [] started := by
  unfold healthStartBaseline at starts
  split_ifs at starts with refused
  · cases (Prod.mk.inj starts).1
  · rw [← (Prod.mk.inj starts).2]
    rw [not_or, BitVec.not_lt, gt_iff_lt, BitVec.not_lt] at refused
    have positive : 0 < target.toNat := by
      have least := refused.1
      rw [BitVec.le_def] at least
      exact Nat.lt_of_lt_of_le (by decide) least
    refine ⟨refused.2, Nat.zero_le _, rfl, rfl, rfl, iff_of_true rfl positive, nofun, fun feature => ?_,
      fun feature => ?_, nofun⟩
    · change (0 : ℚ) = _
      simp [Welford.batchMean]
    · change (0 : ℚ) = _
      simp [Welford.batchSpread]

def afterBlocks (health : HealthModel ℚ) (blocks : List DspFeatures) : HealthModel ℚ :=
  Run.after healthIngest blocks health

theorem afterBlocks_exact {target : U16} (bounded : target ≤ healthBaselineMaxSamples) {health : HealthModel ℚ}
    {learned : List DspFeatures} (exact : BaselineExact target learned health) (blocks : List DspFeatures) :
    BaselineExact target (Run.after (learningStep target) blocks learned) (afterBlocks health blocks) := by
  induction blocks generalizing health learned with
  | nil => exact exact
  | cons features blocks ih => exact ih (exact.ingest bounded features)

/-- What is learned is the true mean and the true sum of squared deviations of the accepted blocks, as many as were asked
for, and stays so. -/
theorem baseline_is_exact {target : U16} {before started : HealthModel ℚ}
    (starts : healthStartBaseline before target = (true, started)) (blocks : List DspFeatures) :
    (∀ feature,
      ((afterBlocks started blocks).stats feature).mean =
        Welford.batchMean ((learnedBlocks target blocks).map fun block => healthVector block feature) ∧
      ((afterBlocks started blocks).stats feature).m2 =
        Welford.batchSpread ((learnedBlocks target blocks).map fun block => healthVector block feature) ∧
      0 ≤ ((afterBlocks started blocks).stats feature).m2) ∧
    (afterBlocks started blocks).status.baselineSamples.toNat = (learnedBlocks target blocks).length ∧
    ((afterBlocks started blocks).status.state = .learning ↔ (learnedBlocks target blocks).length < target.toNat) ∧
    (learnedBlocks target blocks).length ≤ target.toNat ∧
    ((afterBlocks started blocks).status.state ≠ .learning → ∀ later,
      learnedBlocks target (blocks ++ later) = learnedBlocks target blocks ∧
      (afterBlocks started (blocks ++ later)).stats = (afterBlocks started blocks).stats) := by
  obtain ⟨bounded, initial⟩ := BaselineExact.start starts
  have exact := afterBlocks_exact bounded initial blocks
  refine ⟨fun feature => ⟨exact.mean feature, exact.spread feature, ?_⟩, exact.samples, exact.learning, exact.fits,
    fun complete later => ?_⟩
  · rw [exact.spread]
    exact Welford.batchSpread_nonneg _
  · have full : (learnedBlocks target blocks).length = target.toNat :=
      Nat.le_antisymm exact.fits (Nat.not_lt.mp (mt exact.learning.mpr complete))
    have same : learnedBlocks target (blocks ++ later) = learnedBlocks target blocks := by
      rw [learnedBlocks, Run.after_append]
      exact learnedBlocks_full full later
    have after := afterBlocks_exact bounded initial (blocks ++ later)
    refine ⟨same, funext fun feature => ?_⟩
    have mean := after.mean feature
    have spread := after.spread feature
    change _ = Welford.batchMean ((learnedBlocks target (blocks ++ later)).map _) at mean
    change _ = Welford.batchSpread ((learnedBlocks target (blocks ++ later)).map _) at spread
    rw [same] at mean spread
    cases first : (afterBlocks started (blocks ++ later)).stats feature with
    | mk one two =>
      cases second : (afterBlocks started blocks).stats feature with
      | mk three four =>
        have meanBefore := exact.mean feature
        have spreadBefore := exact.spread feature
        rw [first] at mean spread
        rw [second] at meanBefore spreadBefore
        rw [HealthStat.mk.injEq]
        exact ⟨mean.trans meanBefore.symm, spread.trans spreadBefore.symm⟩

def exampleBlock (sampleRateHz rmsMg : U16) : DspFeatures :=
  { zeroDspFeatures with dspStatusFlags := 1, acquisitionStatusFlags := 1, sampleRateHz, rmsMg }

/-- Two blocks of one sample rate, and one of another that is not learned. -/
theorem baseline_is_exact_example :
    ((afterBlocks (healthStartBaseline (healthReset : HealthModel ℚ) 16).2
      [exampleBlock 1000 10, exampleBlock 2000 90, exampleBlock 1000 20]).stats 0).mean = 15 := by
  have starts : healthStartBaseline (healthReset : HealthModel ℚ) 16 =
      (true, (healthStartBaseline healthReset 16).2) := rfl
  have blocks : learnedBlocks 16 [exampleBlock 1000 10, exampleBlock 2000 90, exampleBlock 1000 20] =
      [exampleBlock 1000 10, exampleBlock 1000 20] := by decide
  rw [((baseline_is_exact starts _).1 0).1, blocks]
  change ((10 : Nat) + ((20 : Nat) + 0) : ℚ) / (2 : Nat) = 15
  norm_num

end Guardian.Health
