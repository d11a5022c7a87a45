import Guardian.Health.HealthIngest
import Mathlib.Tactic.Linarith
import Mathlib.Tactic.NormNum
import Mathlib.Tactic.Positivity

namespace Guardian.Health

open Word Dsp HealthNumber

/-- Laws of `float` comparisons, and of adding one half and truncating near a small count. They hold for unordered and
infinite values too. -/
class RoundedOrder (ρ : Type) [HealthNumber ρ] : Prop where
  atMost_trans {first second third : ρ} : atMost first second = true → atMost second third = true →
    atMost first third = true
  atMost_of_positive {value : ρ} (count : Nat) : less 0 value = true → less (hundredths count) value = false →
    atMost value (hundredths count) = true
  less_atMost {left right : ρ} : less left right = true → atMost right left = false
  atMost_whole {left right : Nat} : left ≤ 65535 → right ≤ 65535 →
    (atMost (hundredths (100 * left) : ρ) (hundredths (100 * right)) = true ↔ left ≤ right)
  half_positive {value : ρ} : less 0 value = true → less 0 (value + hundredths 50) = true
  half_atMost {left right : ρ} : atMost left right = true → atMost (left + hundredths 50) (right + hundredths 50) = true
  truncate_atMost {value : ρ} {count : Nat} : count ≤ 1000 → less 0 value = true →
    atMost value (hundredths (100 * count) + hundredths 50) = true → truncate value ≤ count

open RoundedOrder

instance : RoundedOrder ℚ where
  atMost_trans low high := by
    simp only [atMost, decide_eq_true_eq] at low high ⊢
    exact low.trans high
  atMost_of_positive count positive low := by
    simp only [atMost, less, decide_eq_true_eq, decide_eq_false_iff_not] at positive low ⊢
    exact not_lt.mp low
  less_atMost less := by
    simp only [atMost, HealthNumber.less, decide_eq_true_eq, decide_eq_false_iff_not] at less ⊢
    exact not_le.mpr less
  atMost_whole {left right} _ _ := by
    simp only [atMost, hundredths, decide_eq_true_eq]
    push_cast
    rw [mul_div_cancel_left₀ _ (by norm_num), mul_div_cancel_left₀ _ (by norm_num)]
    exact Nat.cast_le
  half_positive positive := by
    simp only [less, hundredths, decide_eq_true_eq] at positive ⊢
    positivity
  half_atMost low := by
    simp only [atMost, decide_eq_true_eq] at low ⊢
    exact add_le_add_left low _
  truncate_atMost {value count} _ positive low := by
    simp only [atMost, less, hundredths, truncate, decide_eq_true_eq] at positive low ⊢
    push_cast at low
    rw [mul_div_cancel_left₀ _ (by norm_num)] at low
    have below : value.floor < (count : ℤ) + 1 := by
      rw [Rat.floor_lt_iff]
      push_cast
      linarith
    omega

section scores

variable {ρ : Type} [HealthNumber ρ] [RoundedOrder ρ]

theorem healthU16_le {value : ρ} {count : Nat} (small : count ≤ 1000)
    (low : less (hundredths (100 * count)) value = false) : (healthU16 value).toNat ≤ count := by
  unfold healthU16
  by_cases positive : less 0 value = true
  · have within : atMost value (hundredths (100 * count)) = true := atMost_of_positive _ positive low
    have below : ¬ atMost (hundredths 6553500) value = true := by
      intro high
      have whole : 65535 ≤ count :=
        (atMost_whole (ρ := ρ) (by omega) (by omega)).mp (atMost_trans (ρ := ρ) (by exact high) within)
      omega
    have truncated : truncate (value + hundredths 50) ≤ count :=
      truncate_atMost small (half_positive positive) (half_atMost within)
    rw [positive, if_neg (by simp), if_neg below, BitVec.toNat_ofNat]
    exact (Nat.mod_le _ _).trans truncated
  · rw [Bool.not_eq_true] at positive
    rw [positive]
    exact Nat.zero_le _

theorem hundredths_less_self {count : Nat} (small : count ≤ 1000) :
    less (hundredths (100 * count) : ρ) (hundredths (100 * count)) = false := by
  have same : atMost (hundredths (100 * count) : ρ) (hundredths (100 * count)) = true :=
    (atMost_whole (by omega) (by omega)).mpr le_rfl
  by_contra above
  rw [Bool.not_eq_false] at above
  rw [less_atMost above] at same
  cases same

end scores

section runs

variable {ρ : Type}

structure HealthModel.Scored (health : HealthModel ρ) : Prop where
  anomaly : health.status.anomalyScore.toNat ≤ 1000
  health : health.status.healthScore.toNat ≤ 1000

theorem healthReset_scored [Zero ρ] : (healthReset : HealthModel ρ).Scored :=
  ⟨(by decide : (0 : U16).toNat ≤ 1000), (by decide : (1000 : U16).toNat ≤ 1000)⟩

theorem healthStartBaseline_scored [Zero ρ] {health : HealthModel ρ} (scored : health.Scored) (targetSamples : U16) :
    (healthStartBaseline health targetSamples).2.Scored := by
  unfold healthStartBaseline
  split_ifs
  · exact scored
  · have reset : (healthReset : HealthModel ρ).Scored := healthReset_scored
    exact ⟨reset.anomaly, reset.health⟩

theorem healthHandleRequest_scored [Zero ρ] {health : HealthModel ρ} (scored : health.Scored)
    (request : Protocol.Frame) : (healthHandleRequest health request).2.Scored := by
  unfold healthHandleRequest
  dsimp only
  split_ifs
  all_goals first
    | exact scored
    | exact healthStartBaseline_scored scored _
    | exact healthReset_scored

variable {health : HealthModel ρ}

theorem healthRejectInput_scored (scored : health.Scored) (qualityFlag : U16) :
    (healthRejectInput health qualityFlag).Scored := ⟨scored.anomaly, scored.health⟩

variable [HealthNumber ρ]

theorem healthUpdateBaselineSummary_scored (scored : health.Scored) : (healthUpdateBaselineSummary health).Scored := by
  unfold healthUpdateBaselineSummary
  split_ifs
  · exact ⟨scored.anomaly, scored.health⟩
  · exact ⟨scored.anomaly, scored.health⟩

omit [HealthNumber ρ] in
theorem healthFinishBaseline_scored (scored : health.Scored) : (healthFinishBaseline health).Scored := by
  unfold healthFinishBaseline
  split_ifs
  · exact ⟨(by decide : (0 : U16).toNat ≤ 1000), (by decide : (1000 : U16).toNat ≤ 1000)⟩
  · exact scored

theorem healthLearn_scored (scored : health.Scored) (features : DspFeatures) : (healthLearn health features).Scored := by
  apply healthFinishBaseline_scored
  apply healthUpdateBaselineSummary_scored
  exact ⟨scored.anomaly, scored.health⟩

theorem healthQualify_scored (scored : health.Scored) (maximumWeightedZ : ρ) :
    (healthQualify health maximumWeightedZ).Scored := by
  unfold healthQualify
  dsimp only
  split_ifs
  all_goals exact ⟨scored.anomaly, scored.health⟩

variable [RoundedOrder ρ]

theorem healthU16_severity (severity : ρ) :
    (healthU16 (if less (hundredths 100000) severity then hundredths 100000 else severity)).toNat ≤ 1000 := by
  apply healthU16_le (le_refl 1000)
  by_cases above : less (hundredths 100000) severity = true
  · rw [if_pos above]
    exact hundredths_less_self (le_refl 1000)
  · rw [if_neg above]
    exact Bool.eq_false_iff.mpr above

theorem healthScore_scored (health : HealthModel ρ) (features : DspFeatures) : (healthScore health features).Scored := by
  unfold healthScore
  dsimp only
  generalize (healthWorst health features).maximumWeightedZ / healthAlarmZ * hundredths 100000 = severity
  have anomaly := healthU16_severity severity
  generalize healthU16 (if less (hundredths 100000) severity then hundredths 100000 else severity) = anomalyScore at anomaly ⊢
  have rest : (1000 - anomalyScore : U16).toNat ≤ 1000 := by bv_omega
  constructor
  · refine (healthQualify_scored ?_ _).anomaly
    exact ⟨anomaly, rest⟩
  · refine (healthQualify_scored ?_ _).health
    exact ⟨anomaly, rest⟩

theorem healthIngest_scored (scored : health.Scored) (features : DspFeatures) : (healthIngest health features).Scored := by
  unfold healthIngest
  split_ifs
  · exact healthRejectInput_scored scored _
  · exact healthRejectInput_scored scored _
  · cases health.status.state with
    | learning => exact healthLearn_scored scored features
    | untrained => exact scored
    | _ => exact healthScore_scored health features

end runs

end Guardian.Health
