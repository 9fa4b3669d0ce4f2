import Mathlib.Analysis.SpecialFunctions.Pow.Real
import MobileGs.Alink.Exact
import MobileGs.Alink.Requests

/-!
# Scores stay on their scale

A raw score is a weighted mean of two normalized values above a thousand, and a normalized value
is one of 0 to 1 whatever its span. The deduction is a part of what the raw score has above a
thousand. So every score lies between its two constants, whatever the filter has come to
(`updates_wellScored`); nothing is asked of the spans but that the noise's is not reversed
(`AlinkConfig.Weighted`).
-/

set_option autoImplicit false

namespace MobileGs

namespace Alink

open Wfb

/-- `kAlinkScoreMin`. -/
def alinkScoreMin : ℤ := 1000

/-- `kAlinkScoreMax`. -/
def alinkScoreMax : ℤ := 2000

variable {R : Type} [Field R] [LinearOrder R] [IsStrictOrderedRing R]

/-- The weights are those of a mean, and the noise has its bounds in order. -/
structure AlinkConfig.Weighted (config : AlinkConfig R) : Prop where
  snrWeight : 0 ≤ config.snrWeight
  rssiWeight : 0 ≤ config.rssiWeight
  weights : config.snrWeight + config.rssiWeight ≤ 1
  noise : config.minNoise ≤ config.maxNoise

theorem normalized_mem (value low high : R) :
    0 ≤ normalized value low high ∧ normalized value low high ≤ 1 := by
  rw [normalized]
  split
  · exact ⟨clamp01_nonneg _, clamp01_le_one _⟩
  · norm_num

/-- A raw score is a weighted mean above a thousand. -/
theorem rawScore_eq (config : AlinkConfig R) (snapshot : LinkSnapshot) :
    rawScore config snapshot =
      1000 + 1000 * (config.snrWeight *
          normalized ((snapshot.bestSnr.toInt : ℤ) : R) config.snrMin config.snrMax +
        config.rssiWeight *
          normalized ((snapshot.bestRssi.toInt : ℤ) : R) config.rssiMin config.rssiMax) := by
  rw [rawScore]
  norm_num
  ring

theorem rawScore_mem {config : AlinkConfig R} (weighted : config.Weighted)
    (snapshot : LinkSnapshot) :
    1000 ≤ rawScore config snapshot ∧ rawScore config snapshot ≤ 2000 := by
  have snrWeight := weighted.snrWeight
  have rssiWeight := weighted.rssiWeight
  have weights := weighted.weights
  rw [rawScore_eq]
  obtain ⟨snr, snr_eq⟩ : ∃ snr, normalized ((snapshot.bestSnr.toInt : ℤ) : R) config.snrMin
      config.snrMax = snr := ⟨_, rfl⟩
  obtain ⟨rssi, rssi_eq⟩ : ∃ rssi, normalized ((snapshot.bestRssi.toInt : ℤ) : R) config.rssiMin
      config.rssiMax = rssi := ⟨_, rfl⟩
  obtain ⟨snrNonneg, snrMost⟩ := snr_eq ▸ normalized_mem ((snapshot.bestSnr.toInt : ℤ) : R)
    config.snrMin config.snrMax
  obtain ⟨rssiNonneg, rssiMost⟩ := rssi_eq ▸ normalized_mem ((snapshot.bestRssi.toInt : ℤ) : R)
    config.rssiMin config.rssiMax
  have snrLe := mul_le_of_le_one_right snrWeight snrMost
  have rssiLe := mul_le_of_le_one_right rssiWeight rssiMost
  rw [snr_eq, rssi_eq]
  constructor
  · have mean : 0 ≤ config.snrWeight * snr + config.rssiWeight * rssi := by positivity
    linarith
  · linarith

variable [FloorRing R] {pow : R → R → R}

/-- A deduction is a part of the whole. -/
theorem deductionRatio_mem {config : AlinkConfig R} (weighted : config.Weighted)
    (power : ∀ t, 0 ≤ t → 0 ≤ pow t config.deductionExponent) (noise : R) :
    0 ≤ deductionRatio (exactLibm pow) config noise ∧
      deductionRatio (exactLibm pow) config noise ≤ 1 := by
  rw [deductionRatio]
  split
  · norm_num
  · rename_i loud
    have above := sub_nonneg.mpr (not_lt.mp loud)
    have span := sub_nonneg.mpr weighted.noise
    have one : (1.0 : R) = 1 := by norm_num
    simp only [stdMin_eq, exactLibm, one]
    refine ⟨le_min (power _ ?_) zero_le_one, min_le_right _ _⟩
    split
    · exact div_nonneg above span
    · exact zero_le_one

theorem finalScore_mem {config : AlinkConfig R} (weighted : config.Weighted)
    (power : ∀ t, 0 ≤ t → 0 ≤ pow t config.deductionExponent) (snapshot : LinkSnapshot)
    (noise : R) :
    1000 ≤ finalScore (exactLibm pow) config (rawScore config snapshot) noise ∧
      finalScore (exactLibm pow) config (rawScore config snapshot) noise ≤
        rawScore config snapshot := by
  obtain ⟨lower, -⟩ := rawScore_mem weighted snapshot
  obtain ⟨nonneg, le⟩ := deductionRatio_mem weighted power noise
  unfold finalScore
  split
  · norm_num
    have kept := mul_nonneg (sub_nonneg.mpr lower) (sub_nonneg.mpr le)
    have part := mul_le_of_le_one_right (sub_nonneg.mpr lower) (sub_le_self 1 nonneg)
    exact ⟨kept, by linarith⟩
  · exact ⟨lower, le_refl _⟩

/-- Conversion to an `int` truncates what fits it. -/
theorem toInt_toInt {x : R} (lower : ((-2 ^ 31 : ℤ) : R) ≤ x) (upper : x ≤ ((2 ^ 31 - 1 : ℤ) : R)) :
    ((exactLibm pow).toInt x).toInt = trunc x := by
  have low := trunc_mono lower
  have high := trunc_mono upper
  rw [trunc_intCast] at low high
  exact Int32.toInt_ofInt_of_le low (by omega)

/-! ## Results -/

/-- A result on its scale, with a message that says the score twice. -/
structure WellScored (config : AlinkConfig R) (result : AlinkResult R) : Prop where
  score : alinkScoreMin ≤ result.score.toInt ∧ result.score.toInt ≤ alinkScoreMax
  rawScore : 1000 ≤ result.rawScore ∧ result.rawScore ≤ 2000
  penalty : result.penalty ≤ 0
  unpenalized : config.allowPenalty = false → result.penalty = 0
  truncated : result.score.toInt = trunc (result.rawScore + result.penalty)
  reported : (fieldsOf result.message)[1]? = some (decimal result.score.toInt)
  repeated : (fieldsOf result.message)[2]? = some (decimal result.score.toInt)

omit [FloorRing R] [IsStrictOrderedRing R] in
/-- The fields of a message, by their place. -/
theorem getElem?_fieldsOf (libm : Libm R) (controller : AlinkController R) (call : Call)
    {index : ℕ} (inside : index < 10) :
    (fieldsOf (controller.update libm call).2.message)[index]? =
      (controller.reported libm call)[index]? := by
  rw [fieldsOf_message]
  split
  · rfl
  · exact List.getElem?_append_left inside

omit [FloorRing R] in
/-- The final score is the raw one with its penalty. -/
theorem rawScore_add_penalty (libm : Libm R) (config : AlinkConfig R) (raw noise : R) :
    raw + penalty config raw (finalScore libm config raw noise) =
      finalScore libm config raw noise := by
  rw [penalty, finalScore]
  split
  · exact add_sub_cancel _ _
  · norm_num

/-- **One update** gives a result on its scale. -/
theorem wellScored_update {controller : AlinkController R} (weighted : controller.config.Weighted)
    (power : ∀ t, 0 ≤ t → 0 ≤ pow t controller.config.deductionExponent) (call : Call) :
    WellScored controller.config (controller.update (exactLibm pow) call).2 := by
  obtain ⟨noise, noise_eq⟩ : ∃ noise,
      ((controller.requestIdr call.snapshot call.drawn).filterNoise call.snapshot).2.2 = noise :=
    ⟨_, rfl⟩
  obtain ⟨final, final_eq⟩ : ∃ final, finalScore (exactLibm pow) controller.config
      (rawScore controller.config call.snapshot) noise = final := ⟨_, rfl⟩
  have raw_mem := rawScore_mem weighted call.snapshot
  obtain ⟨lower, upper⟩ := final_eq ▸ finalScore_mem weighted power call.snapshot noise
  have sum := final_eq ▸ rawScore_add_penalty (exactLibm pow) controller.config
    (rawScore controller.config call.snapshot) noise
  have converted : ((exactLibm pow).toInt final).toInt = trunc final :=
    toInt_toInt (le_trans (by norm_num) lower) ((upper.trans raw_mem.2).trans (by norm_num))
  have least := trunc_mono (show ((1000 : ℤ) : R) ≤ final by push_cast; exact lower)
  have most := trunc_mono (show final ≤ ((2000 : ℤ) : R) by push_cast; exact upper.trans raw_mem.2)
  rw [trunc_intCast] at least most
  have score_eq : (controller.update (exactLibm pow) call).2.score =
      (exactLibm pow).toInt final := by
    rw [← final_eq, ← noise_eq]
    rfl
  have penalty_eq : (controller.update (exactLibm pow) call).2.penalty =
      penalty controller.config (rawScore controller.config call.snapshot) final := by
    rw [← final_eq, ← noise_eq]
    rfl
  constructor
  · rw [score_eq, converted]
    exact ⟨least, most⟩
  · exact raw_mem
  · rw [penalty_eq]
    linarith
  · intro off
    rw [penalty_eq, penalty, off]
    norm_num
  · rw [score_eq, penalty_eq, converted]
    exact congrArg trunc sum.symm
  · exact getElem?_fieldsOf _ controller call (by decide)
  · exact getElem?_fieldsOf _ controller call (by decide)

omit [FloorRing R] [IsStrictOrderedRing R] in
/-- Every result is that of one update, under the configuration of the first. -/
theorem exists_update_of_mem {libm : Libm R} {controller : AlinkController R} {calls : List Call}
    {result : AlinkResult R} (member : result ∈ (updates libm).outputs controller calls) :
    ∃ (controller' : AlinkController R) (call : Call), controller'.config = controller.config ∧
      result = (controller'.update libm call).2 := by
  induction calls generalizing controller with
  | nil => exact absurd member List.not_mem_nil
  | cons call rest ih =>
      rw [Mealy.outputs_cons] at member
      rcases List.mem_append.mp member with now | later
      · exact ⟨controller, call, rfl, List.mem_singleton.mp now⟩
      · obtain ⟨controller', call', same, result_eq⟩ := ih later
        exact ⟨controller', call', same.trans (controller.config_update libm call), result_eq⟩

/-- **Scores stay on their scale** over every sequence of updates, from any state of the filter
and of the requests. -/
theorem updates_wellScored {controller : AlinkController R}
    (weighted : controller.config.Weighted) (power : ∀ t e, 0 ≤ t → 0 ≤ pow t e)
    (calls : List Call) :
    ∀ result ∈ (updates (exactLibm pow)).outputs controller calls,
      WellScored controller.config result := by
  intro result member
  obtain ⟨controller', call, same, rfl⟩ := exists_update_of_mem member
  rw [← same]
  exact wellScored_update (by rw [same]; exact weighted) (fun t => power t _) call

omit [FloorRing R] in
theorem weighted_default (allowPenalty : Bool) :
    ({ allowPenalty } : AlinkConfig R).Weighted := by
  constructor <;> norm_num

/-- Real numbers with their power: a controller that allows penalties, on a hundred packets of which
five were lost. -/
theorem updates_wellScored_real :
    WellScored { allowPenalty := true }
      ((AlinkController.create ({ allowPenalty := true } : AlinkConfig ℝ)).update
        (exactLibm fun t e => t ^ e) (trafficCall 5)).2 := by
  have power : ∀ t e : ℝ, 0 ≤ t → 0 ≤ t ^ e := fun t e nonneg => Real.rpow_nonneg nonneg e
  have weighted :
      (AlinkController.create ({ allowPenalty := true } : AlinkConfig ℝ)).config.Weighted :=
    weighted_default true
  exact updates_wellScored weighted power [trafficCall 5] _ (List.mem_singleton.mpr rfl)

end Alink

end MobileGs
