import MobileGs.Alink.Bounds

/-!
# The change of FEC in exact arithmetic

Between its two thresholds the change of FEC is interpolated over the span from the first of them to
`max_noise`, which is not the span between the thresholds. The value at the upper end of the
branch is therefore anything, and of either sign.

In exact arithmetic the interpolated value stays one of 0 to 5 and keeps the order of the noise when
`max_noise` lies far enough from the first threshold (`AlinkConfig.FecSpanFits`): at least ten
elevenths of the way to the second, or as far below the first as the second is above it tenfold, or
at the first itself, where the code does not divide (`fecChange_mem`, `fecChange_mono`).
-/

set_option autoImplicit false

namespace MobileGs

namespace Alink

open Wfb

variable {R : Type} [Field R] [LinearOrder R] [IsStrictOrderedRing R]

/-- The span of the interpolation fits the branch it is used in. -/
def AlinkConfig.FecSpanFits (config : AlinkConfig R) : Prop :=
  config.allowFecIncrease = false ∨ config.maxNoise = config.minNoiseForFecChange ∨
    (config.minNoiseForFecChange < config.maxNoise ∧
      10 * (config.noiseForMaxFecChange - config.minNoiseForFecChange) ≤
        11 * (config.maxNoise - config.minNoiseForFecChange)) ∨
    (config.maxNoise < config.minNoiseForFecChange ∧
      10 * (config.noiseForMaxFecChange - config.minNoiseForFecChange) ≤
        config.minNoiseForFecChange - config.maxNoise)

variable [FloorRing R] {pow : R → R → R}

/-- The interpolated change. -/
def fecSteps (config : AlinkConfig R) (noise : R) : ℤ :=
  roundAway ((noise - config.minNoiseForFecChange) /
    (config.maxNoise - config.minNoiseForFecChange) * 5)

omit [IsStrictOrderedRing R] in
/-- Between its thresholds the change is interpolated. -/
theorem fecChange_eq {config : AlinkConfig R} (allowed : config.allowFecIncrease = true) {noise : R}
    (lower : config.minNoiseForFecChange < noise) (upper : noise < config.noiseForMaxFecChange) :
    fecChange (exactLibm pow) config noise = Int32.ofInt (fecSteps config noise) := by
  rw [fecChange, if_neg, if_neg (not_le.mpr upper)]
  · have five : (5.0 : R) = 5 := by norm_num
    have zero : (0.0 : R) = 0 := by norm_num
    simp only [exactLibm, five, zero, fecSteps]
    split
    · rfl
    · rename_i none
      rw [bne_iff_ne, not_not] at none
      rw [none, div_zero]
  · rw [allowed]
    exact fun either => either.elim (fun no => absurd no (by decide)) (not_le.mpr lower)

theorem roundAway_zero : roundAway (0 : R) = 0 := by
  have zero := roundAway_intCast (R := R) (le_refl 0)
  rwa [Int.cast_zero] at zero

/-- Above half a step below zero a negative number is rounded to zero. -/
theorem roundAway_of_neg {x : R} (negative : x < 0) (small : -(1 / 2) < x) : roundAway x = 0 := by
  rw [roundAway, if_neg (not_le.mpr negative), Int.ceil_eq_zero_iff]
  constructor
  · linarith
  · linarith

/-- Nothing is added over a span that is reversed and long. -/
theorem fecSteps_reversed {config : AlinkConfig R}
    (below : config.maxNoise < config.minNoiseForFecChange)
    (reach : 10 * (config.noiseForMaxFecChange - config.minNoiseForFecChange) ≤
      config.minNoiseForFecChange - config.maxNoise) {noise : R}
    (lower : config.minNoiseForFecChange < noise) (upper : noise < config.noiseForMaxFecChange) :
    fecSteps config noise = 0 := by
  have span := sub_neg.mpr below
  have short : -(1 / 10) < (noise - config.minNoiseForFecChange) /
      (config.maxNoise - config.minNoiseForFecChange) := by
    rw [lt_div_iff_of_neg span]
    linarith
  have negative : (noise - config.minNoiseForFecChange) /
      (config.maxNoise - config.minNoiseForFecChange) < 0 :=
    div_neg_of_pos_of_neg (sub_pos.mpr lower) span
  exact roundAway_of_neg (by linarith) (by linarith)

/-- **The interpolated change fits.** -/
theorem fecSteps_mem {config : AlinkConfig R} (fits : config.FecSpanFits)
    (allowed : config.allowFecIncrease = true) {noise : R}
    (lower : config.minNoiseForFecChange < noise) (upper : noise < config.noiseForMaxFecChange) :
    0 ≤ fecSteps config noise ∧ fecSteps config noise ≤ 5 := by
  rcases fits with off | equal | ⟨above, reach⟩ | ⟨below, reach⟩
  · rw [allowed] at off
    exact absurd off (by decide)
  · rw [fecSteps, equal, sub_self, div_zero, zero_mul, roundAway_zero]
    decide
  · have span := sub_pos.mpr above
    have positive : 0 ≤ (noise - config.minNoiseForFecChange) /
        (config.maxNoise - config.minNoiseForFecChange) * 5 :=
      mul_nonneg (div_nonneg (sub_pos.mpr lower).le span.le) (by norm_num)
    have short : (noise - config.minNoiseForFecChange) /
        (config.maxNoise - config.minNoiseForFecChange) < 11 / 10 := by
      rw [div_lt_iff₀ span]
      linarith
    rw [fecSteps, roundAway, if_pos positive]
    refine ⟨Int.floor_nonneg.mpr (by linarith), Int.lt_add_one_iff.mp (Int.floor_lt.mpr ?_)⟩
    push_cast
    linarith
  · rw [fecSteps_reversed below reach lower upper]
    decide

/-- The interpolated change keeps the order, when it fits. -/
theorem fecSteps_mono {config : AlinkConfig R} (fits : config.FecSpanFits)
    (allowed : config.allowFecIncrease = true) {noise noise' : R}
    (lower : config.minNoiseForFecChange < noise) (le : noise ≤ noise')
    (upper : noise' < config.noiseForMaxFecChange) :
    fecSteps config noise ≤ fecSteps config noise' := by
  rcases le_or_gt config.minNoiseForFecChange config.maxNoise with above | below
  · have span := sub_nonneg.mpr above
    apply roundAway_mono
    · exact mul_nonneg (div_nonneg (sub_pos.mpr lower).le span) (by norm_num)
    · exact mul_le_mul_of_nonneg_right
        (div_le_div_of_nonneg_right (sub_le_sub_right le _) span) (by norm_num)
  · rcases fits with off | equal | ⟨above, -⟩ | ⟨-, reach⟩
    · rw [allowed] at off
      exact absurd off (by decide)
    · exact absurd equal below.ne
    · exact absurd above below.asymm
    · rw [fecSteps_reversed below reach lower (le.trans_lt upper),
        fecSteps_reversed below reach (lower.trans_le le) upper]

theorem ofInt_mem {n : ℤ} (lower : 0 ≤ n) (upper : n ≤ 5) :
    0 ≤ Int32.ofInt n ∧ Int32.ofInt n ≤ 5 := by
  rw [Int32.le_iff_toInt_le, Int32.le_iff_toInt_le,
    Int32.toInt_ofInt_of_le (by omega) (by omega)]
  exact ⟨lower, upper⟩

theorem fecChange_mem {config : AlinkConfig R} (fits : config.FecSpanFits) (noise : R) :
    0 ≤ fecChange (exactLibm pow) config noise ∧ fecChange (exactLibm pow) config noise ≤ 5 := by
  by_cases none : config.allowFecIncrease = false ∨ noise ≤ config.minNoiseForFecChange
  · rw [fecChange, if_pos none]
    decide
  · obtain ⟨allowed, above⟩ := not_or.mp none
    have allowed := Bool.eq_true_of_not_eq_false allowed
    by_cases most : config.noiseForMaxFecChange ≤ noise
    · rw [fecChange, if_neg none, if_pos most]
      decide
    · obtain ⟨lower, upper⟩ := fecSteps_mem fits allowed (not_le.mp above) (not_le.mp most)
      rw [fecChange_eq allowed (not_le.mp above) (not_le.mp most)]
      exact ofInt_mem lower upper

theorem fecChange_mono {config : AlinkConfig R} (fits : config.FecSpanFits) {noise noise' : R}
    (le : noise ≤ noise') :
    fecChange (exactLibm pow) config noise ≤ fecChange (exactLibm pow) config noise' := by
  by_cases none : config.allowFecIncrease = false ∨ noise ≤ config.minNoiseForFecChange
  · have zero : fecChange (exactLibm pow) config noise = 0 := if_pos none
    rw [zero]
    exact (fecChange_mem fits noise').1
  · obtain ⟨allowed, above⟩ := not_or.mp none
    have allowed' := Bool.eq_true_of_not_eq_false allowed
    have above' : config.minNoiseForFecChange < noise' := (not_le.mp above).trans_le le
    by_cases most : config.noiseForMaxFecChange ≤ noise'
    · have five : fecChange (exactLibm pow) config noise' = 5 := by
        rw [fecChange, if_neg (not_or.mpr ⟨allowed, not_le.mpr above'⟩), if_pos most]
      rw [five]
      exact (fecChange_mem fits noise).2
    · have below := le.trans_lt (not_le.mp most)
      obtain ⟨nonneg, -⟩ := fecSteps_mem fits allowed' (not_le.mp above) below
      obtain ⟨-, least⟩ := fecSteps_mem fits allowed' above' (not_le.mp most)
      rw [fecChange_eq allowed' (not_le.mp above) below,
        fecChange_eq allowed' above' (not_le.mp most)]
      exact ofInt_mono (by omega)
        (fecSteps_mono fits allowed' (not_le.mp above) le (not_le.mp most)) (by omega)

end Alink

end MobileGs
