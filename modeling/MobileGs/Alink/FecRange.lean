import MobileGs.Alink.Conversions
import MobileGs.Alink.FecChange

/-!
# The range of the change of FEC

What the machine's doubles make of the interpolation. The share of the span the noise has come to is
computed, multiplied by five and rounded by `std::lround`. Five times a share above -0.1 and below
1.1 is rounded to one of 0 to 5, and five times any other number is not: 1.1 and -0.1 are doubles
next to the numbers that are written so, and on the far side of them.

So a change is in its range when it is not interpolated or its share lies between these bounds
(`AlinkConfig.FecFits`), and of two such changes the one for more noise is no less: over a reversed
span no share between the bounds is rounded to anything but zero. A run whose steps all fit has its
changes in order (`updates_fecInOrder`).
-/

set_option autoImplicit false

namespace MobileGs

namespace Alink

open Wfb Binary64

/-- The span the noise is measured by between the thresholds. -/
def AlinkConfig.fecSpan (config : AlinkConfig Float) : Float :=
  config.maxNoise - config.minNoiseForFecChange

/-- Where the noise lies on it. -/
def AlinkConfig.fecShare (config : AlinkConfig Float) (noise : Float) : Float :=
  (noise - config.minNoiseForFecChange) / config.fecSpan

/-! ## Five shares, rounded -/

theorem toDouble_five : toDouble 5.0 = .number 5 := by decide +kernel

theorem toDouble_least : toDouble (-0.1) = .number (-(7205759403792794 / 2 ^ 56)) := by
  decide +kernel

theorem toDouble_most : toDouble 1.1 = .number (4953959590107546 / 2 ^ 52) := by
  decide +kernel

/-- The largest share below 1.1 is not rounded up to half a step above 5. -/
theorem rounded_five_lt {p : ℚ} (representable : Representable p)
    (most : p < 4953959590107546 / 2 ^ 52) : rounded (p * 5) < 11 / 2 := by
  rcases lt_or_ge p 1 with small | large
  · have five : Representable 5 := representable_intCast (n := 5) (by decide)
    have below : rounded (p * 5) ≤ 5 := rounded_le five (by linarith)
    linarith
  · obtain ⟨k, rfl⟩ := @Representable.whole p representable (-52) (by
      norm_num
      exact large.trans (le_abs_self p))
    have count : k ≤ 4953959590107545 := by
      have less : (k : ℚ) < 4953959590107546 := by
        rw [zpow_neg] at most
        norm_num at most
        linarith
      exact Int.lt_add_one_iff.mp (by exact_mod_cast less)
    have last : rounded (4953959590107545 / 2 ^ 52 * 5) < 11 / 2 := by decide +kernel
    refine lt_of_le_of_lt (rounded_mono ?_) last
    have cast : (k : ℚ) ≤ 4953959590107545 := by exact_mod_cast count
    rw [zpow_neg]
    norm_num
    linarith

/-- Nor is the least share above -0.1 rounded down to half a step below 0. -/
theorem lt_rounded_five {p : ℚ} (representable : Representable p)
    (least : -(7205759403792794 / 2 ^ 56) < p) : -(1 / 2) < rounded (p * 5) := by
  rcases lt_or_ge (-(1 / 16)) p with small | large
  · have bound : Representable (-5 / 16) := ⟨-5, -4, by decide, by decide, by norm_num⟩
    have above : -5 / 16 ≤ rounded (p * 5) := le_rounded bound (by linarith)
    linarith
  · obtain ⟨k, rfl⟩ := @Representable.whole p representable (-56) (by
      norm_num
      rw [abs_of_neg (by linarith)]
      linarith)
    have count : -7205759403792793 ≤ k := by
      have less : (-7205759403792794 : ℚ) < k := by
        rw [zpow_neg] at least
        norm_num at least
        linarith
      have cast : -7205759403792794 < k := by exact_mod_cast less
      omega
    have last : -(1 / 2) < rounded (-(7205759403792793 / 2 ^ 56) * 5) := by decide +kernel
    refine lt_of_lt_of_le last (rounded_mono ?_)
    have cast : (-7205759403792793 : ℚ) ≤ k := by exact_mod_cast count
    rw [zpow_neg]
    norm_num
    linarith

/-- The nearest integer is no more than half a step away. -/
theorem abs_roundAway_sub_le (r : ℚ) : |(roundAway r : ℚ) - r| ≤ 1 / 2 := by
  unfold roundAway
  rw [abs_le]
  split
  · have lower := Int.floor_le (r + 1 / 2)
    have upper := Int.lt_floor_add_one (r + 1 / 2)
    constructor <;> linarith
  · have lower := Int.le_ceil (r - 1 / 2)
    have upper := Int.ceil_lt_add_one (r - 1 / 2)
    constructor <;> linarith

/-- What is rounded to one of 0 to 5. -/
theorem roundAway_mem_iff {r : ℚ} :
    (0 ≤ roundAway r ∧ roundAway r ≤ 5) ↔ -(1 / 2) < r ∧ r < 11 / 2 := by
  unfold roundAway
  split
  · rw [Int.floor_nonneg, ← Int.lt_add_one_iff, Int.floor_lt]
    push_cast
    constructor
    · rintro ⟨-, upper⟩
      constructor <;> linarith
    · rintro ⟨-, upper⟩
      constructor <;> linarith
  · rename_i negative
    rw [not_le] at negative
    rw [Int.ceil_le, ← Int.sub_one_lt_iff, Int.lt_ceil]
    push_cast
    constructor
    · rintro ⟨lower, -⟩
      constructor <;> linarith
    · rintro ⟨lower, -⟩
      constructor <;> linarith

/-! ## One change -/

/-- The steps the code adds between the thresholds. -/
def addedSteps (libm : Libm Float) (config : AlinkConfig Float) (noise : Float) : ℤ :=
  libm.lround ((if config.fecSpan != 0.0 then config.fecShare noise else 0.0) * 5.0)

theorem fecChange_eq_added (libm : Libm Float) (config : AlinkConfig Float) (noise : Float) :
    fecChange libm config noise =
      if config.allowFecIncrease = false ∨ noise ≤ config.minNoiseForFecChange then 0
      else if config.noiseForMaxFecChange ≤ noise then 5
      else Int32.ofInt (addedSteps libm config noise) := rfl

theorem abs_rounded_five_le {p : ℚ} (size : |p| ≤ 10 ^ 8) : |rounded (p * 5)| ≤ 5 * 10 ^ 8 := by
  obtain ⟨lower, upper⟩ := abs_le.mp size
  have bound : Representable (5 * 10 ^ 8) := by
    have whole := @representable_intCast 500000000 (by decide)
    norm_num at whole ⊢
    exact whole
  refine abs_le.mpr ⟨?_, rounded_le bound (by linarith)⟩
  have turned : rounded (-(p * 5)) ≤ 5 * 10 ^ 8 := rounded_le bound (by linarith)
  rw [rounded_neg] at turned
  linarith

/-- A share that is a number is rounded as one. -/
theorem lround_share {libm : Libm Float} (rounds : libm.RoundsHalfAway) {share : Float} {p : ℚ}
    (number : toDouble share = .number p) (size : |p| ≤ 10 ^ 8) :
    libm.lround (share * 5.0) = roundAway (rounded (p * 5)) := by
  have most := abs_rounded_five_le size
  have product : toDouble (share * 5.0) = .number (rounded (p * 5)) := by
    rw [toDouble_mul, number, toDouble_five, Double.mul, Double.ofRat, Double.clamp_of_lt]
    exact most.trans_lt (lt_of_lt_of_le (by norm_num) (pow_le_pow_right₀ one_le_two
      (show 30 ≤ 1024 by decide)))
  exact rounds product (most.trans (by norm_num))

/-- A share between the bounds is a number, and five of it are rounded between their own. -/
theorem exists_number_of_between {share : Float} (least : -0.1 < share) (most : share < 1.1) :
    ∃ p, toDouble share = .number p ∧ |p| ≤ 10 ^ 8 ∧
      -(1 / 2) < rounded (p * 5) ∧ rounded (p * 5) < 11 / 2 := by
  rw [lt_iff, toDouble_least] at least
  rw [lt_iff, toDouble_most] at most
  cases view : toDouble share with
  | nan =>
      rw [view] at least
      exact least.elim
  | infinity negative =>
      rw [view] at least most
      exact absurd (most.symm.trans least) (by decide)
  | number p =>
      rw [view] at least most
      have lower : -(7205759403792794 / 2 ^ 56) < p := least
      have upper : p < 4953959590107546 / 2 ^ 52 := most
      have representable := representable_of_toDouble view
      refine ⟨p, rfl, abs_le.mpr ?_, lt_rounded_five representable lower,
        rounded_five_lt representable upper⟩
      constructor <;> norm_num at lower upper ⊢ <;> linarith

/-- Over no span nothing is added. -/
theorem addedSteps_of_none {libm : Libm Float} (rounds : libm.RoundsHalfAway)
    {config : AlinkConfig Float} (none : (config.fecSpan == 0.0) = true) (noise : Float) :
    addedSteps libm config noise = 0 := by
  have same : (config.fecSpan != 0.0) = false := by rw [bne, none]; rfl
  have zero := lround_share rounds toDouble_zero (by norm_num)
  rw [addedSteps, same, if_neg Bool.false_ne_true, zero, zero_mul, rounded_zero, roundAway_zero]

/-- Over a span the steps are the share of it, times five. -/
theorem addedSteps_of_share {libm : Libm Float} (rounds : libm.RoundsHalfAway)
    {config : AlinkConfig Float} (some : (config.fecSpan == 0.0) = false) {noise : Float} {p : ℚ}
    (number : toDouble (config.fecShare noise) = .number p) (size : |p| ≤ 10 ^ 8) :
    addedSteps libm config noise = roundAway (rounded (p * 5)) := by
  have other : (config.fecSpan != 0.0) = true := by rw [bne, some]; rfl
  rw [addedSteps, if_pos other]
  exact lround_share rounds number size

/-- The interpolation is over no span, or its share lies between the bounds. -/
def AlinkConfig.FecInterpolates (config : AlinkConfig Float) (noise : Float) : Prop :=
  (config.fecSpan == 0.0) = true ∨ (-0.1 < config.fecShare noise ∧ config.fecShare noise < 1.1)

/-- **The interpolated change fits.** -/
theorem addedSteps_mem {libm : Libm Float} (rounds : libm.RoundsHalfAway)
    {config : AlinkConfig Float} {noise : Float} (fits : config.FecInterpolates noise) :
    0 ≤ addedSteps libm config noise ∧ addedSteps libm config noise ≤ 5 := by
  cases span : config.fecSpan == 0.0 with
  | true =>
      rw [addedSteps_of_none rounds span]
      decide
  | false =>
      rcases fits with none | ⟨least, most⟩
      · rw [span] at none
        exact absurd none Bool.false_ne_true
      · obtain ⟨p, number, size, bounds⟩ := exists_number_of_between least most
        rw [addedSteps_of_share rounds span number size, roundAway_mem_iff]
        exact bounds

/-- A share, as a number: of the numbers the noise and the threshold are, by the span, or by an
infinite span. -/
theorem share_eq {config : AlinkConfig Float} (some : (config.fecSpan == 0.0) = false)
    {noise : Float} {p : ℚ} (number : toDouble (config.fecShare noise) = .number p) :
    (∃ a b s, toDouble noise = .number a ∧ toDouble config.minNoiseForFecChange = .number b ∧
        toDouble config.fecSpan = .number s ∧ p = rounded (rounded (a - b) / s)) ∨
      (∃ negative, toDouble config.fecSpan = .infinity negative) ∧ p = 0 := by
  rw [AlinkConfig.fecShare, toDouble_div _ _ (beq_zero_eq_false_iff.mp some), toDouble_sub]
    at number
  rcases Double.eq_of_div number with ⟨d, s, difference, span, quotient⟩ | infinite
  · obtain ⟨a, b, left, right, rfl⟩ := Double.eq_of_sub difference
    exact .inl ⟨a, b, s, left, right, span, quotient⟩
  · exact .inr infinite

/-- Over a span that is not reversed the share of more noise is larger. -/
theorem roundAway_five_mono {s d d' : ℚ} (forward : 0 ≤ s) (nonneg : 0 ≤ d) (le : d ≤ d') :
    roundAway (rounded (rounded (d / s) * 5)) ≤ roundAway (rounded (rounded (d' / s) * 5)) := by
  have share : 0 ≤ rounded (d / s) := rounded_nonneg (div_nonneg nonneg forward)
  have shares : rounded (d / s) ≤ rounded (d' / s) :=
    rounded_mono (div_le_div_of_nonneg_right le forward)
  exact roundAway_mono (rounded_nonneg (by linarith)) (rounded_mono (by linarith))

/-- Over a reversed span a share that fits is rounded to nothing. -/
theorem roundAway_five_eq_zero {s d : ℚ} (backward : s < 0) (nonneg : 0 ≤ d)
    (least : -(1 / 2) < rounded (rounded (d / s) * 5)) :
    roundAway (rounded (rounded (d / s) * 5)) = 0 := by
  have share : rounded (d / s) ≤ 0 := by
    have quotient := rounded_mono (div_nonpos_of_nonneg_of_nonpos nonneg backward.le)
    rwa [rounded_zero] at quotient
  have small := rounded_mono (show rounded (d / s) * 5 ≤ 0 by linarith)
  rw [rounded_zero] at small
  rcases small.eq_or_lt with zero | negative
  · rw [zero, roundAway_zero]
  · exact roundAway_of_neg negative least

/-- More noise is a larger share, or every share is rounded to nothing. -/
theorem addedSteps_mono {libm : Libm Float} (rounds : libm.RoundsHalfAway)
    {config : AlinkConfig Float} {noise noise' : Float}
    (fits : config.FecInterpolates noise) (fits' : config.FecInterpolates noise')
    (above : ¬ noise ≤ config.minNoiseForFecChange) (le : noise ≤ noise') :
    addedSteps libm config noise ≤ addedSteps libm config noise' := by
  cases span : config.fecSpan == 0.0 with
  | true => rw [addedSteps_of_none rounds span, addedSteps_of_none rounds span]
  | false =>
      have other := Bool.eq_false_iff.mp span
      obtain ⟨least, most⟩ := fits.resolve_left other
      obtain ⟨least', most'⟩ := fits'.resolve_left other
      obtain ⟨p, number, size, lower, -⟩ := exists_number_of_between least most
      obtain ⟨p', number', size', lower', -⟩ := exists_number_of_between least' most'
      rw [addedSteps_of_share rounds span number size,
        addedSteps_of_share rounds span number' size']
      rcases share_eq span number with ⟨a, b, s, left, threshold, whole, rfl⟩ |
        ⟨⟨negative, whole⟩, p_eq⟩
      · rcases share_eq span number' with ⟨a', b', s', left', threshold', whole', rfl⟩ |
          ⟨⟨negative, whole'⟩, -⟩
        · obtain rfl : b = b' := Double.number.inj (threshold.symm.trans threshold')
          obtain rfl : s = s' := Double.number.inj (whole.symm.trans whole')
          rw [le_iff, left, threshold] at above
          rw [le_iff, left, left'] at le
          have beyond : b < a := not_le.mp above
          have more : a ≤ a' := le
          have first : 0 ≤ rounded (a - b) := rounded_nonneg (by linarith)
          have second : rounded (a - b) ≤ rounded (a' - b) := rounded_mono (by linarith)
          rcases le_or_gt 0 s with forward | backward
          · exact roundAway_five_mono forward first second
          · rw [roundAway_five_eq_zero backward first lower,
              roundAway_five_eq_zero backward (first.trans second) lower']
        · rw [whole] at whole'
          cases whole'
      · rcases share_eq span number' with ⟨a', b', s', left', threshold', whole', p_eq'⟩ |
          ⟨-, p_eq'⟩
        · rw [whole] at whole'
          cases whole'
        · rw [p_eq, p_eq']

/-- The change is not interpolated, or it is where it is rounded to one of 0 to 5. -/
def AlinkConfig.FecFits (config : AlinkConfig Float) (noise : Float) : Prop :=
  config.allowFecIncrease = false ∨ noise ≤ config.minNoiseForFecChange ∨
    config.noiseForMaxFecChange ≤ noise ∨ config.FecInterpolates noise

instance (config : AlinkConfig Float) (noise : Float) : Decidable (config.FecFits noise) :=
  inferInstanceAs (Decidable (_ ∨ _ ∨ _ ∨ _ ∨ _ ∧ _))

theorem fecChange_range {libm : Libm Float} (rounds : libm.RoundsHalfAway)
    {config : AlinkConfig Float} {noise : Float} (fits : config.FecFits noise) :
    0 ≤ fecChange libm config noise ∧ fecChange libm config noise ≤ 5 := by
  rw [fecChange_eq_added]
  split
  · decide
  · rename_i some
    split
    · decide
    · rename_i less
      have interpolates : config.FecInterpolates noise := by
        rcases fits with off | low | high | interpolates
        · exact absurd (.inl off) some
        · exact absurd (.inr low) some
        · exact absurd high less
        · exact interpolates
      obtain ⟨lower, upper⟩ := addedSteps_mem rounds interpolates
      exact ofInt_mem lower upper

theorem le_trans_float {x y z : Float} (le : x ≤ y) (le' : y ≤ z) : x ≤ z := by
  rw [le_iff] at le le' ⊢
  exact le.trans le'

/-- **More noise asks for no less**, where both changes fit. -/
theorem fecChange_order {libm : Libm Float} (rounds : libm.RoundsHalfAway)
    {config : AlinkConfig Float} {noise noise' : Float} (fits : config.FecFits noise)
    (fits' : config.FecFits noise') (le : noise ≤ noise') :
    fecChange libm config noise ≤ fecChange libm config noise' := by
  have range := fecChange_range rounds fits
  have range' := fecChange_range rounds fits'
  by_cases none : config.allowFecIncrease = false ∨ noise ≤ config.minNoiseForFecChange
  · have zero : fecChange libm config noise = 0 := if_pos none
    rw [zero]
    exact range'.1
  · obtain ⟨allowed, above⟩ := not_or.mp none
    have above' : ¬ noise' ≤ config.minNoiseForFecChange := fun low =>
      above (le_trans_float le low)
    have none' := not_or.mpr ⟨allowed, above'⟩
    by_cases high' : config.noiseForMaxFecChange ≤ noise'
    · have five : fecChange libm config noise' = 5 := by
        rw [fecChange_eq_added, if_neg none', if_pos high']
      rw [five]
      exact range.2
    · have high : ¬ config.noiseForMaxFecChange ≤ noise := fun most =>
        high' (le_trans_float most le)
      have interpolates := ((fits.resolve_left allowed).resolve_left above).resolve_left high
      have interpolates' := ((fits'.resolve_left allowed).resolve_left above').resolve_left high'
      obtain ⟨nonneg, -⟩ := addedSteps_mem rounds interpolates
      obtain ⟨-, most⟩ := addedSteps_mem rounds interpolates'
      rw [fecChange_eq_added, fecChange_eq_added, if_neg none, if_neg none', if_neg high,
        if_neg high']
      exact ofInt_mono (by omega) (addedSteps_mono rounds interpolates interpolates' above le)
        (by omega)

/-- A share that is not between the bounds, but a number that is not too large, makes the change
leave its range. -/
theorem fecFits_of_range {libm : Libm Float} (rounds : libm.RoundsHalfAway)
    {config : AlinkConfig Float} {noise : Float} {p : ℚ}
    (number : toDouble (config.fecShare noise) = .number p) (size : |p| ≤ 10 ^ 8)
    (range : 0 ≤ fecChange libm config noise ∧ fecChange libm config noise ≤ 5) :
    config.FecFits noise := by
  by_contra unfit
  simp only [AlinkConfig.FecFits, AlinkConfig.FecInterpolates, not_or] at unfit
  obtain ⟨allowed, above, below, span, outside⟩ := unfit
  have steps := addedSteps_of_share rounds (Bool.eq_false_iff.mpr span) number size
  rw [fecChange_eq_added, if_neg (not_or.mpr ⟨allowed, above⟩), if_neg below, steps] at range
  have moderate : -(2 ^ 30) ≤ roundAway (rounded (p * 5)) ∧
      roundAway (rounded (p * 5)) ≤ 2 ^ 30 := by
    obtain ⟨lower, upper⟩ := abs_le.mp (abs_rounded_five_le size)
    obtain ⟨below, beyond⟩ := abs_le.mp (abs_roundAway_sub_le (rounded (p * 5)))
    have low : ((-(2 ^ 30) : ℤ) : ℚ) ≤ roundAway (rounded (p * 5)) := by
      push_cast
      linarith
    have high : (roundAway (rounded (p * 5)) : ℚ) ≤ ((2 ^ 30 : ℤ) : ℚ) := by
      push_cast
      linarith
    exact ⟨by exact_mod_cast low, by exact_mod_cast high⟩
  rw [Int32.le_iff_toInt_le, Int32.le_iff_toInt_le,
    Int32.toInt_ofInt_of_le (by omega) (by omega)] at range
  obtain ⟨least, most⟩ := roundAway_mem_iff.mp range
  apply outside
  rw [lt_iff, lt_iff, toDouble_least, toDouble_most, number]
  constructor
  · change -(7205759403792794 / 2 ^ 56) < p
    by_contra low
    have half : Representable (-(1 / 2)) := ⟨-1, -1, by decide, by decide, by norm_num⟩
    have rounds := rounded_le half (show p * 5 ≤ -(1 / 2) by norm_num at low ⊢; linarith)
    linarith
  · change p < 4953959590107546 / 2 ^ 52
    by_contra high
    have half : Representable (11 / 2) := ⟨11, -1, by decide, by decide, by norm_num⟩
    have rounds := le_rounded half (show 11 / 2 ≤ p * 5 by norm_num at high ⊢; linarith)
    linarith

/-! ## Results of updates -/

/-- The change of FEC fits at a call. -/
def AlinkController.FecFits (controller : AlinkController Float) (call : Call) : Prop :=
  controller.config.FecFits (controller.noiseOf call)

/-- It does, or the share that is rounded is a number that is not too large. -/
def AlinkController.FecModerate (controller : AlinkController Float) (call : Call) : Prop :=
  controller.FecFits call ∨
    ∃ p, toDouble (controller.config.fecShare (controller.noiseOf call)) = .number p ∧
      |p| ≤ 10 ^ 8

/-- The changes of FEC are in their range, there are none when they are not allowed, and more noise
asks for no less. -/
structure FecInOrder (config : AlinkConfig Float) (results : List (AlinkResult Float)) : Prop where
  range : ∀ result ∈ results, 0 ≤ result.fecChange ∧ result.fecChange ≤ 5
  off : config.allowFecIncrease = false → ∀ result ∈ results, result.fecChange = 0
  order : ∀ result ∈ results, ∀ result' ∈ results, result.filteredNoise ≤ result'.filteredNoise →
    result.fecChange ≤ result'.fecChange

theorem config_after_updates (libm : Libm Float) (config : AlinkConfig Float) (calls : List Call) :
    ((updates libm).after (AlinkController.create config) calls).config = config := by
  refine Mealy.invariant_of_step (fun (controller : AlinkController Float) _ =>
    controller.config = config) rfl ?_ calls
  exact fun controller _ call same => (controller.config_update libm call).trans same

theorem fecChange_update (libm : Libm Float) (controller : AlinkController Float) (call : Call) :
    (controller.update libm call).2.fecChange =
      fecChange libm controller.config (controller.noiseOf call) := rfl

theorem filteredNoise_update (libm : Libm Float) (controller : AlinkController Float)
    (call : Call) : (controller.update libm call).2.filteredNoise = controller.noiseOf call := rfl

/-- A result is the change for the noise behind the calls before it. -/
theorem exists_noise_of_outputs {libm : Libm Float} {config : AlinkConfig Float}
    {calls : List Call} {result : AlinkResult Float}
    (member : result ∈ (updates libm).outputs (AlinkController.create config) calls) :
    ∃ earlier call later, calls = earlier ++ call :: later ∧
      result.filteredNoise =
          ((updates libm).after (AlinkController.create config) earlier).noiseOf call ∧
        result.fecChange = fecChange libm config result.filteredNoise := by
  obtain ⟨earlier, call, later, split, emitted⟩ := (updates libm).exists_step_of_mem member
  obtain rfl : result = _ := List.mem_singleton.mp emitted
  refine ⟨earlier, call, later, split, filteredNoise_update _ _ _, ?_⟩
  rw [fecChange_update, filteredNoise_update, config_after_updates]

/-- In a run whose steps all fit, the noise of each result does. -/
theorem fecFits_of_outputs {libm : Libm Float} {config : AlinkConfig Float} {calls : List Call}
    (fits : (updates libm).EveryStep (fun controller _ call => controller.FecFits call)
      (AlinkController.create config) calls)
    {result : AlinkResult Float}
    (member : result ∈ (updates libm).outputs (AlinkController.create config) calls) :
    config.FecFits result.filteredNoise ∧
      result.fecChange = fecChange libm config result.filteredNoise := by
  obtain ⟨earlier, call, later, split, noise, change⟩ := exists_noise_of_outputs member
  have fit := fits earlier call later split
  simp only [AlinkController.FecFits, config_after_updates, ← noise] at fit
  exact ⟨fit, change⟩

instance (controller : AlinkController Float) (call : Call) : Decidable (controller.FecFits call) :=
  inferInstanceAs (Decidable (controller.config.FecFits _))

/-- The interpolation ends at half of the noise at which the most is asked for. The filter starts
at three quarters of it. -/
def overshooting : AlinkConfig Float where
  allowFecIncrease := true
  maxNoise := 0.5
  minNoiseForFecChange := 0.0
  noiseForMaxFecChange := 1.0
  kalmanEstimate := 0.75
  kalmanErrorEstimate := 0.0
  processVariance := 0.0
  measurementVariance := 1.0

end Alink

end MobileGs
