import Mathlib
import MobileGs.Foundations.Binary64

/-!
# Unpacked floats

Lean's model of its floats takes a float apart into a sign, a mantissa and an exponent, computes
with these, and rounds and packs what comes out. Here that is related to rounding of exact numbers.

A mantissa shifted to the right keeps two bits of what is lost, and they are all that rounding needs
(`Represents`). So an exact result, given by a mantissa and where the result lies above it, is
rounded to the nearest number of the format (`roundWithAccuracy_spec`), and sums, products and
quotients are the exact ones, rounded (`add_spec`, `mul_spec`, `div_spec`). A number is unpacked as
it was packed unless its exponent does not fit (`unpack_pack_finite`).
-/

set_option autoImplicit false

namespace MobileGs

namespace Binary64

open Float.Model Float.Model.UnpackedFloat

/-! ## Shifting a mantissa -/

/-- An extended mantissa stands for a number: the integer below it, and where between two integers
it lies. -/
structure Represents (mantissa : ExtendedMantissa) (x : ℚ) : Prop where
  floor : ⌊x⌋ = mantissa.mantissa
  round : mantissa.roundBit = true ↔ 1 / 2 ≤ x - ⌊x⌋
  sticky : mantissa.stickyBit = true ↔ x - ⌊x⌋ ≠ 0 ∧ x - ⌊x⌋ ≠ 1 / 2

/-- A shift halves the number. -/
theorem Represents.shiftRightOne {mantissa : ExtendedMantissa} {x : ℚ}
    (represents : Represents mantissa x) : Represents mantissa.shiftRightOne (x / 2) := by
  obtain ⟨floor, round, sticky⟩ := represents
  have lower := Int.floor_le x
  have upper := Int.lt_floor_add_one x
  -- What the lowest bit of the integer adds to the fraction.
  obtain ⟨bit, half, split, binary⟩ : ∃ bit half : ℕ,
      mantissa.mantissa = 2 * half + bit ∧ (bit = 0 ∨ bit = 1) :=
    ⟨mantissa.mantissa % 2, mantissa.mantissa / 2, by omega, by omega⟩
  have whole : (⌊x⌋ : ℚ) = 2 * half + bit := by
    rw [floor, split]
    push_cast
    rfl
  have down : ⌊x / 2⌋ = half := by
    rw [Int.floor_eq_iff]
    push_cast
    rcases binary with rfl | rfl <;> push_cast at whole <;> constructor <;> linarith
  have quotient : mantissa.mantissa / 2 = half := by omega
  have rest : mantissa.mantissa % 2 = bit := by omega
  have fraction : x / 2 - (⌊x / 2⌋ : ℚ) = (bit + (x - ⌊x⌋)) / 2 := by
    rw [down, whole]
    push_cast
    ring
  constructor
  · rw [down]
    exact congrArg Nat.cast quotient.symm
  · rw [fraction]
    change (mantissa.mantissa % 2 != 0) = true ↔ _
    rw [rest]
    rcases binary with rfl | rfl
    · simp only [bne_self_eq_false, Bool.false_eq_true, false_iff, not_le, Nat.cast_zero]
      linarith
    · simp only [bne_iff_ne, ne_eq, one_ne_zero, not_false_iff, true_iff, Nat.cast_one]
      linarith
  · rw [fraction]
    change (mantissa.roundBit || mantissa.stickyBit) = true ↔ _
    rw [Bool.or_eq_true, round, sticky]
    have inside : 0 ≤ x - (⌊x⌋ : ℚ) := by linarith
    have below : x - (⌊x⌋ : ℚ) < 1 := by linarith
    generalize x - (⌊x⌋ : ℚ) = rest at inside below
    -- Either side says that there is a fraction.
    have before : 1 / 2 ≤ rest ∨ rest ≠ 0 ∧ rest ≠ 1 / 2 ↔ rest ≠ 0 := by
      constructor
      · rintro (high | ⟨some, -⟩)
        · linarith
        · exact some
      · intro some
        rcases lt_or_ge rest (1 / 2) with low | high
        · exact .inr ⟨some, low.ne⟩
        · exact .inl high
    have after : ((bit : ℚ) + rest) / 2 ≠ 0 ∧ ((bit : ℚ) + rest) / 2 ≠ 1 / 2 ↔ rest ≠ 0 := by
      rcases binary with rfl | rfl <;> push_cast
      · constructor
        · rintro ⟨some, -⟩ none
          exact some (by rw [none]; norm_num)
        · exact fun some => ⟨fun none => some (by linarith), by linarith⟩
      · constructor
        · rintro ⟨-, some⟩ none
          exact some (by rw [none]; norm_num)
        · exact fun some => ⟨by linarith, fun none => some (by linarith)⟩
    exact before.trans after.symm

theorem Represents.shiftRight {mantissa : ExtendedMantissa} {x : ℚ}
    (represents : Represents mantissa x) (k : ℕ) : Represents (mantissa >>> k) (x / 2 ^ k) := by
  induction k with
  | zero =>
      rw [pow_zero, div_one]
      exact represents
  | succ k ih =>
      rw [pow_succ, ← div_div]
      exact ih.shiftRightOne

/-- The residual bits are all that rounding needs. -/
theorem Represents.roundedMantissa {mantissa : ExtendedMantissa} {x : ℚ}
    (represents : Represents mantissa x) :
    (mantissa.roundedMantissa : ℤ) = roundEven x := by
  obtain ⟨floor, round, sticky⟩ := represents
  obtain ⟨whole, roundBit, stickyBit⟩ := mantissa
  unfold roundEven ExtendedMantissa.roundedMantissa
  dsimp only at floor round sticky ⊢
  cases roundBit <;> cases stickyBit <;>
    simp only [Bool.false_eq_true, false_iff, true_iff, not_le, not_and, not_not] at round sticky
  · rw [if_pos round, floor]
    rfl
  · rw [if_pos round, floor]
    rfl
  · have half : x - (⌊x⌋ : ℚ) = 1 / 2 := sticky (by linarith)
    rw [if_neg (by linarith), if_neg (by linarith), floor]
    change ((whole + whole % 2 : ℕ) : ℤ) = _
    push_cast
    rfl
  · have high : 1 / 2 < x - (⌊x⌋ : ℚ) := lt_of_le_of_ne round (Ne.symm sticky.2)
    rw [if_neg (by linarith), if_pos high, floor]
    rfl

theorem mantissa_ofMantissaAndAccuracy (m : ℕ) (accuracy : Accuracy) :
    (ExtendedMantissa.ofMantissaAndAccuracy m accuracy).mantissa = m := by
  cases accuracy with
  | exact => rfl
  | inexact order => cases order <;> rfl

theorem represents_exact (m : ℕ) : Represents (.ofMantissaAndAccuracy m .exact) (m : ℚ) := by
  have floor : ⌊(m : ℚ)⌋ = m := Int.floor_natCast m
  have none : (m : ℚ) - (⌊(m : ℚ)⌋ : ℚ) = 0 := by
    rw [floor]
    push_cast
    ring
  refine ⟨floor, ?_, ?_⟩ <;> rw [none]
  · exact iff_of_false Bool.false_ne_true (by norm_num)
  · exact iff_of_false Bool.false_ne_true (by norm_num)

/-- The quotient of two integers, with what the division leaves. -/
theorem represents_fraction (m : ℕ) {d : ℕ} (positive : 0 < d) :
    Represents (.ofMantissaAndAccuracy (m / d) (accuracyOfFraction (m % d) d)) ((m : ℚ) / d) := by
  have divisor : (0 : ℚ) < d := by exact_mod_cast positive
  obtain ⟨quotient, quotient_eq⟩ : ∃ quotient, m / d = quotient := ⟨_, rfl⟩
  obtain ⟨rest, rest_eq⟩ : ∃ rest, m % d = rest := ⟨_, rfl⟩
  have division : m = quotient * d + rest := by
    rw [← quotient_eq, ← rest_eq, Nat.div_add_mod']
  have less : rest < d := rest_eq ▸ Nat.mod_lt m positive
  have value : (m : ℚ) / d = quotient + (rest : ℚ) / d := by
    rw [division]
    push_cast
    field_simp
  have nonneg : 0 ≤ (rest : ℚ) / d := by positivity
  have below : (rest : ℚ) / d < 1 := by
    rw [div_lt_one divisor]
    exact_mod_cast less
  have floor : ⌊(m : ℚ) / d⌋ = quotient := by
    rw [value, Int.floor_natCast_add, Int.floor_eq_zero_iff.mpr ⟨nonneg, below⟩, add_zero]
  have fraction : (m : ℚ) / d - (⌊(m : ℚ) / d⌋ : ℚ) = (rest : ℚ) / d := by
    rw [floor, value, Int.cast_natCast, add_sub_cancel_left]
  rw [quotient_eq, rest_eq]
  unfold accuracyOfFraction
  split
  · rename_i none
    refine ⟨floor, ?_, ?_⟩ <;> rw [fraction, none]
    · exact iff_of_false Bool.false_ne_true (by norm_num)
    · exact iff_of_false Bool.false_ne_true (by norm_num)
  · rename_i some
    have nonzero : (rest : ℚ) / d ≠ 0 := div_ne_zero (by exact_mod_cast some) divisor.ne'
    rcases lt_trichotomy (2 * rest) d with low | half | high
    · have small : (rest : ℚ) / d < 1 / 2 := by
        rw [div_lt_iff₀ divisor]
        have cast : (2 * rest : ℚ) < d := by exact_mod_cast low
        linarith
      rw [compare_lt_iff_lt.mpr low]
      refine ⟨floor, ?_, ?_⟩ <;> rw [fraction]
      · exact iff_of_false Bool.false_ne_true (not_le.mpr small)
      · exact iff_of_true rfl ⟨nonzero, small.ne⟩
    · have same : (rest : ℚ) / d = 1 / 2 := by
        rw [div_eq_iff divisor.ne', ← half]
        push_cast
        ring
      rw [compare_eq_iff_eq.mpr half]
      refine ⟨floor, ?_, ?_⟩ <;> rw [fraction]
      · exact iff_of_true rfl same.ge
      · exact iff_of_false Bool.false_ne_true fun neither => neither.2 same
    · have large : 1 / 2 < (rest : ℚ) / d := by
        rw [lt_div_iff₀ divisor]
        have cast : (d : ℚ) < 2 * rest := by exact_mod_cast high
        linarith
      rw [compare_gt_iff_gt.mpr high]
      refine ⟨floor, ?_, ?_⟩ <;> rw [fraction]
      · exact iff_of_true rfl large.le
      · exact iff_of_true rfl ⟨nonzero, large.ne'⟩

/-! ## Rounding a mantissa -/

def signed (sign : Sign) (q : ℚ) : ℚ :=
  match sign with
  | .negative => -q
  | .positive => q

/-- The number an unpacked double stands for, if it is one. -/
def value : UnpackedFloat → ℚ
  | .finite sign m e _ => signed sign (m * 2 ^ e)
  | _ => 0

/-- The unpacked doubles that are numbers, in the form packing expects. -/
inductive Normalized : UnpackedFloat → Prop where
  | zero (sign : Sign) : Normalized (.zero sign)
  | finite (sign : Sign) {m : ℕ} {e : ℤ} (positive : 0 < m) (bits : m < 2 ^ 53) (least : -1074 ≤ e)
      (full : -1074 < e → 2 ^ 52 ≤ m) : Normalized (.finite sign m e positive)

theorem abs_value_zero_lt (sign : Sign) : |value (.zero sign)| < 2 ^ 1024 := by
  change |(0 : ℚ)| < 2 ^ 1024
  rw [abs_zero]
  positivity

/-- The numbers with an exponent of the format. -/
theorem abs_value_lt (sign : Sign) {m : ℕ} {e : ℤ} (positive : 0 < m) (bits : m < 2 ^ 53)
    (fits : e < 972) : |value (.finite sign m e positive)| < 2 ^ 1024 := by
  have same : |value (.finite sign m e positive)| = m * 2 ^ e := by
    have nonneg : 0 ≤ (m : ℚ) * 2 ^ e := mul_nonneg (Nat.cast_nonneg m) (two_zpow_pos e).le
    cases sign
    · exact (abs_neg _).trans (abs_of_nonneg nonneg)
    · exact abs_of_nonneg nonneg
  rw [same]
  calc (m : ℚ) * 2 ^ e < ((2 ^ 53 : ℤ) : ℚ) * 2 ^ e :=
        mul_lt_mul_of_pos_right (by exact_mod_cast bits) (two_zpow_pos e)
    _ = 2 ^ (e + (53 : ℕ)) := (two_zpow_add e 53).symm
    _ ≤ 2 ^ (1024 : ℤ) := two_zpow_le (by push_cast; omega)
    _ = 2 ^ 1024 := zpow_natCast 2 1024

theorem targetExponent_eq (m : ℕ) (e : ℤ) :
    Format.binary64.targetExponent (totalExponent m e) = max (Nat.log2 m + e - 52) (-1074) := by
  change max ((Nat.log2 m : ℤ) + 1 + e - 53) (-1074) = _
  rw [show (Nat.log2 m : ℤ) + 1 + e - 53 = Nat.log2 m + e - 52 by omega]

/-- A mantissa of no more than 53 bits at a place of the format stays where it is, and one more
than those is halved. -/
theorem shiftToTargetExponent_exact {r : ℕ} {place : ℤ} (least : -1074 ≤ place)
    (bits : r ≤ 2 ^ 53) :
    shiftToTargetExponent .binary64 r place .exact =
      if r < 2 ^ 53 then (⟨r, false, false⟩, place)
      else (⟨2 ^ 52, false, false⟩, place + 1) := by
  unfold shiftToTargetExponent
  rw [targetExponent_eq]
  split
  · rename_i fits
    have log : Nat.log2 r ≤ 52 := by
      rcases Nat.eq_zero_or_pos r with rfl | positive
      · decide
      · exact Nat.lt_succ_iff.mp ((Nat.log2_lt positive.ne').mpr fits)
    have none : (max ((Nat.log2 r : ℤ) + place - 52) (-1074) - place).toNat = 0 := by omega
    rw [shiftToExponent]
    simp only [none]
    exact congrArg _ (by simp)
  · rename_i more
    obtain rfl : r = 2 ^ 53 := by omega
    have once : (max ((Nat.log2 (2 ^ 53) : ℤ) + place - 52) (-1074) - place).toNat = 1 := by
      rw [Nat.log2_two_pow]
      omega
    rw [shiftToExponent]
    simp only [once]
    rfl

/-- What the second shift makes of a rounded mantissa. -/
theorem roundWithAccuracy_eq (sign : Sign) {m r : ℕ} {e place : ℤ} {accuracy : Accuracy}
    (first : (shiftToTargetExponent .binary64 m e accuracy).1.roundedMantissa = r)
    (second : (shiftToTargetExponent .binary64 m e accuracy).2 = place)
    (least : -1074 ≤ place) (bits : r ≤ 2 ^ 53) (full : -1074 < place → 2 ^ 52 ≤ r) :
    Normalized (roundWithAccuracy .binary64 sign m e accuracy) ∧
      value (roundWithAccuracy .binary64 sign m e accuracy) = signed sign (r * 2 ^ place) := by
  unfold roundWithAccuracy
  dsimp only
  rw [first, second]
  rw [shiftToTargetExponent_exact least bits]
  split
  · rename_i small
    split
    · rename_i none
      have none : r = 0 := none
      refine ⟨.zero sign, ?_⟩
      rw [none, Nat.cast_zero, zero_mul]
      cases sign <;> simp [value, signed]
    · rename_i some
      exact ⟨.finite sign (Nat.pos_of_ne_zero some) small least full, rfl⟩
  · have most : r = 2 ^ 53 := by omega
    refine ⟨.finite sign (Nat.two_pow_pos 52) (show 2 ^ 52 < 2 ^ 53 by decide) (by omega)
      fun _ => Nat.le_refl _, ?_⟩
    change signed sign (((2 ^ 52 : ℕ) : ℚ) * 2 ^ (place + 1)) = _
    rw [most, zpow_add₀ two_ne_zero]
    congr 1
    push_cast
    ring

/-- The number that a mantissa and its accuracy stand for. -/
theorem Represents.bounds {m : ℕ} {accuracy : Accuracy} {x : ℚ}
    (represents : Represents (.ofMantissaAndAccuracy m accuracy) x) :
    (m : ℚ) ≤ x ∧ x < m + 1 := by
  have whole := represents.floor
  rw [mantissa_ofMantissaAndAccuracy] at whole
  have lower := Int.floor_le x
  have upper := Int.lt_floor_add_one x
  rw [whole] at lower upper
  exact ⟨by exact_mod_cast lower, by exact_mod_cast upper⟩

/-- A number is below the power of two 53 places above its last place. -/
theorem placed_lt {m : ℕ} {e place : ℤ} {x : ℚ}
    (place_eq : max ((Nat.log2 m : ℤ) + e - 52) (-1074) = place) (ceiling : x < m + 1) :
    x * 2 ^ e < 2 ^ (place + 53) := by
  have log : ((m + 1 : ℕ) : ℚ) ≤ ((2 ^ (Nat.log2 m + 1) : ℕ) : ℚ) := by
    exact_mod_cast Nat.lt_log2_self
  push_cast at log
  calc x * 2 ^ e < 2 ^ (Nat.log2 m + 1) * 2 ^ e :=
        mul_lt_mul_of_pos_right (ceiling.trans_le log) (two_zpow_pos e)
    _ = 2 ^ ((Nat.log2 m : ℤ) + 1 + e) := by
        rw [zpow_add₀ two_ne_zero, ← zpow_natCast]
        push_cast
        rfl
    _ ≤ 2 ^ (place + 53) := two_zpow_le (by omega)

/-- It is no less than the one 52 places above, unless its last place is that of the format. -/
theorem le_placed {m : ℕ} {e place : ℤ} {x : ℚ}
    (place_eq : max ((Nat.log2 m : ℤ) + e - 52) (-1074) = place) (floor : (m : ℚ) ≤ x)
    (tiny : m = 0 → e ≤ -1074) (above : -1074 < place) :
    2 ^ (place + 52) ≤ x * 2 ^ e := by
  have positive : m ≠ 0 := by
    rintro rfl
    have small := tiny rfl
    rw [Nat.log2_zero] at place_eq
    omega
  have log : ((2 ^ Nat.log2 m : ℕ) : ℚ) ≤ (m : ℚ) := by
    exact_mod_cast Nat.log2_self_le positive
  push_cast at log
  calc (2 : ℚ) ^ (place + 52) = 2 ^ ((Nat.log2 m : ℤ) + e) := by
        rw [show place + 52 = (Nat.log2 m : ℤ) + e by omega]
    _ = 2 ^ Nat.log2 m * 2 ^ e := by
        rw [zpow_add₀ two_ne_zero, zpow_natCast]
    _ ≤ x * 2 ^ e := mul_le_mul_of_nonneg_right (log.trans floor) (two_zpow_pos e).le

/-- A power of two counted from the place of rounding bounds what is rounded there. -/
theorem roundEven_le_two_pow {q : ℚ} {place : ℤ} {n : ℕ} (least : q ≤ 2 ^ (place + n)) :
    roundEven (q / 2 ^ place) ≤ 2 ^ n := by
  have below : q / 2 ^ place ≤ ((2 ^ n : ℤ) : ℚ) := by
    rw [div_le_iff₀ (two_zpow_pos _), ← two_zpow_add]
    exact least
  have most := roundEven_mono below
  rwa [roundEven_intCast] at most

theorem two_pow_le_roundEven {q : ℚ} {place : ℤ} {n : ℕ} (most : 2 ^ (place + n) ≤ q) :
    2 ^ n ≤ roundEven (q / 2 ^ place) := by
  have above : ((2 ^ n : ℤ) : ℚ) ≤ q / 2 ^ place := by
    rw [le_div_iff₀ (two_zpow_pos _), ← two_zpow_add]
    exact most
  have least := roundEven_mono above
  rwa [roundEven_intCast] at least

/-- **A mantissa is rounded as the number it stands for.** -/
theorem roundWithAccuracy_spec (sign : Sign) {m : ℕ} {e : ℤ} {accuracy : Accuracy} {x : ℚ}
    (represents : Represents (.ofMantissaAndAccuracy m accuracy) x)
    (placed : e ≤ max (Nat.log2 m + e - 52) (-1074)) (tiny : m = 0 → e ≤ -1074) :
    Normalized (roundWithAccuracy .binary64 sign m e accuracy) ∧
      value (roundWithAccuracy .binary64 sign m e accuracy) =
        signed sign (rounded (x * 2 ^ e)) := by
  -- The mantissa is shifted to the last place of the number, and rounded there.
  obtain ⟨place, place_eq⟩ : ∃ place, max ((Nat.log2 m : ℤ) + e - 52) (-1074) = place := ⟨_, rfl⟩
  obtain ⟨k, k_eq⟩ : ∃ k : ℕ, e + k = place := Int.le.dest (place_eq ▸ placed)
  have shift : (place - e).toNat = k := by omega
  have least : -1074 ≤ place := place_eq ▸ le_max_right _ _
  obtain ⟨floor, ceiling⟩ := represents.bounds
  have nonneg : 0 ≤ x := le_trans (Nat.cast_nonneg m) floor
  have size : |x * 2 ^ e| = x * 2 ^ e :=
    abs_of_nonneg (mul_nonneg nonneg (two_zpow_pos e).le)
  have fits : x * 2 ^ e < 2 ^ (place + 53) := placed_lt place_eq ceiling
  have full : -1074 < place → 2 ^ (place + 52) ≤ x * 2 ^ e := le_placed place_eq floor tiny
  have scaled : x / 2 ^ k = x * 2 ^ e / 2 ^ place := by
    rw [← k_eq, zpow_add₀ two_ne_zero, zpow_natCast]
    field_simp
  have exact : rounded (x * 2 ^ e) = roundEven (x / 2 ^ k) * 2 ^ place := by
    rw [scaled]
    exact rounded_eq least (size.trans_lt fits) fun above => (full above).trans_eq size.symm
  -- What is left are the bounds on the rounded mantissa.
  obtain ⟨r, r_eq⟩ : ∃ r,
      (ExtendedMantissa.ofMantissaAndAccuracy m accuracy >>> k).roundedMantissa = r := ⟨_, rfl⟩
  have shifted := (represents.shiftRight k).roundedMantissa
  rw [r_eq] at shifted
  have bits : r ≤ 2 ^ 53 := by
    have most : roundEven (x / 2 ^ k) ≤ 2 ^ 53 := scaled ▸ roundEven_le_two_pow fits.le
    rw [← shifted] at most
    exact_mod_cast most
  have normal : -1074 < place → 2 ^ 52 ≤ r := by
    intro above
    have fewest : 2 ^ 52 ≤ roundEven (x / 2 ^ k) := scaled ▸ two_pow_le_roundEven (full above)
    rw [← shifted] at fewest
    exact_mod_cast fewest
  rw [exact, ← shifted, Int.cast_natCast]
  apply roundWithAccuracy_eq sign _ _ least bits normal
  · rw [← r_eq]
    unfold shiftToTargetExponent
    rw [targetExponent_eq, place_eq, shiftToExponent]
    simp only [shift]
  · unfold shiftToTargetExponent
    rw [targetExponent_eq, place_eq, shiftToExponent]
    simp only [shift]
    exact k_eq

/-! ## Packing -/

/-- What the fields of a double stand for. -/
def ofFields (sign : Sign) (exponent : BitVec 11) (mantissa : BitVec 52) : UnpackedFloat :=
  if exponent = -1#11 then
    if mantissa = 0#52 then .infinity sign else .notANumber
  else if exponent = 0#11 then
    if positive : 0 < mantissa.toNat then .finite sign mantissa.toNat (-1074) positive
    else .zero sign
  else
    .finite sign (2 ^ 52 + mantissa.toNat) ((exponent.toNat : ℤ) - 1075)
      (Nat.add_pos_left (Nat.two_pow_pos 52) _)

theorem unpack_eq (bits : BitVec Format.binary64.numBits) :
    UnpackedFloat.unpack .binary64 bits =
      ofFields (Sign.ofBitVec (unpackSign bits)) (unpackExponent bits) (unpackMantissa bits) := by
  have bias : (Format.binary64.exponentBias : ℤ) = 1023 := rfl
  have implicit : (1#1 ++ unpackMantissa bits : BitVec (1 + 52)).toNat =
      2 ^ 52 + (unpackMantissa bits).toNat := by
    rw [BitVec.toNat_append, ← Nat.shiftLeft_add_eq_or_of_lt (unpackMantissa bits).isLt,
      Nat.shiftLeft_eq]
    rfl
  unfold UnpackedFloat.unpack ofFields
  simp only [bias]
  split
  · rfl
  · split
    · rename_i zero
      rw [zero]
      split
      · rename_i none
        rw [dif_neg]
        rw [none]
        decide
      · rename_i some
        rw [dif_pos (Nat.pos_of_ne_zero fun none => some (BitVec.eq_of_toNat_eq none))]
        rfl
    · simp only [implicit]
      congr 1

theorem unpack_packComponents (sign : Sign) (exponent : BitVec 11) (mantissa : BitVec 52) :
    UnpackedFloat.unpack .binary64 (packComponents .binary64 sign exponent mantissa) =
      ofFields sign exponent mantissa := by
  rw [unpack_eq, unpackSign_packComponents, unpackExponent_packComponents,
    unpackMantissa_packComponents, Sign.ofBitVec_toBitVec]

/-- What is unpacked is in the form packing expects, if it is a number. -/
theorem normalized_unpack (bits : BitVec Format.binary64.numBits) :
    UnpackedFloat.unpack .binary64 bits = .notANumber ∨
      (∃ sign, UnpackedFloat.unpack .binary64 bits = .infinity sign) ∨
      (Normalized (UnpackedFloat.unpack .binary64 bits) ∧
        |value (UnpackedFloat.unpack .binary64 bits)| < 2 ^ 1024) := by
  rw [unpack_eq]
  generalize Sign.ofBitVec (unpackSign bits) = sign
  generalize (unpackExponent bits : BitVec 11) = exponent
  generalize (unpackMantissa bits : BitVec 52) = mantissa
  have small : mantissa.toNat < 2 ^ 52 := mantissa.isLt
  have short : exponent.toNat < 2 ^ 11 := exponent.isLt
  unfold ofFields
  split
  · split
    · exact .inr (.inl ⟨sign, rfl⟩)
    · exact .inl rfl
  · split
    · split
      · exact .inr (.inr ⟨.finite sign _ (by omega) (by decide)
          fun above => absurd above (by decide), abs_value_lt sign _ (by omega) (by decide)⟩)
      · exact .inr (.inr ⟨.zero sign, abs_value_zero_lt sign⟩)
    · rename_i notOnes nonzero
      have above : exponent.toNat ≠ 0 := fun none => nonzero (BitVec.eq_of_toNat_eq none)
      have below : exponent.toNat ≠ 2047 := fun ones => notOnes (BitVec.eq_of_toNat_eq ones)
      exact .inr (.inr ⟨.finite sign _ (by omega) (by omega) fun _ => by omega,
        abs_value_lt sign _ (by omega) (by omega)⟩)

theorem unpack_packedInfinity (sign : Sign) :
    UnpackedFloat.unpack .binary64 (packedInfinity .binary64 sign) = .infinity sign := by
  rw [packedInfinity, unpack_packComponents]
  rfl

/-- A number is unpacked as it was packed, if its exponent fits. -/
theorem unpack_pack_finite (sign : Sign) {m : ℕ} {e : ℤ} (positive : 0 < m) (bits : m < 2 ^ 53)
    (least : -1074 ≤ e) (full : -1074 < e → 2 ^ 52 ≤ m) :
    UnpackedFloat.unpack .binary64 (UnpackedFloat.pack .binary64 (.finite sign m e positive)) =
      if e < 972 then .finite sign m e positive else .infinity sign := by
  have biased : (e + Format.binary64.exponentBias + Format.binary64.mantissaBitsWithoutImplicit
      : ℤ).toNat = (e + 1075).toNat := by
    change (e + 1023 + 52).toNat = _
    omega
  have log : Nat.log2 m < 53 := (Nat.log2_lt positive.ne').mpr bits
  unfold UnpackedFloat.pack
  simp only [biased]
  by_cases fits : e < 972
  · rw [if_pos fits, if_neg (by omega)]
    by_cases normal : 2 ^ 52 ≤ m
    · have top : Nat.log2 m + 1 = Format.binary64.mantissaBits := by
        have := (Nat.le_log2 positive.ne').mpr normal
        change _ = 53
        omega
      have exponent : (BitVec.ofNat 11 (e + 1075).toNat).toNat = (e + 1075).toNat := by
        rw [BitVec.toNat_ofNat]
        exact Nat.mod_eq_of_lt (by omega)
      have mantissa : 2 ^ 52 + (BitVec.ofNat 52 m).toNat = m := by
        rw [BitVec.toNat_ofNat]
        omega
      rw [if_pos top, unpack_packComponents, ofFields, if_neg, if_neg]
      · simp only [mantissa, exponent]
        congr 1
        omega
      · intro zero
        have bits := congrArg BitVec.toNat zero
        rw [exponent] at bits
        change _ = 0 at bits
        omega
      · intro ones
        have bits := congrArg BitVec.toNat ones
        rw [exponent] at bits
        change _ = 2047 at bits
        omega
    · have low : Nat.log2 m + 1 ≠ Format.binary64.mantissaBits := by
        have := (Nat.log2_lt positive.ne').mpr (Nat.lt_of_not_le normal)
        change _ ≠ 53
        omega
      obtain rfl : e = -1074 := by
        by_contra other
        exact normal (full (lt_of_le_of_ne least (Ne.symm other)))
      have mantissa : (BitVec.ofNat 52 m).toNat = m := by
        rw [BitVec.toNat_ofNat]
        omega
      rw [if_neg low, unpack_packComponents, ofFields, if_neg (by decide), if_pos rfl,
        dif_pos (by rwa [mantissa])]
      simp only [mantissa]
  · rw [if_neg fits, if_pos (by change 2048 ≤ _; omega), unpack_packedInfinity]

/-! ## Numbers of the format -/

theorem signed_mul (s t : Sign) (p q : ℚ) : signed (s * t) (p * q) = signed s p * signed t q := by
  cases s <;> cases t
  · exact (neg_mul_neg p q).symm
  · exact (neg_mul p q).symm
  · exact (mul_neg p q).symm
  · rfl

theorem signed_div (s t : Sign) (p q : ℚ) : signed (s / t) (p / q) = signed s p / signed t q := by
  cases s <;> cases t
  · exact (neg_div_neg_eq p q).symm
  · exact (neg_div q p).symm
  · exact (div_neg p).symm
  · rfl

theorem signed_scale (s : Sign) (p q : ℚ) : signed s (p * q) = signed s p * q := by
  cases s
  · exact (neg_mul p q).symm
  · rfl

theorem rounded_signed (s : Sign) (q : ℚ) : rounded (signed s q) = signed s (rounded q) := by
  cases s
  · exact rounded_neg q
  · rfl

theorem signed_eq_zero {s : Sign} {q : ℚ} : signed s q = 0 ↔ q = 0 := by
  cases s
  · exact neg_eq_zero
  · exact Iff.rfl

theorem apply_cast (s : Sign) (n : ℤ) : ((s.apply n : ℤ) : ℚ) = signed s n := by
  cases s
  · exact Int.cast_neg n
  · rfl

theorem Normalized.representable {u : UnpackedFloat} (normalized : Normalized u) :
    Representable (value u) := by
  cases normalized with
  | zero sign => exact ⟨0, 0, by decide, by decide, by simp [value]⟩
  | @finite sign m e positive bits least full =>
      refine ⟨sign.apply m, e, ?_, least, ?_⟩
      · cases sign <;> simp only [Sign.apply, abs_neg, Nat.abs_cast] <;> exact_mod_cast bits.le
      · rw [apply_cast]
        cases sign
        · exact (neg_mul _ _).symm
        · rfl

/-! ## Rounding results -/

theorem log2_shiftLeft {m : ℕ} (positive : 0 < m) (k : ℕ) :
    Nat.log2 (m <<< k) = Nat.log2 m + k := by
  rw [Nat.shiftLeft_eq]
  induction k with
  | zero => rw [pow_zero, mul_one, add_zero]
  | succ k ih =>
      have nonzero := (Nat.mul_pos positive (Nat.two_pow_pos k)).ne'
      rw [pow_succ, ← mul_assoc, Nat.mul_comm _ 2, Nat.log2_two_mul nonzero, ih, add_assoc]

theorem round_spec (sign : Sign) {m : ℕ} (e : ℤ) (positive : 0 < m) :
    Normalized (UnpackedFloat.round .binary64 sign m e) ∧
      value (UnpackedFloat.round .binary64 sign m e) = signed sign (rounded (m * 2 ^ e)) := by
  unfold UnpackedFloat.round
  simp only [decreaseExponent, targetExponent_eq]
  obtain ⟨k, k_eq⟩ : ∃ k, (e - max ((Nat.log2 m : ℤ) + e - 52) (-1074)).toNat = k := ⟨_, rfl⟩
  have scaled : (((m <<< k : ℕ) : ℕ) : ℚ) * 2 ^ (e - k) = m * 2 ^ e := by
    rw [Nat.shiftLeft_eq, zpow_sub₀ two_ne_zero, zpow_natCast]
    push_cast
    field_simp
  have log := log2_shiftLeft positive k
  rw [k_eq, ← scaled]
  apply roundWithAccuracy_spec sign (represents_exact _)
  · rw [log]
    push_cast
    omega
  · intro none
    rw [Nat.shiftLeft_eq] at none
    have := Nat.mul_pos positive (Nat.two_pow_pos k)
    omega

theorem normalize_spec (m : ℤ) (e : ℤ) (zeroSign : Sign) :
    Normalized (UnpackedFloat.normalize .binary64 m e zeroSign) ∧
      value (UnpackedFloat.normalize .binary64 m e zeroSign) = rounded (m * 2 ^ e) := by
  unfold UnpackedFloat.normalize
  rcases lt_trichotomy m 0 with negative | rfl | positive
  · obtain ⟨n, rfl⟩ : ∃ n : ℕ, m = -n := ⟨m.natAbs, by omega⟩
    have spec := round_spec .negative e (m := n) (by omega)
    rw [compare_lt_iff_lt.mpr negative]
    simp only [neg_neg, Int.toNat_natCast]
    refine ⟨spec.1, spec.2.trans ?_⟩
    rw [← rounded_signed]
    congr 1
    push_cast
    exact (neg_mul _ _).symm
  · refine ⟨.zero zeroSign, ?_⟩
    rw [Int.cast_zero, zero_mul, rounded_zero]
    rfl
  · obtain ⟨n, rfl⟩ := Int.eq_ofNat_of_zero_le positive.le
    have spec := round_spec .positive e (m := n) (by omega)
    rw [compare_gt_iff_gt.mpr positive]
    simp only [Int.toNat_natCast]
    refine ⟨spec.1, spec.2.trans ?_⟩
    rw [Int.cast_natCast]
    rfl

theorem decreaseExponent_spec (m : ℕ) {e target : ℤ} (le : target ≤ e) :
    ((decreaseExponent m e target).1 : ℚ) * 2 ^ target = m * 2 ^ e := by
  obtain ⟨k, k_eq⟩ := Int.le.dest le
  have shift : (e - target).toNat = k := by omega
  unfold decreaseExponent
  simp only [shift]
  rw [Nat.shiftLeft_eq, ← k_eq, zpow_add₀ two_ne_zero, zpow_natCast]
  push_cast
  ring

/-- A sum of numbers is the exact one, rounded. -/
theorem add_spec {u v : UnpackedFloat} (left : Normalized u) (right : Normalized v) :
    Normalized (UnpackedFloat.add .binary64 u v) ∧
      value (UnpackedFloat.add .binary64 u v) = rounded (value u + value v) := by
  cases left with
  | zero s =>
      cases right with
      | zero t =>
          have zero : rounded (value (.zero s) + value (.zero t)) = 0 := by
            change rounded (0 + 0) = 0
            rw [add_zero, rounded_zero]
          rw [zero, UnpackedFloat.add]
          split
          · exact ⟨.zero s, rfl⟩
          · exact ⟨.zero .positive, rfl⟩
      | finite t positive bits least full =>
          have other : Normalized (.finite t _ _ positive) := .finite t positive bits least full
          refine ⟨other, ?_⟩
          change value (.finite t _ _ positive) = rounded (0 + _)
          rw [zero_add, rounded_eq_self other.representable]
  | finite s positive bits least full =>
      have own : Normalized (.finite s _ _ positive) := .finite s positive bits least full
      cases right with
      | zero t =>
          refine ⟨own, ?_⟩
          change value (.finite s _ _ positive) = rounded (_ + 0)
          rw [add_zero, rounded_eq_self own.representable]
      | finite t positive' bits' least' full' =>
          rename_i m e m' e'
          have spec := normalize_spec (s.apply (decreaseExponent m e (min e e')).1 +
            t.apply (decreaseExponent m' e' (min e e')).1) (min e e') .positive
          refine ⟨spec.1, spec.2.trans (congrArg rounded ?_)⟩
          rw [Int.cast_add, add_mul, apply_cast, apply_cast, ← signed_scale, ← signed_scale,
            Int.cast_natCast, Int.cast_natCast, decreaseExponent_spec m (min_le_left e e'),
            decreaseExponent_spec m' (min_le_right e e')]
          rfl

theorem neg_spec {u : UnpackedFloat} (normalized : Normalized u) :
    Normalized u.neg ∧ value u.neg = -value u := by
  cases normalized with
  | zero sign => exact ⟨.zero _, neg_zero.symm⟩
  | finite sign positive bits least full =>
      refine ⟨.finite _ positive bits least full, ?_⟩
      cases sign
      · exact (neg_neg _).symm
      · rfl

/-- A difference is the sum with the negated number. -/
theorem sub_eq_add_neg (u v : UnpackedFloat) :
    UnpackedFloat.sub .binary64 u v = UnpackedFloat.add .binary64 u v.neg := by
  cases u <;> cases v <;> try rfl
  rename_i s m e positive t m' e' positive'
  have turned : ∀ n : ℤ, (-t).apply n = -t.apply n := by
    intro n
    cases t
    · exact (neg_neg n).symm
    · rfl
  simp only [UnpackedFloat.sub, UnpackedFloat.add, UnpackedFloat.neg, turned, ← Int.sub_eq_add_neg]

/-- A product of numbers is the exact one, rounded. -/
theorem mul_spec {u v : UnpackedFloat} (left : Normalized u) (right : Normalized v) :
    Normalized (UnpackedFloat.mul .binary64 u v) ∧
      value (UnpackedFloat.mul .binary64 u v) = rounded (value u * value v) := by
  have none : rounded 0 = 0 := rounded_zero
  cases left with
  | zero s =>
      have zero : rounded (value (.zero s) * value v) = 0 := by
        change rounded (0 * _) = 0
        rw [zero_mul, none]
      rw [zero]
      cases right with
      | zero t => exact ⟨.zero _, rfl⟩
      | finite t positive bits least full => exact ⟨.zero _, rfl⟩
  | finite s positive bits least full =>
      cases right with
      | zero t =>
          refine ⟨.zero _, ?_⟩
          change (0 : ℚ) = rounded (_ * 0)
          rw [mul_zero, none]
      | finite t positive' bits' least' full' =>
          rename_i m e m' e'
          have product : 0 < m * m' := Nat.mul_pos positive positive'
          -- The product has its bits, or both factors are below the normal numbers.
          have placed : e + e' ≤ max ((Nat.log2 (m * m') : ℤ) + (e + e') - 52) (-1074) := by
            by_cases small : e = -1074 ∧ e' = -1074
            · omega
            · have large : 2 ^ 52 ≤ m * m' := by
                rcases lt_or_ge (-1074) e with above | low
                · exact (full above).trans (Nat.le_mul_of_pos_right m positive')
                · exact (full' (by omega)).trans (Nat.le_mul_of_pos_left m' positive)
              have log := (Nat.le_log2 product.ne').mpr large
              omega
          have spec := roundWithAccuracy_spec (s * t) (represents_exact (m * m')) placed
            fun none => absurd none product.ne'
          refine ⟨spec.1, spec.2.trans ?_⟩
          rw [← rounded_signed]
          congr 1
          rw [value, value, ← signed_mul, zpow_add₀ two_ne_zero, Nat.cast_mul]
          congr 1
          ring


/-- A quotient of numbers is the exact one, rounded. -/
theorem div_spec {u v : UnpackedFloat} (left : Normalized u) (right : Normalized v)
    (divisor : value v ≠ 0) :
    Normalized (UnpackedFloat.div .binary64 u v) ∧
      value (UnpackedFloat.div .binary64 u v) = rounded (value u / value v) := by
  cases right with
  | zero t => exact absurd rfl divisor
  | finite t positive' bits' least' full' =>
      cases left with
      | zero s =>
          refine ⟨.zero _, ?_⟩
          change (0 : ℚ) = rounded (0 / _)
          rw [zero_div, rounded_zero]
      | finite s positive bits least full =>
          rename_i m' e' m e
          obtain ⟨place, place_eq⟩ : ∃ place, min (e - e') (Format.binary64.targetExponent
            (totalExponent m e - totalExponent m' e')) = place := ⟨_, rfl⟩
          obtain ⟨k, k_eq⟩ := Int.le.dest (place_eq ▸ min_le_left _ _ : place ≤ e - e')
          have shift : (e - e' - place).toNat = k := by omega
          have quotient : UnpackedFloat.div .binary64 (.finite s m e positive)
              (.finite t m' e' positive') =
              roundWithAccuracy .binary64 (s / t) ((m <<< k) / m') place
                (accuracyOfFraction ((m <<< k) % m') m') := by
            simp only [UnpackedFloat.div, divCore, place_eq, shift]
          -- Above the least last place the shift leaves the quotient all of its bits.
          have bits : -1074 < place → 2 ^ 52 ≤ (m <<< k) / m' := by
            intro above
            have target : place ≤ (Nat.log2 m : ℤ) + 1 + e - (Nat.log2 m' + 1 + e') - 53 := by
              have upper := place_eq ▸ min_le_right (e - e') (Format.binary64.targetExponent
                (totalExponent m e - totalExponent m' e'))
              change place ≤ max ((Nat.log2 m : ℤ) + 1 + e - (Nat.log2 m' + 1 + e') - 53) (-1074)
                at upper
              omega
            have log := log2_shiftLeft positive k
            have large : 2 ^ (53 + Nat.log2 m') ≤ m <<< k := by
              refine (Nat.le_log2 ?_).mp (by omega)
              rw [Nat.shiftLeft_eq]
              exact (Nat.mul_pos positive (Nat.two_pow_pos k)).ne'
            rw [Nat.le_div_iff_mul_le positive']
            calc 2 ^ 52 * m' ≤ 2 ^ 52 * 2 ^ (Nat.log2 m' + 1) :=
                  Nat.mul_le_mul_left _ Nat.lt_log2_self.le
              _ = 2 ^ (53 + Nat.log2 m') := by rw [← Nat.pow_add]; congr 1; omega
              _ ≤ m <<< k := large
          have placed : place ≤ max ((Nat.log2 ((m <<< k) / m') : ℤ) + place - 52) (-1074) := by
            by_cases above : -1074 < place
            · have large := bits above
              have log := (Nat.le_log2 (Nat.ne_of_gt (by omega))).mpr large
              omega
            · omega
          have tiny : (m <<< k) / m' = 0 → place ≤ -1074 := by
            intro none
            by_contra above
            have large := bits (not_le.mp above)
            omega
          have spec := roundWithAccuracy_spec (s / t) (represents_fraction (m <<< k) positive')
            placed tiny
          rw [quotient]
          refine ⟨spec.1, spec.2.trans ?_⟩
          rw [← rounded_signed, value, value, ← signed_div]
          congr 2
          rw [Nat.shiftLeft_eq, Nat.cast_mul, Nat.cast_pow, Nat.cast_ofNat, div_mul_eq_mul_div,
            mul_assoc, ← zpow_natCast, ← zpow_add₀ two_ne_zero,
            show (k : ℤ) + place = e - e' by omega, zpow_sub₀ two_ne_zero]
          field_simp

/-! ## Order -/

/-- A larger exponent is a larger number. -/
theorem magnitude_lt {m m' : ℕ} {e e' : ℤ} (bits : m < 2 ^ 53) (full' : 2 ^ 52 ≤ m')
    (less : e < e') : (m : ℚ) * 2 ^ e < m' * 2 ^ e' := by
  calc (m : ℚ) * 2 ^ e < ((2 ^ 53 : ℤ) : ℚ) * 2 ^ e :=
        mul_lt_mul_of_pos_right (by exact_mod_cast bits) (two_zpow_pos e)
    _ = 2 ^ (e + (53 : ℕ)) := (two_zpow_add e 53).symm
    _ ≤ 2 ^ (e' + (52 : ℕ)) := two_zpow_le (by push_cast; omega)
    _ = ((2 ^ 52 : ℤ) : ℚ) * 2 ^ e' := two_zpow_add e' 52
    _ ≤ m' * 2 ^ e' :=
        mul_le_mul_of_nonneg_right (by exact_mod_cast full') (two_zpow_pos e').le

/-- Magnitudes compare by their exponents, and by their mantissas if those are the same. -/
theorem compare_magnitude {m m' : ℕ} {e e' : ℤ} (bits : m < 2 ^ 53) (least : -1074 ≤ e)
    (full : -1074 < e → 2 ^ 52 ≤ m) (bits' : m' < 2 ^ 53) (least' : -1074 ≤ e')
    (full' : -1074 < e' → 2 ^ 52 ≤ m') :
    (compare e e').then (compare m m') = compare ((m : ℚ) * 2 ^ e) (m' * 2 ^ e') := by
  rcases lt_trichotomy e e' with less | rfl | more
  · rw [compare_lt_iff_lt.mpr less,
      compare_lt_iff_lt.mpr (magnitude_lt bits (full' (by omega)) less)]
    rfl
  · rw [compare_eq_iff_eq.mpr rfl]
    rcases lt_trichotomy m m' with less | rfl | more
    · have scaled : (m : ℚ) * 2 ^ e < m' * 2 ^ e :=
        mul_lt_mul_of_pos_right (by exact_mod_cast less) (two_zpow_pos e)
      rw [compare_lt_iff_lt.mpr less, compare_lt_iff_lt.mpr scaled]
      rfl
    · rw [compare_eq_iff_eq.mpr rfl, compare_eq_iff_eq.mpr rfl]
      rfl
    · have scaled : (m' : ℚ) * 2 ^ e < m * 2 ^ e :=
        mul_lt_mul_of_pos_right (by exact_mod_cast more) (two_zpow_pos e)
      rw [compare_gt_iff_gt.mpr more, compare_gt_iff_gt.mpr scaled]
      rfl
  · rw [compare_gt_iff_gt.mpr more,
      compare_gt_iff_gt.mpr (magnitude_lt bits' (full (by omega)) more)]
    rfl

theorem magnitude_pos {m : ℕ} (positive : 0 < m) (e : ℤ) : 0 < (m : ℚ) * 2 ^ e :=
  mul_pos (by exact_mod_cast positive) (two_zpow_pos e)

theorem compare_neg (p q : ℚ) : compare (-p) (-q) = (compare p q).swap := by
  rcases lt_trichotomy p q with less | rfl | more
  · rw [compare_lt_iff_lt.mpr less, compare_gt_iff_gt.mpr (neg_lt_neg less)]
    rfl
  · rw [compare_eq_iff_eq.mpr rfl, compare_eq_iff_eq.mpr rfl]
    rfl
  · rw [compare_gt_iff_gt.mpr more, compare_lt_iff_lt.mpr (neg_lt_neg more)]
    rfl

/-- Unpacked numbers compare as what they stand for. -/
theorem compare_spec {u v : UnpackedFloat} (left : Normalized u) (right : Normalized v) :
    UnpackedFloat.compare u v = some (compare (value u) (value v)) := by
  cases left with
  | zero s =>
      cases right with
      | zero t => exact congrArg some (compare_eq_iff_eq.mpr rfl).symm
      | @finite t m' e' positive' bits' least' full' =>
          have above := magnitude_pos positive' e'
          cases t
          · exact congrArg some (compare_gt_iff_gt.mpr (neg_lt_zero.mpr above)).symm
          · exact congrArg some (compare_lt_iff_lt.mpr above).symm
  | @finite s m e positive bits least full =>
      have above := magnitude_pos positive e
      cases right with
      | zero t =>
          cases s
          · exact congrArg some (compare_lt_iff_lt.mpr (neg_lt_zero.mpr above)).symm
          · exact congrArg some (compare_gt_iff_gt.mpr above).symm
      | @finite t m' e' positive' bits' least' full' =>
          have above' := magnitude_pos positive' e'
          have order := compare_magnitude bits least full bits' least' full'
          cases s <;> cases t
          · refine congrArg some ?_
            rw [order, ← compare_neg]
            rfl
          · exact congrArg some (compare_lt_iff_lt.mpr
              ((neg_lt_zero.mpr above).trans above')).symm
          · exact congrArg some (compare_gt_iff_gt.mpr
              ((neg_lt_zero.mpr above').trans above)).symm
          · exact congrArg some order

end Binary64

end MobileGs
