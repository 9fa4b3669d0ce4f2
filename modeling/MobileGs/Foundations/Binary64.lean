import Mathlib.Data.Int.Log
import Mathlib.Data.Rat.Floor
import Mathlib.Tactic.FieldSimp
import Mathlib.Tactic.Linarith
import Mathlib.Tactic.NormNum
import Mathlib.Tactic.Positivity
import Mathlib.Tactic.Ring

/-!
# Rounding to binary64

IEEE 754 double precision as a function of the exact number: 53 significant bits, a last place that
is never finer than `2 ^ -1074`, and of two nearest numbers the even one (`rounded`). There is no
largest number here; an overflow is what a format makes of a result.

A number that has such bits is its own rounding (`rounded_eq_self`), and rounding keeps the order
(`rounded_mono`). Between numbers of two binades the power of two that separates them is what
carries the order.
-/

set_option autoImplicit false

namespace MobileGs

namespace Binary64

/-! ## The nearest integer -/

/-- The integer nearest to a number, the even one of two. -/
def roundEven (x : ℚ) : ℤ :=
  let down := ⌊x⌋
  if x - down < 1 / 2 then down
  else if 1 / 2 < x - down then down + 1
  else down + down % 2

/-- The rounded number is the one below or the one above. -/
theorem roundEven_bounds (x : ℚ) : ⌊x⌋ ≤ roundEven x ∧ roundEven x ≤ ⌊x⌋ + 1 := by
  have parity := Int.emod_two_eq ⌊x⌋
  unfold roundEven
  dsimp only
  split
  · omega
  · split <;> omega

theorem roundEven_intCast (n : ℤ) : roundEven (n : ℚ) = n := by
  rw [roundEven, Int.floor_intCast, sub_self]
  exact if_pos (by norm_num)

theorem roundEven_mono {x y : ℚ} (le : x ≤ y) : roundEven x ≤ roundEven y := by
  obtain ⟨-, upper⟩ := roundEven_bounds x
  obtain ⟨lower, -⟩ := roundEven_bounds y
  rcases (Int.floor_le_floor le).eq_or_lt with same | less
  · -- On one unit interval only the distance from its end counts.
    have parity := Int.emod_two_eq ⌊y⌋
    unfold roundEven
    rw [same]
    dsimp only
    split
    · split
      · exact le_refl _
      · split <;> omega
    · rename_i notLower
      rw [if_neg (by linarith : ¬ y - (⌊y⌋ : ℚ) < 1 / 2)]
      split
      · rename_i above
        rw [if_pos (by linarith : 1 / 2 < y - (⌊y⌋ : ℚ))]
      · split <;> omega
  · omega

/-- Both signs are rounded alike. -/
theorem roundEven_neg (x : ℚ) : roundEven (-x) = -roundEven x := by
  have lower := Int.floor_le x
  have upper := Int.lt_floor_add_one x
  rcases lower.eq_or_lt with whole | between
  · rw [← whole, roundEven_intCast, ← Int.cast_neg, roundEven_intCast]
  · have down : ⌊-x⌋ = -⌊x⌋ - 1 := by
      rw [Int.floor_eq_iff]
      push_cast
      constructor <;> linarith
    have parity := Int.emod_two_eq ⌊x⌋
    unfold roundEven
    rw [down]
    push_cast
    rcases lt_trichotomy (x - (⌊x⌋ : ℚ)) (1 / 2) with low | half | high
    · rw [if_neg (by linarith), if_pos (by linarith), if_pos low]
      omega
    · rw [if_neg (by linarith), if_neg (by linarith), if_neg (by linarith), if_neg (by linarith)]
      omega
    · rw [if_pos (by linarith), if_neg (by linarith), if_pos high]
      omega

/-! ## The last place -/

/-- The exponent of the last of 53 significant bits, or of the last place there is. -/
def lastPlace (q : ℚ) : ℤ := max (Int.log 2 |q| - 52) (-1074)

/-- **The number of binary64 nearest to `q`**, with exponents as large as it takes. -/
def rounded (q : ℚ) : ℚ := roundEven (q / 2 ^ lastPlace q) * 2 ^ lastPlace q

/-- The numbers of binary64, with exponents as large as it takes. -/
def Representable (q : ℚ) : Prop :=
  ∃ m e : ℤ, |m| ≤ 2 ^ 53 ∧ -1074 ≤ e ∧ q = m * 2 ^ e

theorem two_zpow_pos (e : ℤ) : (0 : ℚ) < 2 ^ e := zpow_pos two_pos e

theorem two_zpow_le {d e : ℤ} (le : d ≤ e) : (2 : ℚ) ^ d ≤ 2 ^ e :=
  zpow_le_zpow_right₀ one_le_two le

theorem two_zpow_add (e : ℤ) (n : ℕ) : (2 : ℚ) ^ (e + n) = ((2 ^ n : ℤ) : ℚ) * 2 ^ e := by
  rw [zpow_add₀ two_ne_zero, zpow_natCast, mul_comm]
  push_cast
  rfl

theorem lastPlace_neg (q : ℚ) : lastPlace (-q) = lastPlace q := by
  rw [lastPlace, lastPlace, abs_neg]

theorem lastPlace_ge (q : ℚ) : -1074 ≤ lastPlace q := le_max_right _ _

/-- A number has at most 53 bits down to its last place. -/
theorem abs_lt_lastPlace (q : ℚ) : |q| < 2 ^ (lastPlace q + 53) := by
  have above := Int.lt_zpow_succ_log_self (b := 2) (by decide) |q|
  push_cast at above
  exact above.trans_le (two_zpow_le (by unfold lastPlace; omega))

/-- Above the least last place a number has all 53 of them. -/
theorem lastPlace_le_abs {q : ℚ} (nonzero : q ≠ 0) (above : -1074 < lastPlace q) :
    2 ^ (lastPlace q + 52) ≤ |q| := by
  have log : lastPlace q = Int.log 2 |q| - 52 := by
    unfold lastPlace at above ⊢
    omega
  have below := Int.zpow_log_le_self (b := 2) (by decide) (abs_pos.mpr nonzero)
  push_cast at below
  rw [log, sub_add_cancel]
  exact below

/-- The last place of a number, by the bits above it. -/
theorem lastPlace_eq {q : ℚ} (nonzero : q ≠ 0) {place : ℤ} (least : -1074 ≤ place)
    (fits : |q| < 2 ^ (place + 53)) (full : -1074 < place → 2 ^ (place + 52) ≤ |q|) :
    lastPlace q = place := by
  apply le_antisymm
  · by_contra less
    have own := lastPlace_le_abs nonzero (by omega)
    have apart : (2 : ℚ) ^ (place + 53) ≤ 2 ^ (lastPlace q + 52) := two_zpow_le (by omega)
    linarith
  · by_contra less
    have own := abs_lt_lastPlace q
    have apart : (2 : ℚ) ^ (lastPlace q + 53) ≤ 2 ^ (place + 52) := two_zpow_le (by omega)
    have bits := full (lt_of_le_of_lt (lastPlace_ge q) (not_le.mp less))
    linarith

/-! ## Rounding -/

theorem rounded_zero : rounded 0 = 0 := by
  have zero := roundEven_intCast 0
  rw [Int.cast_zero] at zero
  rw [rounded, zero_div, zero, Int.cast_zero, zero_mul]

/-- Rounding, by the bits above a place. -/
theorem rounded_eq {q : ℚ} {place : ℤ} (least : -1074 ≤ place) (fits : |q| < 2 ^ (place + 53))
    (full : -1074 < place → 2 ^ (place + 52) ≤ |q|) :
    rounded q = roundEven (q / 2 ^ place) * 2 ^ place := by
  by_cases zero : q = 0
  · have none := roundEven_intCast 0
    rw [Int.cast_zero] at none
    rw [zero, rounded_zero, zero_div, none, Int.cast_zero, zero_mul]
  · rw [rounded, lastPlace_eq zero least fits full]

theorem rounded_neg (q : ℚ) : rounded (-q) = -rounded q := by
  rw [rounded, rounded, lastPlace_neg, neg_div, roundEven_neg, Int.cast_neg, neg_mul]

theorem rounded_nonneg {q : ℚ} (nonneg : 0 ≤ q) : 0 ≤ rounded q := by
  have scaled : 0 ≤ q / 2 ^ lastPlace q := div_nonneg nonneg (two_zpow_pos _).le
  have lower := (roundEven_bounds (q / 2 ^ lastPlace q)).1
  have below := Int.floor_nonneg.mpr scaled
  rw [rounded]
  exact mul_nonneg (by exact_mod_cast below.trans lower) (two_zpow_pos _).le

/-- A power of two that bounds what is rounded to a place bounds the result. -/
theorem rounded_le_pow (q : ℚ) : rounded q ≤ 2 ^ (lastPlace q + 53) := by
  have bits : q / 2 ^ lastPlace q ≤ ((2 ^ 53 : ℤ) : ℚ) := by
    rw [div_le_iff₀ (two_zpow_pos _), ← two_zpow_add]
    exact (le_abs_self q).trans (abs_lt_lastPlace q).le
  have most := roundEven_mono bits
  rw [roundEven_intCast] at most
  rw [rounded, zpow_add₀ two_ne_zero, mul_comm]
  refine mul_le_mul_of_nonneg_left ?_ (two_zpow_pos _).le
  exact_mod_cast most

theorem pow_le_rounded {q : ℚ} (positive : 0 < q) (above : -1074 < lastPlace q) :
    2 ^ (lastPlace q + 52) ≤ rounded q := by
  have own := lastPlace_le_abs positive.ne' above
  rw [abs_of_pos positive] at own
  have bits : ((2 ^ 52 : ℤ) : ℚ) ≤ q / 2 ^ lastPlace q := by
    rw [le_div_iff₀ (two_zpow_pos _), ← two_zpow_add]
    exact own
  have least := roundEven_mono bits
  rw [roundEven_intCast] at least
  rw [rounded, zpow_add₀ two_ne_zero, mul_comm]
  refine mul_le_mul_of_nonneg_right ?_ (two_zpow_pos _).le
  exact_mod_cast least

theorem rounded_mono_of_pos {p q : ℚ} (positive : 0 < p) (le : p ≤ q) :
    rounded p ≤ rounded q := by
  have magnitudes : |p| ≤ |q| := abs_le_abs_of_nonneg positive.le le
  have logs := Int.log_mono_right (b := 2) (abs_pos.mpr positive.ne') magnitudes
  have places : lastPlace p ≤ lastPlace q := by
    unfold lastPlace
    omega
  rcases places.eq_or_lt with same | less
  · rw [rounded, rounded, same]
    refine mul_le_mul_of_nonneg_right ?_ (two_zpow_pos _).le
    exact_mod_cast roundEven_mono (div_le_div_of_nonneg_right le (two_zpow_pos _).le)
  · calc rounded p ≤ 2 ^ (lastPlace p + 53) := rounded_le_pow p
      _ ≤ 2 ^ (lastPlace q + 52) := two_zpow_le (by omega)
      _ ≤ rounded q :=
          pow_le_rounded (positive.trans_le le) (lt_of_le_of_lt (lastPlace_ge p) less)

/-- **Rounding keeps the order.** -/
theorem rounded_mono {p q : ℚ} (le : p ≤ q) : rounded p ≤ rounded q := by
  rcases lt_trichotomy p 0 with negative | rfl | positive
  · rcases lt_or_ge q 0 with negative' | nonneg
    · have turned := rounded_mono_of_pos (neg_pos.mpr negative') (neg_le_neg le)
      rw [rounded_neg, rounded_neg] at turned
      exact neg_le_neg_iff.mp turned
    · have below := rounded_nonneg (neg_nonneg.mpr negative.le)
      rw [rounded_neg] at below
      linarith [rounded_nonneg nonneg]
  · rw [rounded_zero]
    exact rounded_nonneg le
  · exact rounded_mono_of_pos positive le

/-- A number of the format with a bit 52 places above another place is a whole multiple of that. -/
theorem Representable.whole {q : ℚ} (representable : Representable q) {place : ℤ}
    (large : 2 ^ (place + 52) ≤ |q|) : ∃ k : ℤ, q = k * 2 ^ place := by
  obtain ⟨m, e, bits, least, rfl⟩ := representable
  rcases le_or_gt place e with fine | coarse
  · obtain ⟨d, d_eq⟩ := Int.le.dest fine
    refine ⟨m * 2 ^ d, ?_⟩
    push_cast
    rw [mul_assoc, ← zpow_natCast, ← zpow_add₀ two_ne_zero, add_comm, d_eq]
  · -- A coarser place is the next one, and then the mantissa is the power of two.
    have size : |(m : ℚ) * 2 ^ e| ≤ 2 ^ (e + 53) := by
      rw [abs_mul, abs_of_pos (two_zpow_pos e), add_comm, zpow_add₀ two_ne_zero]
      refine mul_le_mul_of_nonneg_right ?_ (two_zpow_pos e).le
      exact_mod_cast bits
    have exponents := (zpow_le_zpow_iff_right₀ one_lt_two).mp (large.trans size)
    obtain rfl : place = e + 1 := by omega
    have most : |(m : ℚ)| * 2 ^ e = 2 ^ (53 : ℤ) * 2 ^ e := by
      rw [← zpow_add₀ two_ne_zero]
      rw [abs_mul, abs_of_pos (two_zpow_pos e)] at large size
      exact le_antisymm (by rwa [add_comm]) (by rwa [show 53 + e = e + 1 + 52 by omega])
    have full := mul_right_cancel₀ (two_zpow_pos e).ne' most
    rcases abs_choice (m : ℚ) with same | turned
    · refine ⟨2 ^ 52, ?_⟩
      rw [← same, full, zpow_add₀ two_ne_zero]
      push_cast
      ring
    · refine ⟨-2 ^ 52, ?_⟩
      rw [← neg_neg (m : ℚ), ← turned, full, zpow_add₀ two_ne_zero]
      push_cast
      ring

/-- **A number of the format is its own rounding.** -/
theorem rounded_eq_self {q : ℚ} (representable : Representable q) : rounded q = q := by
  by_cases zero : q = 0
  · rw [zero, rounded_zero]
  · obtain ⟨k, whole⟩ : ∃ k : ℤ, q = k * 2 ^ lastPlace q := by
      rcases (lastPlace_ge q).eq_or_lt with least | above
      · obtain ⟨m, e, -, fine, q_eq⟩ := representable
        rw [least] at fine
        obtain ⟨d, d_eq⟩ := Int.le.dest fine
        refine ⟨m * 2 ^ d, q_eq.trans ?_⟩
        push_cast
        rw [mul_assoc, ← zpow_natCast, ← zpow_add₀ two_ne_zero, add_comm (d : ℤ), d_eq]
      · exact representable.whole (lastPlace_le_abs zero above)
    have scaled : q / 2 ^ lastPlace q = (k : ℚ) := by
      rw [div_eq_iff (two_zpow_pos _).ne']
      exact whole
    rw [rounded, scaled, roundEven_intCast]
    exact whole.symm

/-- A number of the format bounds what is rounded if it bounds what is rounded from. -/
theorem rounded_le {p q : ℚ} (representable : Representable q) (le : p ≤ q) : rounded p ≤ q := by
  rw [← rounded_eq_self representable]
  exact rounded_mono le

theorem le_rounded {p q : ℚ} (representable : Representable p) (le : p ≤ q) : p ≤ rounded q := by
  rw [← rounded_eq_self representable]
  exact rounded_mono le

theorem representable_intCast {n : ℤ} (small : |n| ≤ 2 ^ 53) : Representable n :=
  ⟨n, 0, small, by decide, by rw [zpow_zero, mul_one]⟩

theorem representable_one : Representable 1 := by
  exact_mod_cast @representable_intCast 1 (by decide)

theorem representable_pow {e : ℤ} (least : -1074 ≤ e) : Representable (2 ^ e) :=
  ⟨1, e, by decide, least, by rw [Int.cast_one, one_mul]⟩

end Binary64

/-! ## Arithmetic -/

/-- A double, but for the sign of its zeros. -/
inductive Double where
  | nan
  | infinity (negative : Bool)
  | number (q : ℚ)
  deriving DecidableEq

namespace Double

open Binary64

/-- A number the format has no exponent for is an infinity. -/
def clamp (q : ℚ) : Double :=
  if 2 ^ 1024 ≤ q then infinity false else if q ≤ -2 ^ 1024 then infinity true else number q

/-- The double nearest to a number. -/
def ofRat (q : ℚ) : Double := clamp (rounded q)

def neg : Double → Double
  | nan => nan
  | infinity negative => infinity (!negative)
  | number q => number (-q)

def add : Double → Double → Double
  | nan, _ => nan
  | _, nan => nan
  | infinity s, infinity t => if s = t then infinity s else nan
  | infinity s, number _ => infinity s
  | number _, infinity t => infinity t
  | number p, number q => ofRat (p + q)

def sub (a b : Double) : Double := a.add b.neg

def mul : Double → Double → Double
  | nan, _ => nan
  | _, nan => nan
  | infinity s, infinity t => infinity (s != t)
  | infinity s, number q => if q = 0 then nan else infinity (s != decide (q < 0))
  | number p, infinity t => if p = 0 then nan else infinity (decide (p < 0) != t)
  | number p, number q => ofRat (p * q)

/-- The quotient by anything but a zero. -/
def div : Double → Double → Double
  | nan, _ => nan
  | _, nan => nan
  | infinity _, infinity _ => nan
  | infinity s, number q => infinity (s != decide (q < 0))
  | number _, infinity _ => number 0
  | number p, number q => ofRat (p / q)

/-- How two doubles compare, if they do. -/
def compare : Double → Double → Option Ordering
  | nan, _ => none
  | _, nan => none
  | infinity s, infinity t => some (if s = t then .eq else if s then .lt else .gt)
  | infinity s, number _ => some (if s then .lt else .gt)
  | number _, infinity t => some (if t then .gt else .lt)
  | number p, number q => some (Ord.compare p q)

/-- `≤` of doubles. -/
def Le : Double → Double → Prop
  | nan, _ => False
  | _, nan => False
  | infinity s, infinity t => s = true ∨ t = false
  | infinity s, number _ => s = true
  | number _, infinity t => t = false
  | number p, number q => p ≤ q

/-- `<` of doubles. -/
def Lt : Double → Double → Prop
  | nan, _ => False
  | _, nan => False
  | infinity s, infinity t => s = true ∧ t = false
  | infinity s, number _ => s = true
  | number _, infinity t => t = false
  | number p, number q => p < q

theorem compare_eq_lt (a b : Double) : a.compare b = some .lt ↔ a.Lt b := by
  rcases a with _ | s | p <;> rcases b with _ | t | q
  case number.number => exact Option.some_inj.trans (@compare_lt_iff_lt _ _ p q)
  case infinity.infinity => cases s <;> cases t <;> simp [compare, Lt]
  case infinity.number => cases s <;> simp [compare, Lt]
  case number.infinity => cases t <;> simp [compare, Lt]
  all_goals simp [compare, Lt]

theorem compare_eq_eq (a b : Double) : a.compare b = some .eq ↔ a ≠ nan ∧ a = b := by
  rcases a with _ | s | p <;> rcases b with _ | t | q
  case number.number =>
    simp [compare]
  case infinity.infinity => cases s <;> cases t <;> simp [compare]
  case infinity.number => cases s <;> simp [compare]
  case number.infinity => cases t <;> simp [compare]
  all_goals simp [compare]

theorem compare_isLE (a b : Double) :
    a.compare b = some .lt ∨ a.compare b = some .eq ↔ a.Le b := by
  rw [compare_eq_lt, compare_eq_eq]
  rcases a with _ | s | p <;> rcases b with _ | t | q
  case number.number => simpa [Lt, Le] using le_iff_lt_or_eq.symm
  case infinity.infinity => cases s <;> cases t <;> simp [Lt, Le]
  case infinity.number => simp [Lt, Le]
  case number.infinity => simp [Lt, Le]
  all_goals simp [Lt, Le]

theorem Lt.le {a b : Double} (lt : a.Lt b) : a.Le b :=
  (compare_isLE a b).mp (.inl ((compare_eq_lt a b).mpr lt))

theorem Lt.asymm {a b : Double} (lt : a.Lt b) : ¬ b.Lt a := by
  rcases a with _ | s | p <;> rcases b with _ | t | q
  case number.number => exact lt_asymm (show p < q from lt)
  all_goals simp only [Lt] at lt ⊢ <;> grind

theorem Le.trans {a b c : Double} (le : a.Le b) (le' : b.Le c) : a.Le c := by
  rcases a with _ | s | p <;> rcases b with _ | t | q <;> rcases c with _ | u | r <;>
    simp only [Le] at le le' ⊢ <;> grind

theorem clamp_of_lt {q : ℚ} (small : |q| < 2 ^ 1024) : clamp q = number q := by
  obtain ⟨lower, upper⟩ := abs_lt.mp small
  rw [clamp, if_neg (not_le.mpr upper), if_neg (not_le.mpr lower)]

theorem clamp_of_le {q : ℚ} (large : 2 ^ 1024 ≤ q) : clamp q = infinity false := if_pos large

theorem clamp_neg_of_le {q : ℚ} (large : 2 ^ 1024 ≤ q) : clamp (-q) = infinity true := by
  have positive : (0 : ℚ) < 2 ^ 1024 := by positivity
  have below : -q < 2 ^ 1024 := (neg_nonpos.mpr (positive.le.trans large)).trans_lt positive
  rw [clamp, if_neg (not_le.mpr below), if_pos (neg_le_neg large)]

theorem clamp_neg (q : ℚ) : clamp (-q) = (clamp q).neg := by
  have positive : (0 : ℚ) < 2 ^ 1024 := by positivity
  rcases le_or_gt (2 ^ 1024) q with high | below
  · rw [clamp_of_le high, clamp_neg_of_le high]
    rfl
  · rcases le_or_gt q (-2 ^ 1024) with low | above
    · rw [clamp_of_le (le_neg_of_le_neg low), ← neg_neg q, clamp_neg_of_le (le_neg_of_le_neg low)]
      rfl
    · rw [clamp_of_lt (abs_lt.mpr ⟨above, below⟩),
        clamp_of_lt (abs_lt.mpr ⟨neg_lt_neg below, neg_lt.mp above⟩)]
      rfl

theorem ofRat_neg (q : ℚ) : ofRat (-q) = (ofRat q).neg := by
  rw [ofRat, rounded_neg, clamp_neg, ofRat]

/-- A number of the format that is not too large is its own double. -/
theorem ofRat_eq_self {q : ℚ} (representable : Representable q) (small : |q| < 2 ^ 1024) :
    ofRat q = number q := by
  rw [ofRat, rounded_eq_self representable, clamp_of_lt small]

theorem eq_of_ofRat {p q : ℚ} (same : ofRat q = number p) : p = rounded q := by
  unfold ofRat clamp at same
  split at same
  · cases same
  · split at same
    · cases same
    · exact (number.inj same).symm

/-- A sum that is a number is one of numbers. -/
theorem eq_of_add {a b : Double} {p : ℚ} (same : a.add b = number p) :
    ∃ q r, a = number q ∧ b = number r ∧ p = rounded (q + r) := by
  rcases a with _ | s | q <;> rcases b with _ | t | r
  case number.number => exact ⟨q, r, rfl, rfl, eq_of_ofRat same⟩
  case infinity.infinity => cases s <;> cases t <;> simp [add] at same
  all_goals cases same

/-- So is a difference. -/
theorem eq_of_sub {a b : Double} {p : ℚ} (same : a.sub b = number p) :
    ∃ q r, a = number q ∧ b = number r ∧ p = rounded (q - r) := by
  obtain ⟨q, r, rfl, turned, sum⟩ := eq_of_add same
  rcases b with _ | t | r'
  · cases turned
  · cases turned
  · exact ⟨q, r', rfl, rfl, by rw [sum, sub_eq_add_neg, number.inj turned]⟩

/-- A quotient that is a number is one of numbers, or of a number by an infinity. -/
theorem eq_of_div {a b : Double} {p : ℚ} (same : a.div b = number p) :
    (∃ q r, a = number q ∧ b = number r ∧ p = rounded (q / r)) ∨
      (∃ negative, b = infinity negative) ∧ p = 0 := by
  rcases a with _ | s | q <;> rcases b with _ | t | r
  case number.number => exact .inl ⟨q, r, rfl, rfl, eq_of_ofRat same⟩
  case number.infinity => exact .inr ⟨⟨t, rfl⟩, (number.inj same).symm⟩
  all_goals cases same

/-! ## Signs -/

/-- Not below zero: zero or more, or no number to compare with it. -/
def NotNegative : Double → Prop
  | nan => True
  | infinity negative => negative = false
  | number q => 0 ≤ q

/-- One of 0 to 1, or no number. -/
def Fraction : Double → Prop
  | nan => True
  | infinity _ => False
  | number q => 0 ≤ q ∧ q ≤ 1

theorem not_lt_zero_iff (a : Double) : ¬ a.Lt (number 0) ↔ NotNegative a := by
  rcases a with _ | s | q
  · simp [Lt, NotNegative]
  · simp [Lt, NotNegative]
  · exact not_lt

/-- The negative of what is above zero is below it. -/
theorem Lt.not_le_neg {a : Double} (positive : (number 0).Lt a) : ¬ (number 0).Le a.neg := by
  rcases a with _ | t | q
  · exact id
  · obtain rfl : t = false := positive
    exact fun le => absurd (show true = false from le) (by decide)
  · exact not_le.mpr (neg_neg_of_pos positive)

/-- What is rounded from a number that is not negative. -/
theorem ofRat_of_nonneg {q : ℚ} (nonneg : 0 ≤ q) :
    ofRat q = infinity false ∨ ofRat q = number (rounded q) := by
  rcases le_or_gt (2 ^ 1024) (rounded q) with large | small
  · exact .inl (clamp_of_le large)
  · refine .inr (clamp_of_lt ?_)
    rwa [abs_of_nonneg (rounded_nonneg nonneg)]

theorem ofRat_zero : Double.ofRat 0 = .number 0 := by decide +kernel

theorem NotNegative.ofRat {q : ℚ} (nonneg : 0 ≤ q) : NotNegative (ofRat q) := by
  rcases ofRat_of_nonneg nonneg with infinite | finite
  · rw [infinite]
    rfl
  · rw [finite]
    exact rounded_nonneg nonneg

theorem zero_le_ofRat {q : ℚ} (nonneg : 0 ≤ q) : (number 0).Le (Double.ofRat q) := by
  rcases ofRat_of_nonneg nonneg with infinite | finite
  · rw [infinite]
    rfl
  · rw [finite]
    exact rounded_nonneg nonneg

/-- What is no less than a power of two of the format is not rounded to zero. -/
theorem lt_ofRat {q : ℚ} {e : ℤ} (least : -1074 ≤ e) (large : 2 ^ e ≤ q) :
    (number 0).Lt (Double.ofRat q) := by
  have positive := two_zpow_pos e
  rcases ofRat_of_nonneg (positive.le.trans large) with infinite | finite
  · rw [infinite]
    rfl
  · rw [finite]
    exact positive.trans_le (le_rounded (representable_pow least) large)

theorem Fraction.ofRat {q : ℚ} (nonneg : 0 ≤ q) (le : q ≤ 1) : Fraction (ofRat q) := by
  have small := rounded_le representable_one le
  rcases ofRat_of_nonneg nonneg with infinite | finite
  · have moderate : |rounded q| < 2 ^ 1024 := by
      rw [abs_of_nonneg (rounded_nonneg nonneg)]
      exact small.trans_lt (one_lt_pow₀ one_lt_two (by decide))
    have number := clamp_of_lt moderate
    rw [Double.ofRat, number] at infinite
    cases infinite
  · rw [finite]
    exact ⟨rounded_nonneg nonneg, small⟩

theorem NotNegative.add {a b : Double} (left : NotNegative a) (right : NotNegative b) :
    NotNegative (a.add b) := by
  rcases a with _ | s | p <;> rcases b with _ | t | q
  case number.number => exact NotNegative.ofRat (add_nonneg left right)
  case infinity.infinity =>
    obtain rfl : s = false := left
    obtain rfl : t = false := right
    rfl
  case infinity.number => exact left
  case number.infinity => exact right
  all_goals exact trivial

/-- The sum of what is not negative and what is positive: no number, infinite, or no less than
either. -/
theorem add_of_positive {a b : Double} (format : ∀ q, a = number q → Representable q)
    (format' : ∀ q, b = number q → Representable q) (nonneg : NotNegative a)
    (positive : (number 0).Lt b) :
    a = nan ∨ a.add b = infinity false ∨
      ∃ p s, a = number p ∧ a.add b = number s ∧ 0 ≤ p ∧ p ≤ s ∧ 0 < s := by
  rcases a with _ | s | p
  · exact .inl rfl
  · obtain rfl : s = false := nonneg
    rcases b with _ | t | q
    · exact positive.elim
    · obtain rfl : t = false := positive
      exact .inr (.inl rfl)
    · exact .inr (.inl rfl)
  · rcases b with _ | t | q
    · exact positive.elim
    · obtain rfl : t = false := positive
      exact .inr (.inl rfl)
    · have first : 0 ≤ p := nonneg
      have second : 0 < q := positive
      rcases ofRat_of_nonneg (add_nonneg first second.le) with infinite | finite
      · exact .inr (.inl infinite)
      · refine .inr (.inr ⟨p, rounded (p + q), rfl, finite, first, ?_, ?_⟩)
        · exact le_rounded (format p rfl) (by linarith)
        · exact second.trans_le (le_rounded (format' q rfl) (by linarith))

/-- Such a sum is no zero. -/
theorem add_ne_zero {a b : Double} (format : ∀ q, a = number q → Representable q)
    (format' : ∀ q, b = number q → Representable q) (nonneg : NotNegative a)
    (positive : (number 0).Lt b) : a.add b ≠ number 0 := by
  rcases add_of_positive format format' nonneg positive with rfl | infinite |
    ⟨p, s, -, finite, -, -, more⟩
  · exact Double.noConfusion
  · rw [infinite]
    exact Double.noConfusion
  · rw [finite]
    exact fun zero => more.ne' (number.inj zero)

/-- The share of it that is not negative is one of 0 to 1. -/
theorem fraction_share {a b : Double} (format : ∀ q, a = number q → Representable q)
    (format' : ∀ q, b = number q → Representable q) (nonneg : NotNegative a)
    (positive : (number 0).Lt b) : Fraction (a.div (a.add b)) := by
  rcases add_of_positive format format' nonneg positive with rfl | infinite |
    ⟨p, s, rfl, finite, first, most, more⟩
  · exact trivial
  · rw [infinite]
    rcases a with _ | s | p
    · exact trivial
    · exact trivial
    · exact ⟨le_refl _, zero_le_one⟩
  · rw [finite]
    exact Fraction.ofRat (div_nonneg first more.le) ((div_le_one more).mpr most)

/-- What is left of a value by a share of it is not negative. -/
theorem NotNegative.rest {a share : Double} (nonneg : NotNegative a) (fraction : Fraction share) :
    NotNegative (((number 1).sub share).mul a) := by
  rcases share with _ | t | g
  · exact trivial
  · exact fraction.elim
  · obtain ⟨least, most⟩ := fraction
    have left : Fraction ((number 1).sub (number g)) := by
      refine Fraction.ofRat ?_ ?_ <;> linarith
    rcases rest : (number 1).sub (number g) with _ | t | r
    · exact trivial
    · rw [rest] at left
      exact left.elim
    · rw [rest] at left
      rcases a with _ | s | p
      · exact trivial
      · obtain rfl : s = false := nonneg
        change NotNegative (if r = 0 then nan else infinity (decide (r < 0) != false))
        split
        · exact trivial
        · rw [decide_eq_false (not_lt.mpr left.1)]
          rfl
      · exact NotNegative.ofRat (mul_nonneg left.1 nonneg)

/-! ## Ranges -/

/-- A number no less than `low` and no more than `high`. -/
def Within (low high : ℤ) (a : Double) : Prop := ∃ q, a = number q ∧ low ≤ q ∧ q ≤ high

/-- A range with ends of 53 bits holds the rounding of what it holds. -/
theorem Within.ofRat {low high : ℤ} {q : ℚ} (bits : |low| ≤ 2 ^ 53) (bits' : |high| ≤ 2 ^ 53)
    (least : low ≤ q) (most : q ≤ high) : Within low high (ofRat q) := by
  have lower := le_rounded (representable_intCast bits) least
  have upper := rounded_le (representable_intCast bits') most
  refine ⟨rounded q, clamp_of_lt ?_, lower, upper⟩
  have down : ((-2 ^ 53 : ℤ) : ℚ) ≤ low := by exact_mod_cast (abs_le.mp bits).1
  have up : (high : ℚ) ≤ ((2 ^ 53 : ℤ) : ℚ) := by exact_mod_cast (abs_le.mp bits').2
  push_cast at down up
  have size : |rounded q| ≤ 2 ^ 53 := abs_le.mpr ⟨by linarith, by linarith⟩
  exact size.trans_lt (pow_lt_pow_right₀ one_lt_two (by decide))

theorem Within.add {low high low' high' : ℤ} {a b : Double} (left : Within low high a)
    (right : Within low' high' b) (bits : |low + low'| ≤ 2 ^ 53)
    (bits' : |high + high'| ≤ 2 ^ 53) : Within (low + low') (high + high') (a.add b) := by
  obtain ⟨p, rfl, least, most⟩ := left
  obtain ⟨q, rfl, least', most'⟩ := right
  refine Within.ofRat bits bits' ?_ ?_ <;> push_cast <;> linarith

theorem Within.sub {low high low' high' : ℤ} {a b : Double} (left : Within low high a)
    (right : Within low' high' b) (bits : |low - high'| ≤ 2 ^ 53)
    (bits' : |high - low'| ≤ 2 ^ 53) : Within (low - high') (high - low') (a.sub b) := by
  obtain ⟨p, rfl, least, most⟩ := left
  obtain ⟨q, rfl, least', most'⟩ := right
  refine Within.ofRat bits bits' ?_ ?_ <;> push_cast <;> linarith

/-- A product of numbers that are not negative. -/
theorem Within.mul {low high low' high' : ℤ} {a b : Double} (left : Within low high a)
    (right : Within low' high' b) (nonneg : 0 ≤ low) (nonneg' : 0 ≤ low')
    (bits : |high * high'| ≤ 2 ^ 53) : Within 0 (high * high') (a.mul b) := by
  obtain ⟨p, rfl, least, most⟩ := left
  obtain ⟨q, rfl, least', most'⟩ := right
  have first : 0 ≤ p := le_trans (by exact_mod_cast nonneg) least
  have second : 0 ≤ q := le_trans (by exact_mod_cast nonneg') least'
  refine Within.ofRat (by decide) bits ?_ ?_
  · rw [Int.cast_zero]
    exact mul_nonneg first second
  · push_cast
    exact mul_le_mul most most' second (first.trans most)

end Double

end MobileGs
