import MobileGs.Alink.Exact
import MobileGs.Foundations.Floats

/-!
# Doubles and integers

What counters are as doubles (`toDouble_natCast`), and what the language says of the two conversions
the other way: a cast to `int` drops the fraction of a number that fits one (`Libm.Truncates`), and
`std::lround` gives the nearest integer (`Libm.RoundsHalfAway`). Of what is no number, or fits no
integer, nothing is said.
-/

set_option autoImplicit false

namespace MobileGs

namespace Alink

open Binary64

theorem toDouble_natCast (n : ℕ) : toDouble (n : Float) = .ofRat n := toDouble_ofNat n

theorem toDouble_intCast {n : ℤ} (small : |n| ≤ 2 ^ 53) : toDouble (n : Float) = .number n :=
  toDouble_ofInt_of_le small

/-- A double without its fraction, if it is a number. -/
def wholePart (x : Float) : Option ℤ :=
  match toDouble x with
  | .number q => some (trunc q)
  | _ => none

theorem wholePart_of_number {x : Float} {q : ℚ} (number : toDouble x = .number q) :
    wholePart x = some (trunc q) := by
  rw [wholePart, number]

/-- A cast to `int` drops the fraction of what fits one. -/
def Libm.Truncates (libm : Libm Float) : Prop :=
  ∀ {x : Float} {n : ℤ}, wholePart x = some n → -2147483648 ≤ n → n < 2147483648 →
    (libm.toInt x).toInt = n

/-- `std::lround` gives the integer nearest to a number, the one farther from zero of two. Of a
number that may not fit a `long` nothing is said. -/
def Libm.RoundsHalfAway (libm : Libm Float) : Prop :=
  ∀ {x : Float} {q : ℚ}, toDouble x = .number q → |q| ≤ 2 ^ 30 → libm.lround x = roundAway q

/-- A counter is a double. -/
theorem wholePart_natCast {n : ℕ} (small : n < 2147483648) :
    wholePart (n : Float) = some (n : ℤ) := by
  have size : |(n : ℤ)| ≤ 2 ^ 53 := by
    rw [Nat.abs_cast]
    omega
  have bits : |((n : ℤ) : ℚ)| ≤ 2 ^ 53 := by exact_mod_cast size
  have number : toDouble (n : Float) = .number ((n : ℤ) : ℚ) := by
    rw [toDouble_natCast, ← Int.cast_natCast n]
    exact Double.ofRat_eq_self (representable_intCast size)
      (bits.trans_lt (pow_lt_pow_right₀ one_lt_two (by decide)))
  rw [wholePart_of_number number, trunc_intCast]

/-- A counter is what the conversion makes of it exactly when it fits. -/
theorem Libm.Truncates.counter_iff {libm : Libm Float} (truncates : libm.Truncates) (n : ℕ) :
    (libm.toInt (n : Float)).toInt = n ↔ n < 2147483648 := by
  constructor
  · intro same
    have upper := (libm.toInt (n : Float)).toInt_lt
    omega
  · exact fun small => truncates (wholePart_natCast small) (by omega) (by omega)

/-- Conversions of doubles, with a power that ignores its exponent. What is no number is converted
to zero. -/
def conversions : Libm Float where
  pow := fun t _ => t
  lround := fun x => match toDouble x with
    | .number q => roundAway q
    | _ => 0
  toInt := fun x => Int32.ofInt ((wholePart x).getD 0)

theorem conversions_rounds : conversions.RoundsHalfAway := by
  intro x q number _
  change (match toDouble x with
    | .number q => roundAway q
    | _ => 0) = _
  rw [number]

theorem conversions_truncates : conversions.Truncates := by
  intro x n whole lower upper
  change (Int32.ofInt ((wholePart x).getD 0)).toInt = n
  rw [whole]
  exact Int32.toInt_ofInt_of_le lower upper

end Alink

end MobileGs
