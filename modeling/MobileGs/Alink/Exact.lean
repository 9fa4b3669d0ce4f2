import Mathlib.Algebra.Order.Field.Basic
import Mathlib.Algebra.Order.Floor.Ring
import Mathlib.Tactic.Linarith
import Mathlib.Tactic.NormNum
import Mathlib.Tactic.Positivity
import MobileGs.Alink.Controller

/-!
# Exact arithmetic

Over an ordered field the controller's arithmetic is that of the field. Conversion truncates,
`lround` rounds half away from zero, and any function can stand for the power (`exactLibm`). A
value that fits an `int` is converted without wrapping, so conversion keeps the order
(`toInt_mono`).
-/

set_option autoImplicit false

namespace MobileGs

namespace Alink

section Order

variable {R : Type} [LinearOrder R]

theorem stdMax_eq (a b : R) : stdMax a b = max a b := by
  rw [stdMax]
  split
  · rename_i lt
    exact (max_eq_right lt.le).symm
  · rename_i notLt
    exact (max_eq_left (not_lt.mp notLt)).symm

theorem stdMin_eq (a b : R) : stdMin a b = min a b := by
  rw [stdMin]
  split
  · rename_i lt
    exact (min_eq_right lt.le).symm
  · rename_i notLt
    exact (min_eq_left (not_lt.mp notLt)).symm

end Order

variable {R : Type} [Field R] [LinearOrder R] [IsStrictOrderedRing R]

theorem clamp01_eq (v : R) : clamp01 v = max 0 (min 1 v) := by
  rw [clamp01, stdMax_eq, stdMin_eq]
  norm_num

theorem clamp01_nonneg (v : R) : 0 ≤ clamp01 v := by
  rw [clamp01_eq]
  exact le_max_left 0 _

theorem clamp01_le_one (v : R) : clamp01 v ≤ 1 := by
  rw [clamp01_eq]
  exact max_le zero_le_one (min_le_left 1 v)

theorem clamp01_mono {v w : R} (le : v ≤ w) : clamp01 v ≤ clamp01 w := by
  rw [clamp01_eq, clamp01_eq]
  exact max_le_max_left 0 (min_le_min_left 1 le)

variable [FloorRing R]

/-- A number without its fraction. -/
def trunc (x : R) : ℤ := if 0 ≤ x then ⌊x⌋ else ⌈x⌉

/-- The integer nearest to a number, the one farther from zero of two. -/
def roundAway (x : R) : ℤ := if 0 ≤ x then ⌊x + 1 / 2⌋ else ⌈x - 1 / 2⌉

/-- Exact arithmetic, with any function for the power. -/
def exactLibm (pow : R → R → R) : Libm R where
  pow := pow
  lround := roundAway
  toInt := fun x => Int32.ofInt (trunc x)

omit [IsStrictOrderedRing R] in
theorem trunc_mono {x y : R} (le : x ≤ y) : trunc x ≤ trunc y := by
  unfold trunc
  split
  · rename_i nonneg
    rw [if_pos (nonneg.trans le)]
    exact Int.floor_le_floor le
  · rename_i negative
    split
    · rename_i nonneg
      calc ⌈x⌉ ≤ 0 := Int.ceil_le.mpr (by simpa using (not_le.mp negative).le)
        _ ≤ ⌊y⌋ := Int.floor_nonneg.mpr nonneg
    · exact Int.ceil_le_ceil le

theorem trunc_intCast (n : ℤ) : trunc (n : R) = n := by
  unfold trunc
  split
  · exact Int.floor_intCast n
  · exact Int.ceil_intCast n

theorem roundAway_mono {x y : R} (nonneg : 0 ≤ x) (le : x ≤ y) : roundAway x ≤ roundAway y := by
  rw [roundAway, roundAway, if_pos nonneg, if_pos (nonneg.trans le)]
  exact Int.floor_le_floor (by linarith)

theorem roundAway_intCast {n : ℤ} (nonneg : 0 ≤ n) : roundAway (n : R) = n := by
  rw [roundAway, if_pos (by exact_mod_cast nonneg), Int.floor_intCast_add]
  have half : ⌊(1 / 2 : R)⌋ = 0 := by
    rw [Int.floor_eq_zero_iff]
    norm_num
  rw [half, add_zero]

/-- An `int` keeps the order of what fits it. -/
theorem ofInt_mono {m n : ℤ} (lower : -2 ^ 31 ≤ m) (le : m ≤ n) (upper : n < 2 ^ 31) :
    Int32.ofInt m ≤ Int32.ofInt n := by
  rw [Int32.le_iff_toInt_le, Int32.toInt_ofInt_of_le lower (by omega),
    Int32.toInt_ofInt_of_le (by omega) upper]
  exact le

/-- Conversion keeps the order of numbers that fit. -/
theorem toInt_mono {pow : R → R → R} {x y : R} (lower : ((-2 ^ 31 : ℤ) : R) ≤ x) (le : x ≤ y)
    (upper : y ≤ ((2 ^ 31 - 1 : ℤ) : R)) :
    (exactLibm pow).toInt x ≤ (exactLibm pow).toInt y := by
  have low := trunc_mono lower
  have high := trunc_mono upper
  rw [trunc_intCast] at low high
  exact ofInt_mono low (trunc_mono le) (by omega)

end Alink

end MobileGs
