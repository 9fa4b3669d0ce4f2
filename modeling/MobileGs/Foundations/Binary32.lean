import Mathlib.Algebra.Order.Ring.Nat
import Mathlib.Tactic.Ring
import Mathlib.Tactic.Linarith

/-!
# Quotients of integers in binary32

The quotient of two integers in IEEE 754 single precision, as a bit pattern: sign,
biased exponent, 23 bits of significand, rounded to nearest with ties to even. The
definition covers the quotients whose result is a normal number, which all
quotients of a 16-bit integer by a small constant are.

`scale_spec` brings the quotient into the range of 24-bit significands,
`roundHalfEven_spec` is the rounding error, and a 16-bit numerator can be read
back from its quotient (`quotient_injective`): neighbouring quotients are further
apart than the rounding error.
-/

set_option autoImplicit false

namespace MobileGs

namespace Binary32

/-- `numerator / denominator` rounded to the nearest integer, ties to even. -/
def roundHalfEven (numerator denominator : ℕ) : ℕ :=
  let quotient := numerator / denominator
  let rest := numerator % denominator
  if 2 * rest < denominator then quotient
  else if denominator < 2 * rest then quotient + 1
  else quotient + quotient % 2

/-- The power of two that brings `a / d` into `[2 ^ 23, 2 ^ 24)`. -/
def scale (a d : ℕ) : ℕ :=
  let shift := 23 + Nat.log2 d - Nat.log2 a
  if a * 2 ^ shift < 2 ^ 23 * d then shift + 1 else shift

/-- Exponent and significand of `a / d`. A significand rounded up to `2 ^ 24`
carries into the exponent. -/
def magnitude (a d : ℕ) : ℕ :=
  if a = 0 then 0
  else (150 - scale a d) * 2 ^ 23 + (roundHalfEven (a * 2 ^ scale a d) d - 2 ^ 23)

/-- The bit pattern of `n / d` in binary32. -/
def quotient (n : ℤ) (d : ℕ) : UInt32 :=
  UInt32.ofNat (magnitude n.natAbs d + if n < 0 then 2 ^ 31 else 0)

/-- The integer nearest to `n` that a significand of 24 bits holds, ties to even. -/
def nearest (n : ℤ) : ℤ :=
  let step := 2 ^ (Nat.log2 n.natAbs - 23)
  let magnitude := roundHalfEven n.natAbs step * step
  if n < 0 then -magnitude else magnitude

/-- The rounded value is within half of the exact one. -/
theorem roundHalfEven_spec (numerator : ℕ) {denominator : ℕ} (pos : 0 < denominator) :
    2 * (roundHalfEven numerator denominator * denominator) ≤ 2 * numerator + denominator ∧
      2 * numerator ≤
        2 * (roundHalfEven numerator denominator * denominator) + denominator := by
  have division := Nat.div_add_mod numerator denominator
  have bound := Nat.mod_lt numerator pos
  have parity := Nat.mod_lt (numerator / denominator) (show 0 < 2 by decide)
  rw [Nat.mul_comm] at division
  simp only [roundHalfEven]
  split
  · omega
  · split
    · rw [Nat.add_mul, Nat.one_mul]
      omega
    · rw [Nat.add_mul]
      rcases Nat.lt_succ_iff_lt_or_eq.mp parity with even | odd
      · rw [Nat.lt_one_iff.mp even]
        omega
      · rw [odd, Nat.one_mul]
        omega

section Scale

variable {a d : ℕ}

/-- The shift brings the quotient into the range of a 24-bit significand. -/
theorem scale_spec (numerator : 0 < a) (small : a < 2 ^ 16) (denominator : 0 < d) :
    2 ^ 23 * d ≤ a * 2 ^ scale a d ∧ a * 2 ^ scale a d < 2 ^ 24 * d := by
  have logA : Nat.log2 a < 16 := (Nat.log2_lt numerator.ne').mpr small
  have lowA := Nat.log2_self_le numerator.ne'
  have highA := Nat.lt_log2_self (n := a)
  have lowD := Nat.log2_self_le denominator.ne'
  have highD := Nat.lt_log2_self (n := d)
  set shift := 23 + Nat.log2 d - Nat.log2 a with shift_def
  have total : shift + Nat.log2 a = 23 + Nat.log2 d := by omega
  have low : 2 ^ 23 * 2 ^ Nat.log2 d ≤ a * 2 ^ shift := by
    rw [← Nat.pow_add, ← total, Nat.pow_add, Nat.mul_comm]
    exact Nat.mul_le_mul_right _ lowA
  have high : a * 2 ^ shift < 2 ^ 24 * 2 ^ Nat.log2 d := by
    have := Nat.mul_lt_mul_of_pos_right highA (Nat.two_pow_pos shift)
    rwa [← Nat.pow_add, show Nat.log2 a + 1 + shift = 24 + Nat.log2 d by omega,
      Nat.pow_add] at this
  rw [Nat.pow_succ] at highD
  have double : a * 2 ^ (shift + 1) = 2 * (a * 2 ^ shift) := by ring
  unfold scale
  simp only [← shift_def]
  split
  · rw [double]
    constructor <;> omega
  · constructor <;> omega

/-- The shift leaves room for a normal exponent. -/
theorem scale_lt (small : d < 2 ^ 64) : scale a d < 150 := by
  have logD : Nat.log2 d < 64 := by
    rcases Nat.eq_zero_or_pos d with rfl | pos
    · decide
    · exact (Nat.log2_lt pos.ne').mpr small
  unfold scale
  simp only
  split <;> omega

/-- The shift separates neighbouring numerators by much more than the rounding error. -/
theorem two_mul_lt_scale (numerator : 0 < a) (small : a < 2 ^ 16) (denominator : 0 < d) :
    2 * d < 2 ^ scale a d := by
  obtain ⟨low, -⟩ := scale_spec numerator small denominator
  by_contra large
  have product : a * 2 ^ scale a d ≤ 2 ^ 16 * (2 * d) :=
    Nat.mul_le_mul small.le (Nat.le_of_not_lt large)
  omega

/-- A scaled significand has 24 bits, or is the next power of two. -/
theorem significand_bounds (numerator : 0 < a) (small : a < 2 ^ 16) (denominator : 0 < d) :
    2 ^ 23 ≤ roundHalfEven (a * 2 ^ scale a d) d ∧
      roundHalfEven (a * 2 ^ scale a d) d ≤ 2 ^ 24 := by
  obtain ⟨low, high⟩ := scale_spec numerator small denominator
  obtain ⟨below, above⟩ := roundHalfEven_spec (a * 2 ^ scale a d) denominator
  constructor
  · by_contra less
    have product := Nat.mul_le_mul_right d (show roundHalfEven (a * 2 ^ scale a d) d + 1 ≤ 2 ^ 23
      by omega)
    rw [Nat.add_mul] at product
    omega
  · by_contra more
    have product := Nat.mul_le_mul_right d (show 2 ^ 24 + 1 ≤ roundHalfEven (a * 2 ^ scale a d) d
      by omega)
    rw [Nat.add_mul] at product
    omega

end Scale

/-- Multiples closer than the step between them are equal. -/
theorem eq_of_close {a a' step error : ℕ} (fine : error < step)
    (below : a * step ≤ a' * step + error) (above : a' * step ≤ a * step + error) : a = a' := by
  rcases Nat.lt_trichotomy a a' with less | same | more
  · have gap := Nat.mul_le_mul_right step (Nat.succ_le_of_lt less)
    rw [Nat.succ_mul] at gap
    omega
  · exact same
  · have gap := Nat.mul_le_mul_right step (Nat.succ_le_of_lt more)
    rw [Nat.succ_mul] at gap
    omega

/-- **A 16-bit numerator can be read back from the magnitude of its quotient.** -/
theorem magnitude_injective {a a' d : ℕ} (small : a < 2 ^ 16) (small' : a' < 2 ^ 16)
    (denominator : 0 < d) (bounded : d < 2 ^ 64) (same : magnitude a d = magnitude a' d) :
    a = a' := by
  have exponent : scale a d < 150 := scale_lt bounded
  have exponent' : scale a' d < 150 := scale_lt bounded
  unfold magnitude at same
  rcases Nat.eq_zero_or_pos a with rfl | pos
  · rcases Nat.eq_zero_or_pos a' with rfl | pos'
    · rfl
    · rw [if_pos rfl, if_neg pos'.ne'] at same
      omega
  · rcases Nat.eq_zero_or_pos a' with rfl | pos'
    · rw [if_pos rfl, if_neg pos.ne'] at same
      omega
    · rw [if_neg pos.ne', if_neg pos'.ne'] at same
      obtain ⟨low, high⟩ := significand_bounds pos small denominator
      obtain ⟨low', high'⟩ := significand_bounds pos' small' denominator
      obtain ⟨below, above⟩ := roundHalfEven_spec (a * 2 ^ scale a d) denominator
      obtain ⟨below', above'⟩ := roundHalfEven_spec (a' * 2 ^ scale a' d) denominator
      have fine := two_mul_lt_scale pos small denominator
      have fine' := two_mul_lt_scale pos' small' denominator
      generalize roundHalfEven (a * 2 ^ scale a d) d = m at *
      generalize roundHalfEven (a' * 2 ^ scale a' d) d = m' at *
      -- the exponents agree, or one significand was rounded up to the next power of two
      have cases : (scale a d = scale a' d ∧ m = m') ∨
          (scale a' d = scale a d + 1 ∧ m = 2 ^ 23 ∧ m' = 2 ^ 24) ∨
          (scale a d = scale a' d + 1 ∧ m = 2 ^ 24 ∧ m' = 2 ^ 23) := by
        omega
      rcases cases with ⟨sameScale, rfl⟩ | ⟨next, rfl, rfl⟩ | ⟨next, rfl, rfl⟩
      · rw [← sameScale] at below' above'
        exact eq_of_close fine (by omega) (by omega)
      · have double : a' * 2 ^ scale a' d = 2 * (a' * 2 ^ scale a d) := by
          rw [next]
          ring
        exact eq_of_close fine (by omega) (by omega)
      · have double : a * 2 ^ scale a d = 2 * (a * 2 ^ scale a' d) := by
          rw [next]
          ring
        exact eq_of_close fine' (by omega) (by omega)

theorem magnitude_lt {a d : ℕ} (small : a < 2 ^ 16) (denominator : 0 < d) :
    magnitude a d < 2 ^ 31 := by
  unfold magnitude
  split
  · decide
  · rename_i nonzero
    obtain ⟨low, high⟩ := significand_bounds (Nat.pos_of_ne_zero nonzero) small denominator
    omega

/-- **A 16-bit numerator can be read back from its quotient.** -/
theorem quotient_injective {n n' : ℤ} {d : ℕ} (small : n.natAbs < 2 ^ 16)
    (small' : n'.natAbs < 2 ^ 16) (denominator : 0 < d) (bounded : d < 2 ^ 64) :
    quotient n d = quotient n' d ↔ n = n' := by
  refine ⟨?_, fun same => by rw [same]⟩
  intro same
  have bound := magnitude_lt small denominator
  have bound' := magnitude_lt small' denominator
  have bits := congrArg UInt32.toNat same
  simp only [quotient, UInt32.toNat_ofNat'] at bits
  rw [Nat.mod_eq_of_lt (by split <;> omega), Nat.mod_eq_of_lt (by split <;> omega)] at bits
  by_cases negative : n < 0 <;> by_cases negative' : n' < 0 <;>
    simp only [negative, negative', if_true, if_false] at bits
  · have := magnitude_injective small small' denominator bounded (by omega)
    omega
  · omega
  · omega
  · have := magnitude_injective small small' denominator bounded (by omega)
    omega

end Binary32

end MobileGs
