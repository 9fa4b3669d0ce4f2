import Mathlib.Data.Nat.Digits.Lemmas

/-!
# Little-endian numbers

A byte string denotes the number with its bytes as digits in base 256, least
significant first. `leBytes` writes a number in a given number of bytes, and
reading it back gives the number modulo the width (`leNat_leBytes`).
-/

set_option autoImplicit false

namespace MobileGs

/-- A byte. -/
abbrev Byte := UInt8

/-- The number a little-endian byte string denotes. -/
def leNat (bytes : List Byte) : ℕ := Nat.ofDigits 256 (bytes.map UInt8.toNat)

/-- The `width` little-endian bytes of a number. -/
def leBytes : (width : ℕ) → ℕ → List Byte
  | 0, _ => []
  | width + 1, value => UInt8.ofNat value :: leBytes width (value / 256)

@[simp] theorem leNat_nil : leNat [] = 0 := rfl

@[simp] theorem leNat_cons (b : Byte) (rest : List Byte) :
    leNat (b :: rest) = b.toNat + 256 * leNat rest := by
  simp [leNat, Nat.ofDigits_cons]

@[simp] theorem length_leBytes (width value : ℕ) : (leBytes width value).length = width := by
  induction width generalizing value with
  | zero => rfl
  | succ width ih => simp [leBytes, ih]

theorem leNat_lt (bytes : List Byte) : leNat bytes < 256 ^ bytes.length := by
  have digits : ∀ digit ∈ bytes.map UInt8.toNat, digit < 256 := by
    intro digit member
    obtain ⟨b, -, rfl⟩ := List.mem_map.mp member
    exact b.toNat_lt
  simpa [leNat] using Nat.ofDigits_lt_base_pow_length (by decide) digits

/-- Byte strings of one length that denote the same number are the same. -/
theorem leNat_inj {bytes bytes' : List Byte} (lengths : bytes.length = bytes'.length)
    (same : leNat bytes = leNat bytes') : bytes = bytes' := by
  induction bytes generalizing bytes' with
  | nil => exact (List.length_eq_zero_iff.mp lengths.symm).symm
  | cons b rest ih =>
      cases bytes' with
      | nil => cases lengths
      | cons b' rest' =>
          rw [leNat_cons, leNat_cons] at same
          have first := b.toNat_lt
          have first' := b'.toNat_lt
          have heads : b = b' := UInt8.toNat_inj.mp (by omega)
          rw [heads, ih (Nat.succ.inj lengths) (by omega)]

/-- **Reading back what was written.** -/
theorem leNat_leBytes (width value : ℕ) : leNat (leBytes width value) = value % 256 ^ width := by
  induction width generalizing value with
  | zero => simp [leBytes, Nat.mod_one]
  | succ width ih =>
      rw [leBytes, leNat_cons, ih, Nat.pow_succ', Nat.mod_mul, UInt8.toNat_ofNat']

/-- A number that fits the width is read back. -/
theorem leNat_leBytes_of_lt {width value : ℕ} (fits : value < 256 ^ width) :
    leNat (leBytes width value) = value := by
  rw [leNat_leBytes, Nat.mod_eq_of_lt fits]

end MobileGs
