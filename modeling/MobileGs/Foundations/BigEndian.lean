import MobileGs.Foundations.LittleEndian

/-!
# Big-endian fields

Network headers carry numbers most significant byte first, and readers put them together
with shifts and disjunctions. The bytes do not overlap, so the disjunction is a sum
(`shiftLeft_or`, `toNat_be32`), and a field that was written is read back (`be16_join`,
`be32_join`, `be16_joinNat`).
-/

set_option autoImplicit false

namespace MobileGs

/-- The two bytes of a number, most significant first. -/
def be16 (value : ℕ) : List Byte := [UInt8.ofNat (value / 2 ^ 8), UInt8.ofNat value]

/-- The four bytes of a number, most significant first. -/
def be32 (value : ℕ) : List Byte := be16 (value / 2 ^ 16) ++ be16 value

@[simp] theorem length_be16 (value : ℕ) : (be16 value).length = 2 := rfl

@[simp] theorem length_be32 (value : ℕ) : (be32 value).length = 4 := rfl

/-- Bits that do not overlap are added. -/
theorem shiftLeft_or {shift low : ℕ} (high : ℕ) (small : low < 2 ^ shift) :
    high <<< shift ||| low = high * 2 ^ shift + low := by
  rw [← Nat.shiftLeft_add_eq_or_of_lt small, Nat.shiftLeft_eq]

/-- A two-byte length is read back. -/
theorem be16_joinNat {value : ℕ} (small : value < 2 ^ 16) :
    (UInt8.ofNat (value / 2 ^ 8)).toNat <<< 8 ||| (UInt8.ofNat value).toNat = value := by
  rw [shiftLeft_or _ (UInt8.toNat_lt _), UInt8.toNat_ofNat', UInt8.toNat_ofNat']
  omega

/-- A 16-bit field is read back. -/
theorem be16_join (value : UInt16) :
    (UInt8.ofNat (value.toNat / 2 ^ 8)).toUInt16 <<< 8 |||
      (UInt8.ofNat value.toNat).toUInt16 = value := by
  have bound := value.toNat_lt
  apply UInt16.toNat_inj.mp
  generalize value.toNat = n at bound ⊢
  rw [UInt16.toNat_or, UInt16.toNat_shiftLeft, UInt8.toNat_toUInt16, UInt8.toNat_toUInt16]
  have fits : (UInt8.ofNat (n / 2 ^ 8)).toNat <<< (UInt16.toNat 8 % 16) % 2 ^ 16 =
      (UInt8.ofNat (n / 2 ^ 8)).toNat <<< 8 := by
    have byte := (UInt8.ofNat (n / 2 ^ 8)).toNat_lt
    change (UInt8.ofNat (n / 2 ^ 8)).toNat <<< 8 % 2 ^ 16 = _
    rw [Nat.shiftLeft_eq]
    exact Nat.mod_eq_of_lt (by omega)
  rw [fits, be16_joinNat bound]

/-- The number a big-endian byte string denotes. -/
def beNat (bytes : List Byte) : ℕ := leNat bytes.reverse

theorem beNat_inj {bytes bytes' : List Byte} (lengths : bytes.length = bytes'.length)
    (same : beNat bytes = beNat bytes') : bytes = bytes' := by
  apply List.reverse_injective
  apply leNat_inj _ same
  rw [List.length_reverse, List.length_reverse, lengths]

/-- Four bytes put together denote their big-endian number. -/
theorem toNat_be32 (first second third fourth : Byte) :
    (first.toUInt32 <<< 24 ||| second.toUInt32 <<< 16 ||| third.toUInt32 <<< 8 |||
      fourth.toUInt32).toNat = beNat [first, second, third, fourth] := by
  simp only [UInt32.toNat_or, UInt32.toNat_shiftLeft, UInt8.toNat_toUInt32]
  have fits : ∀ (byte : Byte) (shift : ℕ), shift ≤ 24 →
      byte.toNat <<< shift % 2 ^ 32 = byte.toNat <<< shift := by
    intro byte shift le
    have byteLt := byte.toNat_lt
    rw [Nat.shiftLeft_eq]
    apply Nat.mod_eq_of_lt
    calc byte.toNat * 2 ^ shift < 2 ^ 8 * 2 ^ shift :=
          Nat.mul_lt_mul_of_pos_right byteLt (Nat.two_pow_pos shift)
      _ ≤ 2 ^ 8 * 2 ^ 24 := Nat.mul_le_mul_left _ (Nat.pow_le_pow_right (by decide) le)
      _ = 2 ^ 32 := by decide
  change first.toNat <<< 24 % 2 ^ 32 ||| second.toNat <<< 16 % 2 ^ 32 |||
    third.toNat <<< 8 % 2 ^ 32 ||| fourth.toNat = _
  have firstLt := first.toNat_lt
  have secondLt := second.toNat_lt
  have thirdLt := third.toNat_lt
  have fourthLt := fourth.toNat_lt
  -- From the right, so that each byte lies below the next shift.
  rw [fits first 24 (by decide), fits second 16 (by decide), fits third 8 (by decide),
    Nat.or_assoc, Nat.or_assoc, shiftLeft_or _ fourthLt,
    shiftLeft_or _ (show third.toNat * 2 ^ 8 + fourth.toNat < 2 ^ 16 by omega),
    shiftLeft_or _ (by omega)]
  simp [beNat]
  omega

/-- The bytes of a number denote it. -/
theorem beNat_be32 {value : ℕ} (small : value < 2 ^ 32) : beNat (be32 value) = value := by
  simp [beNat, be32, be16, UInt8.toNat_ofNat']
  omega

/-- A 32-bit field is read back. -/
theorem be32_join (value : UInt32) :
    (UInt8.ofNat (value.toNat / 2 ^ 16 / 2 ^ 8)).toUInt32 <<< 24 |||
      (UInt8.ofNat (value.toNat / 2 ^ 16)).toUInt32 <<< 16 |||
      (UInt8.ofNat (value.toNat / 2 ^ 8)).toUInt32 <<< 8 |||
      (UInt8.ofNat value.toNat).toUInt32 = value := by
  apply UInt32.toNat_inj.mp
  rw [toNat_be32]
  exact beNat_be32 value.toNat_lt

end MobileGs
