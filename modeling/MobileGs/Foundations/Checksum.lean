import Mathlib.Algebra.Order.Ring.Nat
import MobileGs.Foundations.LittleEndian

/-!
# Checksums of one byte

A register of one byte goes over a byte string: each byte is added to it modulo two, and a map
of the register follows. The checksum of a string is the register behind it. Exclusive or
is such a checksum, and so is a cyclic redundancy check of eight bits.

When the map is linear, the register behind a damaged string is the register behind the
string, damaged by the register behind the error (`fold_xor`). A string with its own checksum at
the end leaves the register at zero (`fold_checksum`), so an error shows exactly when it leaves a
register that is not zero behind.

An error in a burst touches one byte, or two next to each other. The register stays away from
zero behind it when the map loses nothing and does not carry the part of a burst in the one byte
onto the part in the other (`BurstRegister`). Such a checksum tells every burst
(`BurstRegister.checksum_ne`).
-/

set_option autoImplicit false

namespace MobileGs

namespace Checksum

/-! ## Byte strings modulo two -/

/-- The sum of two byte strings modulo two, byte by byte. -/
def xorBytes (bytes error : List Byte) : List Byte := List.zipWith (· ^^^ ·) bytes error

@[simp] theorem xorBytes_nil (error : List Byte) : xorBytes [] error = [] := rfl

@[simp] theorem xorBytes_cons (byte flip : Byte) (bytes error : List Byte) :
    xorBytes (byte :: bytes) (flip :: error) = (byte ^^^ flip) :: xorBytes bytes error := rfl

theorem length_xorBytes {bytes error : List Byte} (length : error.length = bytes.length) :
    (xorBytes bytes error).length = bytes.length := by
  rw [xorBytes, List.length_zipWith, length, Nat.min_self]

theorem xorBytes_append {first error later error' : List Byte}
    (length : error.length = first.length) :
    xorBytes (first ++ later) (error ++ error') =
      xorBytes first error ++ xorBytes later error' :=
  List.zipWith_append length.symm

/-- The bit at a place of a byte string, the most significant bit of each byte first. -/
def bitAt (bytes : List Byte) (place : ℕ) : Bool :=
  (bytes.getD (place / 8) 0).toNat.testBit (7 - place % 8)

/-- An error is a burst: it is not zero, and its bits lie within eight places next to each
other. -/
structure Burst (error : List Byte) : Prop where
  nonzero : ∃ byte ∈ error, byte ≠ 0
  confined : ∃ start, ∀ place, bitAt error place = true → start ≤ place ∧ place < start + 8

theorem bitAt_cons_head (byte : Byte) (bytes : List Byte) {place : ℕ} (within : place < 8) :
    bitAt (byte :: bytes) place = byte.toNat.testBit (7 - place) := by
  rw [bitAt, Nat.div_eq_of_lt within, Nat.mod_eq_of_lt within, List.getD_cons_zero]

theorem bitAt_cons_tail (byte : Byte) (bytes : List Byte) (place : ℕ) :
    bitAt (byte :: bytes) (place + 8) = bitAt bytes place := by
  rw [bitAt, Nat.add_div_right _ (by decide), Nat.add_mod_right, List.getD_cons_succ, bitAt]

/-- There are no bits behind the last byte. -/
theorem bitAt_of_le {bytes : List Byte} {place : ℕ} (far : bytes.length ≤ place / 8) :
    bitAt bytes place = false := by
  rw [bitAt, List.getD_eq_getElem?_getD, List.getElem?_eq_none far, Option.getD_none,
    UInt8.toNat_zero, Nat.zero_testBit]

/-- A byte that is not zero has a bit. -/
theorem exists_bit {byte : Byte} (nonzero : byte ≠ 0) :
    ∃ place < 8, byte.toNat.testBit (7 - place) = true := by
  obtain ⟨index, bit⟩ := Nat.exists_testBit_of_ne_zero
    (fun zero => nonzero (UInt8.toNat_inj.mp zero))
  have bound : index < 8 := by
    by_contra far
    rw [Nat.testBit_lt_two_pow (byte.toNat_lt.trans_le (Nat.pow_le_pow_right (by decide)
      (not_lt.mp far)))] at bit
    exact Bool.false_ne_true bit
  exact ⟨7 - index, by omega, by rwa [Nat.sub_sub_self (by omega)]⟩

/-- A byte string without bits is zero. -/
theorem eq_zero_of_bitAt {bytes : List Byte} (silent : ∀ place, bitAt bytes place = false) :
    ∀ byte ∈ bytes, byte = 0 := by
  induction bytes with
  | nil => exact fun _ member => absurd member List.not_mem_nil
  | cons head rest ih =>
      have zero : head = 0 := by
        by_contra nonzero
        obtain ⟨place, within, bit⟩ := exists_bit nonzero
        rw [← bitAt_cons_head head rest within, silent place] at bit
        exact Bool.false_ne_true bit
      intro byte member
      rcases List.mem_cons.mp member with rfl | member
      · exact zero
      · refine ih (fun place => ?_) byte member
        rw [← bitAt_cons_tail head rest place]
        exact silent _

/-- A burst behind a byte of zeros. -/
theorem Burst.tail {error : List Byte} (burst : Burst (0 :: error)) : Burst error := by
  obtain ⟨⟨byte, member, nonzero⟩, start, confined⟩ := burst
  refine ⟨⟨byte, ?_, nonzero⟩, start - 8, fun place bit => ?_⟩
  · exact (List.mem_cons.mp member).resolve_left nonzero
  · have := confined (place + 8) (by rw [bitAt_cons_tail]; exact bit)
    omega

/-- **A burst touches one byte or two.** Where it starts, its bits are the low ones of the first
byte and the high ones of the second, and the rest is zero. -/
theorem Burst.split {first : Byte} {rest : List Byte} (burst : Burst (first :: rest))
    (nonzero : first ≠ 0) :
    (∀ byte ∈ rest.tail, byte = 0) ∧
      ∃ width ≤ 8, first.toNat < 2 ^ width ∧
        ∀ second ∈ rest.head?, 2 ^ width ∣ second.toNat := by
  obtain ⟨start, confined⟩ := burst.confined
  obtain ⟨place, within, bit⟩ := exists_bit nonzero
  have early : start < 8 := by
    have := confined place (by rw [bitAt_cons_head _ _ within]; exact bit)
    omega
  have silent : ∀ place, place < start ∨ start + 8 ≤ place →
      bitAt (first :: rest) place = false := by
    intro place outside
    by_contra bit
    have := confined place (by simpa using bit)
    omega
  refine ⟨?_, 8 - start, by omega, ?_, ?_⟩
  · apply eq_zero_of_bitAt
    intro place
    cases rest with
    | nil => simp [bitAt]
    | cons second rest =>
        rw [List.tail_cons, ← bitAt_cons_tail second rest, ← bitAt_cons_tail first]
        exact silent _ (.inr (by omega))
  · apply Nat.lt_pow_two_of_testBit
    intro index high
    rcases Nat.lt_or_ge index 8 with low | far
    · have := silent (7 - index) (.inl (by omega))
      rwa [bitAt_cons_head _ _ (by omega), Nat.sub_sub_self (by omega)] at this
    · exact Nat.testBit_lt_two_pow (first.toNat_lt.trans_le (Nat.pow_le_pow_right (by decide) far))
  · intro second member
    obtain ⟨rest, rfl⟩ : ∃ more, rest = second :: more := by
      cases rest with
      | nil => cases member
      | cons head more => exact ⟨more, by rw [Option.mem_some_iff.mp member]⟩
    apply Nat.dvd_of_mod_eq_zero
    apply Nat.eq_of_testBit_eq
    intro index
    rw [Nat.testBit_mod_two_pow, Nat.zero_testBit]
    rcases Nat.lt_or_ge index (8 - start) with low | high
    · have := silent (7 - index + 8) (.inr (by omega))
      rw [bitAt_cons_tail, bitAt_cons_head _ _ (by omega), Nat.sub_sub_self (by omega)] at this
      rw [this, Bool.and_false]
    · rw [decide_eq_false (by omega), Bool.false_and]

/-! ## A register -/

section Register

variable (T : Byte → Byte)

/-- The register one byte further. -/
def feed (register byte : Byte) : Byte := T (register ^^^ byte)

/-- The map of a register is linear. -/
def Additive : Prop := ∀ a b, T (a ^^^ b) = T a ^^^ T b

/-- A register that shows every burst: the map is linear, loses nothing, and carries no low
part of a byte onto the high part of the next. -/
structure BurstRegister : Prop where
  additive : Additive T
  injective : ∀ byte, T byte = 0 → byte = 0
  separates : ∀ width ≤ 8, ∀ first second : Byte, first ≠ 0 → first.toNat < 2 ^ width →
    2 ^ width ∣ second.toNat → T first ≠ second

variable {T}

theorem Additive.map_zero (additive : Additive T) : T 0 = 0 := by
  have twice := additive 0 0
  rwa [UInt8.xor_self, UInt8.xor_self] at twice

/-- **Errors add up**: the register behind a damaged string. -/
theorem Additive.fold_xor (additive : Additive T) (register damage : Byte)
    {bytes error : List Byte} (length : error.length = bytes.length) :
    (xorBytes bytes error).foldl (feed T) (register ^^^ damage) =
      bytes.foldl (feed T) register ^^^ error.foldl (feed T) damage := by
  induction bytes generalizing register damage error with
  | nil =>
      obtain rfl := List.length_eq_zero_iff.mp length
      rfl
  | cons byte rest ih =>
      cases error with
      | nil => exact absurd length (by simp)
      | cons flip error =>
          have swap : register ^^^ damage ^^^ (byte ^^^ flip) =
              (register ^^^ byte) ^^^ (damage ^^^ flip) := by ac_rfl
          rw [xorBytes_cons, List.foldl_cons, List.foldl_cons, List.foldl_cons]
          rw [feed, swap, additive]
          exact ih _ _ (Nat.succ.inj length)

/-- The register behind a string with one more byte, which is its checksum or differs from it. -/
theorem fold_append_singleton (bytes : List Byte) (last : Byte) :
    (bytes ++ [last]).foldl (feed T) 0 = T (bytes.foldl (feed T) 0 ^^^ last) := by
  rw [List.foldl_append]
  rfl

theorem Additive.fold_checksum (additive : Additive T) (bytes : List Byte) :
    (bytes ++ [bytes.foldl (feed T) 0]).foldl (feed T) 0 = 0 := by
  rw [fold_append_singleton, UInt8.xor_self, additive.map_zero]

/-- Zeros behind a string leave the register at zero or away from it. -/
theorem BurstRegister.fold_zeros (shows : BurstRegister T) {register : Byte}
    (nonzero : register ≠ 0) {zeros : List Byte} (zero : ∀ byte ∈ zeros, byte = 0) :
    zeros.foldl (feed T) register ≠ 0 := by
  induction zeros generalizing register with
  | nil => exact nonzero
  | cons byte rest ih =>
      rw [List.forall_mem_cons] at zero
      rw [List.foldl_cons, feed, zero.1, UInt8.xor_zero]
      exact ih (fun lost => nonzero (shows.injective register lost)) zero.2

/-- **A burst leaves the register away from zero.** -/
theorem BurstRegister.fold_burst (shows : BurstRegister T) {error : List Byte}
    (burst : Burst error) : error.foldl (feed T) 0 ≠ 0 := by
  induction error with
  | nil =>
      obtain ⟨byte, member, -⟩ := burst.nonzero
      exact absurd member List.not_mem_nil
  | cons first rest ih =>
      rw [List.foldl_cons, feed, UInt8.zero_xor]
      rcases eq_or_ne first 0 with rfl | nonzero
      · rw [shows.additive.map_zero]
        exact ih burst.tail
      · obtain ⟨zeros, width, narrow, low, high⟩ := burst.split nonzero
        cases rest with
        | nil => exact fun lost => nonzero (shows.injective first lost)
        | cons second rest =>
            rw [List.foldl_cons]
            apply shows.fold_zeros _ zeros
            intro lost
            have equal := shows.injective _ lost
            rw [UInt8.xor_eq_zero_iff] at equal
            exact shows.separates width narrow first second nonzero low (high second rfl) equal

/-- **A burst is told.** When a string with its checksum is damaged by a burst, the last byte
is not the checksum of the others. -/
theorem BurstRegister.checksum_ne (shows : BurstRegister T)
    {bytes damaged error : List Byte} {last : Byte} (burst : Burst error)
    (length : error.length = bytes.length + 1)
    (damage : xorBytes (bytes ++ [bytes.foldl (feed T) 0]) error = damaged ++ [last]) :
    damaged.foldl (feed T) 0 ≠ last := by
  rintro rfl
  have lengths : error.length = (bytes ++ [bytes.foldl (feed T) 0]).length := by
    rw [length, List.length_append, List.length_singleton]
  have sum := shows.additive.fold_xor 0 0 lengths
  rw [damage, UInt8.xor_self, shows.additive.fold_checksum, shows.additive.fold_checksum,
    UInt8.zero_xor] at sum
  exact shows.fold_burst burst sum.symm

end Register

end Checksum

end MobileGs
