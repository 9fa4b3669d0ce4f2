import MobileGs.Foundations.UnpackedFloats

/-!
# Floats

What Lean's floats, the doubles of the machine, stand for (`toDouble`): a number of binary64, an
infinity or no number, without the sign of a zero. Their operations are those of `Double`, of which
each gives the exact result, rounded (`toDouble_add`, `toDouble_sub`, `toDouble_mul`,
`toDouble_div`), and they compare as what they stand for (`le_iff`, `lt_iff`, `beq_iff`). Of a
division the divisor is not to be a zero, whose sign would count.
-/

set_option autoImplicit false

namespace MobileGs

namespace Binary64

open Float.Model Float.Model.UnpackedFloat

/-! ## What a float stands for -/

/-- A double is a number in the form packing expects, or none. -/
inductive Form : UnpackedFloat → Prop where
  | nan : Form .notANumber
  | infinity (sign : Sign) : Form (.infinity sign)
  | number {u : UnpackedFloat} (normalized : Normalized u) (small : |value u| < 2 ^ 1024) : Form u

theorem form_unpack (x : Float) : Form x.toModel.unpack := by
  rcases normalized_unpack x.toModel.toBits.toBitVec with nan | ⟨sign, infinity⟩ |
      ⟨normalized, small⟩
  · rw [Float.Model.unpack, nan]
    exact .nan
  · rw [Float.Model.unpack, infinity]
    exact .infinity sign
  · exact .number normalized small

/-- What an unpacked double stands for. -/
def ofUnpacked : UnpackedFloat → Double
  | .notANumber => .nan
  | .infinity .negative => .infinity true
  | .infinity .positive => .infinity false
  | u => .number (value u)

theorem Normalized.ofUnpacked {u : UnpackedFloat} (normalized : Normalized u) :
    ofUnpacked u = .number (value u) := by
  cases normalized <;> rfl

/-- What is left of a result when it is packed. -/
theorem ofUnpacked_pack_number {u : UnpackedFloat} (normalized : Normalized u) :
    Binary64.ofUnpacked (Float.Model.pack u).unpack = Double.clamp (value u) := by
  change Binary64.ofUnpacked (UnpackedFloat.unpack .binary64 (UnpackedFloat.pack .binary64 u)) = _
  cases normalized with
  | zero sign =>
      change Binary64.ofUnpacked (UnpackedFloat.unpack .binary64 (packedZero .binary64 sign)) = _
      rw [unpack_packedZero, Double.clamp_of_lt (abs_value_zero_lt sign)]
      rfl
  | @finite sign m e positive bits least full =>
      rw [unpack_pack_finite sign positive bits least full]
      by_cases fits : e < 972
      · rw [if_pos fits, Double.clamp_of_lt (abs_value_lt sign positive bits fits)]
        rfl
      · have size : (2 : ℚ) ^ 1024 ≤ m * 2 ^ e := by
          calc (2 : ℚ) ^ 1024 = 2 ^ (1024 : ℤ) := (zpow_natCast 2 1024).symm
            _ ≤ 2 ^ (e + (52 : ℕ)) := two_zpow_le (by push_cast; omega)
            _ = ((2 ^ 52 : ℤ) : ℚ) * 2 ^ e := two_zpow_add e 52
            _ ≤ m * 2 ^ e :=
                mul_le_mul_of_nonneg_right (by exact_mod_cast full (by omega)) (two_zpow_pos e).le
        rw [if_neg fits]
        cases sign
        · exact (Double.clamp_neg_of_le size).symm
        · exact (Double.clamp_of_le size).symm

/-- A rounded result is packed as the double nearest to it. -/
theorem ofUnpacked_pack {u : UnpackedFloat} {q : ℚ}
    (spec : Normalized u ∧ value u = rounded q) :
    Binary64.ofUnpacked (Float.Model.pack u).unpack = Double.ofRat q := by
  rw [ofUnpacked_pack_number spec.1, spec.2, Double.ofRat]

theorem ofUnpacked_pack_infinity (sign : Sign) :
    Binary64.ofUnpacked (Float.Model.pack (.infinity sign)).unpack =
      Binary64.ofUnpacked (.infinity sign) :=
  congrArg Binary64.ofUnpacked (unpack_packedInfinity sign)

theorem ofUnpacked_pack_nan :
    Binary64.ofUnpacked (Float.Model.pack .notANumber).unpack = .nan :=
  congrArg Binary64.ofUnpacked unpack_packedNaN

/-- What a float stands for. -/
def toDouble (x : Float) : Double := ofUnpacked x.toModel.unpack

/-- A float that is a number is one of the format. -/
theorem representable_of_toDouble {x : Float} {q : ℚ} (number : toDouble x = .number q) :
    Representable q := by
  have form := form_unpack x
  unfold toDouble at number
  generalize x.toModel.unpack = u at form number
  cases form with
  | nan => cases number
  | infinity sign => cases sign <;> cases number
  | number normalized small =>
      rw [normalized.ofUnpacked] at number
      cases number
      exact normalized.representable

theorem value_finite_ne_zero (sign : Sign) {m : ℕ} (e : ℤ) (positive : 0 < m) :
    value (.finite sign m e positive) ≠ 0 := fun zero =>
  (magnitude_pos positive e).ne' (signed_eq_zero.mp zero)

/-- The sign of a number that is not zero. -/
theorem value_finite_neg (sign : Sign) {m : ℕ} (e : ℤ) (positive : 0 < m) :
    decide (value (.finite sign m e positive) < 0) = (sign == .negative) := by
  have above := magnitude_pos positive e
  cases sign
  · exact decide_eq_true (neg_lt_zero.mpr above)
  · exact decide_eq_false (not_lt.mpr above.le)

theorem ofUnpacked_infinity (sign : Sign) :
    Binary64.ofUnpacked (.infinity sign) = .infinity (sign == .negative) := by
  cases sign <;> rfl

theorem ofUnpacked_finite (sign : Sign) {m : ℕ} (e : ℤ) (positive : 0 < m) :
    Binary64.ofUnpacked (.finite sign m e positive) =
      .number (value (.finite sign m e positive)) := rfl

theorem ofUnpacked_add {u v : UnpackedFloat} (left : Form u) (right : Form v) :
    Binary64.ofUnpacked (Float.Model.pack (UnpackedFloat.add .binary64 u v)).unpack =
      (Binary64.ofUnpacked u).add (Binary64.ofUnpacked v) := by
  cases left with
  | nan => exact ofUnpacked_pack_nan
  | infinity s =>
      cases right with
      | nan => cases s <;> exact ofUnpacked_pack_nan
      | infinity t =>
          cases s <;> cases t
          · exact ofUnpacked_pack_infinity _
          · exact ofUnpacked_pack_nan
          · exact ofUnpacked_pack_nan
          · exact ofUnpacked_pack_infinity _
      | number normalized small =>
          cases s <;> cases normalized <;> exact ofUnpacked_pack_infinity _
  | number normalized small =>
      cases right with
      | nan => cases normalized <;> exact ofUnpacked_pack_nan
      | infinity t => cases t <;> cases normalized <;> exact ofUnpacked_pack_infinity _
      | number normalized' small' =>
          rw [ofUnpacked_pack (add_spec normalized normalized'), normalized.ofUnpacked,
            normalized'.ofUnpacked]
          rfl

theorem toDouble_add (x y : Float) : toDouble (x + y) = (toDouble x).add (toDouble y) :=
  ofUnpacked_add (form_unpack x) (form_unpack y)

theorem Form.neg {u : UnpackedFloat} (form : Form u) :
    Form u.neg ∧ Binary64.ofUnpacked u.neg = (Binary64.ofUnpacked u).neg := by
  cases form with
  | nan => exact ⟨.nan, rfl⟩
  | infinity s => exact ⟨.infinity _, by cases s <;> rfl⟩
  | number normalized small =>
      obtain ⟨form, turned⟩ := neg_spec normalized
      refine ⟨.number form (by rwa [turned, abs_neg]), ?_⟩
      rw [form.ofUnpacked, normalized.ofUnpacked, turned]
      rfl

theorem toDouble_sub (x y : Float) : toDouble (x - y) = (toDouble x).sub (toDouble y) := by
  change Binary64.ofUnpacked (Float.Model.pack
    (UnpackedFloat.sub .binary64 x.toModel.unpack y.toModel.unpack)).unpack = _
  obtain ⟨form, turned⟩ := (form_unpack y).neg
  rw [sub_eq_add_neg, ofUnpacked_add (form_unpack x) form, turned]
  rfl

theorem toDouble_neg (x : Float) : toDouble (-x) = (toDouble x).neg := by
  change Binary64.ofUnpacked (Float.Model.pack x.toModel.unpack.neg).unpack = _
  obtain ⟨form, turned⟩ := (form_unpack x).neg
  rw [toDouble, ← turned]
  generalize x.toModel.unpack.neg = u at form
  cases form with
  | nan => exact ofUnpacked_pack_nan
  | infinity s => exact ofUnpacked_pack_infinity s
  | number normalized small =>
      rw [ofUnpacked_pack_number normalized, Double.clamp_of_lt small, normalized.ofUnpacked]

theorem toDouble_mul (x y : Float) : toDouble (x * y) = (toDouble x).mul (toDouble y) := by
  change Binary64.ofUnpacked (Float.Model.pack
    (UnpackedFloat.mul .binary64 x.toModel.unpack y.toModel.unpack)).unpack = _
  unfold toDouble
  have left := form_unpack x
  have right := form_unpack y
  generalize x.toModel.unpack = u at left
  generalize y.toModel.unpack = v at right
  cases left with
  | nan => exact ofUnpacked_pack_nan
  | infinity s =>
      cases right with
      | nan => cases s <;> exact ofUnpacked_pack_nan
      | infinity t => cases s <;> cases t <;> exact ofUnpacked_pack_infinity _
      | number normalized small =>
          cases normalized with
          | zero t => cases s <;> exact ofUnpacked_pack_nan
          | finite t positive bits least full =>
              refine (ofUnpacked_pack_infinity (s * t)).trans ?_
              rw [ofUnpacked_infinity, ofUnpacked_infinity, ofUnpacked_finite, Double.mul,
                if_neg (value_finite_ne_zero t _ positive), value_finite_neg]
              cases s <;> cases t <;> rfl
  | number normalized small =>
      cases right with
      | nan => cases normalized <;> exact ofUnpacked_pack_nan
      | infinity t =>
          cases normalized with
          | zero s => cases t <;> exact ofUnpacked_pack_nan
          | finite s positive bits least full =>
              refine (ofUnpacked_pack_infinity (s * t)).trans ?_
              rw [ofUnpacked_infinity, ofUnpacked_infinity, ofUnpacked_finite, Double.mul,
                if_neg (value_finite_ne_zero s _ positive), value_finite_neg]
              cases s <;> cases t <;> rfl
      | number normalized' small' =>
          rw [ofUnpacked_pack (mul_spec normalized normalized'), normalized.ofUnpacked,
            normalized'.ofUnpacked]
          rfl

theorem toDouble_div (x y : Float) (divisor : toDouble y ≠ .number 0) :
    toDouble (x / y) = (toDouble x).div (toDouble y) := by
  change Binary64.ofUnpacked (Float.Model.pack
    (UnpackedFloat.div .binary64 x.toModel.unpack y.toModel.unpack)).unpack = _
  unfold toDouble at divisor ⊢
  have left := form_unpack x
  have right := form_unpack y
  generalize x.toModel.unpack = u at left
  generalize y.toModel.unpack = v at right divisor
  cases left with
  | nan => exact ofUnpacked_pack_nan
  | infinity s =>
      cases right with
      | nan => cases s <;> exact ofUnpacked_pack_nan
      | infinity t => cases s <;> cases t <;> exact ofUnpacked_pack_nan
      | number normalized small =>
          cases normalized with
          | zero t => exact absurd rfl divisor
          | finite t positive bits least full =>
              refine (ofUnpacked_pack_infinity (s / t)).trans ?_
              rw [ofUnpacked_infinity, ofUnpacked_infinity, ofUnpacked_finite, Double.div,
                value_finite_neg]
              cases s <;> cases t <;> rfl
  | number normalized small =>
      cases right with
      | nan => cases normalized <;> exact ofUnpacked_pack_nan
      | infinity t =>
          have zero : ∀ sign, Binary64.ofUnpacked (Float.Model.pack (.zero sign)).unpack =
              .number 0 := fun _ => congrArg Binary64.ofUnpacked unpack_packedZero
          cases normalized <;> cases t <;> exact zero _
      | number normalized' small' =>
          rw [normalized'.ofUnpacked] at divisor
          have nonzero : value v ≠ 0 := fun zero => divisor (congrArg Double.number zero)
          rw [ofUnpacked_pack (div_spec normalized normalized' nonzero), normalized.ofUnpacked,
            normalized'.ofUnpacked]
          rfl

/-- Floats compare as what they stand for. -/
theorem compare_toDouble (x y : Float) :
    x.toModel.unpack.compare y.toModel.unpack = (toDouble x).compare (toDouble y) := by
  unfold toDouble
  have left := form_unpack x
  have right := form_unpack y
  generalize x.toModel.unpack = u at left
  generalize y.toModel.unpack = v at right
  cases left with
  | nan => rfl
  | infinity s =>
      cases right with
      | nan => cases s <;> rfl
      | infinity t => cases s <;> cases t <;> rfl
      | number normalized => cases s <;> cases normalized <;> rfl
  | number normalized small =>
      cases right with
      | nan => cases normalized <;> rfl
      | infinity t => cases t <;> cases normalized with
        | zero s => rfl
        | finite s positive bits least full => cases s <;> rfl
      | number normalized' small' =>
          rw [compare_spec normalized normalized', normalized.ofUnpacked, normalized'.ofUnpacked]
          rfl

theorem lt_iff {x y : Float} : x < y ↔ (toDouble x).Lt (toDouble y) := by
  rw [← Double.compare_eq_lt, ← compare_toDouble]
  change decide ((x.toModel.unpack.compare y.toModel.unpack == some .lt) = true) = true ↔ _
  rw [decide_eq_true_iff, beq_iff_eq]

theorem le_iff {x y : Float} : x ≤ y ↔ (toDouble x).Le (toDouble y) := by
  rw [← Double.compare_isLE, ← compare_toDouble]
  change decide ((x.toModel.unpack.compare y.toModel.unpack).any (·.isLE) = true) = true ↔ _
  rw [decide_eq_true_iff]
  rcases x.toModel.unpack.compare y.toModel.unpack with _ | _ | _ | _ <;> decide

theorem beq_iff {x y : Float} :
    (x == y) = true ↔ toDouble x ≠ .nan ∧ toDouble x = toDouble y := by
  rw [← Double.compare_eq_eq, ← compare_toDouble]
  change (x.toModel.unpack.compare y.toModel.unpack == some .eq) = true ↔ _
  rw [beq_iff_eq]

/-! ## Integers -/

theorem toDouble_toFloat (n : UInt64) : toDouble n.toFloat = .ofRat n.toNat := by
  have spec := normalize_spec (n.toNat : ℤ) 0 .positive
  rw [zpow_zero, mul_one, Int.cast_natCast] at spec
  exact ofUnpacked_pack spec

/-- The fast way of a literal multiplies by one. -/
theorem ofNat_eq_toFloat {n : ℕ} (small : n < 2 ^ 53) :
    Float.ofNat n = n.toUInt64.toFloat * Float.ofBits 0x3FF0000000000000 := by
  change Float.ofScientific n false 0 = _
  rw [Float.ofScientific, dif_pos ⟨small, by decide⟩]
  rfl

/-- The slow way gives a literal its bits, and rounds once. -/
theorem ofScientific_spec {n : ℕ} (positive : 0 < n) :
    Normalized (UnpackedFloat.ofScientific .binary64 n 0) ∧
      value (UnpackedFloat.ofScientific .binary64 n 0) = rounded n := by
  have product : UnpackedFloat.ofScientific .binary64 n 0 =
      roundWithAccuracy .binary64 .positive ((n <<< 53) * 10 ^ 0) (-53 + 0) .exact := by
    have least : ¬ (0 : ℤ) < -((2 ^ 11 : ℤ) + n.log2) := by omega
    rw [UnpackedFloat.ofScientific, dif_neg positive.ne', if_neg (by decide), if_neg least,
      if_pos (le_refl 0)]
    rfl
  have log := log2_shiftLeft positive 53
  have spec := roundWithAccuracy_spec .positive (m := (n <<< 53) * 10 ^ 0)
    (e := -53 + 0) (represents_exact _)
    (by rw [pow_zero, mul_one, log]; push_cast; omega)
    (by rw [pow_zero, mul_one, Nat.shiftLeft_eq]; omega)
  rw [product]
  refine ⟨spec.1, spec.2.trans ?_⟩
  have same : (((n <<< 53) * 10 ^ 0 : ℕ) : ℚ) * 2 ^ (-53 + 0 : ℤ) = n := by
    rw [pow_zero, mul_one, Nat.shiftLeft_eq, add_zero, zpow_neg]
    push_cast
    exact mul_inv_cancel_right₀ (by positivity) _
  rw [same, signed]

theorem toDouble_ofNat (n : ℕ) : toDouble (Float.ofNat n) = .ofRat n := by
  by_cases small : n < 2 ^ 53
  · have whole : Representable (n : ℚ) := by
      have integer := representable_intCast (n := n) (by rw [Nat.abs_cast]; exact_mod_cast small.le)
      rwa [Int.cast_natCast] at integer
    have fits : |(n : ℚ)| < 2 ^ 1024 := by
      rw [Nat.abs_cast]
      exact_mod_cast small.trans (Nat.pow_lt_pow_right (by decide) (by decide))
    have one : toDouble (Float.ofBits 0x3FF0000000000000) = .number 1 := by decide +kernel
    have same : n.toUInt64.toNat = n := Nat.mod_eq_of_lt (by omega)
    rw [ofNat_eq_toFloat small, toDouble_mul, toDouble_toFloat, one, same,
      Double.ofRat_eq_self whole fits, Double.mul, mul_one, Double.ofRat_eq_self whole fits]
  · have slow : Float.ofNat n = Float.ofModel (Float.Model.ofScientific n 0) := by
      change Float.ofScientific n false 0 = _
      rw [Float.ofScientific, dif_neg fun fast => small fast.1]
      rfl
    rw [slow]
    exact ofUnpacked_pack (ofScientific_spec (by omega))

theorem toDouble_ofInt (n : ℤ) : toDouble (Float.ofInt n) = .ofRat n := by
  cases n with
  | ofNat n => exact toDouble_ofNat n
  | negSucc n =>
      change toDouble (-Float.ofNat (n + 1)) = _
      rw [toDouble_neg, toDouble_ofNat, ← Double.ofRat_neg, Int.cast_negSucc]

/-- An integer of 53 bits is a float. -/
theorem toDouble_ofInt_of_le {n : ℤ} (small : |n| ≤ 2 ^ 53) :
    toDouble (Float.ofInt n) = .number n := by
  rw [toDouble_ofInt]
  refine Double.ofRat_eq_self (representable_intCast small) ?_
  have bits : |(n : ℚ)| ≤ 2 ^ 53 := by exact_mod_cast small
  exact bits.trans_lt (pow_lt_pow_right₀ one_lt_two (by decide))

/-! ## Signs -/

theorem toDouble_zero : toDouble 0.0 = .number 0 := by decide +kernel

theorem toDouble_one : toDouble 1.0 = .number 1 := by decide +kernel

theorem beq_zero_eq_false_iff {x : Float} : (x == 0.0) = false ↔ toDouble x ≠ .number 0 := by
  rw [Bool.eq_false_iff, ne_eq, beq_iff, toDouble_zero]
  refine not_congr ⟨And.right, fun zero => ⟨?_, zero⟩⟩
  rw [zero]
  exact Double.noConfusion

theorem not_neg_iff {x : Float} : ¬ x < 0.0 ↔ (toDouble x).NotNegative := by
  rw [lt_iff, toDouble_zero]
  exact Double.not_lt_zero_iff _

theorem not_neg_of_le {x : Float} (nonneg : 0.0 ≤ x) : ¬ x < 0.0 := by
  rw [le_iff, toDouble_zero] at nonneg
  rw [not_neg_iff]
  cases view : toDouble x with
  | nan => exact trivial
  | infinity negative =>
      rw [view] at nonneg
      exact nonneg
  | number q =>
      rw [view] at nonneg
      exact nonneg

theorem not_neg_add {x y : Float} (left : ¬ x < 0.0) (right : ¬ y < 0.0) : ¬ x + y < 0.0 := by
  rw [not_neg_iff] at left right ⊢
  rw [toDouble_add]
  exact left.add right

/-- What is not negative and what is positive have a sum to divide by. -/
theorem add_ne_zero {x y : Float} (nonneg : ¬ x < 0.0) (positive : 0.0 < y) :
    (x + y == 0.0) = false := by
  rw [not_neg_iff] at nonneg
  rw [lt_iff, toDouble_zero] at positive
  rw [beq_zero_eq_false_iff, toDouble_add]
  exact Double.add_ne_zero (fun _ => representable_of_toDouble)
    (fun _ => representable_of_toDouble) nonneg positive

/-- The share the first has of the sum leaves nothing negative of it. -/
theorem not_neg_rest {x y : Float} (nonneg : ¬ x < 0.0) (positive : 0.0 < y) :
    ¬ (1.0 - x / (x + y)) * x < 0.0 := by
  have divisor := beq_zero_eq_false_iff.mp (add_ne_zero nonneg positive)
  rw [not_neg_iff] at nonneg ⊢
  rw [lt_iff, toDouble_zero] at positive
  rw [toDouble_mul, toDouble_sub, toDouble_one, toDouble_div _ _ divisor, toDouble_add]
  exact nonneg.rest (Double.fraction_share (fun _ => representable_of_toDouble)
    (fun _ => representable_of_toDouble) nonneg positive)

end Binary64

end MobileGs
