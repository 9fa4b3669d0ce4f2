import Mathlib.Algebra.Group.Nat.Defs
import Mathlib.Data.List.Basic

/-!
# Running summaries of signed bytes

Count, sum, least and greatest of a list of signed bytes can be kept in machine integers while the
list grows. With fewer than `2 ^ 24` entries nothing wraps (`Summarizes.concat`), and the quotient
of sum and count, narrowed to a byte, is the truncated mean, which lies between the least and the
greatest entry (`Summarizes.exact`).
-/

set_option autoImplicit false

namespace MobileGs

/-- The sum of a list of signed bytes. -/
def sumOf (values : List Int8) : ℤ := values.foldr (fun value sum => value.toInt + sum) 0

theorem sumOf_append (values more : List Int8) :
    sumOf (values ++ more) = sumOf values + sumOf more := by
  induction values with
  | nil => exact (Int.zero_add _).symm
  | cons value rest ih =>
      change value.toInt + sumOf (rest ++ more) = value.toInt + sumOf rest + sumOf more
      rw [ih, Int.add_assoc]

/-- A sum lies between the bounds of its entries, as often as there are entries. -/
theorem sumOf_mem {values : List Int8} {low high : ℤ}
    (bounded : ∀ value ∈ values, low ≤ value.toInt ∧ value.toInt ≤ high) :
    low * values.length ≤ sumOf values ∧ sumOf values ≤ high * values.length := by
  induction values with
  | nil => simp [sumOf]
  | cons value rest ih =>
      obtain ⟨lower, upper⟩ := bounded value List.mem_cons_self
      obtain ⟨lowers, uppers⟩ := ih fun other among => bounded other (List.mem_cons_of_mem _ among)
      change low * ((rest.length + 1 : ℕ) : ℤ) ≤ value.toInt + sumOf rest ∧
        value.toInt + sumOf rest ≤ high * ((rest.length + 1 : ℕ) : ℤ)
      push_cast
      rw [Int.mul_add, Int.mul_add]
      omega

/-- A truncated mean lies between the bounds of what it is the mean of. -/
theorem tdiv_mem {low high sum count : ℤ} (positive : 0 < count) (lower : low * count ≤ sum)
    (upper : sum ≤ high * count) : low ≤ sum.tdiv count ∧ sum.tdiv count ≤ high := by
  refine ⟨Int.le_tdiv_of_mul_le positive lower, ?_⟩
  have divided := Int.tdiv_le_tdiv positive upper
  rwa [Int.mul_tdiv_cancel _ (Int.ne_of_gt positive)] at divided

/-- A value is the least of a list. -/
def IsLeastOf (least : Int8) (values : List Int8) : Prop :=
  least ∈ values ∧ ∀ value ∈ values, least.toInt ≤ value.toInt

/-- A value is the greatest of a list. -/
def IsGreatestOf (greatest : Int8) (values : List Int8) : Prop :=
  greatest ∈ values ∧ ∀ value ∈ values, value.toInt ≤ greatest.toInt

theorem toInt_le_of_mem_singleton {value other : Int8} (among : other ∈ [value]) :
    value.toInt ≤ other.toInt ∧ other.toInt ≤ value.toInt := by
  rw [List.mem_singleton.mp among]
  exact ⟨Int.le_refl _, Int.le_refl _⟩

theorem isLeastOf_singleton (value : Int8) : IsLeastOf value [value] :=
  ⟨List.mem_singleton_self value, fun _ among => (toInt_le_of_mem_singleton among).1⟩

theorem isGreatestOf_singleton (value : Int8) : IsGreatestOf value [value] :=
  ⟨List.mem_singleton_self value, fun _ among => (toInt_le_of_mem_singleton among).2⟩

theorem IsLeastOf.concat {least : Int8} {values : List Int8} (isLeast : IsLeastOf least values)
    (value : Int8) : IsLeastOf (min least value) (values ++ [value]) := by
  obtain ⟨member, below⟩ := isLeast
  by_cases le : least ≤ value
  · have taken : min least value = least := if_pos le
    rw [Int8.le_iff_toInt_le] at le
    rw [taken]
    refine ⟨List.mem_append_left _ member, fun other among => ?_⟩
    rcases List.mem_append.mp among with old | new
    · exact below other old
    · rwa [List.mem_singleton.mp new]
  · have taken : min least value = value := if_neg le
    rw [Int8.le_iff_toInt_le, Int.not_le] at le
    rw [taken]
    refine ⟨List.mem_append_right _ (List.mem_singleton_self value), fun other among => ?_⟩
    rcases List.mem_append.mp among with old | new
    · have bound := below other old
      omega
    · exact (toInt_le_of_mem_singleton new).1

theorem IsGreatestOf.concat {greatest : Int8} {values : List Int8}
    (isGreatest : IsGreatestOf greatest values) (value : Int8) :
    IsGreatestOf (max greatest value) (values ++ [value]) := by
  obtain ⟨member, above⟩ := isGreatest
  by_cases le : greatest ≤ value
  · have taken : max greatest value = value := if_pos le
    rw [Int8.le_iff_toInt_le] at le
    rw [taken]
    refine ⟨List.mem_append_right _ (List.mem_singleton_self value), fun other among => ?_⟩
    rcases List.mem_append.mp among with old | new
    · have bound := above other old
      omega
    · exact (toInt_le_of_mem_singleton new).2
  · have taken : max greatest value = greatest := if_neg le
    rw [Int8.le_iff_toInt_le, Int.not_le] at le
    rw [taken]
    refine ⟨List.mem_append_left _ member, fun other among => ?_⟩
    rcases List.mem_append.mp among with old | new
    · exact above other old
    · rw [List.mem_singleton.mp new]
      omega

/-- Count, sum, least and greatest of a list, kept in machine integers. -/
structure Summarizes (values : List Int8) (count sum : Int32) (least greatest : Int8) : Prop where
  count_eq : count.toInt = values.length
  sum_eq : sum.toInt = sumOf values
  isLeast : values ≠ [] → IsLeastOf least values
  isGreatest : values ≠ [] → IsGreatestOf greatest values

/-- Least, truncated mean and greatest of a list. -/
structure ExactStats (values : List Int8) (least mean greatest : Int8) : Prop where
  isLeast : IsLeastOf least values
  isGreatest : IsGreatestOf greatest values
  mean_eq : mean.toInt = (sumOf values).tdiv values.length
  ordered : least.toInt ≤ mean.toInt ∧ mean.toInt ≤ greatest.toInt

theorem summarizes_nil (least greatest : Int8) : Summarizes [] 0 0 least greatest where
  count_eq := rfl
  sum_eq := rfl
  isLeast := fun nonempty => absurd rfl nonempty
  isGreatest := fun nonempty => absurd rfl nonempty

namespace Summarizes

variable {values : List Int8} {count sum : Int32} {least greatest : Int8}

theorem count_eq_zero_iff (summary : Summarizes values count sum least greatest) :
    count = 0 ↔ values = [] := by
  rw [← Int32.toInt_inj, summary.count_eq, Int32.toInt_zero, Int.natCast_eq_zero,
    List.length_eq_zero_iff]

/-- One more entry. -/
theorem concat (summary : Summarizes values count sum least greatest) (value : Int8)
    (few : values.length + 1 < 2 ^ 24) :
    Summarizes (values ++ [value]) (count + 1) (sum + value.toInt32)
      (if count = 0 then value else min least value)
      (if count = 0 then value else max greatest value) := by
  have bounds := @sumOf_mem values (-128) 127 fun v _ =>
    ⟨v.le_toInt, Int.le_of_lt_add_one v.toInt_lt⟩
  have valueLe := value.le_toInt
  have valueLt := value.toInt_lt
  constructor
  · rw [Int32.toInt_add, summary.count_eq, List.length_append, List.length_singleton]
    exact Int.bmod_eq_of_le (by simp; omega) (by simp; omega)
  · rw [Int32.toInt_add, summary.sum_eq, Int8.toInt_toInt32, sumOf_append]
    have one : sumOf [value] = value.toInt := Int.add_zero _
    rw [one]
    exact Int.bmod_eq_of_le (by omega) (by omega)
  · intro _
    split
    · rename_i zero
      rw [summary.count_eq_zero_iff.mp zero]
      exact isLeastOf_singleton value
    · rename_i some
      exact (summary.isLeast fun none => some (summary.count_eq_zero_iff.mpr none)).concat value
  · intro _
    split
    · rename_i zero
      rw [summary.count_eq_zero_iff.mp zero]
      exact isGreatestOf_singleton value
    · rename_i some
      exact (summary.isGreatest fun none => some (summary.count_eq_zero_iff.mpr none)).concat value

/-- **The quotient is the mean**, and none of it is lost in a byte. -/
theorem exact (summary : Summarizes values count sum least greatest) (nonempty : values ≠ []) :
    ExactStats values least (sum / count).toInt8 greatest := by
  have isLeast := summary.isLeast nonempty
  have isGreatest := summary.isGreatest nonempty
  have positive : (0 : ℤ) < values.length :=
    Int.natCast_pos.mpr (List.length_pos_iff.mpr nonempty)
  have bounds := @sumOf_mem values least.toInt greatest.toInt fun v among =>
    ⟨isLeast.2 v among, isGreatest.2 v among⟩
  have between := tdiv_mem positive bounds.1 bounds.2
  have lower := least.le_toInt
  have upper := greatest.toInt_lt
  have quotient : (sum / count).toInt = (sumOf values).tdiv values.length := by
    rw [Int32.toInt_div_of_ne_right _ _ ?_, summary.sum_eq, summary.count_eq]
    rintro rfl
    have negative := summary.count_eq
    rw [show Int32.toInt (-1) = -1 from rfl] at negative
    omega
  have mean : (sum / count).toInt8.toInt = (sumOf values).tdiv values.length := by
    rw [Int32.toInt_toInt8, quotient]
    exact Int.bmod_eq_of_le (by omega) (by omega)
  exact ⟨isLeast, isGreatest, mean, by rw [mean]; exact between⟩

end Summarizes

end MobileGs
