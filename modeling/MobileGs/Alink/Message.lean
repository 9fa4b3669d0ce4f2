import MobileGs.Alink.Controller

/-!
# Messages and their fields

The air unit takes a message apart at its colons (`fieldsOf`). A printed number is short and has
no colon in it, so ten of them fit into the buffer (`printed_messageFields`), and a message falls
apart into the ten fields it was made of and the code of the request, if there is one
(`fieldsOf_update`).
-/

set_option autoImplicit false

namespace MobileGs

namespace Alink

open Wfb

/-- The fields of a message. -/
def fieldsOf (message : List Char) : List (List Char) := message.splitOn ':'

/-! ## Numbers -/

theorem colon_notMem_toDigits (n : ℕ) : ':' ∉ Nat.toDigits 10 n := by
  intro colon
  have digit := Nat.isDigit_of_mem_toDigits (by decide) (by decide) colon
  exact absurd digit (by decide)

theorem colon_notMem_decimal (value : ℤ) : ':' ∉ decimal value := by
  rw [decimal]
  split
  · rw [List.mem_cons, not_or]
    exact ⟨by decide, colon_notMem_toDigits _⟩
  · exact colon_notMem_toDigits _

theorem length_toDigits_le {n k : ℕ} (positive : 0 < k) (small : n < 10 ^ k) :
    (Nat.toDigits 10 n).length ≤ k :=
  (Nat.length_toDigits_le_iff (by decide) positive).mpr small

theorem length_decimal_uint64 (value : UInt64) : (decimal value.toNat).length ≤ 20 := by
  have bound := value.toNat_lt
  rw [decimal, if_neg (Int.not_lt.mpr (Int.natCast_nonneg _)), Int.natAbs_natCast]
  exact length_toDigits_le (by decide) (by omega)

theorem length_decimal_int32 (value : Int32) : (decimal value.toInt).length ≤ 20 := by
  have lower := value.le_toInt
  have upper := value.toInt_lt
  have digits : (Nat.toDigits 10 value.toInt.natAbs).length ≤ 19 :=
    length_toDigits_le (by decide) (by omega)
  rw [decimal]
  split
  · rw [List.length_cons]
    omega
  · omega

/-- A code has no colon in it. -/
theorem IdrCode.colon_notMem (code : IdrCode) : ':' ∉ code.letters := by
  intro colon
  exact absurd (List.all_eq_true.mp code.lowercase ':' colon) (by decide)

theorem IdrCode.letters_ne_nil (code : IdrCode) : code.letters ≠ [] := by
  intro none
  have length := code.length_eq
  rw [none] at length
  exact absurd length (by decide)

/-! ## Joining and splitting -/

theorem length_intercalate_le {fields : List (List Char)} {bound : ℕ}
    (short : ∀ field ∈ fields, field.length ≤ bound) :
    (List.intercalate [':'] fields).length ≤ fields.length * (bound + 1) := by
  induction fields with
  | nil => exact Nat.zero_le _
  | cons field rest ih =>
      have head := short field List.mem_cons_self
      have tail := ih fun other among => short other (List.mem_cons_of_mem _ among)
      rw [List.length_cons, Nat.succ_mul]
      cases rest with
      | nil =>
          rw [List.intercalate_singleton]
          omega
      | cons second rest =>
          rw [List.intercalate_cons_cons, List.length_append, List.length_append,
            List.length_singleton]
          omega

/-! ## The message of an update -/

section Printed

variable {R : Type} [NatCast R] (libm : Libm R)

/-- Every field is a printed number. -/
theorem mem_messageFields {snapshot : LinkSnapshot} {unixTimeS : UInt64} {score change : Int32}
    {penalty : R} {field : List Char}
    (among : field ∈ messageFields libm snapshot unixTimeS score penalty change) :
    field.length ≤ 20 ∧ ':' ∉ field := by
  simp only [messageFields, List.mem_cons, List.not_mem_nil, or_false] at among
  rcases among with rfl | rfl | rfl | rfl | rfl | rfl | rfl | rfl | rfl | rfl
  · exact ⟨length_decimal_uint64 _, colon_notMem_decimal _⟩
  all_goals exact ⟨length_decimal_int32 _, colon_notMem_decimal _⟩

/-- **The buffer never cuts a message off.** -/
theorem printed_messageFields (snapshot : LinkSnapshot) (unixTimeS : UInt64)
    (score change : Int32) (penalty : R) :
    printed (messageFields libm snapshot unixTimeS score penalty change) =
      List.intercalate [':'] (messageFields libm snapshot unixTimeS score penalty change) := by
  apply List.take_of_length_le
  have short := length_intercalate_le
    fun field (among : field ∈ messageFields libm snapshot unixTimeS score penalty change) =>
      (mem_messageFields libm among).1
  have ten : (messageFields libm snapshot unixTimeS score penalty change).length = 10 := rfl
  rw [ten] at short
  omega

end Printed

variable {R : Type} [Add R] [Sub R] [Mul R] [Div R] [Neg R] [LT R] [DecidableLT R] [LE R]
  [DecidableLE R] [BEq R] [NatCast R] [IntCast R] [OfScientific R] (libm : Libm R)

/-- The ten fields of the message of an update. -/
def AlinkController.reported (controller : AlinkController R) (call : Call) : List (List Char) :=
  let result := (controller.update libm call).2
  messageFields libm call.snapshot call.unixTimeS result.score result.penalty result.fecChange

theorem AlinkController.length_reported (controller : AlinkController R) (call : Call) :
    (controller.reported libm call).length = 10 := rfl

/-- A message starts with its ten numbers, whatever request stands behind them. -/
theorem fieldsOf_message (controller : AlinkController R) (call : Call) :
    fieldsOf (controller.update libm call).2.message =
      if (controller.update libm call).2.idrCode = [] then controller.reported libm call
      else
        controller.reported libm call ++ fieldsOf (controller.update libm call).2.idrCode := by
  have message : (controller.update libm call).2.message =
      if (controller.update libm call).2.idrCode = [] then
        printed (controller.reported libm call)
      else printed (controller.reported libm call) ++
        ':' :: (controller.update libm call).2.idrCode := rfl
  have uncut : printed (controller.reported libm call) =
      List.intercalate [':'] (controller.reported libm call) :=
    printed_messageFields libm _ _ _ _ _
  have numbers : ∀ field ∈ controller.reported libm call, ':' ∉ field :=
    fun field among => (mem_messageFields libm among).2
  have nonempty : controller.reported libm call ≠ [] := by
    intro none
    have length := controller.length_reported libm call
    rw [none] at length
    exact absurd length (by decide)
  have split := List.splitOn_intercalate ':' numbers nonempty
  rw [message, uncut, fieldsOf]
  split
  · exact split
  · rw [List.splitOn_append_cons_self, split, fieldsOf]

/-- **The fields of a message** are the ten numbers and behind them the code of the request, if
there is one. -/
theorem fieldsOf_update (controller : AlinkController R) (call : Call)
    (noColon : ':' ∉ (controller.update libm call).2.idrCode) :
    fieldsOf (controller.update libm call).2.message =
      if (controller.update libm call).2.idrCode = [] then controller.reported libm call
      else controller.reported libm call ++ [(controller.update libm call).2.idrCode] := by
  have code : fieldsOf (controller.update libm call).2.idrCode =
      [(controller.update libm call).2.idrCode] := List.splitOn_eq_singleton noColon
  rw [fieldsOf_message, code]

end Alink

end MobileGs
