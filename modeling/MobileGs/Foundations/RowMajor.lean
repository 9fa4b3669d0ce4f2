import Mathlib.Data.List.Range

/-!
# Tables row by row

A table with `rows` rows and `cols` columns as a list, row by row. The entry in row `r` and
column `c` stands at index `r * cols + c`, inside the list (`rowMajor_index_lt`), and storing there
changes that entry and no other (`rowMajor_set`).
-/

set_option autoImplicit false

namespace MobileGs

universe u

variable {α : Type u}

/-- The entries of a table, row by row. -/
def rowMajor (rows cols : ℕ) (entry : ℕ → ℕ → α) : List α :=
  (List.range (rows * cols)).map fun i => entry (i / cols) (i % cols)

@[simp] theorem length_rowMajor (rows cols : ℕ) (entry : ℕ → ℕ → α) :
    (rowMajor rows cols entry).length = rows * cols := by
  rw [rowMajor, List.length_map, List.length_range]

theorem rowMajor_const (rows cols : ℕ) (a : α) :
    rowMajor rows cols (fun _ _ => a) = List.replicate (rows * cols) a := by
  rw [rowMajor, List.map_const', List.length_range]

/-- An entry of a row stands in front of the next row. -/
theorem rowMajor_index_lt {rows cols row col : ℕ} (inRow : row < rows) (inCol : col < cols) :
    row * cols + col < rows * cols :=
  calc row * cols + col < row * cols + cols := Nat.add_lt_add_left inCol _
    _ = (row + 1) * cols := (Nat.succ_mul row cols).symm
    _ ≤ rows * cols := Nat.mul_le_mul_right _ inRow

/-- **Storing at the index of an entry changes that entry.** -/
theorem rowMajor_set {rows cols row col : ℕ} (entry : ℕ → ℕ → α) (a : α) (within : col < cols) :
    (rowMajor rows cols entry).set (row * cols + col) a =
      rowMajor rows cols fun r c => if r = row ∧ c = col then a else entry r c := by
  apply List.ext_getElem (by simp)
  intro i inside inside'
  have position : row * cols + col = i ↔ i / cols = row ∧ i % cols = col := by
    constructor
    · rintro rfl
      rw [Nat.add_comm, Nat.add_mul_div_right _ _ (Nat.zero_lt_of_lt within),
        Nat.add_mul_mod_self_right, Nat.div_eq_of_lt within, Nat.mod_eq_of_lt within]
      exact ⟨Nat.zero_add row, rfl⟩
    · rintro ⟨rfl, rfl⟩
      rw [Nat.mul_comm]
      exact Nat.div_add_mod i cols
  rw [List.getElem_set]
  simp only [rowMajor, List.getElem_map, List.getElem_range, position]

end MobileGs
