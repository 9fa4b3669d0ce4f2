import Mathlib.Analysis.Convex.Basic
import MobileGs.Foundations.Mealy

/-!
# Running means

A position that moves a share of the way towards each input stays between the least and the greatest
of the value it started from and the inputs so far (`hull`). The shares may differ from step to step
and may depend on the state, as long as each of them is one of 0 to 1 (`mem_hull_of_moves`).
-/

set_option autoImplicit false

namespace MobileGs

universe u v w

section Order

variable {α : Type v} [LinearOrder α]

/-- From the least to the greatest of an initial value and a list. -/
def hull (initial : α) (list : List α) : Set α :=
  Set.Icc (list.foldl min initial) (list.foldl max initial)

theorem mem_hull_nil (initial : α) : initial ∈ hull initial [] := ⟨le_refl _, le_refl _⟩

/-- One more value widens the hull. -/
theorem hull_subset_concat (initial : α) (list : List α) (value : α) :
    hull initial list ⊆ hull initial (list ++ [value]) := by
  rintro x ⟨lower, upper⟩
  rw [hull, List.foldl_concat, List.foldl_concat]
  exact ⟨(min_le_left _ _).trans lower, upper.trans (le_max_left _ _)⟩

theorem mem_hull_concat (initial : α) (list : List α) (value : α) :
    value ∈ hull initial (list ++ [value]) := by
  rw [hull, List.foldl_concat, List.foldl_concat]
  exact ⟨min_le_right _ _, le_max_right _ _⟩

end Order

variable {α : Type v} [Field α] [LinearOrder α] [IsStrictOrderedRing α]

/-- A point moved a share of the way towards a new value. -/
theorem moved_mem_hull {initial position value share : α} {list : List α}
    (inside : position ∈ hull initial list) (nonneg : 0 ≤ share) (le : share ≤ 1) :
    position + share * (value - position) ∈ hull initial (list ++ [value]) := by
  have convex : Convex α (hull initial (list ++ [value])) := convex_Icc _ _
  exact convex.add_smul_sub_mem (hull_subset_concat initial list value inside)
    (mem_hull_concat initial list value) ⟨nonneg, le⟩

/-- **A running mean stays in the hull** of its first value and the inputs. -/
theorem mem_hull_of_moves {σ : Type u} {ο : Type w} {m : Mealy σ α ο} (position : σ → α)
    (kept : σ → Prop) (keeps : ∀ s i, kept s → kept (m.step s i).1)
    (moves : ∀ s i, kept s → ∃ share, 0 ≤ share ∧ share ≤ 1 ∧
      position (m.step s i).1 = position s + share * (i - position s))
    {s : σ} (start : kept s) (inputs : List α) :
    kept (m.after s inputs) ∧ position (m.after s inputs) ∈ hull (position s) inputs := by
  induction inputs using List.reverseRecOn with
  | nil => exact ⟨start, mem_hull_nil _⟩
  | append_singleton inputs i ih =>
      obtain ⟨held, inside⟩ := ih
      obtain ⟨share, nonneg, le, moved⟩ := moves _ i held
      rw [Mealy.after_concat, moved]
      exact ⟨keeps _ i held, moved_mem_hull inside nonneg le⟩

end MobileGs
