import Mathlib.Data.List.Basic

/-!
# Steps that own a part of a state

A part is a view of a state, and some of the steps own it: they are the only ones that change it,
and what they make of it depends on nothing else of the state (`Owns`). So behind any list of steps
a part is what its own steps make of it (`Owns.foldl_filter`), and steps of different parts can
change places.

`Reordering` is a permutation of steps that keeps the order among those with the same key. Steps
without a key can go anywhere.
-/

set_option autoImplicit false

namespace MobileGs

universe u v w x

section Owns

variable {σ : Type u} {α : Type v} {β : Type w}

/-- The steps that own a part change it by itself, and the others leave it alone. -/
structure Owns (step : σ → α → σ) (own : α → Bool) (part : σ → β) : Prop where
  alone : ∀ s s' a, own a = true → part s = part s' → part (step s a) = part (step s' a)
  others : ∀ s a, own a = false → part (step s a) = part s

variable {step : σ → α → σ} {own : α → Bool} {part : σ → β}

/-- **A part is what its own steps make of it.** -/
theorem Owns.foldl_filter (owns : Owns step own part) {s s' : σ} (same : part s = part s')
    (list : List α) :
    part (list.foldl step s) = part ((list.filter own).foldl step s') := by
  induction list generalizing s s' with
  | nil => exact same
  | cons a rest ih =>
      rw [List.foldl_cons]
      cases mine : own a with
      | true =>
          rw [List.filter_cons_of_pos mine, List.foldl_cons]
          exact ih (owns.alone s s' a mine same)
      | false =>
          rw [List.filter_cons_of_neg (by rw [mine]; exact Bool.false_ne_true)]
          exact ih ((owns.others s a mine).trans same)

/-- Lists that agree on the own steps of a part make the same of it. -/
theorem Owns.foldl_congr (owns : Owns step own part) (s : σ) {list list' : List α}
    (agree : list.filter own = list'.filter own) :
    part (list.foldl step s) = part (list'.foldl step s) := by
  rw [owns.foldl_filter rfl, agree, ← owns.foldl_filter rfl]

end Owns

/-- A permutation that keeps the order among the entries with the same key. -/
structure Reordering {α : Type v} {κ : Type x} [DecidableEq κ] (key : α → Option κ)
    (list list' : List α) : Prop where
  perm : list.Perm list'
  order : ∀ k, list.filter (fun a => key a = some k) = list'.filter fun a => key a = some k

end MobileGs
