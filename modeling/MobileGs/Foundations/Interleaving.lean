import Mathlib.Data.List.Basic

/-!
# Interleavings

`Interleaving first second merged` says that `merged` is made of the entries of two lists, each in
its order. Interleavings can be put one behind the other (`append`), and a further stretch of one of
the lists goes to the end (`onFirst`, `onSecond`).
-/

set_option autoImplicit false

namespace MobileGs

universe u

variable {α : Type u}

/-- A merge of two lists that keeps the order of each. -/
inductive Interleaving : List α → List α → List α → Prop where
  | nil : Interleaving [] [] []
  | first (a : α) {first second merged : List α} :
      Interleaving first second merged → Interleaving (a :: first) second (a :: merged)
  | second (a : α) {first second merged : List α} :
      Interleaving first second merged → Interleaving first (a :: second) (a :: merged)

namespace Interleaving

variable {first second merged : List α}

theorem append {later later' mergedLater : List α} (interleaving : Interleaving first second merged)
    (more : Interleaving later later' mergedLater) :
    Interleaving (first ++ later) (second ++ later') (merged ++ mergedLater) := by
  induction interleaving with
  | nil => exact more
  | first a _ ih => exact .first a ih
  | second a _ ih => exact .second a ih

/-- The first list alone. -/
theorem alone (list : List α) : Interleaving list [] list := by
  induction list with
  | nil => exact .nil
  | cons a _ ih => exact .first a ih

theorem swap (interleaving : Interleaving first second merged) :
    Interleaving second first merged := by
  induction interleaving with
  | nil => exact .nil
  | first a _ ih => exact .second a ih
  | second a _ ih => exact .first a ih

/-- The first list goes on. -/
theorem onFirst (interleaving : Interleaving first second merged) (more : List α) :
    Interleaving (first ++ more) second (merged ++ more) := by
  have longer := interleaving.append (alone more)
  rwa [List.append_nil] at longer

/-- The second list goes on. -/
theorem onSecond (interleaving : Interleaving first second merged) (more : List α) :
    Interleaving first (second ++ more) (merged ++ more) :=
  (interleaving.swap.onFirst more).swap

/-- Nothing is lost. -/
theorem length (interleaving : Interleaving first second merged) :
    merged.length = first.length + second.length := by
  induction interleaving with
  | nil => rfl
  | first a _ ih =>
      rw [List.length_cons, List.length_cons, ih]
      omega
  | second a _ ih =>
      rw [List.length_cons, List.length_cons, ih]
      omega

end Interleaving

end MobileGs
