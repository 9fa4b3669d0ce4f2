import Mathlib.Data.List.Basic
import Mathlib.Data.List.Induction

/-!
# The latest entry of a kind

`latest p list` is the last entry of a list that satisfies `p`, with its age, the number of entries
behind it. It can be followed entry by entry (`latest_concat`), and it says the same as the places
of the list do (`latest_take_of_latestAt`, `latest_take_of_none`).
-/

set_option autoImplicit false

namespace MobileGs

variable {α : Type} (p : α → Bool)

/-- One more entry. If it does not satisfy `p`, the latest one that does gets older. -/
def latestStep (last : Option (α × ℕ)) (a : α) : Option (α × ℕ) :=
  if p a then some (a, 0) else last.map fun entry => (entry.1, entry.2 + 1)

/-- The latest entry that satisfies `p`, with its age. -/
def latest (list : List α) : Option (α × ℕ) := list.foldl (latestStep p) none

theorem latest_concat (list : List α) (a : α) :
    latest p (list ++ [a]) = latestStep p (latest p list) a := by
  rw [latest, List.foldl_append]
  rfl

theorem latest_take_succ {list : List α} {t : ℕ} {a : α} (here : list[t]? = some a) :
    latest p (list.take (t + 1)) = latestStep p (latest p (list.take t)) a := by
  rw [List.take_add_one, here]
  exact latest_concat p _ a

/-- The entry at a place satisfies `p`. -/
def HoldsAt (list : List α) (s : ℕ) : Prop := ∃ a, list[s]? = some a ∧ p a = true

/-- The place of the latest entry up to `t` that satisfies `p`. -/
def LatestAt (list : List α) (t s : ℕ) : Prop :=
  s ≤ t ∧ HoldsAt p list s ∧ ∀ r, s < r → r ≤ t → ¬ HoldsAt p list r

variable {p}

theorem exists_latestAt {list : List α} {t s : ℕ} (le : s ≤ t) (holds : HoldsAt p list s) :
    ∃ s', s ≤ s' ∧ LatestAt p list t s' := by
  induction t with
  | zero =>
      obtain rfl := Nat.le_zero.mp le
      exact ⟨0, le, le, holds, fun r lt le => absurd lt (by omega)⟩
  | succ t ih =>
      by_cases last : HoldsAt p list (t + 1)
      · exact ⟨t + 1, le, Nat.le_refl _, last, fun r lt le => absurd lt (by omega)⟩
      · have before : s ≤ t := by
          rcases Nat.lt_or_eq_of_le le with lt | rfl
          · exact Nat.le_of_lt_succ lt
          · exact absurd holds last
        obtain ⟨s', above, le', holds', none⟩ := ih before
        refine ⟨s', above, Nat.le_succ_of_le le', holds', ?_⟩
        intro r lt rle
        rcases Nat.lt_or_eq_of_le rle with rlt | rfl
        · exact none r lt (Nat.le_of_lt_succ rlt)
        · exact last

/-- The latest entry, and how far it lies back. -/
theorem latest_take_of_latestAt {list : List α} {t s : ℕ} {a : α} (inside : t < list.length)
    (at' : LatestAt p list t s) (here : list[s]? = some a) :
    latest p (list.take (t + 1)) = some (a, t - s) := by
  obtain ⟨le, holds, none⟩ := at'
  obtain ⟨age, rfl⟩ := Nat.exists_eq_add_of_le le
  rw [Nat.add_sub_cancel_left]
  have satisfies : p a = true := by
    obtain ⟨b, same, satisfies⟩ := holds
    rw [here] at same
    rwa [Option.some.inj same]
  induction age with
  | zero => rw [Nat.add_zero, latest_take_succ p here, latestStep, if_pos satisfies]
  | succ age ih =>
      have before := ih (by omega) (by omega) fun r lt rle => none r lt (by omega)
      have next : list[s + (age + 1)]? = some list[s + (age + 1)] :=
        List.getElem?_eq_getElem inside
      have other : ¬ p list[s + (age + 1)] = true := fun satisfies =>
        none (s + (age + 1)) (by omega) (Nat.le_refl _) ⟨_, next, satisfies⟩
      rw [latest_take_succ p next, latestStep, if_neg other,
        show s + (age + 1) = s + age + 1 from rfl, before]
      rfl

/-- No entry satisfies `p`. -/
theorem latest_take_of_none {list : List α} {t : ℕ}
    (none : ∀ s, s ≤ t → ¬ HoldsAt p list s) : latest p (list.take (t + 1)) = .none := by
  have start : ∀ t', t' ≤ t + 1 → latest p (list.take t') = .none := by
    intro t' le
    induction t' with
    | zero => rw [List.take_zero]; rfl
    | succ t' ih =>
        have before := ih (by omega)
        cases entry : list[t']? with
        | none =>
            rw [List.take_add_one, entry]
            simpa using before
        | some a =>
            have other : ¬ p a = true := fun satisfies =>
              none t' (by omega) ⟨a, entry, satisfies⟩
            rw [latest_take_succ p entry, before, latestStep, if_neg other]
            rfl
  exact start (t + 1) (Nat.le_refl _)

end MobileGs
