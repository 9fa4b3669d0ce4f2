import MobileGs.Foundations.Mealy

/-!
# Counting down

Some inputs of a run are turns of what is waited for, and whether an input is one depends on the
state it finds. When each turn brings the state closer to an end, and nothing else takes it away, a
run with enough turns gets there (`countdown`, `reached`).
-/

set_option autoImplicit false

namespace MobileGs

universe u v w

namespace Mealy

variable {σ : Type u} {ι : Type v} {ο : Type w} {m : Mealy σ ι ο}

variable (m) in
/-- How many inputs of a run are turns. -/
def turns (counts : σ → ι → Bool) : σ → List ι → ℕ
  | _, [] => 0
  | s, i :: rest => (if counts s i then 1 else 0) + turns counts (m.step s i).1 rest

/-- Where the state has no say in it. -/
theorem turns_eq_countP (counts : ι → Bool) (s : σ) (inputs : List ι) :
    m.turns (fun _ i => counts i) s inputs = inputs.countP counts := by
  induction inputs generalizing s with
  | nil => rfl
  | cons i rest ih => rw [turns, ih, List.countP_cons, Nat.add_comm]

/-- **The countdown rule.** Every turn takes one from what is left. -/
theorem countdown (kept : σ → Prop) (admits : ι → Prop) (counts : σ → ι → Bool) (left : σ → ℕ)
    (closer : ∀ s i, kept s → admits i →
      kept (m.step s i).1 ∧ left (m.step s i).1 ≤ left s - if counts s i then 1 else 0)
    {s : σ} (start : kept s) {inputs : List ι} (admitted : ∀ i ∈ inputs, admits i) :
    kept (m.after s inputs) ∧ left (m.after s inputs) ≤ left s - m.turns counts s inputs := by
  induction inputs generalizing s with
  | nil => exact ⟨start, Nat.le_refl _⟩
  | cons i rest ih =>
      obtain ⟨first, later⟩ := List.forall_mem_cons.mp admitted
      obtain ⟨next, closer⟩ := closer s i start first
      obtain ⟨last, close⟩ := ih next later
      refine ⟨last, Nat.le_trans close ?_⟩
      rw [turns]
      omega

/-- **The rule for what is reached on the way.** As long as the goal is not reached something is
left, and every turn takes one from it. Then as many turns reach the goal, and what is kept up to
there holds there. -/
theorem reached (goal kept : σ → Prop) (counts : σ → ι → Bool) (left : σ → ℕ)
    (positive : ∀ s, ¬ goal s → 0 < left s)
    (closer : ∀ s i, kept s → ¬ goal s →
      kept (m.step s i).1 ∧ left (m.step s i).1 ≤ left s - if counts s i then 1 else 0)
    {s : σ} (start : kept s) {inputs : List ι} (enough : left s ≤ m.turns counts s inputs) :
    ∃ front later, inputs = front ++ later ∧ goal (m.after s front) ∧ kept (m.after s front) := by
  induction inputs generalizing s with
  | nil =>
      by_cases there : goal s
      · exact ⟨[], [], rfl, there, start⟩
      · exact absurd enough (Nat.not_le.mpr (positive s there))
  | cons i rest ih =>
      by_cases there : goal s
      · exact ⟨[], i :: rest, rfl, there, start⟩
      · obtain ⟨next, close⟩ := closer s i start there
        rw [turns] at enough
        obtain ⟨front, later, split, last⟩ := ih next (by omega)
        exact ⟨i :: front, later, by rw [split]; rfl, last⟩

end Mealy

end MobileGs
