import MobileGs.Foundations.Mealy

/-!
# Components of a machine

A machine often contains a smaller one: its state holds the state of the component, and what
it emits shows what the component was given and what it emitted. When every step of the whole is a
run of the component, every run of the whole is one (`Component.run`). So the component emits what
it would emit alone, and whatever else the whole was given in between is not visible to it
(`Component.undisturbed`).
-/

set_option autoImplicit false

namespace MobileGs

universe u v w u' v' w'

namespace Mealy

variable {σ : Type u} {ι : Type v} {ο : Type w} {σ' : Type u'} {ι' : Type v'} {ο' : Type w'}

/-- `part` inside `m`, as long as `kept` holds. -/
structure Component (m : Mealy σ ι ο) (kept : σ → Prop) (part : Mealy σ' ι' ο') where
  state : σ → σ'
  given : ο → Option ι'
  emitted : ο → Option ο'
  keeps : ∀ s i, kept s → kept (m.step s i).1
  follows : ∀ s i, kept s →
    part.run (state s) ((m.step s i).2.filterMap given) =
      (state (m.step s i).1, (m.step s i).2.filterMap emitted)

namespace Component

variable {m : Mealy σ ι ο} {kept : σ → Prop} {part : Mealy σ' ι' ο'}
  (inside : Component m kept part)

/-- What the component was given in a run of the whole. -/
def inputsIn (trace : List ο) : List ι' := trace.filterMap inside.given

/-- What the component emitted in a run of the whole. -/
def outputsIn (trace : List ο) : List ο' := trace.filterMap inside.emitted

/-- **A run of the whole is a run of the component.** -/
theorem run {s : σ} (start : kept s) (inputs : List ι) :
    part.run (inside.state s) (inside.inputsIn (m.outputs s inputs)) =
      (inside.state (m.after s inputs), inside.outputsIn (m.outputs s inputs)) := by
  have along : kept (m.after s inputs) ∧
      part.run (inside.state s) (inside.inputsIn (m.outputs s inputs)) =
        (inside.state (m.after s inputs), inside.outputsIn (m.outputs s inputs)) := by
    refine m.invariant_of_step
      (fun s' trace => kept s' ∧ part.run (inside.state s) (inside.inputsIn trace) =
        (inside.state s', inside.outputsIn trace)) ⟨start, rfl⟩ ?_ inputs
    rintro s' trace i ⟨holds, run⟩
    refine ⟨inside.keeps s' i holds, ?_⟩
    rw [inputsIn, List.filterMap_append, part.run_append, ← inputsIn, run,
      inside.follows s' i holds, outputsIn, outputsIn, List.filterMap_append]
  exact along.2

/-- **The component emits the same in two runs in which it was given the same**, of the whole or of
two that contain it, whatever else they were given. -/
theorem undisturbed {τ : Type u} {κ : Type v} {ρ : Type w} {m' : Mealy τ κ ρ} {kept' : τ → Prop}
    (inside' : Component m' kept' part) {s : σ} {s' : τ} (start : kept s) (start' : kept' s')
    (alike : inside.state s = inside'.state s') {inputs : List ι} {inputs' : List κ}
    (same : inside.inputsIn (m.outputs s inputs) = inside'.inputsIn (m'.outputs s' inputs')) :
    inside.state (m.after s inputs) = inside'.state (m'.after s' inputs') ∧
      inside.outputsIn (m.outputs s inputs) = inside'.outputsIn (m'.outputs s' inputs') := by
  have one := inside.run start inputs
  have other := inside'.run start' inputs'
  rw [alike, same, other] at one
  exact ⟨(congrArg Prod.fst one).symm, (congrArg Prod.snd one).symm⟩

end Component

end Mealy

end MobileGs
