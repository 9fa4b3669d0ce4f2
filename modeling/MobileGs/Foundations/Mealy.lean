import Mathlib.Data.List.Basic
import Mathlib.Data.List.Forall2
import Mathlib.Data.List.Induction

/-!
# Machines with outputs

A machine takes its state and one input to a new state and a list of outputs. A
run feeds a list of inputs and collects the outputs in order.

Runs compose (`after_append`, `outputs_append`), so a property of the state and
of everything emitted so far is proved one step at a time
(`invariant_of_everyStep`). The step may use a side condition on the state
before it, and the run must then meet that condition at every step
(`EveryStep`). `throughout_iff_everyStep` says when such a condition is exact.

Two runs on inputs that are alike show the same to a view of the outputs when every step does
(`unwinding`). The outputs of two machines compare when those of every step do
(`forall₂_simulation`).

Feeding blocks of inputs is a machine of its own (`blocks`), and it does what
the machine does on the concatenation (`run_blocks`): how a stream is cut into
blocks is not visible to a machine that reads one input at a time.
-/

set_option autoImplicit false

namespace MobileGs

universe u v w

/-- A deterministic machine over states `σ`, reading inputs `ι` and emitting outputs `ο`. -/
structure Mealy (σ : Type u) (ι : Type v) (ο : Type w) where
  step : σ → ι → σ × List ο

namespace Mealy

variable {σ : Type u} {ι : Type v} {ο : Type w} (m : Mealy σ ι ο)

/-- The state after a list of inputs, and everything emitted on the way. -/
def run : σ → List ι → σ × List ο
  | s, [] => (s, [])
  | s, i :: rest =>
      ((run (m.step s i).1 rest).1, (m.step s i).2 ++ (run (m.step s i).1 rest).2)

/-- The state after a list of inputs. -/
def after (s : σ) (inputs : List ι) : σ := (m.run s inputs).1

/-- Everything emitted over a list of inputs. -/
def outputs (s : σ) (inputs : List ι) : List ο := (m.run s inputs).2

@[simp] theorem run_nil (s : σ) : m.run s [] = (s, []) := rfl

theorem run_cons (s : σ) (i : ι) (rest : List ι) :
    m.run s (i :: rest) =
      ((m.run (m.step s i).1 rest).1, (m.step s i).2 ++ (m.run (m.step s i).1 rest).2) := rfl

/-- A step that emits nothing. -/
theorem run_cons_silent {s s' : σ} {i : ι} (silent : m.step s i = (s', [])) (rest : List ι) :
    m.run s (i :: rest) = m.run s' rest := by
  rw [run_cons, silent]
  rfl

@[simp] theorem run_singleton (s : σ) (i : ι) : m.run s [i] = m.step s i := by
  rw [run_cons, run_nil, List.append_nil]

@[simp] theorem after_nil (s : σ) : m.after s [] = s := rfl

@[simp] theorem outputs_nil (s : σ) : m.outputs s [] = [] := rfl

@[simp] theorem after_cons (s : σ) (i : ι) (rest : List ι) :
    m.after s (i :: rest) = m.after (m.step s i).1 rest := rfl

@[simp] theorem outputs_cons (s : σ) (i : ι) (rest : List ι) :
    m.outputs s (i :: rest) = (m.step s i).2 ++ m.outputs (m.step s i).1 rest := rfl

theorem after_append (s : σ) (first later : List ι) :
    m.after s (first ++ later) = m.after (m.after s first) later := by
  induction first generalizing s with
  | nil => rfl
  | cons i rest ih => exact ih (m.step s i).1

theorem outputs_append (s : σ) (first later : List ι) :
    m.outputs s (first ++ later) = m.outputs s first ++ m.outputs (m.after s first) later := by
  induction first generalizing s with
  | nil => rfl
  | cons i rest ih =>
      simp only [List.cons_append, outputs_cons, after_cons, ih, List.append_assoc]

theorem run_append (s : σ) (first later : List ι) :
    m.run s (first ++ later) =
      ((m.run (m.run s first).1 later).1,
        (m.run s first).2 ++ (m.run (m.run s first).1 later).2) :=
  Prod.ext (m.after_append s first later) (m.outputs_append s first later)

theorem after_concat (s : σ) (inputs : List ι) (i : ι) :
    m.after s (inputs ++ [i]) = (m.step (m.after s inputs) i).1 :=
  m.after_append s inputs [i]

theorem outputs_concat (s : σ) (inputs : List ι) (i : ι) :
    m.outputs s (inputs ++ [i]) = m.outputs s inputs ++ (m.step (m.after s inputs) i).2 := by
  rw [outputs_append, outputs_cons, outputs_nil, List.append_nil]

/-- Where every step emits one output, the output at a place is that of the step there. -/
theorem getElem?_outputs {out : σ → ι → ο} (single : ∀ s i, (m.step s i).2 = [out s i]) (s : σ)
    (inputs : List ι) (t : ℕ) :
    (m.outputs s inputs)[t]? = inputs[t]?.map (out (m.after s (inputs.take t))) := by
  induction inputs generalizing s t with
  | nil => rfl
  | cons i rest ih =>
      rw [outputs_cons, single]
      cases t with
      | zero => rfl
      | succ t => exact ih (m.step s i).1 t

/-- An output of a run is one of a step of it. -/
theorem exists_step_of_mem {s : σ} {inputs : List ι} {output : ο}
    (member : output ∈ m.outputs s inputs) :
    ∃ earlier i later, inputs = earlier ++ i :: later ∧
      output ∈ (m.step (m.after s earlier) i).2 := by
  induction inputs generalizing s with
  | nil => exact absurd member List.not_mem_nil
  | cons i rest ih =>
      rw [outputs_cons] at member
      rcases List.mem_append.mp member with now | later
      · exact ⟨[], i, rest, rfl, now⟩
      · obtain ⟨earlier, i', behind, rfl, emitted⟩ := ih later
        exact ⟨i :: earlier, i', behind, rfl, emitted⟩

/-- The outputs of a step are among those of the run. -/
theorem mem_outputs_of_step {s : σ} {earlier later : List ι} {i : ι} {output : ο}
    (emitted : output ∈ (m.step (m.after s earlier) i).2) :
    output ∈ m.outputs s (earlier ++ i :: later) := by
  rw [outputs_append, outputs_cons]
  exact List.mem_append_right _ (List.mem_append_left _ emitted)

/-! ## Invariants of runs -/

/-- An entry of a list with one more entry at its end is that entry or an earlier one. -/
theorem split_concat {α : Type u} {list earlier later : List α} {last a : α}
    (split : list ++ [last] = earlier ++ a :: later) :
    (earlier = list ∧ a = last) ∨ ∃ front, list = earlier ++ a :: front := by
  rcases List.eq_nil_or_concat later with rfl | ⟨front, final, rfl⟩
  · obtain ⟨same, lasts⟩ := List.append_inj' split rfl
    exact .inl ⟨same.symm, (List.cons.inj lasts).1.symm⟩
  · rw [List.concat_eq_append, ← List.cons_append, ← List.append_assoc] at split
    exact .inr ⟨front, (List.append_inj' split rfl).1⟩

/-- An entry of two lists put together is in the first or in the second. -/
theorem split_append {α : Type u} {list more earlier later : List α} {a : α}
    (split : list ++ more = earlier ++ a :: later) :
    (∃ front, list = earlier ++ a :: front ∧ later = front ++ more) ∨
      ∃ gone, earlier = list ++ gone ∧ more = gone ++ a :: later := by
  rcases List.append_eq_append_iff.mp split with ⟨gone, same, rest⟩ | ⟨front, whole, rest⟩
  · exact .inr ⟨gone, same, rest⟩
  · cases front with
    | nil => exact .inr ⟨[], by simpa using whole.symm, rest.symm⟩
    | cons b front =>
        obtain ⟨rfl, rfl⟩ := List.cons.inj rest
        exact .inl ⟨front, whole, rfl⟩

/-- Every step of a run meets a condition on the state before it, on what was
emitted so far and on the input. -/
def EveryStep (meets : σ → List ο → ι → Prop) (s : σ) (inputs : List ι) : Prop :=
  ∀ earlier i later, inputs = earlier ++ i :: later →
    meets (m.after s earlier) (m.outputs s earlier) i

variable {m}

theorem EveryStep.front {meets : σ → List ο → ι → Prop} {s : σ} {inputs later : List ι}
    (met : m.EveryStep meets s (inputs ++ later)) : m.EveryStep meets s inputs := by
  intro earlier i rest split
  apply met earlier i (rest ++ later)
  rw [split, List.append_assoc, List.cons_append]

theorem EveryStep.last {meets : σ → List ο → ι → Prop} {s : σ} {inputs : List ι} {i : ι}
    (met : m.EveryStep meets s (inputs ++ [i])) :
    meets (m.after s inputs) (m.outputs s inputs) i :=
  met inputs i [] rfl

theorem EveryStep.and {meets meets' : σ → List ο → ι → Prop} {s : σ} {inputs : List ι}
    (met : m.EveryStep meets s inputs) (met' : m.EveryStep meets' s inputs) :
    m.EveryStep (fun s emitted i => meets s emitted i ∧ meets' s emitted i) s inputs :=
  fun earlier i later split => ⟨met earlier i later split, met' earlier i later split⟩

/-- **The invariant rule.** A property of the state and of the outputs so far that
holds at the start, and that every step meeting the condition keeps, holds at the
end of every run whose steps all meet the condition. -/
theorem invariant_of_everyStep {meets : σ → List ο → ι → Prop} (holds : σ → List ο → Prop)
    {s : σ} (start : holds s [])
    (keeps : ∀ s emitted i, holds s emitted → meets s emitted i →
      holds (m.step s i).1 (emitted ++ (m.step s i).2))
    {inputs : List ι} (met : m.EveryStep meets s inputs) :
    holds (m.after s inputs) (m.outputs s inputs) := by
  induction inputs using List.reverseRecOn with
  | nil => exact start
  | append_singleton inputs i ih =>
      rw [after_concat, outputs_concat]
      exact keeps _ _ i (ih met.front) met.last

theorem EveryStep.concat {meets : σ → List ο → ι → Prop} {s : σ} {inputs : List ι} {i : ι}
    (met : m.EveryStep meets s inputs) (last : meets (m.after s inputs) (m.outputs s inputs) i) :
    m.EveryStep meets s (inputs ++ [i]) := by
  intro earlier j later split
  rcases split_concat split with ⟨rfl, rfl⟩ | ⟨front, inside⟩
  · exact last
  · exact met earlier j front inside

/-- The invariant rule for a property every step keeps. -/
theorem invariant_of_step (holds : σ → List ο → Prop) {s : σ} (start : holds s [])
    (keeps : ∀ s emitted i, holds s emitted →
      holds (m.step s i).1 (emitted ++ (m.step s i).2))
    (inputs : List ι) : holds (m.after s inputs) (m.outputs s inputs) := by
  have met : m.EveryStep (fun _ _ _ => True) s inputs := fun _ _ _ _ => trivial
  exact invariant_of_everyStep holds start (fun s emitted i held _ => keeps s emitted i held) met

variable (m) in
/-- The condition checked along a run, with what was emitted before it. -/
def checksSteps (meets : σ → List ο → ι → Prop) : σ → List ο → List ι → Prop
  | _, _, [] => True
  | s, emitted, i :: rest =>
      meets s emitted i ∧ checksSteps meets (m.step s i).1 (emitted ++ (m.step s i).2) rest

instance decidableChecksSteps (meets : σ → List ο → ι → Prop)
    [∀ s emitted i, Decidable (meets s emitted i)] :
    ∀ s emitted inputs, Decidable (m.checksSteps meets s emitted inputs)
  | _, _, [] => inferInstanceAs (Decidable True)
  | s, emitted, i :: rest =>
      have := decidableChecksSteps meets (m.step s i).1 (emitted ++ (m.step s i).2) rest
      inferInstanceAs (Decidable (_ ∧ _))

theorem checksSteps_iff {meets : σ → List ο → ι → Prop} {s : σ} {emitted : List ο}
    {inputs : List ι} :
    m.checksSteps meets s emitted inputs ↔
      ∀ earlier i later, inputs = earlier ++ i :: later →
        meets (m.after s earlier) (emitted ++ m.outputs s earlier) i := by
  induction inputs generalizing s emitted with
  | nil => exact ⟨fun _ _ _ _ split => absurd split (by simp), fun _ => trivial⟩
  | cons i rest ih =>
      rw [checksSteps, ih]
      constructor
      · rintro ⟨first, others⟩ earlier j later split
        cases earlier with
        | nil =>
            cases split
            rwa [after_nil, outputs_nil, List.append_nil]
        | cons j' earlier =>
            cases split
            rw [after_cons, outputs_cons, ← List.append_assoc]
            exact others earlier j later rfl
      · intro all
        constructor
        · have first := all [] i rest rfl
          rwa [after_nil, outputs_nil, List.append_nil] at first
        · intro earlier j later split
          have other := all (i :: earlier) j later (by rw [split, List.cons_append])
          rwa [after_cons, outputs_cons, ← List.append_assoc] at other

/-- On a given run the condition can be checked. -/
instance decidableEveryStep (meets : σ → List ο → ι → Prop)
    [∀ s emitted i, Decidable (meets s emitted i)] (s : σ) (inputs : List ι) :
    Decidable (m.EveryStep meets s inputs) :=
  decidable_of_iff (m.checksSteps meets s [] inputs) checksSteps_iff

variable (m) in
/-- A property of the state and of the outputs so far holds in every state of a run. -/
def Throughout (holds : σ → List ο → Prop) (s : σ) (inputs : List ι) : Prop :=
  ∀ earlier later, inputs = earlier ++ later → holds (m.after s earlier) (m.outputs s earlier)

theorem Throughout.front {holds : σ → List ο → Prop} {s : σ} {inputs later : List ι}
    (held : m.Throughout holds s (inputs ++ later)) : m.Throughout holds s inputs := by
  intro earlier rest split
  apply held earlier (rest ++ later)
  rw [split, List.append_assoc]

theorem Throughout.last {holds : σ → List ο → Prop} {s : σ} {inputs : List ι}
    (held : m.Throughout holds s inputs) : holds (m.after s inputs) (m.outputs s inputs) :=
  held inputs [] (List.append_nil inputs).symm

/-- **When a condition is exact**, for a property of the inputs so far. Steps that meet the
condition keep an invariant, the invariant gives the property, and under the invariant a step must
meet the condition for the property to hold behind it. Then the property holds of every prefix of a
run if and only if every step meets the condition. -/
theorem prefixes_iff_everyStep {meets : σ → List ο → ι → Prop} {s : σ}
    (kept : List ι → Prop) {holds : List ι → Prop} (start : kept [])
    (keeps : ∀ inputs i, kept inputs → meets (m.after s inputs) (m.outputs s inputs) i →
      kept (inputs ++ [i]))
    (gives : ∀ inputs, kept inputs → holds inputs)
    (needs : ∀ inputs i, kept inputs → holds (inputs ++ [i]) →
      meets (m.after s inputs) (m.outputs s inputs) i)
    (inputs : List ι) :
    (∀ earlier later, inputs = earlier ++ later → holds earlier) ↔
      m.EveryStep meets s inputs := by
  have keptOf : ∀ inputs, m.EveryStep meets s inputs → kept inputs := by
    intro inputs met
    induction inputs using List.reverseRecOn with
    | nil => exact start
    | append_singleton inputs i ih => exact keeps inputs i (ih met.front) met.last
  constructor
  · intro held
    induction inputs using List.reverseRecOn with
    | nil => exact fun _ _ _ split => absurd split (by simp)
    | append_singleton inputs i ih =>
        have met := ih fun earlier later split => held earlier (later ++ [i])
          (by rw [split, List.append_assoc])
        have last := held (inputs ++ [i]) [] (List.append_nil _).symm
        exact met.concat (needs inputs i (keptOf inputs met) last)
  · rintro met earlier later rfl
    exact gives earlier (keptOf earlier met.front)

/-- **When a condition is exact**, for a property of the state and of the outputs so far. -/
theorem throughout_iff_everyStep {meets : σ → List ο → ι → Prop}
    (kept : σ → List ο → Prop) {holds : σ → List ο → Prop} {s : σ} (start : kept s [])
    (keeps : ∀ s emitted i, kept s emitted → meets s emitted i →
      kept (m.step s i).1 (emitted ++ (m.step s i).2))
    (gives : ∀ s emitted, kept s emitted → holds s emitted)
    (needs : ∀ s emitted i, kept s emitted →
      holds (m.step s i).1 (emitted ++ (m.step s i).2) → meets s emitted i)
    (inputs : List ι) : m.Throughout holds s inputs ↔ m.EveryStep meets s inputs := by
  apply prefixes_iff_everyStep (fun inputs => kept (m.after s inputs) (m.outputs s inputs)) start
  · intro inputs i held met
    rw [after_concat, outputs_concat]
    exact keeps _ _ i held met
  · exact fun inputs held => gives _ _ held
  · intro inputs i held after
    rw [after_concat, outputs_concat] at after
    exact needs _ _ i held after

variable (m)

/-! ## Two runs side by side -/

/-- Two lists of inputs that are alike, one by one, along the run on the first. -/
def AlikeAlong (alike : σ → ι → ι → Prop) : σ → List ι → List ι → Prop
  | _, [], [] => True
  | s, i :: rest, i' :: rest' => alike s i i' ∧ AlikeAlong alike (m.step s i).1 rest rest'
  | _, _, _ => False

variable {m} in
/-- Inputs are alike to themselves when every single one is. -/
theorem alikeAlong_self {alike : σ → ι → ι → Prop} (self : ∀ s i, alike s i i) (s : σ)
    (inputs : List ι) : m.AlikeAlong alike s inputs inputs := by
  induction inputs generalizing s with
  | nil => trivial
  | cons i rest ih => exact ⟨self s i, ih (m.step s i).1⟩

variable {m} in
/-- **The unwinding rule.** Steps on alike inputs keep two states related and show the same to a
view of the outputs. Then whole runs on alike inputs do. -/
theorem unwinding {β : Type u} {alike : σ → ι → ι → Prop} (view : ο → Option β)
    (related : σ → σ → Prop)
    (unwinds : ∀ s t i i', related s t → alike s i i' →
      related (m.step s i).1 (m.step t i').1 ∧
        (m.step s i).2.filterMap view = (m.step t i').2.filterMap view)
    {s t : σ} {inputs inputs' : List ι} (start : related s t)
    (along : m.AlikeAlong alike s inputs inputs') :
    related (m.after s inputs) (m.after t inputs') ∧
      (m.outputs s inputs).filterMap view = (m.outputs t inputs').filterMap view := by
  induction inputs generalizing s t inputs' with
  | nil =>
      cases inputs' with
      | nil => exact ⟨start, rfl⟩
      | cons => exact along.elim
  | cons i rest ih =>
      cases inputs' with
      | nil => exact along.elim
      | cons i' rest' =>
          obtain ⟨related', same⟩ := unwinds s t i i' start along.1
          obtain ⟨final, views⟩ := ih related' along.2
          refine ⟨final, ?_⟩
          rw [outputs_cons, outputs_cons, List.filterMap_append, List.filterMap_append, same, views]

/-- The machine whose outputs are seen through a view. -/
def viewed {β : Type w} (view : ο → Option β) : Mealy σ ι β where
  step s i := ((m.step s i).1, (m.step s i).2.filterMap view)

theorem outputs_viewed {β : Type w} (view : ο → Option β) (s : σ) (inputs : List ι) :
    (m.viewed view).outputs s inputs = (m.outputs s inputs).filterMap view := by
  induction inputs generalizing s with
  | nil => rfl
  | cons i rest ih =>
      rw [outputs_cons, outputs_cons, List.filterMap_append, ← ih]
      rfl

variable {m} in
/-- **The simulation rule.** Steps of two machines on alike inputs keep their states related and
emit outputs that compare. Then whole runs on alike inputs do. -/
theorem forall₂_simulation {σ' : Type u} {ι' : Type v} {ο' : Type w} {m' : Mealy σ' ι' ο'}
    {alike : ι → ι' → Prop} {compares : ο → ο' → Prop} (related : σ → σ' → Prop)
    (simulates : ∀ s t i i', related s t → alike i i' →
      related (m.step s i).1 (m'.step t i').1 ∧
        List.Forall₂ compares (m.step s i).2 (m'.step t i').2)
    {s : σ} {t : σ'} (start : related s t) {inputs : List ι} {inputs' : List ι'}
    (along : List.Forall₂ alike inputs inputs') :
    related (m.after s inputs) (m'.after t inputs') ∧
      List.Forall₂ compares (m.outputs s inputs) (m'.outputs t inputs') := by
  induction along generalizing s t with
  | nil => exact ⟨start, .nil⟩
  | cons first _ ih =>
      obtain ⟨related', emitted⟩ := simulates s t _ _ start first
      obtain ⟨final, rest⟩ := ih related'
      exact ⟨final, List.rel_append emitted rest⟩

/-! ## Blocks of inputs -/

/-- The machine that reads a block of inputs at a time. -/
def blocks : Mealy σ (List ι) ο where
  step := m.run

/-- **Blocks are not visible**: reading blocks is reading their concatenation. -/
theorem run_blocks (s : σ) (chunks : List (List ι)) :
    m.blocks.run s chunks = m.run s chunks.flatten := by
  induction chunks generalizing s with
  | nil => rfl
  | cons chunk rest ih =>
      rw [run_cons, ih, List.flatten_cons, run_append]
      rfl

end Mealy

end MobileGs
