import MobileGs.Foundations.Handles
import MobileGs.Foundations.Mealy

/-!
# Machines that hold handles

A machine keeps handles in its state, and its outputs are calls of the system. What a step does to
them is stated once (`Moves`): its calls take the handles held before it to those held behind it,
and the handles it is given carry serial numbers that were not used before. Steps compose, so the
same holds of every run (`moves_of_everyStep`).

A machine that starts with nothing then closes each handle at most once and never uses it behind
that (`Moves.safe`), and what it does not hold in the end, it has closed once (`Moves.dropped`).
-/

set_option autoImplicit false

namespace MobileGs

universe u v w

namespace Handles

variable {α : Type u} [DecidableEq α]

/-! ## Serial numbers -/

/-- What is handed out has its own serial number, not below one number and below another. -/
structure Serial (serial : α → ℕ) (next : ℕ) (calls : List (Call α)) (later : ℕ) : Prop where
  le : next ≤ later
  within : ∀ handle ∈ grants calls, next ≤ serial handle ∧ serial handle < later
  nodup : (grants calls).Nodup

omit [DecidableEq α] in
theorem Serial.none {serial : α → ℕ} {next later : ℕ} {calls : List (Call α)}
    (nothing : grants calls = []) (le : next ≤ later) : Serial serial next calls later := by
  refine ⟨le, ?_, ?_⟩ <;> rw [nothing]
  · exact fun _ among => absurd among List.not_mem_nil
  · exact List.nodup_nil

omit [DecidableEq α] in
theorem Serial.append {serial : α → ℕ} {next later last : ℕ} {calls more : List (Call α)}
    (first : Serial serial next calls later) (second : Serial serial later more last) :
    Serial serial next (calls ++ more) last := by
  refine ⟨first.le.trans second.le, ?_, ?_⟩ <;> rw [grants_append]
  · intro handle among
    rcases List.mem_append.mp among with before | behind
    · have bounds := first.within handle before
      exact ⟨bounds.1, bounds.2.trans_le second.le⟩
    · have bounds := second.within handle behind
      exact ⟨first.le.trans bounds.1, bounds.2⟩
  · refine List.nodup_append.mpr ⟨first.nodup, second.nodup, ?_⟩
    rintro handle before other behind rfl
    have below := (first.within handle before).2
    have above := (second.within handle behind).1
    omega

/-- Handles that are handed out once each are handed out while they are not open. -/
theorem granted_self {held : Multiset α} {calls : List (Call α)}
    (distinct : (held + (grants calls : Multiset α)).Nodup) :
    Along (Granted id) held calls := by
  induction calls generalizing held with
  | nil => trivial
  | cons call rest ih =>
      cases call with
      | grant handle =>
          have handed : held + (grants (.grant handle :: rest) : Multiset α) =
              (handle ::ₘ held) + (grants rest : Multiset α) := by
            rw [Multiset.cons_add, ← Multiset.add_cons]
            rfl
          rw [handed] at distinct
          refine ⟨?_, ih distinct⟩
          have apart := Multiset.nodup_of_le (Multiset.le_add_right _ _) distinct
          rw [Granted, Multiset.map_id]
          exact (Multiset.nodup_cons.mp apart).1
      | close handle =>
          refine ⟨trivial, ih (Multiset.nodup_of_le ?_ distinct)⟩
          exact Multiset.add_le_add_right (Multiset.erase_le handle held)
      | use handle => exact ⟨trivial, ih distinct⟩

/-! ## Steps and runs -/

/-- The calls of a step, from the handles that are held and the next serial number to those behind
the step. -/
structure Moves (serial : α → ℕ) (held : Multiset α) (next : ℕ) (calls : List (Call α))
    (held' : Multiset α) (next' : ℕ) : Prop where
  runs : Runs held calls held'
  serial : Serial serial next calls next'

namespace Moves

variable {serial : α → ℕ} {held held' held'' : Multiset α} {next next' next'' : ℕ}
  {calls more : List (Call α)}

theorem nil (serial : α → ℕ) (held : Multiset α) (next : ℕ) :
    Moves serial held next [] held next :=
  ⟨.nil held, .none rfl le_rfl⟩

theorem append (first : Moves serial held next calls held' next')
    (second : Moves serial held' next' more held'' next'') :
    Moves serial held next (calls ++ more) held'' next'' :=
  ⟨first.runs.append second.runs, first.serial.append second.serial⟩

/-- A handle is handed out under the next number. -/
theorem grant {handle : α} (held : Multiset α) (number : serial handle = next) :
    Moves serial held next [.grant handle] (handle ::ₘ held) (next + 1) := by
  refine ⟨.grant held handle, Nat.le_succ next, ?_, List.nodup_singleton handle⟩
  intro other among
  obtain rfl := List.mem_singleton.mp among
  omega

theorem close (held : Multiset α) (handle : α) (next : ℕ) :
    Moves serial (handle ::ₘ held) next [.close handle] held next :=
  ⟨.close held handle, .none rfl le_rfl⟩

theorem use {handle : α} (open' : handle ∈ held) (next : ℕ) :
    Moves serial held next [.use handle] held next :=
  ⟨⟨⟨open', trivial⟩, rfl⟩, .none rfl le_rfl⟩

/-- What the handles are safe from, when nothing is held in the beginning. -/
theorem safe {ν : Type v} {number : α → ν} (moves : Moves serial 0 next calls held' next')
    (granted : Along (Granted number) 0 calls) : Safe number calls :=
  .of_owned moves.runs.owned granted moves.serial.nodup

/-- The same, where each handle is its own number. -/
theorem safe_self (moves : Moves serial 0 next calls held' next') : Safe id calls := by
  refine moves.safe (granted_self ?_)
  rw [Multiset.zero_add]
  exact moves.serial.nodup

/-- **What was handed out and is not held any more was closed once.** -/
theorem dropped (moves : Moves serial 0 next calls held' next') {handle : α}
    (granted : .grant handle ∈ calls) (gone : handle ∉ held') :
    calls.count (.close handle) = 1 := by
  have balance := count_after moves.runs.owned handle
  rw [moves.runs.left, Multiset.count_eq_zero_of_notMem gone, Multiset.count_zero,
    List.count_eq_one_of_mem moves.serial.nodup (mem_grants.mpr granted)] at balance
  omega

/-- What is held neither before nor behind was closed once. -/
theorem released (moves : Moves serial 0 next calls 0 next') {handle : α}
    (granted : .grant handle ∈ calls) : calls.count (.close handle) = 1 :=
  moves.dropped granted (Multiset.notMem_zero handle)

end Moves

/-- What is stated of one step, from a view of the state before it to that behind it, and composes,
holds of a run. -/
theorem chain_of_everyStep {σ : Type v} {ι : Type w} {ο : Type w} {κ : Type u} {m : Mealy σ ι ο}
    (view : σ → κ) (relates : κ → List ο → κ → Prop) (nil : ∀ k, relates k [] k)
    (append : ∀ {first between last : κ} {emitted more : List ο}, relates first emitted between →
      relates between more last → relates first (emitted ++ more) last)
    (kept : σ → Prop) {meets : σ → List ο → ι → Prop} {s : σ} (start : kept s)
    (step : ∀ s emitted i, kept s → meets s emitted i →
      kept (m.step s i).1 ∧ relates (view s) (m.step s i).2 (view (m.step s i).1))
    {inputs : List ι} (met : m.EveryStep meets s inputs) :
    kept (m.after s inputs) ∧
      relates (view s) (m.outputs s inputs) (view (m.after s inputs)) := by
  refine Mealy.invariant_of_everyStep
    (fun s' emitted => kept s' ∧ relates (view s) emitted (view s')) ⟨start, nil _⟩ ?_ met
  rintro s' emitted i ⟨holds, related⟩ meets
  obtain ⟨holds', related'⟩ := step s' emitted i holds meets
  exact ⟨holds', append related related'⟩

/-- **The run of a machine that holds handles.** -/
theorem moves_of_everyStep {σ : Type v} {ι : Type w} {ο : Type w} {m : Mealy σ ι ο}
    (calls : ο → List (Call α)) {kept : σ → Prop} {meets : σ → List ο → ι → Prop}
    (serial : α → ℕ) (held : σ → Multiset α) (next : σ → ℕ) {s : σ} (start : kept s)
    (step : ∀ s emitted i, kept s → meets s emitted i →
      kept (m.step s i).1 ∧
        Moves serial (held s) (next s) ((m.step s i).2.flatMap calls)
          (held (m.step s i).1) (next (m.step s i).1))
    {inputs : List ι} (met : m.EveryStep meets s inputs) :
    kept (m.after s inputs) ∧
      Moves serial (held s) (next s) ((m.outputs s inputs).flatMap calls)
        (held (m.after s inputs)) (next (m.after s inputs)) := by
  refine chain_of_everyStep (fun s => (held s, next s))
    (fun before emitted behind =>
      Moves serial before.1 before.2 (emitted.flatMap calls) behind.1 behind.2)
    (fun _ => .nil serial _ _) ?_ kept start step met
  intro first between last emitted more moves moves'
  rw [List.flatMap_append]
  exact moves.append moves'

end Handles

end MobileGs
