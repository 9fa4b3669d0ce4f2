import Mathlib.Data.List.Nodup
import Mathlib.Logic.Function.Basic
import MobileGs.Foundations.Mealy

/-!
# Reading, changing and writing back

Calls share a store. Each reads the value that is kept there, changes it, and writes the result
back in a second step. Other calls may come between the two, and what they wrote is then
overwritten.

The calls serialize in the order in which they write exactly when each writes what it would make of
the value kept at that moment (`serialized_iff`). Each call that reads once and writes once behind
that takes part (`perm_outputs`), so nothing is lost then (`exists_serial_order`).

An order of the steps in which no call writes between the read and the write of another is safe for
all changes, and any other order is not (`safe_iff`): behind the last write that was overtaken, the
change of the call that overtook it is gone.
-/

set_option autoImplicit false

namespace MobileGs

universe u v w

/-- A way to keep a value of type `V` in a store of type `P`. What is saved is loaded again. -/
structure Kept (P : Type u) (V : Type v) where
  load : P → V
  save : V → P → P
  load_save : ∀ value stored, load (save value stored) = value

namespace ReadModifyWrite

/-- The steps of a call. -/
inductive Step (ι : Type w) where
  | read (call : ι)
  | write (call : ι)
  deriving DecidableEq

def Step.call {ι : Type w} : Step ι → ι
  | .read call => call
  | .write call => call

/-- The store, and what the calls are about to write. -/
structure Shared (ι : Type w) (P : Type u) (V : Type v) where
  stored : P
  next : ι → Option V := fun _ => none

variable {ι : Type w} [DecidableEq ι] {P : Type u} {V : Type v} (kept : Kept P V)
  (transform : ι → V → V)

/-- The calls in any order of their steps. A write puts out the call it completes. -/
def machine : Mealy (Shared ι P V) (Step ι) ι where
  step shared
    | .read call =>
        ({ shared with
            next := Function.update shared.next call
              (some (transform call (kept.load shared.stored))) }, [])
    | .write call =>
        match shared.next call with
        | some value =>
            ({ stored := kept.save value shared.stored
               next := Function.update shared.next call none }, [call])
        | none => (shared, [])

/-- A call that has read writes. -/
theorem step_write {shared : Shared ι P V} {call : ι} {value : V}
    (found : shared.next call = some value) :
    (machine kept transform).step shared (.write call) =
      ({ stored := kept.save value shared.stored
         next := Function.update shared.next call none }, [call]) := by
  simp only [machine, found]

/-- A call that has not read does nothing. -/
theorem step_write_none {shared : Shared ι P V} {call : ι} (none : shared.next call = none) :
    (machine kept transform).step shared (.write call) = (shared, []) := by
  simp only [machine, none]

/-- The calls one after another. -/
def serially (calls : List ι) (value : V) : V :=
  calls.foldl (fun value call => transform call value) value

/-- A write writes what the call makes of the value kept at that moment. -/
def UpToDate (shared : Shared ι P V) (step : Step ι) : Prop :=
  ∀ call value, step = .write call → shared.next call = some value →
    value = transform call (kept.load shared.stored)

omit [DecidableEq ι] in
theorem serially_concat (calls : List ι) (call : ι) (value : V) :
    serially transform (calls ++ [call]) value = transform call (serially transform calls value) :=
  List.foldl_concat _ _ _ _

/-- **When the calls serialize.** At every moment the value kept is the one the calls completed so
far make one after another, if and only if each write is up to date. -/
theorem serialized_iff (stored : P) (steps : List (Step ι)) :
    (machine kept transform).Throughout
        (fun shared completed => kept.load shared.stored =
          serially transform completed (kept.load stored)) { stored } steps ↔
      (machine kept transform).EveryStep
        (fun shared _ step => UpToDate kept transform shared step) { stored } steps := by
  apply Mealy.throughout_iff_everyStep fun shared completed =>
    kept.load shared.stored = serially transform completed (kept.load stored)
  · rfl
  · intro shared completed step serialized upToDate
    cases step with
    | read call =>
        simp only [machine, List.append_nil]
        exact serialized
    | write call =>
        cases found : shared.next call with
        | none => rwa [step_write_none kept transform found, List.append_nil]
        | some value =>
            rw [step_write kept transform found]
            dsimp only
            rw [kept.load_save, serially_concat, ← serialized]
            exact upToDate call value rfl found
  · exact fun _ _ serialized => serialized
  · rintro shared completed _ serialized after call value rfl found
    rw [step_write kept transform found] at after
    dsimp only at after
    rwa [kept.load_save, serially_concat, ← serialized] at after

/-! ## Calls that are complete -/

/-- How often a call completes over its own steps, given whether it has read. -/
def completions : Bool → List (Step ι) → ℕ
  | _, [] => 0
  | _, .read _ :: rest => completions true rest
  | true, .write _ :: rest => completions false rest + 1
  | false, .write _ :: rest => completions false rest

/-- A call completes as its own steps say. -/
theorem count_outputs (call : ι) (shared : Shared ι P V) (steps : List (Step ι)) :
    ((machine kept transform).outputs shared steps).count call =
      completions (shared.next call).isSome (steps.filter fun step => step.call = call) := by
  induction steps generalizing shared with
  | nil => rfl
  | cons step rest ih =>
      rw [Mealy.outputs_cons, List.count_append, ih]
      cases step with
      | read other =>
          by_cases same : other = call
          · subst same
            rw [List.filter_cons_of_pos (by simp [Step.call])]
            simp [machine, completions]
          · rw [List.filter_cons_of_neg (by simp [Step.call, same])]
            simp [machine, Function.update_of_ne (Ne.symm same)]
      | write other =>
          by_cases same : other = call
          · subst same
            rw [List.filter_cons_of_pos (by simp [Step.call])]
            cases found : shared.next other with
            | none => simp [step_write_none kept transform found, found, completions]
            | some value => simp [step_write kept transform found, completions, Nat.add_comm]
          · rw [List.filter_cons_of_neg (by simp [Step.call, same])]
            cases found : shared.next other with
            | none => simp [step_write_none kept transform found]
            | some value =>
                simp [step_write kept transform found, Function.update_of_ne (Ne.symm same), same]

/-- The steps of some calls, each of which reads once and writes once behind that. -/
structure Schedule (calls : List ι) (steps : List (Step ι)) : Prop where
  nodup : calls.Nodup
  own : ∀ call, steps.filter (fun step => step.call = call) =
    if call ∈ calls then [.read call, .write call] else []

/-- Each call of a schedule completes once. -/
theorem perm_outputs {calls : List ι} {steps : List (Step ι)} (schedule : Schedule calls steps)
    (stored : P) : ((machine kept transform).outputs { stored } steps).Perm calls := by
  rw [List.perm_iff_count]
  intro call
  rw [count_outputs, schedule.own]
  split
  · rename_i among
    rw [List.count_eq_one_of_mem schedule.nodup among]
    rfl
  · rename_i other
    rw [List.count_eq_zero_of_not_mem other]
    rfl

/-- **Nothing is lost**, where each write is up to date: behind a schedule the value kept is the one
its calls make one after another, in some order. -/
theorem exists_serial_order {calls : List ι} {steps : List (Step ι)}
    (schedule : Schedule calls steps) {stored : P}
    (upToDate : (machine kept transform).EveryStep
      (fun shared _ step => UpToDate kept transform shared step) { stored } steps) :
    ∃ order, order.Perm calls ∧
      kept.load ((machine kept transform).after { stored } steps).stored =
        serially transform order (kept.load stored) :=
  ⟨_, perm_outputs kept transform schedule stored,
    ((serialized_iff kept transform stored steps).mpr upToDate).last⟩

/-! ## Orders that are safe -/

/-- No call writes between the read and the write of another. -/
def Apart (steps : List (Step ι)) : Prop :=
  ∀ earlier call between later,
    steps = earlier ++ .read call :: (between ++ .write call :: later) →
      ∀ other, Step.write other ∉ between

theorem stored_of_noWrite (shared : Shared ι P V) {steps : List (Step ι)}
    (noWrite : ∀ other, Step.write other ∉ steps) :
    ((machine kept transform).after shared steps).stored = shared.stored := by
  induction steps generalizing shared with
  | nil => rfl
  | cons step rest ih =>
      rw [Mealy.after_cons, ih _ fun other among => noWrite other (List.mem_cons_of_mem _ among)]
      cases step with
      | read call => rfl
      | write call => exact absurd List.mem_cons_self (noWrite call)

theorem next_of_others {call : ι} (shared : Shared ι P V) {steps : List (Step ι)}
    (others : ∀ step ∈ steps, step.call ≠ call) :
    ((machine kept transform).after shared steps).next call = shared.next call := by
  induction steps generalizing shared with
  | nil => rfl
  | cons step rest ih =>
      have other := others step List.mem_cons_self
      rw [Mealy.after_cons, ih _ fun step among => others step (List.mem_cons_of_mem _ among)]
      cases step with
      | read other' => exact Function.update_of_ne other.symm _ _
      | write other' =>
          cases found : shared.next other' with
          | none => rw [step_write_none kept transform found]
          | some value =>
              rw [step_write kept transform found]
              exact Function.update_of_ne other.symm _ _

/-- What a call is about to write was made when it read. -/
theorem exists_read {stored : P} {steps : List (Step ι)} {call : ι} {value : V}
    (found : ((machine kept transform).after { stored } steps).next call = some value) :
    ∃ earlier between, steps = earlier ++ .read call :: between ∧
      value = transform call
        (kept.load ((machine kept transform).after { stored } earlier).stored) := by
  induction steps using List.reverseRecOn with
  | nil => cases found
  | append_singleton steps step ih =>
      rw [Mealy.after_concat] at found
      -- A step of another call leaves the read where it is.
      have carry : ((machine kept transform).after { stored } steps).next call = some value →
          ∃ earlier between, steps ++ [step] = earlier ++ .read call :: between ∧
            value = transform call
              (kept.load ((machine kept transform).after { stored } earlier).stored) := by
        intro before
        obtain ⟨earlier, between, rfl, made⟩ := ih before
        exact ⟨earlier, between ++ [step], by simp, made⟩
      by_cases own : step.call = call
      · cases step with
        | read other =>
            obtain rfl : other = call := own
            simp only [machine, Function.update_self, Option.some.injEq] at found
            exact ⟨steps, [], rfl, found.symm⟩
        | write other =>
            obtain rfl : other = call := own
            cases before : ((machine kept transform).after { stored } steps).next other with
            | none =>
                rw [step_write_none kept transform before, before] at found
                cases found
            | some value' =>
                rw [step_write kept transform before] at found
                simp only [Function.update_self] at found
                cases found
      · have other : ∀ other ∈ [step], other.call ≠ call := by
          rintro _ (_ | ⟨_, ⟨⟩⟩)
          exact own
        exact carry ((next_of_others kept transform _ other).symm.trans found)

/-- Where the calls are apart, each write is up to date. -/
theorem Apart.upToDate {steps : List (Step ι)} (apart : Apart steps) (stored : P) :
    (machine kept transform).EveryStep
      (fun shared _ step => UpToDate kept transform shared step) { stored } steps := by
  rintro before _ later rfl call value rfl found
  obtain ⟨earlier, between, rfl, rfl⟩ := exists_read kept transform found
  have noWrite := apart earlier call between later (by simp)
  rw [Mealy.after_append, Mealy.after_cons, stored_of_noWrite kept transform _ noWrite]
  rfl

/-! ## Orders that are not -/

/-- A schedule has no more steps of a call than its read and its write. -/
theorem Schedule.length_le {calls : List ι} {steps : List (Step ι)}
    (schedule : Schedule calls steps) (call : ι) :
    (steps.filter fun step => step.call = call).length ≤ 2 := by
  rw [schedule.own]
  split
  · exact Nat.le_refl 2
  · exact Nat.zero_le 2

/-- Between the read and the write of a call there are none of its steps. -/
theorem Schedule.others {calls : List ι} {steps earlier between later : List (Step ι)} {call : ι}
    (schedule : Schedule calls steps)
    (split : steps = earlier ++ .read call :: (between ++ .write call :: later)) :
    ∀ step ∈ between, step.call ≠ call := by
  intro step among own
  have few := schedule.length_le call
  rw [split, List.filter_append, List.filter_cons_of_pos (by simp [Step.call]),
    List.filter_append, List.filter_cons_of_pos (by simp [Step.call]), List.length_append,
    List.length_cons, List.length_append, List.length_cons] at few
  have inside : step ∈ between.filter fun step => step.call = call :=
    List.mem_filter.mpr ⟨among, decide_eq_true own⟩
  have some := List.length_pos_of_mem inside
  omega

/-- A schedule has each write once. -/
theorem Schedule.write_once {calls : List ι} {first second : List (Step ι)} {call : ι}
    (schedule : Schedule calls (first ++ second)) (among : Step.write call ∈ first) :
    Step.write call ∉ second := by
  intro again
  have counted : (first ++ second).count (.write call) ≤ 1 := by
    rw [← List.count_filter (p := fun step => step.call = call) (by simp [Step.call]),
      schedule.own]
    split <;> simp
  have one := List.count_pos_iff.mpr among
  have other := List.count_pos_iff.mpr again
  rw [List.count_append] at counted
  omega

/-- One call sets a mark, and the others change nothing. -/
def marks (marker : ι) (mark : V) (call : ι) (value : V) : V :=
  if call = marker then mark else value

/-- A mark that is set stays. -/
theorem serially_marks {marker : ι} {calls : List ι} (among : marker ∈ calls) (mark value : V) :
    serially (marks marker mark) calls value = mark := by
  induction calls using List.reverseRecOn with
  | nil => cases among
  | append_singleton calls call ih =>
      rw [serially_concat, marks]
      split
      · rfl
      · rename_i other
        exact ih ((List.mem_append.mp among).resolve_right fun last =>
          other (List.mem_singleton.mp last).symm)

/-- Before the write of the marking call there is no mark. -/
theorem load_unmarked {marker : ι} {mark : V} (stored : P) {steps : List (Step ι)}
    (unwritten : Step.write marker ∉ steps) :
    kept.load ((machine kept (marks marker mark)).after { stored } steps).stored =
      kept.load stored := by
  have others : (machine kept (marks marker mark)).EveryStep
      (fun _ _ step => step ≠ .write marker) { stored } steps := by
    rintro earlier step later rfl rfl
    exact unwritten (List.mem_append_right _ List.mem_cons_self)
  refine (Mealy.invariant_of_everyStep (fun shared _ => kept.load shared.stored =
    kept.load stored ∧ ∀ call value, call ≠ marker → shared.next call = some value →
      value = kept.load stored) ⟨rfl, fun _ _ _ found => by cases found⟩ ?_ others).1
  rintro shared _ step ⟨same, unmarked⟩ other
  cases step with
  | read call =>
      refine ⟨same, fun call' value ne found => ?_⟩
      by_cases own : call' = call
      · subst own
        simp only [machine, Function.update_self, Option.some.injEq] at found
        rw [← found, marks, if_neg ne, same]
      · simp only [machine, Function.update_of_ne own] at found
        exact unmarked call' value ne found
  | write call =>
      have ne : call ≠ marker := fun same => other (congrArg Step.write same)
      cases found : shared.next call with
      | none =>
          rw [step_write_none kept _ found]
          exact ⟨same, unmarked⟩
      | some value =>
          rw [step_write kept _ found]
          refine ⟨(kept.load_save _ _).trans (unmarked call value ne found), ?_⟩
          intro call' value' ne' found'
          by_cases own : call' = call
          · subst own
            simp only [Function.update_self] at found'
            cases found'
          · simp only [Function.update_of_ne own] at found'
            exact unmarked call' value' ne' found'

/-- Behind the last write that was overtaken, the mark of the call that overtook it is gone. -/
theorem load_lost {calls : List ι} {steps earlier between later : List (Step ι)} {call marker : ι}
    (schedule : Schedule calls steps)
    (split : steps = earlier ++ .read call :: (between ++ .write call :: later))
    (among : Step.write marker ∈ between)
    (last : ∀ earlier' call' between' later', later'.length < later.length →
      steps = earlier' ++ .read call' :: (between' ++ .write call' :: later') →
        ∀ other, Step.write other ∉ between') (stored : P) (mark : V) :
    kept.load ((machine kept (marks marker mark)).after { stored } steps).stored =
      kept.load stored := by
  have own := schedule.others split
  have ne : call ≠ marker := fun same => own _ among same.symm
  have unwritten : Step.write marker ∉ earlier := by
    intro before
    rw [split] at schedule
    exact schedule.write_once before
      (List.mem_cons_of_mem _ (List.mem_append_left _ among))
  let pre := earlier ++ .read call :: between
  have whole : steps = pre ++ .write call :: later := by
    rw [split, List.append_assoc, List.cons_append]
  have unwritten' : Step.write marker ∉ later := by
    rw [whole] at schedule
    exact fun behind => schedule.write_once
      (List.mem_append_right _ (List.mem_cons_of_mem _ among)) (List.mem_cons_of_mem _ behind)
  -- From the write on, whatever is kept was made without the mark.
  have onwards : ∀ front rest, later = front ++ rest →
      kept.load ((machine kept (marks marker mark)).after { stored }
        (pre ++ .write call :: front)).stored = kept.load stored := by
    intro front
    induction front using List.reverseRecOn with
    | nil =>
        intro _ _
        have found : ((machine kept (marks marker mark)).after { stored } pre).next call =
            some (kept.load stored) := by
          rw [Mealy.after_append, Mealy.after_cons, next_of_others kept _ _ own]
          simp only [machine, Function.update_self, marks, if_neg ne]
          exact congrArg some (load_unmarked kept stored unwritten)
        rw [Mealy.after_concat, step_write kept _ found]
        exact kept.load_save _ _
    | append_singleton front step ih =>
        intro rest onward
        have before := ih (step :: rest) (by rw [onward, List.append_assoc]; rfl)
        rw [← List.cons_append, ← List.append_assoc, Mealy.after_concat]
        cases step with
        | read other => exact before
        | write other =>
            cases found : ((machine kept (marks marker mark)).after { stored }
                (pre ++ .write call :: front)).next other with
            | none =>
                rw [step_write_none kept _ found]
                exact before
            | some value =>
                obtain ⟨earlier', between', reached, rfl⟩ := exists_read kept _ found
                have cut : steps = (pre ++ .write call :: front) ++ .write other :: rest := by
                  rw [whole, onward]
                  simp
                have shorter : rest.length < later.length := by
                  rw [onward, List.length_append, List.length_append, List.length_singleton]
                  omega
                have noWrite := last earlier' other between' rest shorter
                  (by rw [cut, reached, List.append_assoc, List.cons_append])
                have ne' : other ≠ marker := by
                  rintro rfl
                  exact unwritten' (by rw [onward]; simp)
                rw [step_write kept _ found]
                dsimp only
                rw [kept.load_save, marks, if_neg ne', ← before, reached, Mealy.after_append,
                  Mealy.after_cons, stored_of_noWrite kept _ _ noWrite]
                rfl
  rw [whole]
  exact onwards later [] (List.append_nil _).symm

/-- **The orders that are safe.** Let the store be able to keep another value. Whatever the calls
make of a value, behind a schedule there is the value they make one after another in some order, if
and only if no call writes between the read and the write of another. -/
theorem safe_iff {calls : List ι} {steps : List (Step ι)} (schedule : Schedule calls steps)
    {stored : P} {value : V} (another : kept.load stored ≠ value) :
    (∀ transform : ι → V → V, ∃ order, order.Perm calls ∧
        kept.load ((machine kept transform).after { stored } steps).stored =
          serially transform order (kept.load stored)) ↔ Apart steps := by
  constructor
  · intro safe
    -- By induction on what is behind the write that was overtaken.
    have apart : ∀ n earlier call between later, later.length = n →
        steps = earlier ++ .read call :: (between ++ .write call :: later) →
          ∀ other, Step.write other ∉ between := by
      intro n
      induction n using Nat.strongRecOn with
      | _ n ih =>
          rintro earlier call between later rfl split marker among
          have lost := load_lost kept schedule split among
            (fun earlier' call' between' later' shorter =>
              ih later'.length shorter earlier' call' between' later' rfl) stored value
          obtain ⟨order, perm, same⟩ := safe (marks marker value)
          have called : marker ∈ calls := by
            by_contra absent
            have none := schedule.own marker
            rw [if_neg absent] at none
            have inside : Step.write marker ∈ steps.filter fun step => step.call = marker := by
              rw [split]
              exact List.mem_filter.mpr ⟨by simp [among], decide_eq_true rfl⟩
            rw [none] at inside
            cases inside
          rw [lost, serially_marks (perm.mem_iff.mpr called)] at same
          exact another same
    exact fun earlier call between later => apart _ earlier call between later rfl
  · intro apart transform
    exact exists_serial_order kept transform schedule (apart.upToDate kept transform stored)

end ReadModifyWrite

end MobileGs
