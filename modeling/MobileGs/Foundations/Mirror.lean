import MobileGs.Foundations.ReadModifyWrite

/-!
# A mirror beside the store

Calls change a value in a store, by reading it and writing it back, and each tells a mirror the
value it has made. But it does not tell what it wrote. It applies its change once more, to the value
it was launched with, which is what the store held at some moment before.

Behind all of the calls, and whatever they make of a value, the mirror has the value of the store
if and only if the call that applies last wrote last, and nothing was written between the moment it
was launched with and its read (`agrees_iff`).
-/

set_option autoImplicit false

namespace MobileGs

universe u v w

namespace Mirror

open ReadModifyWrite (Shared)

/-- The steps of a call. It is launched with the value of a moment, by the number of steps taken up
to then. -/
inductive Step (ι : Type w) where
  | launch (call : ι) (moment : ℕ)
  | read (call : ι)
  | write (call : ι)
  | apply (call : ι)
  deriving DecidableEq

namespace Step

variable {ι : Type w}

def call : Step ι → ι
  | launch call _ => call
  | read call => call
  | write call => call
  | apply call => call

@[simp] theorem call_launch (call : ι) (moment : ℕ) : (launch call moment).call = call := rfl

@[simp] theorem call_read (call : ι) : (read call).call = call := rfl

@[simp] theorem call_write (call : ι) : (write call).call = call := rfl

@[simp] theorem call_apply (call : ι) : (apply call).call = call := rfl

/-- What a step is to the store. -/
def onStore : Step ι → Option (ReadModifyWrite.Step ι)
  | launch _ _ => none
  | read call => some (.read call)
  | write call => some (.write call)
  | apply _ => none

end Step

/-- The store, the values it held at the moments before, the value each call was launched with, and
the mirror. -/
structure Mirrored (ι : Type w) (P : Type u) (V : Type v) where
  shared : Shared ι P V
  past : List V := []
  base : ι → Option V := fun _ => none
  applied : Option V := none

variable {ι : Type w} [DecidableEq ι] {P : Type u} {V : Type v} (kept : Kept P V)
  (transform : ι → V → V)

/-- The values of the moments up to now. -/
def Mirrored.moments (state : Mirrored ι P V) : List V :=
  state.past ++ [kept.load state.shared.stored]

/-- The calls in any order of their steps. -/
def machine : Mealy (Mirrored ι P V) (Step ι) Empty where
  step state step :=
    let elapsed := { state with past := state.moments kept }
    match step with
    | .launch call moment =>
        ({ elapsed with base := Function.update state.base call (state.moments kept)[moment]? }, [])
    | .read call =>
        ({ elapsed with
            shared := ((ReadModifyWrite.machine kept transform).step state.shared
              (.read call)).1 }, [])
    | .write call =>
        ({ elapsed with
            shared := ((ReadModifyWrite.machine kept transform).step state.shared
              (.write call)).1 }, [])
    | .apply call =>
        match state.base call with
        | some value => ({ elapsed with applied := some (transform call value) }, [])
        | none => (elapsed, [])

/-- The state behind some steps from a store. -/
def reached (stored : P) (steps : List (Step ι)) : Mirrored ι P V :=
  (machine kept transform).after { shared := { stored } } steps

/-- The value kept behind some steps. -/
def value (stored : P) (steps : List (Step ι)) : V :=
  kept.load (reached kept transform stored steps).shared.stored

/-- The mirror has the value of the store. -/
def Agrees (state : Mirrored ι P V) : Prop :=
  state.applied = some (kept.load state.shared.stored)

theorem reached_concat (stored : P) (steps : List (Step ι)) (step : Step ι) :
    reached kept transform stored (steps ++ [step]) =
      ((machine kept transform).step (reached kept transform stored steps) step).1 :=
  Mealy.after_concat _ _ _ _

/-! ## The store -/

theorem shared_step (state : Mirrored ι P V) (step : Step ι) :
    ((machine kept transform).step state step).1.shared =
      (ReadModifyWrite.machine kept transform).after state.shared step.onStore.toList := by
  cases step with
  | launch call moment => rfl
  | read call => rfl
  | write call => rfl
  | apply call =>
      simp only [machine]
      split <;> rfl

/-- **The store does not know of the mirror.** -/
theorem shared_reached (stored : P) (steps : List (Step ι)) :
    (reached kept transform stored steps).shared =
      (ReadModifyWrite.machine kept transform).after { stored }
        (steps.filterMap Step.onStore) := by
  induction steps using List.reverseRecOn with
  | nil => rfl
  | append_singleton steps step ih =>
      rw [reached_concat, shared_step, ih, List.filterMap_append, Mealy.after_append]
      cases step <;> rfl

theorem shared_append (stored : P) (steps more : List (Step ι)) :
    (reached kept transform stored (steps ++ more)).shared =
      (ReadModifyWrite.machine kept transform).after
        (reached kept transform stored steps).shared (more.filterMap Step.onStore) := by
  rw [shared_reached, shared_reached, List.filterMap_append, Mealy.after_append]

omit [DecidableEq ι] in
/-- The store sees the writes that are there. -/
theorem write_mem {steps : List (Step ι)} {call : ι}
    (among : ReadModifyWrite.Step.write call ∈ steps.filterMap Step.onStore) :
    Step.write call ∈ steps := by
  obtain ⟨step, member, same⟩ := List.mem_filterMap.mp among
  cases step with
  | write other =>
      obtain rfl : other = call := ReadModifyWrite.Step.write.inj (Option.some.inj same)
      exact member
  | read other => cases same
  | launch other moment => cases same
  | apply other => cases same

/-- Where nothing is written, the value stays. -/
theorem value_append_of_noWrite (stored : P) (steps : List (Step ι)) {more : List (Step ι)}
    (noWrite : ∀ other, Step.write other ∉ more) :
    value kept transform stored (steps ++ more) = value kept transform stored steps := by
  rw [value, shared_append, ReadModifyWrite.stored_of_noWrite]
  · rfl
  · exact fun other among => noWrite other (write_mem among)

/-- What a call writes is its change of what it read. -/
theorem value_written {call : ι} (stored : P) (front : List (Step ι)) {between : List (Step ι)}
    (others : ∀ step ∈ between, step.call ≠ call) :
    value kept transform stored (front ++ .read call :: (between ++ [.write call])) =
      transform call (value kept transform stored front) := by
  have onStore : (Step.read call :: (between ++ [.write call])).filterMap Step.onStore =
      .read call :: (between.filterMap Step.onStore ++ [.write call]) := by
    have read : (Step.read call).onStore = some (.read call) := rfl
    rw [List.filterMap_cons_some read, List.filterMap_append]
    rfl
  have foreign : ∀ step ∈ between.filterMap Step.onStore, step.call ≠ call := by
    intro step member
    obtain ⟨own, among, same⟩ := List.mem_filterMap.mp member
    have other := others own among
    cases own <;> cases same <;> exact other
  have found : ((ReadModifyWrite.machine kept transform).after
      ((ReadModifyWrite.machine kept transform).step (reached kept transform stored front).shared
        (.read call)).1 (between.filterMap Step.onStore)).next call =
      some (transform call (value kept transform stored front)) := by
    rw [ReadModifyWrite.next_of_others kept transform _ foreign]
    exact Function.update_self _ _ _
  rw [value, shared_append, onStore, Mealy.after_cons, Mealy.after_concat,
    ReadModifyWrite.step_write kept transform found]
  exact kept.load_save _ _

/-! ## The moments -/

theorem past_step (state : Mirrored ι P V) (step : Step ι) :
    ((machine kept transform).step state step).1.past = state.moments kept := by
  cases step with
  | launch call moment => rfl
  | read call => rfl
  | write call => rfl
  | apply call =>
      simp only [machine]
      split <;> rfl

theorem length_past (stored : P) (steps : List (Step ι)) :
    (reached kept transform stored steps).past.length = steps.length := by
  induction steps using List.reverseRecOn with
  | nil => rfl
  | append_singleton steps step ih =>
      rw [reached_concat, past_step, Mirrored.moments, List.length_append, List.length_append, ih]
      rfl

/-- A moment stays what it was. -/
theorem getElem?_moments (stored : P) (front later : List (Step ι)) :
    ((reached kept transform stored (front ++ later)).moments kept)[front.length]? =
      some (value kept transform stored front) := by
  induction later using List.reverseRecOn with
  | nil =>
      rw [List.append_nil, Mirrored.moments, ← length_past kept transform stored front,
        List.getElem?_concat_length]
      rfl
  | append_singleton later step ih =>
      rw [← List.append_assoc, reached_concat, Mirrored.moments, past_step,
        List.getElem?_append_left]
      · exact ih
      · rw [Mirrored.moments, List.length_append, length_past, List.length_append,
          List.length_singleton]
        omega

/-! ## The mirror -/

theorem base_step_of_ne {call : ι} (state : Mirrored ι P V) {step : Step ι}
    (other : ∀ moment, step ≠ .launch call moment) :
    ((machine kept transform).step state step).1.base call = state.base call := by
  cases step with
  | launch call' moment =>
      refine Function.update_of_ne ?_ _ _
      rintro rfl
      exact other moment rfl
  | read call' => rfl
  | write call' => rfl
  | apply call' =>
      simp only [machine]
      split <;> rfl

/-- A call keeps the value it was launched with. -/
theorem base_reached {call : ι} {moment : ℕ} (stored : P) {front between : List (Step ι)}
    (earlier : moment ≤ front.length) (once : ∀ again, Step.launch call again ∉ between) :
    (reached kept transform stored (front ++ .launch call moment :: between)).base call =
      some (value kept transform stored (front.take moment)) := by
  induction between using List.reverseRecOn with
  | nil =>
      rw [reached_concat]
      have stays := getElem?_moments kept transform stored (front.take moment) (front.drop moment)
      rw [List.take_append_drop, List.length_take_of_le earlier] at stays
      exact (Function.update_self _ _ _).trans stays
  | append_singleton between step ih =>
      rw [← List.cons_append, ← List.append_assoc, reached_concat, base_step_of_ne]
      · exact ih fun again member => once again (List.mem_append_left _ member)
      · rintro again rfl
        exact once again (List.mem_append_right _ List.mem_cons_self)

theorem applied_step_of_ne (state : Mirrored ι P V) {step : Step ι}
    (other : ∀ call, step ≠ .apply call) :
    ((machine kept transform).step state step).1.applied = state.applied := by
  cases step with
  | launch call moment => rfl
  | read call => rfl
  | write call => rfl
  | apply call => exact absurd rfl (other call)

/-- The mirror keeps what it was told last. -/
theorem applied_append_of_noApply (stored : P) (steps : List (Step ι)) {more : List (Step ι)}
    (noApply : ∀ other, Step.apply other ∉ more) :
    (reached kept transform stored (steps ++ more)).applied =
      (reached kept transform stored steps).applied := by
  induction more using List.reverseRecOn with
  | nil => rw [List.append_nil]
  | append_singleton more step ih =>
      rw [← List.append_assoc, reached_concat, applied_step_of_ne]
      · exact ih fun other member => noApply other (List.mem_append_left _ member)
      · rintro other rfl
        exact noApply other (List.mem_append_right _ List.mem_cons_self)

/-- What a call tells the mirror is its change of what it was launched with. -/
theorem applied_reached {call : ι} {moment : ℕ} (stored : P) {front between later : List (Step ι)}
    (earlier : moment ≤ front.length) (once : ∀ again, Step.launch call again ∉ between)
    (noApply : ∀ other, Step.apply other ∉ later) :
    (reached kept transform stored
        (front ++ .launch call moment :: (between ++ .apply call :: later))).applied =
      some (transform call (value kept transform stored (front.take moment))) := by
  have base := base_reached kept transform stored earlier once
  have split : front ++ .launch call moment :: (between ++ .apply call :: later) =
      (front ++ .launch call moment :: between) ++ [.apply call] ++ later := by simp
  rw [split, applied_append_of_noApply kept transform stored _ noApply, reached_concat]
  simp only [machine, base]

/-! ## Schedules -/

/-- The steps of some calls, each of which is launched with a value of the past, reads, writes and
applies. -/
structure Schedule (calls : List ι) (steps : List (Step ι)) : Prop where
  own : ∀ call ∈ calls, ∃ moment, steps.filter (fun step => step.call = call) =
    [.launch call moment, .read call, .write call, .apply call]
  foreign : ∀ step ∈ steps, step.call ∈ calls
  past : ∀ earlier call moment later, steps = earlier ++ .launch call moment :: later →
    moment ≤ earlier.length

/-- The steps of a call, with what is before, between and behind them. -/
structure Life (ι : Type w) where
  call : ι
  moment : ℕ
  earlier : List (Step ι)
  shown : List (Step ι)
  between : List (Step ι)
  behind : List (Step ι)
  later : List (Step ι)

namespace Life

variable {ι : Type w} (life : Life ι)

/-- The steps before the read. -/
def front : List (Step ι) := life.earlier ++ .launch life.call life.moment :: life.shown

def steps : List (Step ι) :=
  life.front ++ .read life.call ::
    (life.between ++ .write life.call :: (life.behind ++ .apply life.call :: life.later))

/-- The steps of other calls. -/
def others : List (Step ι) :=
  life.earlier ++ (life.shown ++ (life.between ++ (life.behind ++ life.later)))

theorem launch_mem : .launch life.call life.moment ∈ life.steps := by simp [steps, front]

theorem apply_mem : .apply life.call ∈ life.steps := by simp [steps]

/-- The steps behind the launch. -/
theorem steps_eq_launch : life.steps = life.earlier ++ .launch life.call life.moment ::
    ((life.shown ++ .read life.call :: (life.between ++ .write life.call :: life.behind)) ++
      .apply life.call :: life.later) := by
  simp [steps, front]

/-- The steps around the write. -/
theorem steps_eq_write : life.steps =
    (life.front ++ .read life.call :: life.between) ++
      .write life.call :: (life.behind ++ .apply life.call :: life.later) := by
  simp [steps]

/-- The steps around the apply. -/
theorem steps_eq_apply : life.steps =
    (life.front ++ .read life.call :: (life.between ++ .write life.call :: life.behind)) ++
      .apply life.call :: life.later := by
  simp [steps]

/-- A write behind that of the call. -/
theorem write_mem_behind {other : ι} :
    .write other ∈ life.behind ++ .apply life.call :: life.later ↔
      .write other ∈ life.behind ++ life.later := by
  simp

end Life

variable {calls : List ι} {steps : List (Step ι)} {life : Life ι}

/-- A call has a life. -/
theorem Schedule.exists_life (schedule : Schedule calls steps) {call : ι} (among : call ∈ calls) :
    ∃ life : Life ι, life.call = call ∧ steps = life.steps := by
  obtain ⟨moment, own⟩ := schedule.own call among
  obtain ⟨earlier, rest, rfl, -, -, own⟩ := List.filter_eq_cons_iff.mp own
  obtain ⟨shown, rest, rfl, -, -, own⟩ := List.filter_eq_cons_iff.mp own
  obtain ⟨between, rest, rfl, -, -, own⟩ := List.filter_eq_cons_iff.mp own
  obtain ⟨behind, later, rfl, -, -, -⟩ := List.filter_eq_cons_iff.mp own
  refine ⟨⟨call, moment, earlier, shown, between, behind, later⟩, rfl, ?_⟩
  simp [Life.steps, Life.front]

/-- Between the steps of a call there are none of its own. -/
theorem Schedule.others (schedule : Schedule calls steps) (split : steps = life.steps) :
    ∀ step ∈ life.others, step.call ≠ life.call := by
  intro step inside own
  have among : life.call ∈ calls :=
    schedule.foreign (.launch life.call life.moment) (split ▸ life.launch_mem)
  obtain ⟨moment, four⟩ := schedule.own _ among
  have few := congrArg List.length four
  have found : step ∈ life.others.filter fun step => step.call = life.call :=
    List.mem_filter.mpr ⟨inside, decide_eq_true own⟩
  have some := List.length_pos_of_mem found
  simp only [split, Life.steps, Life.front, Life.others, List.filter_append, List.filter_cons,
    Step.call_launch, Step.call_read, Step.call_write, Step.call_apply, decide_true, if_true,
    List.length_append, List.length_cons, List.length_nil] at few some
  omega

/-- A schedule has each write once. -/
theorem Schedule.write_once {first second : List (Step ι)}
    (schedule : Schedule calls (first ++ second)) {call : ι} (among : Step.write call ∈ first) :
    Step.write call ∉ second := by
  intro again
  obtain ⟨moment, own⟩ :=
    schedule.own call (schedule.foreign _ (List.mem_append_left _ among))
  have counted : (first ++ second).count (.write call) = 1 := by
    rw [← List.count_filter (p := fun step => step.call = call) (by simp), own]
    simp
  have one := List.count_pos_iff.mpr among
  have other := List.count_pos_iff.mpr again
  rw [List.count_append] at counted
  omega

/-- Between its read and its write there are no steps of a call. -/
theorem Schedule.between_others (schedule : Schedule calls steps) (split : steps = life.steps) :
    ∀ step ∈ life.between, step.call ≠ life.call :=
  fun step inside => schedule.others split step (by simp [Life.others, inside])

/-- A write is the change of what its call has read. -/
theorem Schedule.exists_value_written (schedule : Schedule calls steps) {marker : ι}
    {front later : List (Step ι)} (split : steps = front ++ .write marker :: later) (stored : P) :
    ∃ read, value kept transform stored (front ++ [.write marker]) = transform marker read := by
  have among : marker ∈ calls := schedule.foreign (.write marker) (by rw [split]; simp)
  obtain ⟨life, rfl, cut⟩ := schedule.exists_life among
  have once : Step.write life.call ∉ life.others :=
    fun inside => schedule.others cut _ inside rfl
  simp only [Life.others, List.mem_append, not_or] at once
  -- The call has no second write.
  have same := life.steps_eq_write.symm.trans (cut.symm.trans split)
  obtain ⟨rfl, -, -⟩ := (List.append_cons_inj_of_notMem (by simp [Life.front, once])
    (by simp [once])).mp same
  refine ⟨value kept transform stored life.front, ?_⟩
  rw [List.append_assoc, List.cons_append]
  exact value_written kept transform stored _ (schedule.between_others cut)

/-! ## When the mirror has the value of the store -/

/-- The call that applies last wrote last, and nothing was written between the moment it was
launched with and its read. -/
def Settled (steps : List (Step ι)) : Prop :=
  ∀ call moment front between behind later,
    steps = front ++ .read call :: (between ++ .write call :: (behind ++ .apply call :: later)) →
      .launch call moment ∈ front → (∀ other, .apply other ∉ later) →
        (∀ other, .write other ∉ behind ++ later) ∧ ∀ other, .write other ∉ front.drop moment

/-- What the mirror has behind a schedule. -/
theorem Schedule.applied_eq (schedule : Schedule calls steps) (split : steps = life.steps)
    (noApply : ∀ other, Step.apply other ∉ life.later) (stored : P) :
    (reached kept transform stored steps).applied =
      some (transform life.call
        (value kept transform stored (life.front.take life.moment))) := by
  have launch := split.trans life.steps_eq_launch
  have earlier_le := schedule.past _ _ _ _ launch
  have others := schedule.others split
  simp only [Life.others, List.mem_append] at others
  rw [Life.front, List.take_append_of_le_length earlier_le, launch]
  refine applied_reached kept transform stored earlier_le ?_ noApply
  intro again inside
  simp only [List.mem_append, List.mem_cons, reduceCtorEq, false_or] at inside
  refine others (.launch life.call again) ?_ rfl
  tauto

/-- What the store has where nothing is written behind the write of a call. -/
theorem Schedule.value_eq (schedule : Schedule calls steps) (split : steps = life.steps)
    (noWrite : ∀ other, Step.write other ∉ life.behind ++ life.later) (stored : P) :
    value kept transform stored steps =
      transform life.call (value kept transform stored life.front) := by
  have whole : steps = (life.front ++ .read life.call :: (life.between ++ [.write life.call])) ++
      (life.behind ++ .apply life.call :: life.later) := by
    rw [split, Life.steps]
    simp
  have quiet : ∀ other, Step.write other ∉ life.behind ++ .apply life.call :: life.later :=
    fun other inside => noWrite other (life.write_mem_behind.mp inside)
  rw [whole, value_append_of_noWrite kept transform stored _ quiet]
  exact value_written kept transform stored _ (schedule.between_others split)

omit [DecidableEq ι] in
/-- The last step of a kind. -/
theorem exists_last (kind : ι → Step ι) {steps : List (Step ι)} {call : ι}
    (among : kind call ∈ steps) :
    ∃ front last later, steps = front ++ kind last :: later ∧ ∀ other, kind other ∉ later := by
  induction steps using List.reverseRecOn with
  | nil => cases among
  | append_singleton steps step ih =>
      by_cases here : ∃ last, kind last = step
      · obtain ⟨last, rfl⟩ := here
        exact ⟨steps, last, [], rfl, fun _ => List.not_mem_nil⟩
      · have before : kind call ∈ steps := by
          rcases List.mem_append.mp among with before | own
          · exact before
          · exact absurd ⟨call, List.mem_singleton.mp own⟩ here
        obtain ⟨front, last, later, rfl, none⟩ := ih before
        refine ⟨front, last, later ++ [step], by simp, fun other inside => ?_⟩
        rcases List.mem_append.mp inside with inside | own
        · exact none other inside
        · exact here ⟨other, List.mem_singleton.mp own⟩

/-- A call applies last. -/
theorem Schedule.exists_last_life (schedule : Schedule calls steps) {call : ι}
    (among : call ∈ calls) :
    ∃ life : Life ι, steps = life.steps ∧ ∀ other, Step.apply other ∉ life.later := by
  obtain ⟨some, rfl, rfl⟩ := schedule.exists_life among
  obtain ⟨front, call, rest, split, noApply⟩ := exists_last .apply some.apply_mem
  have called : call ∈ calls := schedule.foreign (.apply call) (by rw [split]; simp)
  obtain ⟨life, rfl, cut⟩ := schedule.exists_life called
  have once : Step.apply life.call ∉ life.others :=
    fun inside => schedule.others cut _ inside rfl
  simp only [Life.others, List.mem_append, not_or] at once
  have same := life.steps_eq_apply.symm.trans (cut.symm.trans split)
  obtain ⟨-, -, rfl⟩ := (List.append_cons_inj_of_notMem (by simp [Life.front, once])
    (by simp [once])).mp same
  exact ⟨life, cut, noApply⟩

/-- **The mirror has the value of the store** behind a settled schedule, whatever the calls make of
a value. -/
theorem agrees_of_settled (schedule : Schedule calls steps) {call : ι} (among : call ∈ calls)
    (settled : Settled steps) (stored : P) :
    Agrees kept (reached kept transform stored steps) := by
  obtain ⟨life, split, noApply⟩ := schedule.exists_last_life among
  have launched : .launch life.call life.moment ∈ life.front :=
    List.mem_append_right _ List.mem_cons_self
  obtain ⟨noWrite, quiet⟩ := settled _ _ _ _ _ _ split launched noApply
  have stays := value_append_of_noWrite kept transform stored (life.front.take life.moment) quiet
  rw [List.take_append_drop] at stays
  rw [Agrees, schedule.applied_eq kept transform split noApply stored, ← stays]
  exact congrArg some (schedule.value_eq kept transform split noWrite stored).symm

/-- Where a call wrote behind the call that applies last, the two make different values of any. -/
theorem Schedule.noWrite_of_agrees (schedule : Schedule calls steps) (split : steps = life.steps)
    (noApply : ∀ other, Step.apply other ∉ life.later) {stored : P} {another : V}
    (different : kept.load stored ≠ another)
    (agrees : ∀ transform : ι → V → V, Agrees kept (reached kept transform stored steps)) :
    ∀ other, Step.write other ∉ life.behind ++ life.later := by
  intro other inside
  have others := schedule.others split
  simp only [Life.others, List.mem_append] at others
  obtain ⟨front, marker, rest, cut, none⟩ :=
    exists_last .write (life.write_mem_behind.mpr inside)
  have ne : marker ≠ life.call := by
    have inside : Step.write marker ∈ life.behind ++ life.later :=
      life.write_mem_behind.mp (by rw [cut]; simp)
    rcases List.mem_append.mp inside with inside | inside
    · exact others (.write marker) (by simp [inside])
    · exact others (.write marker) (by simp [inside])
  let transform : ι → V → V := fun call _ => if call = life.call then kept.load stored else another
  have whole : steps = (life.front ++ .read life.call ::
      (life.between ++ .write life.call :: front)) ++ .write marker :: rest := by
    rw [split, Life.steps, cut]
    simp
  obtain ⟨read, made⟩ := schedule.exists_value_written kept transform whole stored
  have last : value kept transform stored steps = another := by
    rw [whole, List.append_cons, value_append_of_noWrite kept transform stored _ none, made]
    exact if_neg ne
  have told := (schedule.applied_eq kept transform split noApply stored).symm.trans
    (agrees transform)
  have first : transform life.call (value kept transform stored
      (life.front.take life.moment)) = kept.load stored := if_pos rfl
  exact different (first.symm.trans ((Option.some.inj told).trans last))

/-- Where a call wrote between the moment and the read of the call that applies last, its mark is in
the store alone. -/
theorem Schedule.quiet_of_agrees (schedule : Schedule calls steps) (split : steps = life.steps)
    (noApply : ∀ other, Step.apply other ∉ life.later)
    (noWrite : ∀ other, Step.write other ∉ life.behind ++ life.later) {stored : P} {another : V}
    (different : kept.load stored ≠ another)
    (agrees : ∀ transform : ι → V → V, Agrees kept (reached kept transform stored steps)) :
    ∀ other, Step.write other ∉ life.front.drop life.moment := by
  intro other inside
  have others := schedule.others split
  simp only [Life.others, List.mem_append] at others
  obtain ⟨before, marker, rest, cut, none⟩ := exists_last .write inside
  have ne : life.call ≠ marker := by
    have inside : Step.write marker ∈ life.front.drop life.moment := by rw [cut]; simp
    have inside := List.mem_of_mem_drop inside
    simp only [Life.front, List.mem_append, List.mem_cons, reduceCtorEq, false_or] at inside
    exact (others (.write marker) (by tauto)).symm
  let transform := ReadModifyWrite.marks marker another
  have parts : life.front = life.front.take life.moment ++ before ++ .write marker :: rest := by
    rw [List.append_assoc, ← cut]
    exact (List.take_append_drop life.moment life.front).symm
  have whole : steps = (life.front.take life.moment ++ before) ++ .write marker :: (rest ++
      .read life.call ::
        (life.between ++ .write life.call :: (life.behind ++ .apply life.call :: life.later))) := by
    rw [split, Life.steps]
    conv_lhs => rw [parts]
    simp
  have unwritten : Step.write marker ∉ life.front.take life.moment := by
    rw [whole, List.append_assoc] at schedule
    exact fun among => schedule.write_once among (by simp)
  obtain ⟨read, made⟩ := schedule.exists_value_written kept transform whole stored
  have mark : value kept transform stored life.front = another := by
    rw [parts, List.append_cons, value_append_of_noWrite kept transform stored _ none, made]
    exact if_pos rfl
  have unmarked : value kept transform stored (life.front.take life.moment) =
      kept.load stored := by
    rw [value, shared_reached]
    exact ReadModifyWrite.load_unmarked kept stored fun among => unwritten (write_mem among)
  have last : value kept transform stored steps = another :=
    (schedule.value_eq kept transform split noWrite stored).trans ((if_neg ne).trans mark)
  have told := (schedule.applied_eq kept transform split noApply stored).symm.trans
    (agrees transform)
  have first : transform life.call (value kept transform stored (life.front.take life.moment)) =
      kept.load stored := (if_neg ne).trans unmarked
  exact different (first.symm.trans ((Option.some.inj told).trans last))

/-- **When the mirror has the value of the store.** Let the store be able to keep another value.
Whatever the calls make of a value, behind a schedule the mirror has what the store keeps, if and
only if the schedule is settled. -/
theorem agrees_iff (schedule : Schedule calls steps) {stored : P} {another : V}
    (different : kept.load stored ≠ another) :
    (∀ transform : ι → V → V, calls ≠ [] → Agrees kept (reached kept transform stored steps)) ↔
      Settled steps := by
  refine ⟨fun agrees => ?_, fun settled transform some => ?_⟩
  · intro call moment front between behind later split launched noApply
    have among : call ∈ calls := schedule.foreign (.read call) (by rw [split]; simp)
    have agrees := fun transform => agrees transform (List.ne_nil_of_mem among)
    obtain ⟨earlier, shown, rfl⟩ := List.append_of_mem launched
    let life : Life ι := ⟨call, moment, earlier, shown, between, behind, later⟩
    have split : steps = life.steps := split
    have noWrite := schedule.noWrite_of_agrees kept split noApply different agrees
    exact ⟨noWrite, schedule.quiet_of_agrees kept split noApply noWrite different agrees⟩
  · obtain ⟨call, among⟩ := List.exists_mem_of_ne_nil _ some
    exact agrees_of_settled kept transform schedule among settled stored

end Mirror

end MobileGs
