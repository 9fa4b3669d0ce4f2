import Mathlib.Data.List.Nodup
import Mathlib.Data.Multiset.AddSub
import Mathlib.Data.Multiset.MapFold

/-!
# Handles

A system hands out handles, and a program uses them and closes them. The system knows a handle by a
number, and it hands out a number again once the handle that had it is closed.

The program owns what it closes and uses where the handle is open at that time (`Owned`). Then each
handle is closed at most once and not used behind that, and when none is left open, each was closed
(`Safe.of_owned`, `count_close_of_none_left`). That the open handles have numbers of their own is
kept by any calls of the program, as long as the system hands out numbers that no open handle has
(`nodup_after`). So to close or to use a number is to close or to use the handle that is meant.

`Runs` is the rule by which a program is seen to own its handles: its calls take what is open to
what is open behind them, and runs compose.
-/

set_option autoImplicit false

namespace MobileGs

universe u v

namespace Handles

/-- The calls on handles. -/
inductive Call (α : Type u) where
  | grant (handle : α)
  | close (handle : α)
  | use (handle : α)
  deriving DecidableEq, Repr

variable {α : Type u} [DecidableEq α] {ν : Type v}

/-- The handles that are open behind a call. -/
def Call.step (held : Multiset α) : Call α → Multiset α
  | grant handle => handle ::ₘ held
  | close handle => held.erase handle
  | use _ => held

/-- The handles that are open behind some calls. -/
def after (held : Multiset α) (calls : List (Call α)) : Multiset α := calls.foldl Call.step held

/-- A condition on the open handles and the next call, at every call. -/
def Along (meets : Multiset α → Call α → Prop) : Multiset α → List (Call α) → Prop
  | _, [] => True
  | held, call :: rest => meets held call ∧ Along meets (call.step held) rest

instance decidableAlong (meets : Multiset α → Call α → Prop)
    [∀ held call, Decidable (meets held call)] : ∀ held calls, Decidable (Along meets held calls)
  | _, [] => inferInstanceAs (Decidable True)
  | held, call :: rest =>
      have := decidableAlong meets (call.step held) rest
      inferInstanceAs (Decidable (_ ∧ _))

/-- The program closes and uses what is open. -/
def Owned (held : Multiset α) : Call α → Prop
  | .grant _ => True
  | .close handle => handle ∈ held
  | .use handle => handle ∈ held

/-- The system hands out a number that no open handle has. -/
def Granted (number : α → ν) (held : Multiset α) : Call α → Prop
  | .grant handle => number handle ∉ held.map number
  | .close _ => True
  | .use _ => True

instance decidableGranted [DecidableEq ν] (number : α → ν) (held : Multiset α) :
    ∀ call, Decidable (Granted number held call)
  | .grant handle => inferInstanceAs (Decidable (number handle ∉ held.map number))
  | .close _ => inferInstanceAs (Decidable True)
  | .use _ => inferInstanceAs (Decidable True)

/-- The handles that were handed out. -/
def grants (calls : List (Call α)) : List α :=
  calls.filterMap fun
    | .grant handle => some handle
    | .close _ => none
    | .use _ => none

/-! ## Calls one after another -/

@[simp] theorem after_nil (held : Multiset α) : after held [] = held := rfl

@[simp] theorem after_cons (held : Multiset α) (call : Call α) (rest : List (Call α)) :
    after held (call :: rest) = after (call.step held) rest := rfl

theorem after_append (held : Multiset α) (calls more : List (Call α)) :
    after held (calls ++ more) = after (after held calls) more :=
  List.foldl_append

theorem along_append {meets : Multiset α → Call α → Prop} {held : Multiset α}
    {calls more : List (Call α)} :
    Along meets held (calls ++ more) ↔
      Along meets held calls ∧ Along meets (after held calls) more := by
  induction calls generalizing held with
  | nil => simp [Along]
  | cons call rest ih => simp only [List.cons_append, Along, ih, after_cons, and_assoc]

omit [DecidableEq α] in
theorem grants_append (calls more : List (Call α)) :
    grants (calls ++ more) = grants calls ++ grants more :=
  List.filterMap_append

omit [DecidableEq α] in
theorem mem_grants {calls : List (Call α)} {handle : α} :
    handle ∈ grants calls ↔ .grant handle ∈ calls := by
  simp only [grants, List.mem_filterMap]
  constructor
  · rintro ⟨call, among, same⟩
    cases call with
    | grant other =>
        obtain rfl : other = handle := Option.some.inj same
        exact among
    | close other => cases same
    | use other => cases same
  · exact fun among => ⟨.grant handle, among, rfl⟩

omit [DecidableEq α] in
theorem grants_close (handles : List α) : grants (handles.map .close) = [] := by
  rw [grants, List.filterMap_map]
  exact List.filterMap_eq_nil_iff.mpr fun _ _ => rfl

omit [DecidableEq α] in
theorem grants_use (handles : List α) : grants (handles.map .use) = [] := by
  rw [grants, List.filterMap_map]
  exact List.filterMap_eq_nil_iff.mpr fun _ _ => rfl

/-! ## Numbers -/

/-- **Open handles have numbers of their own.** -/
theorem nodup_after {number : α → ν} {held : Multiset α} {calls : List (Call α)}
    (distinct : (held.map number).Nodup) (granted : Along (Granted number) held calls) :
    ((after held calls).map number).Nodup := by
  induction calls generalizing held with
  | nil => exact distinct
  | cons call rest ih =>
      obtain ⟨first, later⟩ := granted
      refine ih ?_ later
      cases call with
      | grant handle =>
          rw [Call.step, Multiset.map_cons, Multiset.nodup_cons]
          exact ⟨first, distinct⟩
      | close handle =>
          exact Multiset.nodup_of_le (Multiset.map_le_map (Multiset.erase_le handle held)) distinct
      | use handle => exact distinct

/-! ## What was handed out, and what was closed -/

/-- What is open, and what was closed, is what was open before, and what was handed out. -/
theorem count_after {held : Multiset α} {calls : List (Call α)} (owned : Along Owned held calls)
    (handle : α) :
    (after held calls).count handle + calls.count (.close handle) =
      held.count handle + (grants calls).count handle := by
  induction calls generalizing held with
  | nil => rfl
  | cons call rest ih =>
      obtain ⟨first, later⟩ := owned
      have balance := ih later
      cases call with
      | grant other =>
          have handed : grants (.grant other :: rest) = other :: grants rest := rfl
          rw [after_cons, handed, List.count_cons_of_ne (by simp), balance, Call.step,
            Multiset.count_cons, List.count_cons]
          by_cases same : handle = other
          · subst same
            simp only [if_true, beq_self_eq_true]
            omega
          · have different : (other == handle) = false := by simpa using Ne.symm same
            simp only [if_neg same, different, Bool.false_eq_true, if_false]
            omega
      | close other =>
          have handed : grants (.close other :: rest) = grants rest := rfl
          rw [after_cons, handed]
          by_cases same : handle = other
          · subst same
            have some : 0 < held.count handle := Multiset.count_pos.mpr first
            rw [Call.step, Multiset.count_erase_self] at balance
            rw [Call.step, List.count_cons_self]
            omega
          · rw [Call.step, Multiset.count_erase_of_ne same] at balance
            rw [Call.step, List.count_cons_of_ne (by simpa using Ne.symm same)]
            exact balance
      | use other =>
          have handed : grants (.use other :: rest) = grants rest := rfl
          rw [after_cons, handed, List.count_cons_of_ne (by simp)]
          exact balance

/-- What a program that owns its handles does to them. -/
structure Safe (number : α → ν) (calls : List (Call α)) : Prop where
  owned : Along Owned 0 calls
  apart : ∀ earlier later, calls = earlier ++ later → ((after 0 earlier).map number).Nodup
  once : ∀ handle, calls.count (.close handle) ≤ 1
  unused : ∀ earlier handle later, calls = earlier ++ .close handle :: later →
    .close handle ∉ later ∧ .use handle ∉ later

/-- **Each handle is closed at most once, and not used behind that.** -/
theorem Safe.of_owned {number : α → ν} {calls : List (Call α)} (owned : Along Owned 0 calls)
    (granted : Along (Granted number) 0 calls) (distinct : (grants calls).Nodup) :
    Safe number calls := by
  refine ⟨owned, ?_, ?_, ?_⟩
  · rintro earlier later rfl
    exact nodup_after Multiset.nodup_zero (along_append.mp granted).1
  · intro handle
    have balance := count_after owned handle
    have one := List.nodup_iff_count_le_one.mp distinct handle
    rw [Multiset.count_zero] at balance
    omega
  · rintro earlier handle later rfl
    -- Behind its close a handle is not open, since it is not handed out again.
    have closed : ∀ between rest, later = between ++ rest →
        handle ∉ after 0 (earlier ++ .close handle :: between) := by
      rintro between rest rfl
      have whole : earlier ++ .close handle :: (between ++ rest) =
          (earlier ++ .close handle :: between) ++ rest := by simp
      rw [whole] at owned distinct
      have balance := count_after (along_append.mp owned).1 handle
      have one := List.nodup_iff_count_le_one.mp distinct handle
      rw [grants_append, List.count_append] at one
      rw [Multiset.count_zero, List.count_append, List.count_cons_self] at balance
      exact Multiset.count_eq_zero.mp (by omega)
    constructor
    · intro again
      obtain ⟨between, rest, rfl⟩ := List.append_of_mem again
      have whole : earlier ++ .close handle :: (between ++ .close handle :: rest) =
          (earlier ++ .close handle :: between) ++ .close handle :: rest := by simp
      rw [whole] at owned
      exact closed between _ rfl (along_append.mp owned).2.1
    · intro again
      obtain ⟨between, rest, rfl⟩ := List.append_of_mem again
      have whole : earlier ++ .close handle :: (between ++ .use handle :: rest) =
          (earlier ++ .close handle :: between) ++ .use handle :: rest := by simp
      rw [whole] at owned
      exact closed between _ rfl (along_append.mp owned).2.1

/-- **When none is left open, each was closed.** -/
theorem count_close_of_none_left {calls : List (Call α)} (owned : Along Owned 0 calls)
    (distinct : (grants calls).Nodup) (none : after 0 calls = 0) {handle : α}
    (granted : .grant handle ∈ calls) : calls.count (.close handle) = 1 := by
  have balance := count_after owned handle
  rw [none, Multiset.count_zero,
    List.count_eq_one_of_mem distinct (mem_grants.mpr granted)] at balance
  omega

/-! ## Runs of a program -/

/-- Calls of a program that owns its handles, from what is open to what is open behind them. -/
structure Runs (held : Multiset α) (calls : List (Call α)) (next : Multiset α) : Prop where
  owned : Along Owned held calls
  left : after held calls = next

theorem Runs.nil (held : Multiset α) : Runs held [] held := ⟨trivial, rfl⟩

theorem Runs.append {held next last : Multiset α} {calls more : List (Call α)}
    (first : Runs held calls next) (second : Runs next more last) :
    Runs held (calls ++ more) last := by
  obtain ⟨owned, rfl⟩ := first
  obtain ⟨owned', rfl⟩ := second
  exact ⟨along_append.mpr ⟨owned, owned'⟩, after_append _ _ _⟩

/-- **The frame rule.** Handles that are open beside the others stay open. -/
theorem Runs.frame {held next : Multiset α} {calls : List (Call α)} (runs : Runs held calls next)
    (beside : Multiset α) : Runs (beside + held) calls (beside + next) := by
  obtain ⟨owned, rfl⟩ := runs
  induction calls generalizing held with
  | nil => exact .nil _
  | cons call rest ih =>
      obtain ⟨first, later⟩ := owned
      obtain ⟨owned, left⟩ := ih later
      have step : call.step (beside + held) = beside + call.step held := by
        cases call with
        | grant handle => exact (Multiset.add_cons _ _ _).symm
        | close handle => exact Multiset.erase_add_right_pos _ first
        | use handle => rfl
      have owns : Owned (beside + held) call := by
        cases call with
        | grant handle => trivial
        | close handle => exact Multiset.mem_add.mpr (.inr first)
        | use handle => exact Multiset.mem_add.mpr (.inr first)
      refine ⟨⟨owns, ?_⟩, ?_⟩
      · rwa [step]
      · rw [after_cons, step]
        exact left

theorem Runs.grant (held : Multiset α) (handle : α) :
    Runs held [.grant handle] (handle ::ₘ held) := ⟨⟨trivial, trivial⟩, rfl⟩

theorem Runs.close (held : Multiset α) (handle : α) :
    Runs (handle ::ₘ held) [.close handle] held :=
  ⟨⟨Multiset.mem_cons_self _ _, trivial⟩, Multiset.erase_cons_head _ _⟩

/-- Handles that are open are used. -/
theorem Runs.uses {held : Multiset α} {handles : List α} (all : ∀ handle ∈ handles, handle ∈ held) :
    Runs held (handles.map .use) held := by
  induction handles with
  | nil => exact .nil held
  | cons handle rest ih =>
      obtain ⟨first, later⟩ := List.forall_mem_cons.mp all
      obtain ⟨owned, left⟩ := ih later
      exact ⟨⟨first, owned⟩, left⟩

/-- All that is open is closed. -/
theorem Runs.closes (handles : List α) :
    Runs (handles : Multiset α) (handles.map .close) 0 := by
  induction handles with
  | nil => exact .nil 0
  | cons handle rest ih => exact (Runs.close rest handle).append ih

end Handles

end MobileGs
