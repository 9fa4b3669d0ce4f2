import MobileGs.Foundations.Holders

/-!
# Nested handles

Some handles live inside others: one that is opened with the help of another must be closed before
it. A program that closes the latest handle first keeps to that (`Nested`). Its open handles make a
stack, with the latest on top.

Such a program owns its handles (`Nested.runs`), and it never closes a handle while one is open that
was opened inside it (`Nested.inner_first`). So whatever a handle needs is there as long as the
handle is open. As before, the rule is for one step, and steps compose (`Brackets`).
-/

set_option autoImplicit false

namespace MobileGs

universe u

namespace Handles

variable {α : Type u}

/-- Calls that close the latest open handle, from a stack of open handles to the one behind them. -/
inductive Nested : List α → List (Call α) → List α → Prop where
  | nil (held : List α) : Nested held [] held
  | grant {handle : α} {held next : List α} {rest : List (Call α)} :
      Nested (handle :: held) rest next → Nested held (.grant handle :: rest) next
  | close {handle : α} {held next : List α} {rest : List (Call α)} :
      Nested held rest next → Nested (handle :: held) (.close handle :: rest) next
  | use {handle : α} {held next : List α} {rest : List (Call α)} :
      handle ∈ held → Nested held rest next → Nested held (.use handle :: rest) next

namespace Nested

variable {held next last : List α} {calls more : List (Call α)}

theorem append (first : Nested held calls next) (second : Nested next more last) :
    Nested held (calls ++ more) last := by
  induction first with
  | nil => exact second
  | grant _ ih => exact .grant (ih second)
  | close _ ih => exact .close (ih second)
  | use isOpen _ ih => exact .use isOpen (ih second)

/-- Nested calls are taken apart where one likes. -/
theorem split (nested : Nested held (calls ++ more) last) :
    ∃ next, Nested held calls next ∧ Nested next more last := by
  induction calls generalizing held with
  | nil => exact ⟨held, .nil held, nested⟩
  | cons call rest ih =>
      cases nested with
      | grant later =>
          obtain ⟨next, first, second⟩ := ih later
          exact ⟨next, .grant first, second⟩
      | close later =>
          obtain ⟨next, first, second⟩ := ih later
          exact ⟨next, .close first, second⟩
      | use isOpen later =>
          obtain ⟨next, first, second⟩ := ih later
          exact ⟨next, .use isOpen first, second⟩

/-- The whole stack is closed from its top. -/
theorem closes (held : List α) : Nested held (held.map .close) [] := by
  induction held with
  | nil => exact .nil []
  | cons handle rest ih => exact .close ih

theorem uses {handles : List α} (all : ∀ handle ∈ handles, handle ∈ held) :
    Nested held (handles.map .use) held := by
  induction handles with
  | nil => exact .nil held
  | cons handle rest ih =>
      obtain ⟨first, later⟩ := List.forall_mem_cons.mp all
      exact .use first (ih later)

/-- Nested calls are calls of a program that owns its handles. -/
theorem runs [DecidableEq α] (nested : Nested held calls next) :
    Runs (held : Multiset α) calls (next : Multiset α) := by
  induction nested with
  | nil held => exact .nil _
  | @grant handle held next rest _ ih =>
      exact (Runs.grant (held : Multiset α) handle).append ih
  | @close handle held next rest _ ih =>
      exact (Runs.close (held : Multiset α) handle).append ih
  | @use handle held next rest isOpen _ ih =>
      have first : Runs (held : Multiset α) [.use handle] (held : Multiset α) :=
        ⟨⟨isOpen, trivial⟩, rfl⟩
      exact first.append ih

/-- What is not closed stays where it is on the stack, with all below it. What is above it was there
before, or was handed out. -/
theorem stays (above : List α) {below : List α} {handle : α}
    (nested : Nested (above ++ handle :: below) calls next) (never : .close handle ∉ calls) :
    ∃ top, next = top ++ handle :: below ∧
      ∀ other ∈ top, other ∈ above ∨ .grant other ∈ calls := by
  obtain ⟨held, whole⟩ : ∃ held, held = above ++ handle :: below := ⟨_, rfl⟩
  rw [← whole] at nested
  induction nested generalizing above with
  | nil => exact ⟨above, whole, fun _ among => .inl among⟩
  | @grant other held next rest _ ih =>
      obtain ⟨top, same, origin⟩ := ih (other :: above)
        (fun later => never (List.mem_cons_of_mem _ later)) (by rw [whole]; rfl)
      refine ⟨top, same, fun upper among => ?_⟩
      rcases origin upper among with before | later
      · rcases List.mem_cons.mp before with rfl | before
        · exact .inr List.mem_cons_self
        · exact .inl before
      · exact .inr (List.mem_cons_of_mem _ later)
  | @close other held next rest _ ih =>
      cases above with
      | nil =>
          obtain rfl := (List.cons.inj whole).1
          exact absurd List.mem_cons_self never
      | cons first above =>
          obtain ⟨top, same, origin⟩ := ih above
            (fun later => never (List.mem_cons_of_mem _ later)) (List.cons.inj whole).2
          refine ⟨top, same, fun upper among => ?_⟩
          rcases origin upper among with before | later
          · exact .inl (List.mem_cons_of_mem _ before)
          · exact .inr (List.mem_cons_of_mem _ later)
  | use _ _ ih =>
      obtain ⟨top, same, origin⟩ := ih above
        (fun later => never (List.mem_cons_of_mem _ later)) whole
      exact ⟨top, same, fun upper among =>
        (origin upper among).imp_right (List.mem_cons_of_mem _)⟩

/-- **What was opened inside a handle is closed before it.** -/
theorem inner_first {earlier between later : List (Call α)} {inner outer : α}
    (nested : Nested held
      (earlier ++ .grant inner :: (between ++ .close outer :: later)) next)
    (distinct : (grants
      (earlier ++ .grant inner :: (between ++ .close outer :: later))).Nodup)
    (inside : .grant outer ∈ earlier) : .close inner ∈ between := by
  have whole : grants (earlier ++ .grant inner :: (between ++ .close outer :: later)) =
      grants earlier ++ (inner :: (grants between ++ grants (.close outer :: later))) := by
    rw [grants_append, ← grants_append between]
    rfl
  rw [whole] at distinct
  have apart : ∀ other ∈ inner :: (grants between ++ grants (.close outer :: later)),
      outer ≠ other := (List.nodup_append.mp distinct).2.2 outer (mem_grants.mpr inside)
  by_contra never
  obtain ⟨stack, -, behind⟩ := nested.split
  cases behind with
  | grant behind =>
      obtain ⟨stack', first, second⟩ := behind.split
      obtain ⟨top, same, origin⟩ := Nested.stays [] first never
      -- What is closed is on top of the stack, and `inner` is there, or what was opened behind it.
      cases second with
      | @close _ held _ _ _ =>
          cases top with
          | nil => exact apart inner List.mem_cons_self (List.cons.inj same).1
          | cons upper top =>
              obtain rfl := (List.cons.inj same).1
              rcases origin outer List.mem_cons_self with none | again
              · exact List.not_mem_nil none
              · have granted := List.mem_append_left (grants (.close outer :: later))
                  (mem_grants.mpr again)
                exact apart outer (List.mem_cons_of_mem _ granted) rfl

end Nested

/-! ## Steps and runs -/

/-- The nested calls of a step, from the stack and the next serial number to those behind it. -/
structure Brackets (serial : α → ℕ) (held : List α) (next : ℕ) (calls : List (Call α))
    (held' : List α) (next' : ℕ) : Prop where
  nested : Nested held calls held'
  serial : Serial serial next calls next'

namespace Brackets

variable {serial : α → ℕ} {held held' held'' : List α} {next next' next'' : ℕ}
  {calls more : List (Call α)}

theorem nil (serial : α → ℕ) (held : List α) (next : ℕ) :
    Brackets serial held next [] held next :=
  ⟨.nil held, .none rfl le_rfl⟩

theorem append (first : Brackets serial held next calls held' next')
    (second : Brackets serial held' next' more held'' next'') :
    Brackets serial held next (calls ++ more) held'' next'' :=
  ⟨first.nested.append second.nested, first.serial.append second.serial⟩

/-- A handle is handed out under the next number. -/
theorem grant {handle : α} (held : List α) (number : serial handle = next) :
    Brackets serial held next [.grant handle] (handle :: held) (next + 1) := by
  refine ⟨.grant (.nil _), Nat.le_succ next, ?_, List.nodup_singleton handle⟩
  intro other among
  obtain rfl := List.mem_singleton.mp among
  omega

theorem uses {handles : List α} (all : ∀ handle ∈ handles, handle ∈ held) (next : ℕ) :
    Brackets serial held next (handles.map .use) held next :=
  ⟨.uses all, .none (grants_use handles) le_rfl⟩

/-- The whole stack is closed. -/
theorem closes (serial : α → ℕ) (held : List α) (next : ℕ) :
    Brackets serial held next (held.map .close) [] next :=
  ⟨.closes held, .none (grants_close held) le_rfl⟩

/-- Nested calls move the handles that are held. -/
theorem moves [DecidableEq α] (brackets : Brackets serial held next calls held' next') :
    Moves serial (held : Multiset α) next calls (held' : Multiset α) next' :=
  ⟨brackets.nested.runs, brackets.serial⟩

end Brackets

end Handles

end MobileGs
