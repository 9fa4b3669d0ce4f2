import Mathlib.Data.List.DropRight

/-!
# Two readings of a trace

A trace records what was taken and what was reported. `Balanced` compares the entries that matter in
both readings, as far as the latest report. It holds of every prefix of a trace that grows in steps
of two kinds: a step that reports nothing and takes nothing that matters (`Books.quiet`), and a step
that reports what it took (`Books.report`). A measure that is zero on what does not matter then adds
up to the same in both readings (`Balanced.totals`).
-/

set_option autoImplicit false

namespace MobileGs

/-- The sum of a measure over a list. -/
def total {α : Type} (measure : α → ℕ) (list : List α) : ℕ :=
  list.foldr (fun a sum => measure a + sum) 0

/-- Only what matters adds to the sum. -/
theorem total_filter {α : Type} {measure : α → ℕ} {matters : α → Bool}
    (zero : ∀ a, matters a = false → measure a = 0) (list : List α) :
    total measure (list.filter matters) = total measure list := by
  induction list with
  | nil => rfl
  | cons a rest ih =>
      have whole : total measure (a :: rest) = measure a + total measure rest := rfl
      cases matter : matters a with
      | false =>
          rw [List.filter_cons_of_neg (by rw [matter]; exact Bool.false_ne_true), ih, whole,
            zero a matter, Nat.zero_add]
      | true =>
          rw [List.filter_cons_of_pos matter, whole, ← ih]
          rfl

section Readings

variable {ο α : Type} (taken reported : ο → Option α) (matters : α → Bool)

/-- A trace up to its latest report. -/
def upToReport (trace : List ο) : List ο := trace.rdropWhile fun entry => (reported entry).isNone

/-- What matters in a reading of a trace. -/
def reading (view : ο → Option α) (trace : List ο) : List α :=
  (trace.filterMap view).filter matters

theorem reading_append (view : ο → Option α) (trace more : List ο) :
    reading matters view (trace ++ more) =
      reading matters view trace ++ reading matters view more := by
  rw [reading, List.filterMap_append, List.filter_append]
  rfl

theorem reading_of_none {view : ο → Option α} {trace : List ο}
    (none : ∀ entry ∈ trace, view entry = .none) : reading matters view trace = [] := by
  rw [reading, List.filterMap_eq_nil_iff.mpr none]
  rfl

/-- Entries behind the latest report change nothing. -/
theorem upToReport_append {reported : ο → Option α} {trace more : List ο}
    (none : ∀ entry ∈ more, reported entry = .none) :
    upToReport reported (trace ++ more) = upToReport reported trace := by
  induction more using List.reverseRecOn with
  | nil => rw [List.append_nil]
  | append_singleton more entry ih =>
      have last : reported entry = .none := none entry (by simp)
      have before := ih fun other among => none other (List.mem_append_left _ among)
      rw [← before, ← List.append_assoc, upToReport]
      exact List.rdropWhile_concat_pos _ _ _ (by simp [last])

/-- A trace that ends with a report. -/
theorem upToReport_concat {reported : ο → Option α} {entry : ο}
    (report : (reported entry).isSome = true) (trace : List ο) :
    upToReport reported (trace ++ [entry]) = trace ++ [entry] := by
  rw [upToReport, List.rdropWhile_concat_neg]
  rw [Option.isNone_iff_eq_none]
  rintro none
  rw [none] at report
  cases report

/-- What matters of what was reported is what matters of what was taken up to the latest report. -/
def Balanced (trace : List ο) : Prop :=
  reading matters reported trace = reading matters taken (upToReport reported trace)

/-- The books are balanced: nothing that matters is waiting for a report. -/
structure Books (trace : List ο) : Prop where
  balanced : Balanced taken reported matters trace
  complete : reading matters taken (upToReport reported trace) = reading matters taken trace

variable {taken reported matters}

theorem books_nil : Books taken reported matters [] := ⟨rfl, rfl⟩

/-- A step that reports nothing and takes nothing that matters. -/
theorem Books.quiet {trace more : List ο} (books : Books taken reported matters trace)
    (silent : ∀ entry ∈ more, reported entry = none)
    (nothing : reading matters taken more = []) :
    Books taken reported matters (trace ++ more) := by
  obtain ⟨balanced, complete⟩ := books
  constructor
  · rw [Balanced, upToReport_append silent, reading_append, reading_of_none matters silent,
      List.append_nil]
    exact balanced
  · rw [upToReport_append silent, reading_append, nothing, List.append_nil]
    exact complete

/-- A step that reports what it took, and takes nothing more. -/
theorem Books.report {trace : List ο} (books : Books taken reported matters trace)
    (front : List ο) {later : List ο} {entry : ο} (report : (reported entry).isSome = true)
    (silent : ∀ other ∈ later, reported other = none)
    (nothing : ∀ other ∈ later, taken other = none)
    (same : reading matters reported (front ++ [entry]) =
      reading matters taken (front ++ [entry])) :
    Books taken reported matters (trace ++ (front ++ entry :: later)) := by
  obtain ⟨balanced, complete⟩ := books
  have split : trace ++ (front ++ entry :: later) = trace ++ (front ++ [entry]) ++ later := by
    simp
  have whole : upToReport reported (trace ++ (front ++ [entry]) ++ later) =
      trace ++ (front ++ [entry]) := by
    rw [upToReport_append silent, ← List.append_assoc, upToReport_concat report]
  rw [split]
  constructor
  · calc reading matters reported (trace ++ (front ++ [entry]) ++ later)
        = reading matters reported trace ++ reading matters reported (front ++ [entry]) := by
          rw [reading_append, reading_append, reading_of_none matters silent, List.append_nil]
      _ = reading matters taken trace ++ reading matters taken (front ++ [entry]) := by
          rw [balanced, complete, same]
      _ = reading matters taken
            (upToReport reported (trace ++ (front ++ [entry]) ++ later)) := by
          rw [whole, ← reading_append]
  · rw [whole, reading_append matters taken _ later, reading_of_none matters nothing,
      List.append_nil]

/-- Both readings add up to the same. -/
theorem Balanced.totals {trace : List ο} (balanced : Balanced taken reported matters trace)
    {measure : α → ℕ} (zero : ∀ a, matters a = false → measure a = 0) :
    total measure (trace.filterMap reported) =
      total measure ((upToReport reported trace).filterMap taken) := by
  rw [← total_filter zero, ← total_filter zero (List.filterMap taken _)]
  exact congrArg (total measure) balanced

end Readings

end MobileGs
