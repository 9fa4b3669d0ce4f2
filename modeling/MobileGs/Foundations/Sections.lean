import MobileGs.Foundations.Mealy

/-!
# Sections of a stream

Some inputs of a stream carry an entry, and some are marks that end a section. `sections` emits at
each mark the entries since the one before it. No entry is lost or emitted twice
(`flatten_sections`).
-/

set_option autoImplicit false

namespace MobileGs

variable {ι α : Type} (entry : ι → Option α) (mark : ι → Bool)

/-- The machine that emits a section at each mark. Its state is the section so far. -/
def sections : Mealy (List α) ι (List α) where
  step current input :=
    if mark input then ((entry input).toList, [current])
    else (current ++ (entry input).toList, [])

/-- **Every entry is in one section**: the sections and what is left are the entries in order. -/
theorem flatten_sections (current : List α) (inputs : List ι) :
    ((sections entry mark).outputs current inputs).flatten ++
        (sections entry mark).after current inputs =
      current ++ inputs.filterMap entry := by
  induction inputs generalizing current with
  | nil => exact (List.append_nil current).symm
  | cons input rest ih =>
      rw [Mealy.outputs_cons, Mealy.after_cons, List.flatten_append, List.append_assoc, ih,
        sections, List.filterMap_cons]
      dsimp only
      cases entry input <;> split <;> simp

end MobileGs
