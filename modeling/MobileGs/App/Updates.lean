import Mathlib.Data.List.Permutation
import MobileGs.App.Settings
import MobileGs.Foundations.ReadModifyWrite

/-!
# Updates of the settings

`update` reads the settings, applies a transform and hands the result to `edit`. The read and the
edit are each atomic, and the edits come one after another. But what an edit stores is what its call
read, with the transform applied, and an edit of another call that came in between is overwritten,
fields it did not touch included (`update_lost`).

So the stored settings are those of the transforms in some order, whatever the transforms are,
exactly where no edit comes between the read and the edit of another call
(`updates_serialize_iff`).
-/

set_option autoImplicit false

namespace MobileGs

namespace App

open ReadModifyWrite

/-- The repository's store, by its decoder and its encoder. -/
def repository : Kept Preferences Settings where
  load := settings
  save := edit
  load_save := settings_edit

variable {ι : Type} [DecidableEq ι]

/-- `update`, called with each of some transforms. The read computes `next`, and the edit stores
it. -/
def updates (transform : ι → Settings → Settings) :
    Mealy (Shared ι Preferences Settings) (Step ι) ι :=
  ReadModifyWrite.machine repository transform

/-- **When no update is lost.** Behind all of the calls the stored settings are, for all transforms,
those which the transforms make in some order, if and only if no edit comes between the read and the
edit of another call. -/
theorem updates_serialize_iff {calls : List ι} {steps : List (Step ι)}
    (schedule : Schedule calls steps) :
    (∀ (transform : ι → Settings → Settings) (prefs : Preferences), ∃ order, order.Perm calls ∧
        settings ((updates transform).after { stored := prefs } steps).stored =
          serially transform order (settings prefs)) ↔ Apart steps := by
  -- The default settings are not the only ones.
  have another : repository.load .empty ≠ { channel := 36 } := by
    change settings .empty ≠ _
    rw [settings_empty]
    decide
  constructor
  · exact fun safe => (safe_iff repository schedule another).mp fun transform =>
      safe transform .empty
  · exact fun apart transform prefs => exists_serial_order repository transform schedule
      (apart.upToDate repository transform prefs)

/-- Two edits of the settings screen: the channel, and the port of the second endpoint. -/
def twoEdits : Bool → Settings → Settings
  | false, settings => { settings with channel := 36 }
  | true, settings => { settings with secondEndpointPort := 5761 }

/-- One call behind the other. -/
theorem updates_serialize_iff_one_by_one :
    Apart [Step.read false, .write false, .read true, .write true] := by
  have schedule : Schedule [false, true] [.read false, .write false, .read true, .write true] := by
    constructor
    · decide
    · intro call
      cases call <;> rfl
  refine (updates_serialize_iff schedule).mp fun transform prefs => ⟨_, List.Perm.refl _, ?_⟩
  change settings (edit (transform true (settings (edit (transform false (settings prefs)) prefs)))
    (edit (transform false (settings prefs)) prefs)) = _
  rw [settings_edit, settings_edit]
  rfl

/-- Both calls read before either edits, and the channel is lost. -/
theorem update_lost :
    Schedule [false, true] [.read false, .read true, .write false, .write true] ∧
      ¬ ∃ order, order.Perm [false, true] ∧
        settings ((updates twoEdits).after { stored := .empty }
            [.read false, .read true, .write false, .write true]).stored =
          serially twoEdits order (settings .empty) := by
  constructor
  · constructor
    · decide
    · intro call
      cases call <;> rfl
  · rintro ⟨order, perm, same⟩
    have channel := congrArg Settings.channel same
    rcases List.perm_pair.mp perm with rfl | rfl
    · exact absurd channel (by decide)
    · exact absurd channel (by decide)

end App

end MobileGs
