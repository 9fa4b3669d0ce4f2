import MobileGs.App.Updates
import MobileGs.Foundations.Mirror

/-!
# Edits on the settings screen

`edit` launches a coroutine that calls `update` with a transform, and then `applySettings` on the
running service. What it applies is not what `update` has stored. It applies the transform to the
settings its composition shows, and these are what the store held at some moment before.

So behind all edits the service has the stored settings, whatever the edits change, exactly where
the edit that applies last has stored last, and nothing was stored between the moment its
composition shows and its read (`applied_eq_stored_iff`). Two edits from one composition are enough
to bring back an uplink that was switched off (`uplink_restored`).
-/

set_option autoImplicit false

namespace MobileGs

namespace App

/-! ## What the service makes of the settings -/

structure MavlinkEndpoint where
  kind : MavlinkEndpointKind
  host : String
  port : Int32
  allowUplink : Bool
  deriving DecidableEq

/-- `toMavlinkEndpoints`, which `applySettings` hands to the router. -/
def toMavlinkEndpoints (settings : Settings) : List MavlinkEndpoint :=
  (if settings.mavlinkEnabled then
    [⟨settings.mavlinkKind, settings.mavlinkHost, settings.mavlinkPort, settings.mavlinkUplink⟩]
  else []) ++
  if settings.secondEndpointEnabled then
    [⟨settings.secondEndpointKind, "0.0.0.0", settings.secondEndpointPort, true⟩]
  else []

/-! ## Edits -/

open Mirror

variable {ι : Type} [DecidableEq ι]

/-- `edit`, called with each of some transforms: the launch with the settings of a composition, the
read and the edit of `update`, and `applySettings` with the settings transformed. -/
def edits (transform : ι → Settings → Settings) :
    Mealy (Mirrored ι Preferences Settings) (Step ι) Empty :=
  Mirror.machine repository transform

/-- **When the service has the stored settings.** Behind all of the edits it has, for all
transforms, the settings that are stored, if and only if the edit that applies last has stored last,
and nothing was stored between the moment its composition shows and its read. -/
theorem applied_eq_stored_iff {calls : List ι} {steps : List (Step ι)}
    (schedule : Schedule calls steps) :
    (∀ (transform : ι → Settings → Settings) (prefs : Preferences), calls ≠ [] →
        ((edits transform).after { shared := { stored := prefs } } steps).applied =
          some (settings
            ((edits transform).after { shared := { stored := prefs } } steps).shared.stored)) ↔
      Settled steps := by
  -- The default settings are not the only ones.
  have another : repository.load .empty ≠ { channel := 36 } := by
    change settings .empty ≠ _
    rw [settings_empty]
    decide
  constructor
  · exact fun same => (agrees_iff repository schedule another).mp fun transform =>
      same transform .empty
  · intro settled transform prefs some
    obtain ⟨call, among⟩ := List.exists_mem_of_ne_nil _ some
    exact agrees_of_settled repository transform schedule among settled prefs

/-- The second edit is launched from a composition that shows the first. -/
theorem applied_eq_stored_iff_recomposed :
    Settled [Step.launch false 0, .read false, .write false, .apply false,
      .launch true 4, .read true, .write true, .apply true] := by
  have schedule : Schedule [false, true] [Step.launch false 0, .read false, .write false,
      .apply false, .launch true 4, .read true, .write true, .apply true] := by
    constructor
    · intro call _
      cases call
      · exact ⟨0, rfl⟩
      · exact ⟨4, rfl⟩
    · intro step _
      cases step.call <;> simp
    · intro earlier call moment later split
      have launched := congrArg (fun steps => steps[earlier.length]?) split
      rw [List.getElem?_append_right (Nat.le_refl _), Nat.sub_self] at launched
      generalize earlier.length = position at launched ⊢
      rcases position with _ | _ | _ | _ | _ | _ | _ | _ | position <;> simp at launched <;> omega
  refine (applied_eq_stored_iff schedule).mp fun transform prefs _ => ?_
  change some (transform true (settings (edit (transform false (settings prefs)) prefs))) =
    some (settings (edit (transform true (settings (edit (transform false (settings prefs)) prefs)))
      (edit (transform false (settings prefs)) prefs)))
  rw [settings_edit, settings_edit]

/-- Two edits of the settings screen: the uplink of the first endpoint and the OSD, both switched
off. -/
def twoSwitches : Bool → Settings → Settings
  | false, settings => { settings with mavlinkUplink := false }
  | true, settings => { settings with osdEnabled := false }

/-- Both edits come from the composition of the defaults. The second takes the uplink that the first
has switched off back to the service, and the store has it off. -/
theorem uplink_restored :
    Schedule [false, true] [Step.launch false 0, .launch true 0, .read false, .write false,
        .apply false, .read true, .write true, .apply true] ∧
      ((edits twoSwitches).after { shared := { stored := .empty } }
          [Step.launch false 0, .launch true 0, .read false, .write false, .apply false,
            .read true, .write true, .apply true]).applied ≠
        some (settings ((edits twoSwitches).after { shared := { stored := .empty } }
          [Step.launch false 0, .launch true 0, .read false, .write false, .apply false,
            .read true, .write true, .apply true]).shared.stored) := by
  constructor
  · constructor
    · intro call _
      cases call <;> exact ⟨0, rfl⟩
    · intro step _
      cases step.call <;> simp
    · intro earlier call moment later split
      have launched : Step.launch call moment ∈ earlier ++ .launch call moment :: later := by simp
      rw [← split] at launched
      have first : moment = 0 := by
        simp only [List.mem_cons, List.not_mem_nil, or_false, Step.launch.injEq, reduceCtorEq]
          at launched
        rcases launched with ⟨-, zero⟩ | ⟨-, zero⟩
        · exact zero
        · exact zero
      rw [first]
      exact Nat.zero_le _
  · intro same
    have endpoints := congrArg (Option.map toMavlinkEndpoints) same
    exact absurd endpoints (by decide)

end App

end MobileGs
