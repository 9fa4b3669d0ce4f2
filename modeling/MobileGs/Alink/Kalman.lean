import Mathlib.Algebra.Order.Ring.Rat
import MobileGs.Alink.Exact
import MobileGs.Foundations.Hull

/-!
# The filter of the noise

`KalmanUpdate` moves the estimate towards the measurement by a share of the way, the gain. The gain
is made of the error and of the two variances alone. With a positive measurement variance it is
less than one, so the error stays below that variance, and the estimate never leaves the hull of the
initial estimate and the measurements (`filter_stable`).

Updates feed the filter the error ratios of the snapshots with traffic (`updates_filter`).
-/

set_option autoImplicit false

namespace MobileGs

namespace Alink

open Wfb

section Field

variable {R : Type} [Field R]

/-- `predicted_error`. -/
def AlinkController.predictedError (controller : AlinkController R) : R :=
  controller.kalmanErrorEstimate + controller.config.processVariance

/-- `kalman_gain`. -/
def AlinkController.kalmanGain (controller : AlinkController R) : R :=
  controller.predictedError / (controller.predictedError + controller.config.measurementVariance)

/-- A sequence of calls of `KalmanUpdate`, with the gains they use. -/
def filter : Mealy (AlinkController R) R R where
  step controller measurement :=
    ((controller.kalmanUpdate measurement).1, [controller.kalmanGain])

/-- The estimate moves by the gain. -/
theorem AlinkController.kalmanEstimate_update (controller : AlinkController R) (measurement : R) :
    (controller.kalmanUpdate measurement).1.kalmanEstimate =
      controller.kalmanEstimate +
        controller.kalmanGain * (measurement - controller.kalmanEstimate) := rfl

theorem config_filter (controller : AlinkController R) (measurements : List R) :
    (filter.after controller measurements).config = controller.config := by
  induction measurements generalizing controller with
  | nil => rfl
  | cons measurement rest ih => exact ih _

/-- Neither the gain nor the error it leaves depends on the estimate or on the measurement. -/
theorem gains_eq (controller controller' : AlinkController R)
    (config : controller.config = controller'.config)
    (error : controller.kalmanErrorEstimate = controller'.kalmanErrorEstimate)
    {measurements measurements' : List R} (lengths : measurements.length = measurements'.length) :
    filter.outputs controller measurements = filter.outputs controller' measurements' := by
  induction measurements generalizing controller controller' measurements' with
  | nil =>
      rw [List.length_eq_zero_iff.mp lengths.symm]
      rfl
  | cons measurement rest ih =>
      obtain ⟨measurement', rest', rfl⟩ :=
        List.exists_cons_of_length_pos (by rw [← lengths]; exact Nat.succ_pos _)
      have gain : controller.kalmanGain = controller'.kalmanGain := by
        simp only [AlinkController.kalmanGain, AlinkController.predictedError, config, error]
      have left : (controller.kalmanUpdate measurement).1.kalmanErrorEstimate =
          (controller'.kalmanUpdate measurement').1.kalmanErrorEstimate := by
        simp only [AlinkController.kalmanUpdate, config, error]
      have later : filter.outputs (controller.kalmanUpdate measurement).1 rest =
          filter.outputs (controller'.kalmanUpdate measurement').1 rest' :=
        ih (controller.kalmanUpdate measurement).1 (controller'.kalmanUpdate measurement').1
          config left (Nat.succ.inj lengths)
      exact congrArg₂ List.cons gain later

end Field

variable {R : Type} [Field R] [LinearOrder R] [IsStrictOrderedRing R]

theorem AlinkController.kalmanErrorEstimate_update (controller : AlinkController R)
    (measurement : R) :
    (controller.kalmanUpdate measurement).1.kalmanErrorEstimate =
      (1 - controller.kalmanGain) * controller.predictedError := by
  have one : (1.0 : R) = 1 := by norm_num
  rw [← one]
  rfl

/-! ## One update -/

/-- The variances are those of a filter, and the error is not negative. -/
structure Filtering (controller : AlinkController R) : Prop where
  measurementVariance : 0 < controller.config.measurementVariance
  processVariance : 0 ≤ controller.config.processVariance
  errorNonneg : 0 ≤ controller.kalmanErrorEstimate

namespace Filtering

variable {controller : AlinkController R}

theorem predictedError_nonneg (filtering : Filtering controller) :
    0 ≤ controller.predictedError :=
  add_nonneg filtering.errorNonneg filtering.processVariance

/-- The divisor of the gain. -/
theorem divisor_pos (filtering : Filtering controller) :
    0 < controller.predictedError + controller.config.measurementVariance :=
  add_pos_of_nonneg_of_pos filtering.predictedError_nonneg filtering.measurementVariance

theorem kalmanGain_nonneg (filtering : Filtering controller) : 0 ≤ controller.kalmanGain :=
  div_nonneg filtering.predictedError_nonneg filtering.divisor_pos.le

theorem kalmanGain_lt_one (filtering : Filtering controller) : controller.kalmanGain < 1 := by
  rw [AlinkController.kalmanGain, div_lt_one filtering.divisor_pos]
  exact lt_add_of_pos_right _ filtering.measurementVariance

/-- What is left of the error is its share of the measurement variance. -/
theorem error_update (filtering : Filtering controller) (measurement : R) :
    (controller.kalmanUpdate measurement).1.kalmanErrorEstimate =
      controller.kalmanGain * controller.config.measurementVariance := by
  have divisor := filtering.divisor_pos.ne'
  rw [AlinkController.kalmanErrorEstimate_update, AlinkController.kalmanGain]
  field_simp
  ring

theorem error_update_lt (filtering : Filtering controller) (measurement : R) :
    (controller.kalmanUpdate measurement).1.kalmanErrorEstimate <
      controller.config.measurementVariance := by
  rw [filtering.error_update]
  exact mul_lt_of_lt_one_left filtering.measurementVariance filtering.kalmanGain_lt_one

theorem update (filtering : Filtering controller) (measurement : R) :
    Filtering (controller.kalmanUpdate measurement).1 := by
  refine ⟨filtering.measurementVariance, filtering.processVariance, ?_⟩
  rw [filtering.error_update]
  exact mul_nonneg filtering.kalmanGain_nonneg filtering.measurementVariance.le

end Filtering

/-! ## Runs -/

theorem Filtering.after {controller : AlinkController R} (filtering : Filtering controller)
    (measurements : List R) : Filtering (filter.after controller measurements) := by
  refine (Mealy.invariant_of_step (fun controller _ => Filtering controller) filtering ?_
    measurements)
  exact fun _ _ measurement filtering => filtering.update measurement

/-- Every gain is that of a filter. -/
theorem Filtering.gains {controller : AlinkController R} (filtering : Filtering controller)
    (measurements : List R) :
    ∀ gain ∈ filter.outputs controller measurements, 0 ≤ gain ∧ gain < 1 := by
  induction measurements generalizing controller with
  | nil => exact fun _ none => absurd none List.not_mem_nil
  | cons measurement rest ih =>
      rintro gain (_ | ⟨_, later⟩)
      · exact ⟨filtering.kalmanGain_nonneg, filtering.kalmanGain_lt_one⟩
      · exact ih (filtering.update measurement) gain later

/-- **The filter is stable.** Whatever is measured, each gain is one of 0 to 1 and less than 1, the
error that is left is less than the measurement variance, and the estimate lies between the least
and the greatest of the initial estimate and the measurements. The gains depend on how many
measurements there are, and on nothing else of them. -/
structure Stable (config : AlinkConfig R) (measurements : List R) : Prop where
  gains : ∀ gain ∈ filter.outputs (AlinkController.create config) measurements,
    0 ≤ gain ∧ gain < 1
  errorNonneg : 0 ≤ (filter.after (AlinkController.create config) measurements).kalmanErrorEstimate
  errorLess : measurements ≠ [] →
    (filter.after (AlinkController.create config) measurements).kalmanErrorEstimate <
      config.measurementVariance
  independent : ∀ others : List R, others.length = measurements.length →
    filter.outputs (AlinkController.create config) others =
      filter.outputs (AlinkController.create config) measurements
  estimate : (filter.after (AlinkController.create config) measurements).kalmanEstimate ∈
    hull config.kalmanEstimate measurements

section Updates

variable {R : Type} [Neg R] [OfScientific R]

/-- What the filter works with. -/
def AlinkController.filterState (controller : AlinkController R) : AlinkConfig R × R × R :=
  (controller.config, controller.kalmanEstimate, controller.kalmanErrorEstimate)

theorem filterState_requestIdr (controller : AlinkController R) (call : Call) :
    (controller.requestIdr call.snapshot call.drawn).filterState = controller.filterState := by
  unfold AlinkController.requestIdr
  split <;> rfl

theorem filterState_repeatIdr (controller : AlinkController R) :
    controller.repeatIdr.1.filterState = controller.filterState := by
  unfold AlinkController.repeatIdr
  split <;> rfl

variable [Add R] [Sub R] [Mul R] [Div R]

theorem filterState_kalmanUpdate {controller controller' : AlinkController R}
    (same : controller.filterState = controller'.filterState) (measurement : R) :
    (controller.kalmanUpdate measurement).1.filterState =
      (controller'.kalmanUpdate measurement).1.filterState := by
  obtain ⟨config, rest⟩ := Prod.mk.inj same
  obtain ⟨estimate, error⟩ := Prod.mk.inj rest
  simp only [AlinkController.filterState, AlinkController.kalmanUpdate, config, estimate, error]

variable [LT R] [DecidableLT R] [NatCast R] [IntCast R]

/-- The snapshot is one the noise is measured on. -/
def Call.Traffic (R : Type) [LT R] [NatCast R] [OfScientific R] (call : Call) : Prop :=
  (call.snapshot.packetsAll : R) > 0.0 ∧ call.snapshot.numAntennas > 0

instance (call : Call) : Decidable (call.Traffic R) := inferInstanceAs (Decidable (_ ∧ _))

/-- What the calls feed the filter. -/
def measured (calls : List Call) : List R :=
  (calls.filter fun call => call.Traffic R).map fun call => errorRatio call.snapshot

omit [Neg R] [Sub R] in
theorem measured_concat (calls : List Call) (call : Call) :
    (measured (calls ++ [call]) : List R) =
      measured calls ++ if call.Traffic R then [errorRatio call.snapshot] else [] := by
  rw [measured, List.filter_append, List.map_append]
  by_cases traffic : call.Traffic R
  · rw [if_pos traffic, List.filter_singleton, decide_eq_true traffic]
    rfl
  · rw [if_neg traffic, List.filter_singleton, decide_eq_false traffic]
    rfl

variable [LE R] [DecidableLE R] [BEq R]

/-- An update with traffic is one of the filter. -/
theorem filterState_update (libm : Libm R) (controller : AlinkController R) (call : Call) :
    (controller.update libm call).1.filterState =
      if call.Traffic R then
        (controller.kalmanUpdate (errorRatio call.snapshot)).1.filterState
      else controller.filterState := by
  have repeated : (controller.update libm call).1.filterState =
      ((controller.requestIdr call.snapshot call.drawn).filterNoise call.snapshot).1.filterState :=
    filterState_repeatIdr _
  have requested := filterState_requestIdr controller call
  rw [repeated]
  split
  · rename_i traffic
    have fed : (controller.requestIdr call.snapshot call.drawn).filterNoise call.snapshot = _ :=
      if_pos traffic
    rw [fed]
    exact filterState_kalmanUpdate requested _
  · rename_i silent
    have left : (controller.requestIdr call.snapshot call.drawn).filterNoise call.snapshot = _ :=
      if_neg silent
    rw [left]
    exact requested

end Updates

section Filter

variable {R : Type} [Field R] [LinearOrder R]

/-- **Updates run the filter** on the error ratios of the snapshots with traffic. -/
theorem updates_filter (libm : Libm R) (controller : AlinkController R) (calls : List Call) :
    ((updates libm).after controller calls).filterState =
      (filter.after controller (measured calls)).filterState := by
  induction calls using List.reverseRecOn with
  | nil => rfl
  | append_singleton calls call ih =>
      have step := filterState_update libm ((updates libm).after controller calls) call
      rw [Mealy.after_concat, measured_concat]
      by_cases traffic : call.Traffic R
      · rw [if_pos traffic] at step
        rw [if_pos traffic, Mealy.after_concat]
        exact step.trans (filterState_kalmanUpdate ih _)
      · rw [if_neg traffic] at step
        rw [if_neg traffic, List.append_nil]
        exact step.trans ih

end Filter

/-- Updates keep the variances and the sign of the error. -/
theorem Filtering.updates (libm : Libm R) {controller : AlinkController R}
    (filtering : Filtering controller) (calls : List Call) :
    Filtering ((updates libm).after controller calls) := by
  obtain ⟨config, rest⟩ := Prod.mk.inj (updates_filter libm controller calls)
  obtain ⟨-, error⟩ := Prod.mk.inj rest
  have held := filtering.after (measured calls)
  constructor
  · rw [config]
    exact held.measurementVariance
  · rw [config]
    exact held.processVariance
  · rw [error]
    exact held.errorNonneg

end Alink

end MobileGs
