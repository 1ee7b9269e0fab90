import Mathlib
import LateralTorque.Delay
import LateralTorque.Proofs.Curve
import LateralTorque.Proofs.Run

/-!
# Smoothed signals in exact arithmetic

A low-pass filter with a weight between zero and one takes its value between the one before and the
sample, so it never leaves an interval that holds all its samples.  The weights are in that range
because time constants are not negative and periods positive, which the check of the parameters
makes sure of.

* `LowPass.update_mem` — the filter stays within every convex set of its samples;
* `rawDelay_mem` — the delay of a cycle lies between 0.02 and 0.5 seconds;
* `DelayEstimator.Ranged` — and so does the estimate, from the first feedback on.

These are invariants of one update, for the runs of the controller to carry.  How much of an earlier
value is left in a filter is said in `FadingMemory`.
-/

set_option autoImplicit false

namespace LateralTorque

namespace LowPass

theorem weightOf_mem {timeConstant period : ℝ} (hconstant : 0 ≤ timeConstant)
    (hperiod : 0 < period) : weightOf timeConstant period ∈ Set.Icc 0 1 := by
  have htotal : 0 < timeConstant + period := add_pos_of_nonneg_of_pos hconstant hperiod
  refine ⟨div_nonneg hperiod.le htotal.le, (div_le_one htotal).mpr ?_⟩
  exact le_add_of_nonneg_left hconstant

/-- A filter stays within a convex set that holds its value, unless that is still to be replaced by
the first sample, and the sample. -/
theorem update_mem {S : Set ℝ} (hS : Convex ℝ S) {f : LowPass ℝ} (hweight : f.weight ∈ Set.Icc 0 1)
    (hvalue : f.settled = true → f.value ∈ S) {sample : ℝ} (hsample : sample ∈ S) :
    (f.update sample).value ∈ S := by
  unfold update
  dsimp only
  split
  · rename_i hsettled
    exact hS (hvalue hsettled) hsample (sub_nonneg.mpr hweight.2) hweight.1 (sub_add_cancel _ _)
  · exact hsample

end LowPass

/-! ## The delay of the actuator -/

theorem delayBlend_mem (realised : ℝ) : delayBlend realised ∈ Set.Icc 0 1 := by
  refine Exact.interp_mem (convex_Icc 0 1) _ (by simp) ?_
  intro y hy
  simp only [List.mem_cons, List.not_mem_nil, or_false] at hy
  rcases hy with rfl | rfl <;> norm_num

theorem torqueBasedDelay_mem (difference : ℝ) :
    torqueBasedDelay difference ∈ Set.Icc (0.02 : ℝ) 0.5 := by
  refine Exact.interp_mem (convex_Icc _ _) _ (by simp) ?_
  intro y hy
  simp only [List.mem_cons, List.not_mem_nil, or_false] at hy
  rcases hy with rfl | rfl <;> norm_num

/-- The delay of a cycle is a mixture of two that lie in its range. -/
theorem rawDelay_mem (realised commanded : ℝ) :
    rawDelay realised commanded ∈ Set.Icc (0.02 : ℝ) 0.5 := by
  have hblend := delayBlend_mem realised
  have hlow : (lowTorqueDelay : ℝ) ∈ Set.Icc (0.02 : ℝ) 0.5 := by
    norm_num [lowTorqueDelay]
  exact convex_Icc (0.02 : ℝ) 0.5 (torqueBasedDelay_mem _) hlow hblend.1
    (sub_nonneg.mpr hblend.2) (add_sub_cancel _ _)

namespace DelayEstimator

/-- What holds of every estimator in use: a static delay that is not negative, a weight between zero
and one, and an estimate, once there is one, in the range of the delay. -/
structure Ranged (e : DelayEstimator ℝ) : Prop where
  static : 0 ≤ e.staticDelay
  weight : e.filter.weight ∈ Set.Icc 0 1
  value : e.filter.settled = true → e.filter.value ∈ Set.Icc (0.02 : ℝ) 0.5

theorem timeConstant_nonneg : (0 : ℝ) ≤ timeConstant := by norm_num [timeConstant]

theorem ranged_create (enabled : Bool) {staticDelay period : ℝ} (hstatic : 0 ≤ staticDelay)
    (hperiod : 0 < period) : (create enabled staticDelay period).Ranged :=
  ⟨hstatic, LowPass.weightOf_mem timeConstant_nonneg hperiod, fun h => (by cases h)⟩

variable {e : DelayEstimator ℝ}

theorem Ranged.update (h : e.Ranged) (realised : Option ℝ) (commanded : ℝ) :
    (e.update realised commanded).Ranged := by
  unfold DelayEstimator.update
  split
  · exact ⟨h.static, h.weight, fun _ =>
      LowPass.update_mem (convex_Icc _ _) h.weight h.value (rawDelay_mem _ _)⟩
  · exact h

theorem filter_period_update {α : Type} [Scalar α] (e : DelayEstimator α) (realised : Option α)
    (commanded : α) : (e.update realised commanded).filter.period = e.filter.period := by
  unfold DelayEstimator.update
  split <;> rfl

theorem Ranged.delay_nonneg (h : e.Ranged) : 0 ≤ e.delay := by
  unfold delay
  split
  · rename_i hestimated
    rw [Bool.and_eq_true] at hestimated
    have hlower := (h.value hestimated.2).1
    norm_num at hlower
    linarith
  · exact h.static

end DelayEstimator

/-! ## The standard parameters -/

/-- The standard parameters pass their own check. -/
theorem Params.validate_standard_exact : (standard : Params ℝ).validate = .ok () := by
  refine validate_eq_ok_iff.mpr ⟨?_, ?_, ?_, ?_, ?_⟩
  · norm_num [standard]
  · norm_num [standard]
  · norm_num [standard]
  · norm_num [standard, Tuning.standard]
  · simp [schedules, standard, GainSchedule.constant, GainSchedule.isValid,
      GainSchedule.nonDescending]

end LateralTorque
