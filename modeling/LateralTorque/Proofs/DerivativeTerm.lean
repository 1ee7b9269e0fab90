import Mathlib
import LateralTorque.Pid
import LateralTorque.Proofs.Restart
import LateralTorque.Proofs.Smoothing

/-!
# The derivative term

The PID controller differentiates its error after smoothing it.  In exact arithmetic the time
between two updates cancels: the derivative term is the distance of the error from the smoothed
errors before it, over the time constant and one period.  So neither a short period nor the first
error after a reset kicks it.

Gains and limits are any, updates and resets come in any order, and the integrator may be frozen in
any of them; the period is positive.

* `smoothedError` — the exponential smoothing of a list of errors;
* `Tracks` — a controller whose filter has smoothed the errors since the last reset; `Tracks.takeIn`
  is its step;
* `errorRate_eq` — the cancellation;
* `derivative_of_smoothed_errors` — the derivative term after any updates and resets, with its bound
  by the width of the errors since the last reset.

The bound speaks of the errors, and not of the speed at which they change: an error that jumps gives
a term as large as the gain times the jump over half a second.
-/

set_option autoImplicit false

namespace LateralTorque

/-- What an update of the PID controller is given. -/
structure ControlSample (α : Type) where
  error : α
  feedforward : α
  speed : α
  freeze : Bool

namespace Pid

section Runs

variable {α : Type} [Scalar α]

/-- The controller after an update. -/
def takeIn (c : Pid α) (s : ControlSample α) : Pid α :=
  c.update s.error s.feedforward s.speed s.freeze

/-- The controller after a list of updates. -/
def takeAll (c : Pid α) (samples : List (ControlSample α)) : Pid α := samples.foldl takeIn c

/-- The controller after updates and resets. -/
def after (c : Pid α) (operations : List (Operation (ControlSample α))) : Pid α :=
  operations.foldl (Operation.apply takeIn reset) c

theorem takeAll_concat (c : Pid α) (samples : List (ControlSample α)) (s : ControlSample α) :
    c.takeAll (samples ++ [s]) = (c.takeAll samples).takeIn s := by
  simp [takeAll]

variable (proportional integral derivative feedforward : GainSchedule α) (limit period : α)

/-- A reset puts a controller back at its start. -/
theorem after_create (operations : List (Operation (ControlSample α))) :
    (create proportional integral derivative feedforward limit period).after operations
      = (create proportional integral derivative feedforward limit period).takeAll
        (Operation.recent operations) := by
  apply Operation.foldl_apply_eq
  · intro before taken
    rfl
  · rfl

end Runs

/-! ## Smoothed errors -/

/-- Errors smoothed with the time constant of half a second, the first one taken as it is. -/
noncomputable def smoothedError (period : ℝ) : List ℝ → ℝ
  | [] => 0
  | first :: later =>
    let weight := period / (0.5 + period)
    later.foldl (fun smoothed error => (1 - weight) * smoothed + weight * error) first

theorem smoothedError_concat (period : ℝ) {errors : List ℝ} (hne : errors ≠ []) (error : ℝ) :
    smoothedError period (errors ++ [error])
      = (1 - period / (0.5 + period)) * smoothedError period errors
        + period / (0.5 + period) * error := by
  cases errors with
  | nil => exact absurd rfl hne
  | cons first later => simp [smoothedError]

/-- A PID controller that has smoothed a list of errors. -/
structure Tracks (period : ℝ) (errors : List ℝ) (c : Pid ℝ) : Prop where
  timed : c.period = period
  weight : c.errorFilter.weight = period / (0.5 + period)
  settled : c.errorFilter.settled = true ↔ errors ≠ []
  value : errors ≠ [] → c.errorFilter.value = smoothedError period errors
  previous : c.previousError = c.errorFilter.value

variable {period : ℝ} {errors : List ℝ} {c : Pid ℝ}

theorem tracks_create (proportional integral derivative feedforward : GainSchedule ℝ)
    (limit period : ℝ) :
    Tracks period [] (create proportional integral derivative feedforward limit period) where
  timed := rfl
  weight := by
    have hconstant : (errorTimeConstant : ℝ) = 0.5 := by norm_num [errorTimeConstant]
    rw [← hconstant]
    rfl
  settled := by simp [create, LowPass.create]
  value hne := absurd rfl hne
  previous := rfl

/-- An update smooths one error more. -/
theorem Tracks.takeIn (h : Tracks period errors c) (s : ControlSample ℝ) :
    Tracks period (errors ++ [s.error]) (c.takeIn s) where
  timed := h.timed
  weight := h.weight
  settled := by simp [Pid.takeIn, update, LowPass.update]
  value _ := by
    show (c.errorFilter.update s.error).value = _
    unfold LowPass.update
    by_cases hne : errors = []
    · have hfresh : ¬ c.errorFilter.settled = true := fun hsettled => h.settled.mp hsettled hne
      rw [hne]
      simp [hfresh, smoothedError]
    · simp only [h.settled.mpr hne, if_true]
      rw [smoothedError_concat period hne, h.value hne, h.weight]
  previous := rfl

theorem Tracks.takeAll (h : Tracks period [] c) (samples : List (ControlSample ℝ)) :
    Tracks period (samples.map (·.error)) (c.takeAll samples) := by
  induction samples using List.reverseRecOn with
  | nil => exact h
  | append_singleton earlier s ih =>
    rw [takeAll_concat, List.map_append]
    exact ih.takeIn s

/-! ## The derivative -/

/-- **The period cancels**: the smoothed error moves by the share of a period in the distance to the
error, and that is divided by the period. -/
theorem Tracks.errorRate_eq (h : Tracks period errors c) (hperiod : 0 < period) (hne : errors ≠ [])
    (error : ℝ) : c.errorRate error = (error - smoothedError period errors) / (0.5 + period) := by
  have htotal : 0.5 + period ≠ 0 := by positivity
  unfold errorRate LowPass.update
  simp only [h.settled.mpr hne, if_true, h.previous, h.value hne, h.weight, h.timed]
  field_simp
  ring

theorem Tracks.errorRate_of_first (h : Tracks period [] c) (error : ℝ) : c.errorRate error = 0 := by
  have hfresh : ¬ c.errorFilter.settled = true := fun hsettled => h.settled.mp hsettled rfl
  rw [errorRate, if_neg hfresh]

/-- The smoothed errors stay where the errors are. -/
theorem smoothedError_mem (hperiod : 0 < period) {S : Set ℝ} (hS : Convex ℝ S) (hne : errors ≠ [])
    (herrors : ∀ error ∈ errors, error ∈ S) : smoothedError period errors ∈ S := by
  have hweight : period / (0.5 + period) ∈ Set.Icc 0 1 :=
    LowPass.weightOf_mem (by norm_num) hperiod
  induction errors using List.reverseRecOn with
  | nil => exact absurd rfl hne
  | append_singleton earlier error ih =>
    rw [List.forall_mem_append, List.forall_mem_singleton] at herrors
    by_cases hfirst : earlier = []
    · rw [hfirst]
      exact herrors.2
    · rw [smoothedError_concat period hfirst]
      exact hS (ih hfirst herrors.1) herrors.2 (sub_nonneg.mpr hweight.2) hweight.1
        (sub_add_cancel 1 _)

/-- The rate is at most the width of the errors over the time constant and one period. -/
theorem Tracks.abs_errorRate_le (h : Tracks period errors c) (hperiod : 0 < period) (error : ℝ) :
    |c.errorRate error| ≤ ((error :: errors).max (List.cons_ne_nil _ _)
      - (error :: errors).min (List.cons_ne_nil _ _)) / (0.5 + period) := by
  have htotal : 0 < 0.5 + period := by positivity
  have hwithin : ∀ e ∈ error :: errors, e ∈ Set.Icc ((error :: errors).min (List.cons_ne_nil _ _))
      ((error :: errors).max (List.cons_ne_nil _ _)) := fun e he =>
    ⟨List.min_le_of_mem he, List.le_max_of_mem he⟩
  obtain ⟨herror, hearlier⟩ := List.forall_mem_cons.mp hwithin
  by_cases hne : errors = []
  · subst hne
    rw [h.errorRate_of_first, abs_zero]
    exact div_nonneg (sub_nonneg.mpr (herror.1.trans herror.2)) htotal.le
  · have hsmoothed := smoothedError_mem hperiod (convex_Icc _ _) hne hearlier
    rw [h.errorRate_eq hperiod hne, abs_div, abs_of_pos htotal]
    exact div_le_div_of_nonneg_right
      (abs_sub_le_of_le_of_le herror.1 herror.2 hsmoothed.1 hsmoothed.2) htotal.le

theorem d_takeIn (c : Pid ℝ) (s : ControlSample ℝ) :
    (c.takeIn s).d = c.derivativeGain.value s.speed * c.errorRate s.error := mul_comm _ _

@[simp] theorem derivativeGain_takeAll {α : Type} [Scalar α] (c : Pid α)
    (samples : List (ControlSample α)) : (c.takeAll samples).derivativeGain = c.derivativeGain := by
  induction samples using List.reverseRecOn with
  | nil => rfl
  | append_singleton earlier s ih =>
    rw [takeAll_concat]
    exact ih

/-- **The derivative term of smoothed errors.**  After any updates and resets, the next update finds
no rate if it is the first one since the last reset.  Otherwise its derivative term is the gain times
the distance of the error from the smoothed errors since the last reset, over the time constant and
one period; so the width of these errors bounds it, however short the period is and whether or not
the integrator is frozen.  Each update leaves the smoothed error for the next one. -/
theorem derivative_of_smoothed_errors
    (proportional integral derivative feedforward : GainSchedule ℝ) (limit : ℝ) {period : ℝ}
    (hperiod : 0 < period) (operations : List (Operation (ControlSample ℝ))) (s : ControlSample ℝ) :
    let c := (create proportional integral derivative feedforward limit period).after operations
    let errors := (Operation.recent operations).map (·.error)
    let next := c.takeIn s
    next.previousError = next.errorFilter.value ∧
    next.errorFilter.value = smoothedError period (errors ++ [s.error]) ∧
    (errors = [] → next.d = 0) ∧
    (errors ≠ [] → next.d = derivative.value s.speed * (s.error - smoothedError period errors)
      / (0.5 + period)) ∧
    |next.d| ≤ |derivative.value s.speed| * ((s.error :: errors).max (List.cons_ne_nil _ _)
      - (s.error :: errors).min (List.cons_ne_nil _ _)) / (0.5 + period) := by
  intro c errors next
  have hc : c = (create proportional integral derivative feedforward limit period).takeAll
      (Operation.recent operations) := after_create _ _ _ _ _ _ operations
  have htracks : Tracks period errors c := by
    rw [hc]
    exact (tracks_create proportional integral derivative feedforward limit period).takeAll _
  have hgain : c.derivativeGain = derivative := by
    rw [hc, derivativeGain_takeAll]
    rfl
  have hd : next.d = derivative.value s.speed * c.errorRate s.error := by
    rw [← hgain]
    exact c.d_takeIn s
  have hnext : Tracks period (errors ++ [s.error]) next := htracks.takeIn s
  refine ⟨hnext.previous, hnext.value (by simp), fun hfirst => ?_, fun hne => ?_, ?_⟩
  · rw [hfirst] at htracks
    rw [hd, htracks.errorRate_of_first, mul_zero]
  · rw [hd, htracks.errorRate_eq hperiod hne, mul_div_assoc]
  · rw [hd, abs_mul, mul_div_assoc]
    exact mul_le_mul_of_nonneg_left (htracks.abs_errorRate_le hperiod s.error) (abs_nonneg _)

/-- At 100 updates per second with a gain of one: the error before a reset is forgotten, the first
one after it is not differentiated, and a frozen integrator makes no difference. -/
theorem derivative_after_reset :
    let c := (create (.constant 0) (.constant 0) (.constant 1) (.constant 0) 1 0.01 : Pid ℝ)
    let operations : List (Operation (ControlSample ℝ)) :=
      [.take ⟨5, 0, 20, false⟩, .reset, .take ⟨1, 0, 20, false⟩]
    (0 : ℝ) < 0.01 ∧ ((c.after operations).takeIn ⟨2, 0, 20, true⟩).d = 1 / 0.51 ∧
      |((c.after operations).takeIn ⟨2, 0, 20, true⟩).d| ≤ 1 * (2 - 1) / 0.51 := by
  intro c operations
  have hperiod : (0 : ℝ) < 0.01 := by norm_num
  obtain ⟨-, -, -, hd, hbound⟩ := derivative_of_smoothed_errors (.constant 0) (.constant 0)
    (.constant 1) (.constant 0) 1 hperiod operations ⟨2, 0, 20, true⟩
  have herrors : (Operation.recent operations).map (·.error) = [1] := rfl
  rw [herrors] at hd hbound
  have hends : ([2, 1] : List ℝ).max (List.cons_ne_nil _ _) = 2 ∧
      ([2, 1] : List ℝ).min (List.cons_ne_nil _ _) = 1 := by
    show List.foldl max (2 : ℝ) [1] = 2 ∧ List.foldl min (2 : ℝ) [1] = 1
    norm_num
  refine ⟨hperiod, (hd (by simp)).trans ?_, hbound.trans_eq ?_⟩
  · norm_num [smoothedError]
  · rw [hends.1, hends.2]
    norm_num

end Pid

end LateralTorque
