import LateralTorque.Proofs.Extended
import LateralTorque.Proofs.Mirror
import LateralTorque.Proofs.Smoothing

/-!
# The range of the delay estimate

The estimator is given feedback and commands of any kind: absent, infinite or NaN.  What it takes in
are pairs of numbers, and of those it makes a delay between 0.02 and 0.5 seconds, smoothed from the
first one on.

The number system is `Extended`, so that special values are there and finite ones are computed with
exactly; zeros without a sign and sums that never overflow are what it leaves out of double
precision.  The period is a positive number, and the static delay is anything.

* `Extended.interp_real`, `rawDelay_real` — on numbers, arithmetic with special values is exact
  arithmetic;
* `DelayEstimator.Estimates` — an estimator that has taken in feedback; `Estimates.update` is its
  step, `takeIn_mirror` its symmetry;
* `DelayEstimator.delay_in_range` — range, smoothness and symmetry of the estimate after any run of
  updates, and the static delay before it.

Whether the estimate is close to the delay of an actuator is no matter of these results.
-/

set_option autoImplicit false

namespace LateralTorque

/-! ## Curves through numbers -/

namespace Extended

/-- A point with two real coordinates. -/
def realPoint (p : ℝ × ℝ) : Extended × Extended := (real p.1, real p.2)

/-- No segment of a curve is without width, so that the quotient of its line is one of numbers. -/
theorem linearMap_real {s₀ s₁ : ℝ} (hne : s₁ ≠ s₀) (t₀ t₁ x : ℝ) :
    linearMap (real s₀) (real s₁) (real t₀) (real t₁) (real x) = real (linearMap s₀ s₁ t₀ t₁ x) := by
  have hwidth : s₁ - s₀ ≠ 0 := sub_ne_zero.mpr hne
  unfold linearMap
  rw [real_sub, real_sub, real_sub]
  show real t₀ + real ((x - s₀) * (t₁ - t₀)) / real (s₁ - s₀) = _
  rw [real_div _ hwidth]
  rfl

@[simp] theorem realPoint_fst (p : ℝ × ℝ) : (realPoint p).1 = real p.1 := rfl

@[simp] theorem realPoint_snd (p : ℝ × ℝ) : (realPoint p).2 = real p.2 := rfl

theorem interpAfter_real (x : ℝ) (before : ℝ × ℝ) (points : List (ℝ × ℝ)) :
    interpAfter (real x) (realPoint before) (points.map realPoint)
      = real (interpAfter x before points) := by
  induction points generalizing before with
  | nil => rfl
  | cons point rest ih =>
    rw [List.map_cons]
    simp only [interpAfter, realPoint_fst, realPoint_snd, real_le_iff, real_beq_iff, Exact.beq_iff]
    by_cases hright : x ≤ point.1
    · by_cases hstep : point.1 = before.1
      · simp only [if_pos hright, if_pos hstep]
      · simp only [if_pos hright, if_neg hstep]
        exact linearMap_real hstep _ _ _
    · simp only [if_neg hright]
      exact ih point

theorem interpPoints_real (x : ℝ) (points : List (ℝ × ℝ)) :
    interpPoints (real x) (points.map realPoint) = real (interpPoints x points) := by
  cases points with
  | nil => rfl
  | cons first rest =>
    have hlast : (rest.map realPoint).getLast?.getD (realPoint first)
        = realPoint (rest.getLast?.getD first) := by
      rw [List.getLast?_map]
      cases rest.getLast? <;> rfl
    rw [List.map_cons]
    simp only [interpPoints, hlast, realPoint_fst, realPoint_snd, real_le_iff]
    by_cases hleft : x ≤ first.1
    · simp only [if_pos hleft]
    · by_cases hright : (rest.getLast?.getD first).1 ≤ x
      · simp only [if_neg hleft, if_pos hright]
      · simp only [if_neg hleft, if_neg hright]
        exact interpAfter_real x first rest

/-- **A curve through numbers** takes numbers to numbers, those of exact arithmetic. -/
theorem interp_real (x : ℝ) (breakpoints values : List ℝ) :
    interp (real x) (breakpoints.map real) (values.map real)
      = real (interp x breakpoints values) := by
  unfold interp
  rw [List.zip_map]
  exact interpPoints_real x _

end Extended

open Extended

theorem torqueBasedDelay_real (difference : ℝ) :
    torqueBasedDelay (real difference) = real (torqueBasedDelay difference) :=
  interp_real difference [0.0, 1.0] [0.02, 0.40]

theorem delayBlend_real (realised : ℝ) :
    delayBlend (real realised) = real (delayBlend realised) :=
  interp_real |realised| [0.1, 0.35] [0.0, 1.0]

theorem rawDelay_real (realised commanded : ℝ) :
    rawDelay (real realised) (real commanded) = real (rawDelay realised commanded) := by
  have hdifference : Scalar.abs (real realised + real commanded) = real |realised + commanded| := rfl
  have hrest : (1 : Extended) - real (delayBlend realised) = real (1 - delayBlend realised) :=
    real_sub 1 (delayBlend realised)
  unfold rawDelay
  rw [hdifference, torqueBasedDelay_real, delayBlend_real, hrest]
  rfl

/-! ## Updates -/

/-- What one update of the estimator is given: the torque that the actuator reports, if it does, and
the torque that was demanded of it. -/
structure DelayFeedback (α : Type) where
  realised : Option α
  commanded : α

namespace DelayFeedback

/-- Whether feedback and command are there and are numbers. -/
def usable {α : Type} [Scalar α] (f : DelayFeedback α) : Bool :=
  f.realised.any Scalar.isFinite && Scalar.isFinite f.commanded

/-- The same on the other side. -/
def mirror {α : Type} [Scalar α] (f : DelayFeedback α) : DelayFeedback α :=
  ⟨f.realised.map (- ·), -f.commanded⟩

theorem usable_iff {f : DelayFeedback Extended} :
    f.usable = true ↔ ∃ r c, f.realised = some (real r) ∧ f.commanded = real c := by
  obtain ⟨realised, commanded⟩ := f
  cases realised with
  | none => simp [usable]
  | some r => simp [usable, isFinite_iff]

end DelayFeedback

namespace DelayEstimator

/-- The estimator after an update. -/
def takeIn {α : Type} [Scalar α] (e : DelayEstimator α) (f : DelayFeedback α) : DelayEstimator α :=
  e.update f.realised f.commanded

/-- The estimator after a run of updates. -/
def takeAll {α : Type} [Scalar α] (e : DelayEstimator α) (feedback : List (DelayFeedback α)) :
    DelayEstimator α :=
  feedback.foldl takeIn e

variable {e : DelayEstimator Extended} {f : DelayFeedback Extended}

/-- An estimator that is not enabled never changes. -/
theorem takeIn_of_disabled (hdisabled : e.enabled = false) : e.takeIn f = e := by
  simp [takeIn, update, accepted?, hdisabled]

/-- Feedback that cannot be used changes nothing. -/
theorem takeIn_of_unusable (h : f.usable = false) : e.takeIn f = e := by
  obtain ⟨realised, commanded⟩ := f
  cases realised with
  | none => simp [takeIn, update, accepted?]
  | some r =>
    have hrefused : (Scalar.isFinite r && Scalar.isFinite commanded) = false := h
    simp [takeIn, update, accepted?, Option.filter_some, hrefused]

/-- Feedback that can be used is smoothed. -/
theorem takeIn_of_usable (henabled : e.enabled = true) {r c : ℝ}
    (hrealised : f.realised = some (real r)) (hcommanded : f.commanded = real c) :
    e.takeIn f = { e with filter := e.filter.update (real (rawDelay r c)) } := by
  unfold takeIn update accepted?
  rw [hrealised, hcommanded, henabled, ← rawDelay_real]
  rfl

theorem takeAll_of_disabled (hdisabled : e.enabled = false)
    (feedback : List (DelayFeedback Extended)) : e.takeAll feedback = e := by
  induction feedback with
  | nil => rfl
  | cons f rest ih =>
    show (e.takeIn f).takeAll rest = e
    rw [takeIn_of_disabled hdisabled]
    exact ih

theorem takeAll_of_unusable {feedback : List (DelayFeedback Extended)}
    (h : ∀ f ∈ feedback, f.usable = false) : e.takeAll feedback = e := by
  induction feedback with
  | nil => rfl
  | cons f rest ih =>
    rw [List.forall_mem_cons] at h
    show (e.takeIn f).takeAll rest = e
    rw [takeIn_of_unusable h.1]
    exact ih h.2

/-! ## The smoothed estimate -/

/-- An estimator that has taken in feedback and estimates the delay at `d` seconds. -/
structure Estimates (e : DelayEstimator Extended) (weight d : ℝ) : Prop where
  enabled : e.enabled = true
  settled : e.filter.settled = true
  weight : e.filter.weight = real weight
  value : e.filter.value = real d
  range : d ∈ Set.Icc (0.02 : ℝ) 0.5

variable {weight d : ℝ}

theorem Estimates.delay_eq (h : e.Estimates weight d) : e.delay = real d := by
  simp [delay, h.enabled, h.settled, h.value]

/-- The first feedback is taken as it is. -/
theorem estimates_of_first (henabled : e.enabled = true) (hfresh : e.filter.settled = false)
    (hweight : e.filter.weight = real weight) (hf : f.usable = true) :
    ∃ d, (e.takeIn f).Estimates weight d := by
  obtain ⟨r, c, hrealised, hcommanded⟩ := DelayFeedback.usable_iff.mp hf
  rw [takeIn_of_usable henabled hrealised hcommanded]
  refine ⟨rawDelay r c, henabled, rfl, hweight, ?_, rawDelay_mem r c⟩
  simp [LowPass.update, hfresh]

/-- **Later feedback moves the estimate** within the range, by no more than the weight of a sample
times the width of the range. -/
theorem Estimates.update (h : e.Estimates weight d) (hweight : weight ∈ Set.Icc 0 1)
    (f : DelayFeedback Extended) :
    ∃ d', (e.takeIn f).Estimates weight d' ∧ |d' - d| ≤ 0.48 * weight := by
  cases hf : f.usable with
  | false =>
    rw [takeIn_of_unusable hf]
    refine ⟨d, h, ?_⟩
    rw [sub_self, abs_zero]
    exact mul_nonneg (by norm_num) hweight.1
  | true =>
    obtain ⟨r, c, hrealised, hcommanded⟩ := DelayFeedback.usable_iff.mp hf
    rw [takeIn_of_usable h.enabled hrealised hcommanded]
    have hrest : (1 : Extended) - real weight = real (1 - weight) := real_sub 1 weight
    have hsample := rawDelay_mem r c
    refine ⟨(1 - weight) * d + weight * rawDelay r c, ⟨h.enabled, rfl, h.weight, ?_, ?_⟩, ?_⟩
    · simp only [LowPass.update, h.settled, h.weight, h.value, if_true, hrest]
      rfl
    · exact convex_Icc (0.02 : ℝ) 0.5 h.range hsample (sub_nonneg.mpr hweight.2) hweight.1
        (sub_add_cancel 1 weight)
    · have hdistance : |rawDelay r c - d| ≤ 0.48 := by
        have hwidth := abs_sub_le_of_le_of_le hsample.1 hsample.2 h.range.1 h.range.2
        norm_num at hwidth ⊢
        exact hwidth
      calc |(1 - weight) * d + weight * rawDelay r c - d|
          = |weight * (rawDelay r c - d)| := by congr 1; ring
        _ = weight * |rawDelay r c - d| := by rw [abs_mul, abs_of_nonneg hweight.1]
        _ ≤ weight * 0.48 := mul_le_mul_of_nonneg_left hdistance hweight.1
        _ = 0.48 * weight := mul_comm _ _

theorem Estimates.takeAll (h : e.Estimates weight d) (hweight : weight ∈ Set.Icc 0 1)
    (feedback : List (DelayFeedback Extended)) : ∃ d', (e.takeAll feedback).Estimates weight d' := by
  induction feedback generalizing e d with
  | nil => exact ⟨d, h⟩
  | cons f rest ih =>
    obtain ⟨d', hnext, -⟩ := h.update hweight f
    exact ih hnext

/-- The estimate begins with the first feedback that can be used, and stays. -/
theorem estimates_takeAll (henabled : e.enabled = true) (hfresh : e.filter.settled = false)
    (hfilter : e.filter.weight = real weight) (hweight : weight ∈ Set.Icc 0 1)
    {feedback : List (DelayFeedback Extended)} (hsome : ∃ f ∈ feedback, f.usable = true) :
    ∃ d, (e.takeAll feedback).Estimates weight d := by
  induction feedback with
  | nil =>
    obtain ⟨f, hmem, -⟩ := hsome
    cases hmem
  | cons f rest ih =>
    cases hf : f.usable with
    | true =>
      obtain ⟨d, hfirst⟩ := estimates_of_first henabled hfresh hfilter hf
      exact hfirst.takeAll hweight rest
    | false =>
      have hrest : ∃ f ∈ rest, f.usable = true := by
        obtain ⟨g, hmem, hg⟩ := hsome
        rcases List.mem_cons.mp hmem with rfl | hmem
        · rw [hf] at hg
          cases hg
        · exact ⟨g, hmem, hg⟩
      show ∃ d, ((e.takeIn f).takeAll rest).Estimates weight d
      rw [takeIn_of_unusable hf]
      exact ih hrest

/-! ## Feedback on the other side -/

theorem takeIn_mirror (e : DelayEstimator Extended) (f : DelayFeedback Extended) :
    e.takeIn f.mirror = e.takeIn f := by
  cases henabled : e.enabled with
  | false => rw [takeIn_of_disabled henabled, takeIn_of_disabled henabled]
  | true =>
    cases hf : f.usable with
    | false =>
      have hmirror : f.mirror.usable = false := by
        rw [← hf]
        obtain ⟨realised, commanded⟩ := f
        cases realised <;> simp [DelayFeedback.mirror, DelayFeedback.usable]
      rw [takeIn_of_unusable hf, takeIn_of_unusable hmirror]
    | true =>
      obtain ⟨r, c, hrealised, hcommanded⟩ := DelayFeedback.usable_iff.mp hf
      have hnegated : f.mirror.realised = some (real (-r)) := by
        rw [DelayFeedback.mirror, hrealised]
        rfl
      have hdemand : f.mirror.commanded = real (-c) := by
        rw [DelayFeedback.mirror, hcommanded]
        rfl
      rw [takeIn_of_usable henabled hrealised hcommanded,
        takeIn_of_usable henabled hnegated hdemand, rawDelay_neg]

theorem takeAll_mirror (e : DelayEstimator Extended) (feedback : List (DelayFeedback Extended)) :
    e.takeAll (feedback.map DelayFeedback.mirror) = e.takeAll feedback := by
  induction feedback generalizing e with
  | nil => rfl
  | cons f rest ih =>
    show (e.takeIn f.mirror).takeAll (rest.map DelayFeedback.mirror) = (e.takeIn f).takeAll rest
    rw [takeIn_mirror]
    exact ih (e.takeIn f)

/-! ## The estimate of a run -/

/-- The weight of a delay at a sample period. -/
theorem weightOf_real {dt : ℝ} (hdt : 0 < dt) :
    LowPass.weightOf timeConstant (real dt) = real (dt / (2.5 + dt)) := by
  have htotal : (2.5 + dt : ℝ) ≠ 0 := by positivity
  exact real_div dt htotal

/-- **The delay estimate** is the static delay until an enabled estimator is given feedback that it
can use.  From then on it lies between 0.02 and 0.5 seconds and no update moves it by more than the
weight of a sample times the width of that range.  Feedback that cannot be used changes nothing, and
neither does it matter on which side the torques act. -/
theorem delay_in_range {dt : ℝ} (hdt : 0 < dt) (enabled : Bool) (staticDelay : Extended)
    (feedback : List (DelayFeedback Extended)) :
    let e := (create enabled staticDelay (real dt)).takeAll feedback
    ((enabled = false ∨ ∀ f ∈ feedback, f.usable = false) → e.delay = staticDelay) ∧
    (enabled = true → (∃ f ∈ feedback, f.usable = true) →
      ∃ d, e.delay = real d ∧ d ∈ Set.Icc (0.02 : ℝ) 0.5 ∧
        ∀ next, ∃ d', (e.takeIn next).delay = real d' ∧ |d' - d| ≤ 0.48 * dt / (2.5 + dt)) ∧
    (∀ next : DelayFeedback Extended, next.usable = false → e.takeIn next = e) ∧
    ((create enabled staticDelay (real dt)).takeAll (feedback.map DelayFeedback.mirror)).delay
      = e.delay := by
  intro e
  have hstart : (create enabled staticDelay (real dt)).delay = staticDelay := by
    cases enabled <;> rfl
  refine ⟨?_, ?_, fun next hnext => takeIn_of_unusable hnext, ?_⟩
  · rintro (rfl | hnone)
    · exact (congrArg delay (takeAll_of_disabled rfl feedback)).trans hstart
    · exact (congrArg delay (takeAll_of_unusable hnone)).trans hstart
  · rintro rfl hsome
    have hweight : dt / (2.5 + dt) ∈ Set.Icc 0 1 :=
      LowPass.weightOf_mem (by norm_num) hdt
    obtain ⟨d, hestimates⟩ := estimates_takeAll (e := create true staticDelay (real dt)) rfl rfl
      (weightOf_real hdt) hweight hsome
    refine ⟨d, hestimates.delay_eq, hestimates.range, fun next => ?_⟩
    obtain ⟨d', hnext, hmoves⟩ := hestimates.update hweight next
    rw [mul_div_assoc]
    exact ⟨d', hnext.delay_eq, hmoves⟩
  · rw [takeAll_mirror]

/-- At 100 updates per second: absent, infinite and NaN feedback around two that can be used. -/
theorem delay_in_range_over_dropouts :
    let feedback : List (DelayFeedback Extended) :=
      [⟨none, real 0.3⟩, ⟨some nan, real 0⟩, ⟨some (real 0), real 0⟩, ⟨some (infinity true), nan⟩,
        ⟨some (real (-0.5)), real 0.5⟩]
    let e := (create true (real 0.2) (real 0.01)).takeAll feedback
    (0 : ℝ) < 0.01 ∧ (∃ f ∈ feedback, f.usable = true) ∧
      ∃ d, e.delay = real d ∧ d ∈ Set.Icc (0.02 : ℝ) 0.5 ∧
        ∃ d', (e.takeIn ⟨some (real 0.4), real (-0.1)⟩).delay = real d' ∧
          |d' - d| ≤ 0.48 * 0.01 / (2.5 + 0.01) := by
  intro feedback e
  have hperiod : (0 : ℝ) < 0.01 := by norm_num
  have hsome : ∃ f ∈ feedback, f.usable = true := ⟨⟨some (real 0), real 0⟩, by simp [feedback], rfl⟩
  obtain ⟨d, hdelay, hrange, hmoves⟩ :=
    (delay_in_range hperiod true (real 0.2) feedback).2.1 rfl hsome
  exact ⟨hperiod, hsome, d, hdelay, hrange, hmoves _⟩

end DelayEstimator

end LateralTorque
