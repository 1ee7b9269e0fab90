import Mathlib
import LateralTorque.Controller
import LateralTorque.Proofs.Curve

/-!
# Laws that divide by positive numbers only

Over the reals a quotient by zero has a value, so that a law may divide by zero unnoticed.  Guarded
arithmetic is exact arithmetic in which the quotient by a number that is not positive is anything at
all.  A law that comes to the same in it, whatever that is, makes no use of such a quotient.

The laws are written once for every number system, so that nothing has to be written again: a law in
guarded arithmetic is the same definition at another instance, `Exact.guarded`.

* `Exact.guarded` — the arithmetic, and `Exact.guarded_div_iff` on its quotients;
* `Exact.interp_guarded` — a curve divides by the width of a segment only where that is positive;
* `Trajectory.jerks_guarded`, `JerkEstimate.ofTrajectory_guarded` — the look along a good plan;
* `LateralSignals.build_guarded`, `FeatureContext.assemble_guarded`, `linearTorque_guarded`,
  `Pid.update_guarded`, `DelayEstimator.update_guarded` — the parts of a cycle.

Each takes as hypotheses that its own divisors are positive.  In double precision a quotient may
overflow all the same, which exact arithmetic does not see.
-/

set_option autoImplicit false

namespace LateralTorque

/-! ## The arithmetic -/

namespace Exact

/-- Exact arithmetic in which a quotient by a number that is not positive goes astray. -/
noncomputable abbrev guarded (astray : ℝ → ℝ → ℝ) : Scalar ℝ :=
  { (inferInstance : Scalar ℝ) with div := fun a b => if 0 < b then a / b else astray a b }

variable {astray : ℝ → ℝ → ℝ}

theorem guarded_div (a : ℝ) {b : ℝ} (h : 0 < b) : (guarded astray).div a b = a / b := if_pos h

/-- Where a quotient comes to the same however it goes astray, the divisor is positive. -/
theorem guarded_div_iff {a b : ℝ} :
    (∀ astray, (guarded astray).div a b = a / b) ↔ 0 < b := by
  refine ⟨fun h => ?_, fun h astray => guarded_div a h⟩
  by_contra hastray
  -- A quotient that goes astray by one is another one.
  have hquotient := h fun a b => a / b + 1
  rw [show (guarded fun a b => a / b + 1).div a b = a / b + 1 from if_neg hastray] at hquotient
  exact absurd hquotient (lt_add_one _).ne'

/-! ## Curves -/

theorem linearMap_guarded {s₀ s₁ : ℝ} (h : s₀ < s₁) (t₀ t₁ x : ℝ) :
    @linearMap ℝ (guarded astray) s₀ s₁ t₀ t₁ x = linearMap s₀ s₁ t₀ t₁ x :=
  congrArg (t₀ + ·) (guarded_div _ (sub_pos.mpr h))

/-- Along the points, `x` stays beyond the point before, so that the segment with `x` has a width. -/
theorem interpAfter_guarded {x : ℝ} {before : ℝ × ℝ} (hbefore : before.1 < x)
    (points : List (ℝ × ℝ)) :
    @interpAfter ℝ (guarded astray) x before points = interpAfter x before points := by
  induction points generalizing before with
  | nil => rfl
  | cons point rest ih =>
    unfold interpAfter
    by_cases hright : x ≤ point.1
    · by_cases hstep : (point.1 == before.1) = true
      · rw [if_pos hright, if_pos hright, if_pos hstep, if_pos hstep]
      · rw [if_pos hright, if_pos hright, if_neg hstep, if_neg hstep]
        exact linearMap_guarded (hbefore.trans_le hright) _ _ _
    · rw [if_neg hright, if_neg hright]
      exact ih (not_le.mp hright)

theorem interpPoints_guarded (x : ℝ) (points : List (ℝ × ℝ)) :
    @interpPoints ℝ (guarded astray) x points = interpPoints x points := by
  cases points with
  | nil => rfl
  | cons first rest =>
    unfold interpPoints
    by_cases hleft : x ≤ first.1
    · exact (if_pos hleft).trans (if_pos hleft).symm
    · dsimp only
      rw [if_neg hleft, if_neg hleft, interpAfter_guarded (not_le.mp hleft)]

/-- **A curve is interpolated only where breakpoints are apart**, in any order they come. -/
theorem interp_guarded (x : ℝ) (breakpoints values : List ℝ) :
    @interp ℝ (guarded astray) x breakpoints values = interp x breakpoints values :=
  interpPoints_guarded x _

/-- Along the points, `x` lies at a point, or beyond the one before and not beyond the one after it. -/
theorem interpAfter_cases {x : ℝ} {before : ℝ × ℝ} (hbefore : before.1 < x)
    (points : List (ℝ × ℝ)) :
    (∃ p ∈ before :: points, interpAfter x before points = p.2) ∨
    ∃ p q, [p, q] <:+: before :: points ∧ p.1 < x ∧ x ≤ q.1 ∧
      interpAfter x before points = linearMap p.1 q.1 p.2 q.2 x := by
  induction points generalizing before with
  | nil => exact .inl ⟨before, List.mem_singleton_self _, rfl⟩
  | cons point rest ih =>
    unfold interpAfter
    by_cases hright : x ≤ point.1
    · by_cases hstep : (point.1 == before.1) = true
      · rw [if_pos hright, if_pos hstep]
        exact .inl ⟨point, by simp, rfl⟩
      · rw [if_pos hright, if_neg hstep]
        exact .inr ⟨before, point, ⟨[], rest, rfl⟩, hbefore, hright, rfl⟩
    · rw [if_neg hright]
      rcases ih (not_le.mp hright) with ⟨p, hp, heq⟩ | ⟨p, q, hinfix, hsegment⟩
      · exact .inl ⟨p, List.mem_cons_of_mem _ hp, heq⟩
      · exact .inr ⟨p, q, hinfix.trans (List.suffix_cons _ _).isInfix, hsegment⟩

theorem interpPoints_cases (x : ℝ) (points : List (ℝ × ℝ)) :
    (points = [] ∧ interpPoints x points = 0) ∨ (∃ p ∈ points, interpPoints x points = p.2) ∨
    ∃ p q, [p, q] <:+: points ∧ p.1 < x ∧ x ≤ q.1 ∧
      interpPoints x points = linearMap p.1 q.1 p.2 q.2 x := by
  cases points with
  | nil => exact .inl ⟨rfl, rfl⟩
  | cons first rest =>
    refine .inr ?_
    unfold interpPoints
    dsimp only
    by_cases hleft : x ≤ first.1
    · rw [if_pos hleft]
      exact .inl ⟨first, List.mem_cons_self, rfl⟩
    · rw [if_neg hleft]
      split
      · refine .inl ⟨rest.getLast?.getD first, ?_, rfl⟩
        cases hlast : rest.getLast? with
        | none => exact List.mem_cons_self
        | some last => exact List.mem_cons_of_mem _ (List.mem_of_getLast? hlast)
      · exact interpAfter_cases (not_le.mp hleft) rest

/-- **A curve takes one of its values, or is interpolated on a segment with `x` in it**, which has a
width for that reason.  This holds of breakpoints in any order. -/
theorem interp_cases (x : ℝ) (breakpoints values : List ℝ) :
    interp x breakpoints values ∈ 0 :: values ∨
    ∃ p q, [p, q] <:+: breakpoints.zip values ∧ p.1 < x ∧ x ≤ q.1 ∧
      interp x breakpoints values = linearMap p.1 q.1 p.2 q.2 x := by
  unfold interp
  rcases interpPoints_cases x (breakpoints.zip values) with ⟨-, hzero⟩ | ⟨p, hp, heq⟩ | hsegment
  · exact .inl (hzero ▸ List.mem_cons_self)
  · exact .inl (heq ▸ List.mem_cons_of_mem _ (List.of_mem_zip hp).2)
  · exact .inr hsegment

theorem radians_guarded (degrees : ℝ) :
    @Scalar.radians ℝ (guarded astray) degrees = Scalar.radians degrees :=
  congrArg (degrees * ·) (guarded_div _ (by norm_num))

end Exact

open Exact

variable {astray : ℝ → ℝ → ℝ}

theorem GainSchedule.value_guarded (g : GainSchedule ℝ) (speed : ℝ) :
    @GainSchedule.value ℝ (guarded astray) g speed = g.value speed :=
  interp_guarded _ _ _

/-! ## Signals -/

/-- The speed that something is divided by is not below one. -/
theorem divisorSpeed_pos (speed : ℝ) : 0 < Scalar.maxNum speed minDivisorSpeed := by
  rw [maxNum_eq, minDivisorSpeed]
  exact lt_max_of_lt_right (by norm_num)

theorem LateralSignals.ofCurvature_guarded (vehicle : VehicleState ℝ) (road : RoadGeometry ℝ)
    (desired : DesiredMotion ℝ) (actual deadzone rate : ℝ) :
    @ofCurvature ℝ (guarded astray) vehicle road desired actual deadzone rate
      = ofCurvature vehicle road desired actual deadzone rate := by
  have hscale : @curvatureAttenuation ℝ (guarded astray) vehicle.speed
      = curvatureAttenuation vehicle.speed := interp_guarded _ _ _
  unfold ofCurvature
  dsimp only
  rw [hscale]
  rfl

theorem LateralSignals.build_guarded (vehicle : VehicleState ℝ) (road : RoadGeometry ℝ)
    (desired : DesiredMotion ℝ) (tuning : Tuning ℝ) (model : CurvatureModel ℝ) :
    @build ℝ (guarded astray) vehicle road desired tuning model
      = build vehicle road desired tuning model := by
  have hsteering : @steeringCurvature ℝ (guarded astray) model vehicle road
      = steeringCurvature model vehicle road := by
    unfold steeringCurvature
    rw [radians_guarded]
  have hyaw : (guarded astray).div vehicle.yawRate (Scalar.maxNum vehicle.speed minDivisorSpeed)
      = vehicle.yawRate / Scalar.maxNum vehicle.speed minDivisorSpeed :=
    guarded_div _ (divisorSpeed_pos _)
  unfold build
  dsimp only
  rw [hsteering, radians_guarded, radians_guarded, ofCurvature_guarded, ofCurvature_guarded,
    interp_guarded]
  split
  · rfl
  · -- Only the curvature from the yaw rate divides by the speed.
    exact congrArg (fun inertial => ofCurvature vehicle road desired (interp vehicle.speed
      blendSpeeds [steeringCurvature model vehicle road, inertial]) 0 0) hyaw

/-! ## The look along the plan -/

namespace Trajectory

theorem isChain_of_ascending {times : List ℝ} (h : ascending times = true) :
    times.IsChain (· < ·) := by
  induction times with
  | nil => exact .nil
  | cons first rest ih =>
    cases rest with
    | nil => exact .singleton _
    | cons second rest =>
      rw [ascending, Bool.and_eq_true, decide_eq_true_iff] at h
      exact .cons_cons h.1 (ih h.2)

/-- The samples of a good plan are apart in time. -/
theorem isChain_times_of_isGood {t : Trajectory ℝ} (h : t.isGood = true) :
    t.times.IsChain (· < ·) := by
  simp only [isGood, Bool.and_eq_true] at h
  exact isChain_of_ascending h.1.2

/-- The jerk from each sample to the next divides by the time between them. -/
theorem zipWith_quotient_guarded {points : List (ℝ × ℝ)}
    (h : (points.map Prod.fst).IsChain (· < ·)) :
    points.zipWith (fun before after =>
        (guarded astray).div (after.2 - before.2) (after.1 - before.1)) points.tail
      = points.zipWith (fun before after => (after.2 - before.2) / (after.1 - before.1))
        points.tail := by
  induction points with
  | nil => rfl
  | cons first rest ih =>
    cases rest with
    | nil => rfl
    | cons second rest =>
      obtain ⟨hgap, hrest⟩ := List.isChain_cons_cons.mp h
      exact congrArg₂ List.cons (guarded_div _ (sub_pos.mpr hgap)) (ih hrest)

theorem jerks_guarded {t : Trajectory ℝ} (h : t.isGood = true) :
    @jerks ℝ (guarded astray) t = t.jerks := by
  have hlength : t.times.length ≤ t.lateralAccels.length := by
    simp only [isGood, Bool.and_eq_true, beq_iff_eq] at h
    exact h.1.1.1.1.2.ge
  have hpoints : ((t.times.zip t.lateralAccels).map Prod.fst).IsChain (· < ·) := by
    rw [List.map_fst_zip hlength]
    exact isChain_times_of_isGood h
  exact zipWith_quotient_guarded hpoints

end Trajectory

namespace JerkEstimate

theorem desiredJerk_guarded (t : Trajectory ℝ) (desiredAccel : ℝ) {delay : ℝ}
    (hdelay : 0 < delay + jerkTimeMargin) :
    @desiredJerk ℝ (guarded astray) t desiredAccel delay = desiredJerk t desiredAccel delay := by
  unfold desiredJerk
  rw [interp_guarded]
  exact guarded_div _ hdelay

theorem window_guarded {t : Trajectory ℝ} (h : t.isGood = true) (speed : ℝ) :
    @window ℝ (guarded astray) t speed = window t speed := by
  have htime : @lookaheadTime ℝ (guarded astray) speed = lookaheadTime speed :=
    interp_guarded _ _ _
  unfold window upperIndex
  rw [Trajectory.jerks_guarded h, htime]

theorem persistFrom_guarded (sign least : ℝ) (values : List ℝ) :
    @persistFrom ℝ (guarded astray) sign least values = persistFrom sign least values := by
  induction values generalizing least with
  | nil => rfl
  | cons v rest ih =>
    unfold persistFrom
    rw [ih]
    rfl

theorem ofTrajectory_guarded {t : Trajectory ℝ} (h : t.isGood = true)
    (speed desiredAccel actualJerk : ℝ) {delay : ℝ} (hdelay : 0 < delay + jerkTimeMargin)
    (useSteeringAngle : Bool) (jerkFrictionFactor accelFrictionFactor : ℝ) :
    @ofTrajectory ℝ (guarded astray) t speed desiredAccel actualJerk delay useSteeringAngle
        jerkFrictionFactor accelFrictionFactor
      = ofTrajectory t speed desiredAccel actualJerk delay useSteeringAngle jerkFrictionFactor
        accelFrictionFactor := by
  unfold ofTrajectory persistentValue
  dsimp only
  rw [desiredJerk_guarded t desiredAccel hdelay, window_guarded h, persistFrom_guarded]
  rfl

end JerkEstimate

/-! ## Features -/

namespace FeatureContext

theorem futureTimes_guarded (offset longitudinalAccel speed : ℝ) :
    @futureTimes ℝ (guarded astray) offset longitudinalAccel speed
      = futureTimes offset longitudinalAccel speed := by
  unfold futureTimes
  refine List.map_congr_left fun start _ => ?_
  exact congrArg (fun quotient => start + offset + 0.5 * longitudinalAccel * quotient)
    (guarded_div _ (divisorSpeed_pos speed))

theorem assemble_guarded (c : FeatureContext ℝ) (inputs : FeatureInputs ℝ) (t : Trajectory ℝ) :
    @assemble ℝ (guarded astray) c inputs t = c.assemble inputs t := by
  have hrolls (roll pitch : ℝ) (times : List ℝ) :
      @futureRolls ℝ (guarded astray) t roll pitch times = futureRolls t roll pitch times := by
    unfold futureRolls
    simp only [interp_guarded]
    rfl
  have haccels (times : List ℝ) :
      @futureAccels ℝ (guarded astray) t times = futureAccels t times := by
    unfold futureAccels
    simp only [interp_guarded]
  unfold assemble features
  dsimp only
  rw [hrolls, haccels, futureTimes_guarded]
  rfl

end FeatureContext

/-! ## Torque -/

theorem linearTorque_guarded (inputs : AnalyticInputs ℝ) {tuning : Tuning ℝ}
    (hfactor : 0 < tuning.accelFactor) (frictionInput deadzone : ℝ) (compensate : Bool) :
    @linearTorque ℝ (guarded astray) inputs tuning frictionInput deadzone compensate
      = linearTorque inputs tuning frictionInput deadzone compensate := by
  have hfriction : @frictionTorque ℝ (guarded astray) frictionInput deadzone frictionThreshold
      tuning compensate = frictionTorque frictionInput deadzone frictionThreshold tuning
        compensate := by
    unfold frictionTorque
    rw [interp_guarded]
    rfl
  have hratio : (guarded astray).div inputs.lateralAccel tuning.accelFactor
      = inputs.lateralAccel / tuning.accelFactor := guarded_div _ hfactor
  unfold linearTorque
  rw [← hratio, ← hfriction]
  rfl

namespace Pid

theorem update_guarded {c : Pid ℝ} (hperiod : 0 < c.period) (error feedforward speed : ℝ)
    (freeze : Bool) :
    @update ℝ (guarded astray) c error feedforward speed freeze
      = c.update error feedforward speed freeze := by
  have hrate : @errorRate ℝ (guarded astray) c error = c.errorRate error := by
    unfold errorRate
    split
    · exact guarded_div _ hperiod
    · rfl
  have hcandidate : @candidate ℝ (guarded astray) c error speed = c.candidate error speed := by
    unfold candidate
    rw [GainSchedule.value_guarded]
  unfold update
  dsimp only
  rw [hrate, hcandidate, GainSchedule.value_guarded, GainSchedule.value_guarded,
    GainSchedule.value_guarded]
  rfl

end Pid

theorem rawDelay_guarded (realised commanded : ℝ) :
    @rawDelay ℝ (guarded astray) realised commanded = rawDelay realised commanded := by
  unfold rawDelay torqueBasedDelay delayBlend
  rw [interp_guarded, interp_guarded]
  rfl

theorem DelayEstimator.update_guarded (e : DelayEstimator ℝ) (realised : Option ℝ)
    (commanded : ℝ) :
    @update ℝ (guarded astray) e realised commanded = e.update realised commanded := by
  have hraw (r : ℝ) : @rawDelay ℝ (guarded astray) r commanded = rawDelay r commanded :=
    rawDelay_guarded r commanded
  unfold update
  simp only [hraw]
  rfl

/-! ## A new controller -/

theorem LowPass.create_guarded (start : ℝ) {timeConstant period : ℝ}
    (hconstant : 0 ≤ timeConstant) (hperiod : 0 < period) (settled : Bool) :
    @create ℝ (guarded astray) start timeConstant period settled
      = create start timeConstant period settled :=
  congrArg (fun weight => (⟨start, period, weight, settled⟩ : LowPass ℝ))
    (guarded_div _ (add_pos_of_nonneg_of_pos hconstant hperiod))

theorem FeatureContext.create_guarded {period : ℝ} (h : 0 < period) :
    @create ℝ (guarded astray) period = create period := by
  have hfilter : @LowPass.create ℝ (guarded astray) 0 pitchTimeConstant period true
      = LowPass.create 0 pitchTimeConstant period true :=
    LowPass.create_guarded 0 (by norm_num [pitchTimeConstant]) h true
  exact congrArg (fun filter => (⟨.empty, .empty, filter, period⟩ : FeatureContext ℝ)) hfilter

theorem Pid.create_guarded (proportional integral derivative feedforward : GainSchedule ℝ)
    (limit : ℝ) {period : ℝ} (h : 0 < period) :
    @create ℝ (guarded astray) proportional integral derivative feedforward limit period
      = create proportional integral derivative feedforward limit period := by
  have hfilter : @LowPass.create ℝ (guarded astray) 0 errorTimeConstant period false
      = LowPass.create 0 errorTimeConstant period false :=
    LowPass.create_guarded 0 (by norm_num [errorTimeConstant]) h false
  exact congrArg (fun filter =>
    { create proportional integral derivative feedforward limit period with
      errorFilter := filter }) hfilter

theorem DelayEstimator.create_guarded (enabled : Bool) (staticDelay : ℝ) {period : ℝ}
    (h : 0 < period) :
    @create ℝ (guarded astray) enabled staticDelay period = create enabled staticDelay period := by
  have hfilter : @LowPass.create ℝ (guarded astray) 0 timeConstant period false
      = LowPass.create 0 timeConstant period false :=
    LowPass.create_guarded 0 (by norm_num [timeConstant]) h false
  exact congrArg (fun filter => (⟨enabled, staticDelay, filter⟩ : DelayEstimator ℝ)) hfilter

theorem Controller.initial_guarded {params : Params ℝ} (h : 0 < params.rate)
    (capabilities : Capabilities ℝ) :
    @initial ℝ (guarded astray) params capabilities = initial params capabilities := by
  have hperiod : @Params.period ℝ (guarded astray) params = params.period := guarded_div _ h
  have hpositive : 0 < params.period := one_div_pos.mpr h
  unfold initial
  rw [hperiod, Pid.create_guarded _ _ _ _ _ hpositive, DelayEstimator.create_guarded _ _ hpositive,
    FeatureContext.create_guarded hpositive]
  rfl

end LateralTorque
