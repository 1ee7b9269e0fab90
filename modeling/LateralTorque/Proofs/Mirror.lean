import Mathlib
import LateralTorque.Controller
import LateralTorque.Proofs.Exact

/-!
# Mirror images

Seen in a mirror that swaps left and right, angles, rates, curvatures, lateral accelerations and
torques change their sign, while speeds, times, pitch and magnitudes stay.  In exact arithmetic each
part of a cycle maps mirror images to mirror images.

Vehicle and models are asked to be odd: mirrored angles give the opposite curvature, and mirrored
accelerations or features the opposite torque.  The single track vehicle and the linear law are so.
Everything else is taken as it is: any tables, plans, gains and memory.

* `interp_neg`, `persistentValue_neg` — curves and the look along the plan;
* `build_mirror`, `ofTrajectory_mirror`, `assemble_mirror` — signals, jerks and features;
* `Pid.update_mirror`, `DelayEstimator.update_neg` — the controller's memory.

Rounding in double precision respects the sign too, but that is not shown here, and neither is what
becomes of values that are not finite.
-/

set_option autoImplicit false

namespace LateralTorque

/-! ## Mirror images of what a cycle is given -/

noncomputable def VehicleState.mirror (v : VehicleState ℝ) : VehicleState ℝ :=
  { v with
    steeringAngle := -v.steeringAngle
    steeringRate := -v.steeringRate
    yawRate := -v.yawRate }

noncomputable def RoadGeometry.mirror (r : RoadGeometry ℝ) : RoadGeometry ℝ :=
  { r with roll := -r.roll, angleOffset := -r.angleOffset }

noncomputable def DesiredMotion.mirror (d : DesiredMotion ℝ) : DesiredMotion ℝ :=
  { d with curvature := -d.curvature }

noncomputable def Trajectory.mirror (t : Trajectory ℝ) : Trajectory ℝ :=
  { t with lateralAccels := t.lateralAccels.map (- ·), rolls := t.rolls.map (- ·) }

/-- All that a cycle is given, in the mirror. -/
noncomputable def CycleInput.mirror (input : CycleInput ℝ) : CycleInput ℝ :=
  { input with
    vehicle := input.vehicle.mirror
    road := input.road.mirror
    desired := input.desired.mirror
    trajectory := input.trajectory.map Trajectory.mirror
    actuatorTorque := input.actuatorTorque.map (- ·) }

/-! ## Curves -/

namespace Exact

theorem interpAfter_neg (x : ℝ) (before : ℝ × ℝ) (points : List (ℝ × ℝ)) :
    interpAfter x (before.1, -before.2) (points.map fun p => (p.1, -p.2))
      = -interpAfter x before points := by
  induction points generalizing before with
  | nil => rfl
  | cons point rest ih =>
    simp only [List.map_cons, interpAfter, ih]
    split
    · split
      · rfl
      · unfold linearMap
        ring
    · rfl

theorem interpPoints_neg (x : ℝ) (points : List (ℝ × ℝ)) :
    interpPoints x (points.map fun p => (p.1, -p.2)) = -interpPoints x points := by
  cases points with
  | nil => exact neg_zero.symm
  | cons first rest =>
    have hlast : ((rest.map fun p => (p.1, -p.2)).getLast?.getD (first.1, -first.2))
        = ((rest.getLast?.getD first).1, -(rest.getLast?.getD first).2) := by
      rw [List.getLast?_map]
      cases rest.getLast? <;> rfl
    simp only [List.map_cons, interpPoints, hlast, interpAfter_neg]
    split
    · rfl
    · split <;> rfl

@[simp] theorem interp_neg (x : ℝ) (breakpoints values : List ℝ) :
    interp x breakpoints (values.map (- ·)) = -interp x breakpoints values := by
  unfold interp
  rw [List.zip_map_right, ← interpPoints_neg]
  rfl

/-! ## Signals -/

theorem curvature_neg (m : BicycleModel ℝ) (angle speed roll : ℝ) :
    m.curvature (-angle) speed (-roll) = -m.curvature angle speed roll := by
  unfold BicycleModel.curvature BicycleModel.rollCurvature
  split <;> ring

theorem radians_neg (degrees : ℝ) : Scalar.radians (-degrees) = -Scalar.radians degrees :=
  neg_mul _ _

end Exact

noncomputable def LateralSignals.mirror (sig : LateralSignals ℝ) : LateralSignals ℝ :=
  { sig with
    actualCurvature := -sig.actualCurvature
    actualAccel := -sig.actualAccel
    desiredAccel := -sig.desiredAccel
    actualJerk := -sig.actualJerk
    rollCompensation := -sig.rollCompensation }

/-- A curvature model whose vehicle steers to the right as it steers to the left. -/
def CurvatureModel.Odd (model : CurvatureModel ℝ) : Prop :=
  ∀ angle speed roll, model (-angle) speed (-roll) = -model angle speed roll

namespace LateralSignals

variable (vehicle : VehicleState ℝ) (road : RoadGeometry ℝ) (desired : DesiredMotion ℝ)

theorem ofCurvature_mirror (actual deadzone rate : ℝ) :
    ofCurvature vehicle.mirror road.mirror desired.mirror (-actual) deadzone (-rate)
      = (ofCurvature vehicle road desired actual deadzone rate).mirror := by
  simp [ofCurvature, mirror, VehicleState.mirror, RoadGeometry.mirror, DesiredMotion.mirror]

theorem steeringCurvature_mirror {model : CurvatureModel ℝ} (h : model.Odd) :
    steeringCurvature model vehicle.mirror road.mirror
      = -steeringCurvature model vehicle road := by
  have hangle : Scalar.radians (vehicle.mirror.steeringAngle - road.mirror.angleOffset)
      = -Scalar.radians (vehicle.steeringAngle - road.angleOffset) := by
    rw [← Exact.radians_neg]
    congr 1
    simp only [VehicleState.mirror, RoadGeometry.mirror]
    ring
  unfold steeringCurvature
  rw [hangle]
  exact congrArg (- ·) (h _ _ _)

/-- The signals of a mirrored cycle, measured either way. -/
theorem build_mirror (tuning : Tuning ℝ) {model : CurvatureModel ℝ} (h : model.Odd) :
    build vehicle.mirror road.mirror desired.mirror tuning model
      = (build vehicle road desired tuning model).mirror := by
  unfold build
  rw [steeringCurvature_mirror vehicle road h]
  cases tuning.useSteeringAngle with
  | true =>
    have hrate := h (Scalar.radians vehicle.steeringRate) vehicle.speed 0
    rw [neg_zero, ← Exact.radians_neg] at hrate
    simp only [if_true]
    rw [← ofCurvature_mirror]
    simp only [VehicleState.mirror, hrate]
    congr 1
    ring
  | false =>
    have hblend := Exact.interp_neg vehicle.speed blendSpeeds
      [steeringCurvature model vehicle road,
        vehicle.yawRate / Scalar.maxNum vehicle.speed minDivisorSpeed]
    simp only [Bool.false_eq_true, if_false]
    rw [← ofCurvature_mirror, ← hblend, neg_zero]
    simp only [VehicleState.mirror, neg_div, List.map_cons, List.map_nil]

end LateralSignals

/-! ## The plan -/

namespace Trajectory

@[simp] theorem isGood_mirror (t : Trajectory ℝ) : t.mirror.isGood = t.isGood := by
  have haccels : t.mirror.lateralAccels.length = t.lateralAccels.length := List.length_map _
  have hrolls : t.mirror.rolls.length = t.rolls.length := List.length_map _
  unfold isGood
  rw [Exact.all_isFinite, Exact.all_isFinite, haccels, hrolls]
  rfl

theorem jerks_mirror (t : Trajectory ℝ) : t.mirror.jerks = t.jerks.map (- ·) := by
  have hpoints : t.mirror.times.zip t.mirror.lateralAccels
      = (t.times.zip t.lateralAccels).map fun p => (p.1, -p.2) := by
    simp only [mirror, List.zip_map_right]
    rfl
  unfold jerks
  dsimp only
  rw [hpoints, ← List.map_tail, List.zipWith_map, List.map_zipWith]
  congr 1
  funext before after
  ring

end Trajectory

theorem usableTrajectory_mirror (input : CycleInput ℝ) :
    input.mirror.usableTrajectory = input.usableTrajectory.map Trajectory.mirror := by
  unfold CycleInput.usableTrajectory
  cases h : input.trajectory with
  | none => simp [CycleInput.mirror, h]
  | some t => by_cases hgood : t.isGood <;> simp [CycleInput.mirror, h, Option.filter_some, hgood]

/-! ## Looking ahead -/

theorem persistFrom_neg (sign least : ℝ) (future : List ℝ) :
    persistFrom (-sign) (-least) (future.map (- ·)) = -persistFrom sign least future := by
  induction future generalizing least with
  | nil => rfl
  | cons v rest ih =>
    have hleast : (if Scalar.abs (-v) < Scalar.abs (-least) then -v else -least)
        = -(if Scalar.abs v < Scalar.abs least then v else least) := by
      simp only [Exact.abs_eq, abs_neg]
      split <;> rfl
    simp only [List.map_cons, persistFrom, Exact.sign_neg, Exact.neg_beq_neg, hleast, ih]
    split
    · rfl
    · exact neg_zero.symm

theorem persistentValue_neg (future : List ℝ) (current : ℝ) :
    persistentValue (future.map (- ·)) (-current) = -persistentValue future current := by
  unfold persistentValue
  rw [Exact.sign_neg, persistFrom_neg]

namespace JerkEstimate

noncomputable def mirror (j : JerkEstimate ℝ) : JerkEstimate ℝ :=
  { j with
    desired := -j.desired
    lookahead := -j.lookahead
    setpoint := -j.setpoint
    measurement := -j.measurement }

theorem none_mirror (factor : ℝ) : (none factor).mirror = none factor := by
  simp [none, mirror]

theorem window_mirror (t : Trajectory ℝ) (speed : ℝ) :
    window t.mirror speed = (window t speed).map (- ·) := by
  unfold window
  rw [t.jerks_mirror, ← List.map_drop, ← List.map_take]
  rfl

theorem desiredJerk_mirror (t : Trajectory ℝ) (desiredAccel delay : ℝ) :
    desiredJerk t.mirror (-desiredAccel) delay = -desiredJerk t desiredAccel delay := by
  unfold desiredJerk
  simp only [Trajectory.mirror, Exact.interp_neg]
  ring

theorem ofTrajectory_mirror (t : Trajectory ℝ) (speed desiredAccel actualJerk delay : ℝ)
    (useSteeringAngle : Bool) (jerkFactor accelFactor : ℝ) :
    ofTrajectory t.mirror speed (-desiredAccel) (-actualJerk) delay useSteeringAngle jerkFactor
        accelFactor
      = (ofTrajectory t speed desiredAccel actualJerk delay useSteeringAngle jerkFactor
        accelFactor).mirror := by
  unfold ofTrajectory
  simp only [window_mirror, desiredJerk_mirror, persistentValue_neg, Exact.neg_beq_zero]
  split <;> simp [mirror]

end JerkEstimate

/-! ## Histories and features -/

namespace History

variable {capacity : Nat}

noncomputable def mirror (h : History ℝ capacity) : History ℝ capacity :=
  { h with slots := h.slots.map (- ·) }

theorem empty_mirror : (empty : History ℝ capacity).mirror = empty := by
  simp [empty, mirror]

theorem push_mirror (h : History ℝ capacity) (sample : ℝ) :
    h.mirror.push (-sample) = (h.push sample).mirror := by
  simp [push, mirror]

theorem get?_mirror (h : History ℝ capacity) (index : Nat) :
    h.mirror.get? index = (h.get? index).map (- ·) := by
  have hsize : h.mirror.size = h.size := rfl
  unfold get?
  rw [hsize]
  split
  · exact Vector.getElem?_map
  · rfl

theorem getOrNewest?_mirror (h : History ℝ capacity) (index : Nat) :
    h.mirror.getOrNewest? index = (h.getOrNewest? index).map (- ·) := by
  have hempty : h.mirror.isEmpty = h.isEmpty := rfl
  unfold getOrNewest?
  rw [hempty]
  split
  · rfl
  · exact h.get?_mirror _

end History

theorem pitchedRoll_neg (roll pitch : ℝ) : pitchedRoll (-roll) pitch = -pitchedRoll roll pitch :=
  neg_mul _ _

noncomputable def FeatureInputs.mirror (inputs : FeatureInputs ℝ) : FeatureInputs ℝ :=
  { inputs with
    setpoint := -inputs.setpoint
    measurement := -inputs.measurement
    jerkSetpoint := -inputs.jerkSetpoint
    jerkMeasurement := -inputs.jerkMeasurement
    desiredAccel := -inputs.desiredAccel
    frictionInput := -inputs.frictionInput
    roll := -inputs.roll }

/-- A vector of features in the mirror: all but the speed in front change their sign. -/
noncomputable def mirrorVector : List ℝ → List ℝ
  | [] => []
  | speed :: rest => speed :: rest.map (- ·)

noncomputable def Features.mirror (f : Features ℝ) : Features ℝ where
  setpoint := mirrorVector f.setpoint
  measurement := mirrorVector f.measurement
  feedforward := mirrorVector f.feedforward
  roll := -f.roll

namespace FeatureContext

noncomputable def mirror (c : FeatureContext ℝ) : FeatureContext ℝ :=
  { c with rolls := c.rolls.mirror, desiredAccels := c.desiredAccels.mirror }

theorem create_mirror (period : ℝ) : (create period).mirror = create period := by
  simp only [create, mirror, History.empty_mirror]

theorem takePitch_mirror (c : FeatureContext ℝ) (pitch : Option ℝ) :
    c.mirror.takePitch pitch = (c.takePitch pitch).mirror := by
  cases pitch <;> rfl

theorem cycleRoll_mirror (c : FeatureContext ℝ) (inputs : FeatureInputs ℝ) :
    c.mirror.cycleRoll inputs.mirror = -c.cycleRoll inputs := by
  unfold cycleRoll FeatureInputs.mirror
  dsimp only
  cases inputs.pitch with
  | none => rfl
  | some p => exact pitchedRoll_neg _ _

theorem record_mirror (c : FeatureContext ℝ) (inputs : FeatureInputs ℝ) :
    c.mirror.record inputs.mirror = (c.record inputs).mirror := by
  have hpitch : inputs.mirror.pitch = inputs.pitch := rfl
  unfold record
  dsimp only
  rw [hpitch, takePitch_mirror, cycleRoll_mirror]
  simp only [mirror, FeatureInputs.mirror, History.push_mirror]

theorem pastSamples_neg (h : History ℝ historyLength) (current : ℝ) :
    pastSamples h.mirror (-current) = (pastSamples h current).map (- ·) := by
  unfold pastSamples
  rw [List.map_map]
  congr 1
  funext offset
  rw [h.getOrNewest?_mirror]
  exact Option.getD_map (fun x : ℝ => -x) current _

theorem futureRolls_neg (t : Trajectory ℝ) (roll pitch : ℝ) (times : List ℝ) :
    futureRolls t.mirror (-roll) pitch times = (futureRolls t roll pitch times).map (- ·) := by
  unfold futureRolls
  rw [List.map_map]
  congr 1
  funext time
  simp only [Trajectory.mirror, Exact.interp_neg, Function.comp_apply]
  rw [← neg_add, pitchedRoll_neg]

theorem futureAccels_neg (t : Trajectory ℝ) (times : List ℝ) :
    futureAccels t.mirror times = (futureAccels t times).map (- ·) := by
  unfold futureAccels
  rw [List.map_map]
  congr 1
  funext time
  exact Exact.interp_neg _ _ _

/-- The features of a mirrored cycle. -/
theorem features_mirror (c : FeatureContext ℝ) (inputs : FeatureInputs ℝ) (t : Trajectory ℝ) :
    c.mirror.features inputs.mirror t.mirror = (c.features inputs t).mirror := by
  have hrolls : ∀ times, pastSamples c.mirror.rolls (-c.cycleRoll inputs)
        ++ futureRolls t.mirror (-c.cycleRoll inputs) c.mirror.pitch times
      = (pastSamples c.rolls (c.cycleRoll inputs)
        ++ futureRolls t (c.cycleRoll inputs) c.pitch times).map (- ·) := by
    intro times
    rw [List.map_append, ← pastSamples_neg, ← futureRolls_neg]
    rfl
  have haccels : pastSamples c.mirror.desiredAccels inputs.mirror.desiredAccel
      = (pastSamples c.desiredAccels inputs.desiredAccel).map (- ·) :=
    pastSamples_neg _ _
  unfold features
  simp only [cycleRoll_mirror, hrolls, haccels, futureAccels_neg]
  simp [Features.mirror, mirrorVector, FeatureInputs.mirror]

theorem assemble_mirror (c : FeatureContext ℝ) (inputs : FeatureInputs ℝ) (t : Trajectory ℝ) :
    c.mirror.assemble inputs.mirror t.mirror
      = ((c.assemble inputs t).1.mirror, (c.assemble inputs t).2.mirror) := by
  unfold assemble
  rw [record_mirror, features_mirror]

end FeatureContext

/-! ## Torque models -/

noncomputable def AnalyticInputs.mirror (inputs : AnalyticInputs ℝ) : AnalyticInputs ℝ :=
  { inputs with
    lateralAccel := -inputs.lateralAccel
    rollCompensation := -inputs.rollCompensation }

/-- An analytic model that answers mirror images with the opposite torque. -/
def AnalyticModel.Odd (model : AnalyticModel ℝ) : Prop :=
  ∀ (inputs : AnalyticInputs ℝ) (tuning : Tuning ℝ) (frictionInput deadzone : ℝ)
    (compensate gravityAdjusted : Bool),
    model.torque inputs.mirror tuning (-frictionInput) deadzone compensate gravityAdjusted
      = (model.torque inputs tuning frictionInput deadzone compensate gravityAdjusted).map (- ·)

/-- A neural model that answers with the opposite torque where all features but the first, the
speed, change their sign. -/
def NeuralModel.Odd (network : NeuralModel ℝ) : Prop :=
  ∀ (speed : ℝ) (rest : List ℝ),
    network.evaluate (speed :: rest.map (- ·)) = (network.evaluate (speed :: rest)).map (- ·)

theorem centerDeadzone_neg (error deadzone : ℝ) :
    centerDeadzone (-error) deadzone = -centerDeadzone error deadzone := by
  unfold centerDeadzone
  grind

/-- A ramp between two points that lie opposite each other. -/
theorem interp_ramp {limit : ℝ} (hlimit : 0 < limit) (x value : ℝ) :
    interp x [-limit, limit] [-value, value] =
      if x ≤ -limit then -value else if limit ≤ x then value else x / limit * value := by
  have hne : ¬ limit = -limit := by linarith
  simp only [interp, interpPoints, interpAfter, List.zip_cons_cons, List.zip_nil_right,
    List.getLast?_singleton, Option.getD_some, Exact.beq_iff, hne, if_false, linearMap]
  split
  · rfl
  · split
    · rfl
    · rename_i hlow hhigh
      rw [if_pos (not_le.mp hhigh).le]
      field_simp
      ring

theorem interp_ramp_neg {limit : ℝ} (hlimit : 0 < limit) (x value : ℝ) :
    interp (-x) [-limit, limit] [-value, value] = -interp x [-limit, limit] [-value, value] := by
  rw [interp_ramp hlimit, interp_ramp hlimit]
  rcases le_or_gt limit x with hhigh | hhigh
  · rw [if_pos (neg_le_neg hhigh), if_neg (by linarith), if_pos hhigh]
  rcases le_or_gt x (-limit) with hlow | hlow
  · rw [if_neg (by linarith), if_pos (le_neg.mp hlow), if_pos hlow, neg_neg]
  · rw [if_neg (by linarith), if_neg (by linarith), if_neg hlow.not_ge, if_neg hhigh.not_ge]
    ring

theorem frictionThreshold_pos : (0 : ℝ) < frictionThreshold := by
  unfold frictionThreshold
  norm_num

theorem frictionTorque_neg (error deadzone : ℝ) (tuning : Tuning ℝ) (compensate : Bool) :
    frictionTorque (-error) deadzone frictionThreshold tuning compensate
      = -frictionTorque error deadzone frictionThreshold tuning compensate := by
  unfold frictionTorque
  split
  · rw [centerDeadzone_neg, interp_ramp_neg frictionThreshold_pos]
  · exact neg_zero.symm

theorem linear_odd : (AnalyticModel.linear : AnalyticModel ℝ).Odd := by
  intro inputs tuning frictionInput deadzone compensate gravityAdjusted
  simp only [AnalyticModel.linear, linearTorque, frictionTorque_neg, AnalyticInputs.mirror,
    Except.map]
  congr 1
  ring

/-! ## Memory of the PID controller and of the delay estimate -/

noncomputable def LowPass.mirror (f : LowPass ℝ) : LowPass ℝ := { f with value := -f.value }

theorem LowPass.update_mirror (f : LowPass ℝ) (sample : ℝ) :
    f.mirror.update (-sample) = (f.update sample).mirror := by
  unfold update mirror
  split
  · simp only [LowPass.mk.injEq, and_true]
    ring
  · rfl

namespace Pid

noncomputable def mirror (c : Pid ℝ) : Pid ℝ :=
  { c with
    errorFilter := c.errorFilter.mirror
    previousError := -c.previousError
    p := -c.p
    i := -c.i
    d := -c.d
    f := -c.f
    control := -c.control }

theorem errorRate_neg (c : Pid ℝ) (error : ℝ) :
    c.mirror.errorRate (-error) = -c.errorRate error := by
  have hsettled : c.mirror.errorFilter.settled = c.errorFilter.settled := rfl
  have hupdate : (c.mirror.errorFilter.update (-error)).value
      = -(c.errorFilter.update error).value :=
    congrArg LowPass.value (c.errorFilter.update_mirror error)
  unfold errorRate
  rw [hsettled, hupdate]
  split
  · simp only [mirror]
    ring
  · exact neg_zero.symm

theorem candidate_neg (c : Pid ℝ) (error speed : ℝ) :
    c.mirror.candidate (-error) speed = -c.candidate error speed := by
  simp only [candidate, mirror]
  ring

/-- The integrator moves in the mirror where it moves, provided that the limits lie opposite each
other: the two halves of the rule change places. -/
theorem mayIntegrate_neg (c : Pid ℝ) (hlimits : c.lowerLimit = -c.upperLimit)
    (error integral control : ℝ) :
    c.mirror.mayIntegrate (-error) (-integral) (-control)
      = c.mayIntegrate error integral control := by
  simp only [mayIntegrate, mirror, hlimits, neg_le_neg_iff, Left.nonneg_neg_iff,
    Left.neg_nonpos_iff, Left.neg_neg_iff, Left.neg_pos_iff, neg_le (a := control)]
  exact Bool.or_comm _ _

/-- One step of the PID controller in the mirror. -/
theorem update_mirror (c : Pid ℝ) (hlimits : c.lowerLimit = -c.upperLimit)
    (hpos : 0 ≤ c.upperLimit) (error feedforward speed : ℝ) (freeze : Bool) :
    c.mirror.update (-error) (-feedforward) speed freeze
      = (c.update error feedforward speed freeze).mirror := by
  have hp : c.mirror.proportionalGain = c.proportionalGain := rfl
  have hd : c.mirror.derivativeGain = c.derivativeGain := rfl
  have hf : c.mirror.feedforwardGain = c.feedforwardGain := rfl
  have hi : c.mirror.i = -c.i := rfl
  have hupper : c.mirror.upperLimit = c.upperLimit := rfl
  have hlower : c.mirror.lowerLimit = -c.upperLimit := hlimits
  have hfilter : c.mirror.errorFilter.update (-error) = (c.errorFilter.update error).mirror :=
    c.errorFilter.update_mirror error
  have hsum : ∀ p i d f : ℝ, -p + -i + -d + -f = -(p + i + d + f) := by
    intro p i d f
    ring
  unfold update
  simp only [errorRate_neg, candidate_neg, hp, hd, hf, hi, hupper, hlower, hlimits, hfilter,
    neg_mul, hsum, mayIntegrate_neg c hlimits]
  split <;> simp only [hsum, Exact.clamp_neg hpos] <;> rfl

theorem reset_mirror (c : Pid ℝ) : c.mirror.reset = c.reset.mirror := by
  simp [reset, mirror, LowPass.mirror, LowPass.reset]

end Pid

theorem rawDelay_neg (realised commanded : ℝ) :
    rawDelay (-realised) (-commanded) = rawDelay realised commanded := by
  unfold rawDelay delayBlend
  simp only [Exact.abs_eq, abs_neg, ← neg_add]

theorem DelayEstimator.update_neg (e : DelayEstimator ℝ) (realised : Option ℝ) (commanded : ℝ) :
    e.update (realised.map (- ·)) (-commanded) = e.update realised commanded := by
  unfold update accepted?
  cases e.enabled <;> cases realised <;> simp [Option.filter_some, rawDelay_neg]

theorem isSaturated_neg (output limit : ℝ) :
    isSaturated (-output) limit = isSaturated output limit := by
  unfold isSaturated
  simp only [Exact.abs_eq, abs_neg]

end LateralTorque
