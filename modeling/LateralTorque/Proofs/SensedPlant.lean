import Mathlib
import LateralTorque.Plant
import LateralTorque.Proofs.Curve

/-!
# The plant as the controller senses it

The plant turns its lateral acceleration into a steering wheel angle and a yaw rate, and the signals
of a cycle turn either of them back.  The two sides are written apart, with opposite signs of the
curvature.  In exact arithmetic, on a level road and with a centred steering wheel, each undoes the
other.

The controller measures with the vehicle model of the plant.  The speed is constant and at least one
metre per second, below which the plant divides by another speed than it drives at; and the vehicle
can be steered at that speed, which leaves out the critical speed of an oversteering one.

* `neg_curvature_angleFor` — the vehicle model finds the curvature for which the angle was chosen;
* `Aligned` — the steering wheel stands as the acceleration demands, in every state of the plant;
* `sensed_accel_eq` — what is measured is what the plant does, after any torque demands, from the
  steering angle, the yaw rate or a blend of both; and the jerk, where it is measured, is the change
  of the acceleration over the last step.

A rolled road and an offset of the steering angle are left out: the controller takes both into
account, and the plant knows of neither.
-/

set_option autoImplicit false

namespace LateralTorque

theorem Exact.radians_degrees (angle : ℝ) : Scalar.radians (Scalar.degrees angle) = angle := by
  show angle * (180.0 / Real.pi) * (Real.pi / 180.0) = angle
  have hpi := Real.pi_ne_zero
  norm_num
  field_simp

/-! ## The vehicle on a level road -/

namespace BicycleModel

variable (m : BicycleModel ℝ)

theorem curvature_level (angle speed : ℝ) :
    m.curvature angle speed 0 = m.curvatureFactor speed * angle / m.steerRatio := by
  have hroll : m.rollCurvature 0 speed = 0 := by
    unfold rollCurvature
    split
    · rfl
    · rw [mul_zero, zero_div]
  rw [curvature, hroll, add_zero]

/-- On a level road the curvature is proportional to the angle. -/
theorem curvature_sub_div (after before dt speed : ℝ) :
    m.curvature ((after - before) / dt) speed 0
      = (m.curvature after speed 0 - m.curvature before speed 0) / dt := by
  simp only [curvature_level]
  ring

theorem curvatureFactor_ne_zero {speed : ℝ} (hwheelbase : m.wheelbase ≠ 0)
    (hslip : 1 - m.slipFactor * speed ^ 2 ≠ 0) : m.curvatureFactor speed ≠ 0 := by
  rw [pow_two] at hslip
  exact div_ne_zero (div_ne_zero one_ne_zero hslip) hwheelbase

end BicycleModel

/-! ## The plant -/

namespace SteerPlant

/-- The plant after a list of torque demands, one for each step. -/
def run {α : Type} [Scalar α] (p : SteerPlant α) (demands : List α) : SteerPlant α :=
  demands.foldl step p

/-- The steering wheel stands at the angle for the lateral acceleration. -/
def Aligned (p : SteerPlant ℝ) : Prop := p.steeringAngle = p.angleFor p.lateralAccel

theorem aligned_create (scenario : Scenario ℝ) (period : ℝ) : (create scenario period).Aligned := by
  simp [Aligned, create, angleFor, Scalar.degrees]

/-- A step chooses the angle anew, whatever it was before. -/
theorem aligned_step (p : SteerPlant ℝ) (demand : ℝ) : (p.step demand).Aligned := rfl

theorem Aligned.run {p : SteerPlant ℝ} (h : p.Aligned) (demands : List ℝ) :
    (p.run demands).Aligned := by
  induction demands generalizing p with
  | nil => exact h
  | cons demand rest ih => exact ih (p.aligned_step demand)

section Constants

variable {α : Type} [Scalar α] (p : SteerPlant α) (demands : List α)

@[simp] theorem run_scenario : (p.run demands).scenario = p.scenario := by
  induction demands generalizing p with
  | nil => rfl
  | cons demand rest ih => exact ih (p.step demand)

@[simp] theorem run_period : (p.run demands).period = p.period := by
  induction demands generalizing p with
  | nil => rfl
  | cons demand rest ih => exact ih (p.step demand)

end Constants

/-! ## What is sensed -/

/-- A vehicle that can be steered at its speed, which is not too slow to be divided by. -/
structure Steerable (p : SteerPlant ℝ) : Prop where
  steerRatio : p.scenario.vehicle.steerRatio ≠ 0
  wheelbase : p.scenario.vehicle.wheelbase ≠ 0
  slip : 1 - p.scenario.vehicle.slipFactor * p.scenario.speed ^ 2 ≠ 0
  speed : 1 ≤ p.scenario.speed

variable {p : SteerPlant ℝ}

theorem Steerable.divisorSpeed_eq (h : p.Steerable) : p.divisorSpeed = p.scenario.speed := by
  have hone : (minDivisorSpeed : ℝ) = 1 := by norm_num [minDivisorSpeed]
  rw [divisorSpeed, Exact.maxNum_eq, hone, max_eq_left h.speed]

theorem Steerable.speed_ne_zero (h : p.Steerable) : p.scenario.speed ≠ 0 :=
  (zero_lt_one.trans_le h.speed).ne'

/-- The vehicle model, whose curvature has the other sign, undoes the choice of the angle. -/
theorem neg_curvature_angleFor (h : p.Steerable) (accel : ℝ) :
    -p.scenario.vehicle.curvature (Scalar.radians (p.angleFor accel)) p.scenario.speed 0
      = accel / p.scenario.speed ^ 2 := by
  have hratio := h.steerRatio
  have hfactor := p.scenario.vehicle.curvatureFactor_ne_zero h.wheelbase h.slip
  rw [BicycleModel.curvature_level, angleFor, Exact.radians_degrees, h.divisorSpeed_eq,
    Scalar.square, ← pow_two]
  field_simp

/-- The rate of the steering wheel stands for the change of the acceleration. -/
theorem neg_curvature_rate (h : p.Steerable) (before after : ℝ) :
    -p.scenario.vehicle.curvature
        (Scalar.radians ((p.angleFor after - p.angleFor before) / p.period)) p.scenario.speed 0
      = (after - before) / p.period / p.scenario.speed ^ 2 := by
  have hafter := neg_curvature_angleFor h after
  have hbefore := neg_curvature_angleFor h before
  have hrate : Scalar.radians ((p.angleFor after - p.angleFor before) / p.period)
      = (Scalar.radians (p.angleFor after) - Scalar.radians (p.angleFor before)) / p.period := by
    unfold Scalar.radians
    rw [← sub_mul, div_mul_eq_mul_div]
  rw [hrate, BicycleModel.curvature_sub_div, ← neg_div, neg_sub', hafter, hbefore, ← sub_div,
    div_right_comm]

section Signals

variable (pitch : Option ℝ) (desired : DesiredMotion ℝ) (tuning : Tuning ℝ)

/-- The signals that a controller with the plant's own vehicle model builds, on a level road and with
a centred steering wheel. -/
noncomputable def sensed (p : SteerPlant ℝ) : LateralSignals ℝ :=
  LateralSignals.build p.vehicleState ⟨0, pitch, 0⟩ desired tuning p.scenario.vehicle.curvature

theorem steeringCurvature_eq (h : p.Steerable) (haligned : p.Aligned) :
    LateralSignals.steeringCurvature p.scenario.vehicle.curvature p.vehicleState ⟨0, pitch, 0⟩
      = p.lateralAccel / p.scenario.speed ^ 2 := by
  have hcentred : p.vehicleState.steeringAngle - 0 = p.angleFor p.lateralAccel :=
    (sub_zero _).trans haligned
  rw [LateralSignals.steeringCurvature, hcentred]
  exact neg_curvature_angleFor h p.lateralAccel

theorem inertialCurvature_eq (h : p.Steerable) :
    p.vehicleState.yawRate / Scalar.maxNum p.vehicleState.speed minDivisorSpeed
      = p.lateralAccel / p.scenario.speed ^ 2 := by
  have hdivisor : Scalar.maxNum p.vehicleState.speed minDivisorSpeed = p.scenario.speed :=
    h.divisorSpeed_eq
  have hyaw : p.vehicleState.yawRate = p.lateralAccel / p.divisorSpeed := rfl
  rw [hdivisor, hyaw, h.divisorSpeed_eq, div_div, pow_two]

/-- Both ways of measuring find the curvature of the plant, and so does every blend of them. -/
theorem sensed_actualCurvature (h : p.Steerable) (haligned : p.Aligned) :
    (p.sensed pitch desired tuning).actualCurvature = p.lateralAccel / p.scenario.speed ^ 2 := by
  unfold sensed LateralSignals.build
  dsimp only
  split
  · exact steeringCurvature_eq pitch h haligned
  · rw [steeringCurvature_eq pitch h haligned, inertialCurvature_eq h]
    -- A curve between two equal values has no other one.
    have hblend : interp p.vehicleState.speed blendSpeeds
        [p.lateralAccel / p.scenario.speed ^ 2, p.lateralAccel / p.scenario.speed ^ 2]
        ∈ ({p.lateralAccel / p.scenario.speed ^ 2} : Set ℝ) :=
      Exact.interp_mem (convex_singleton _) _ (by simp [blendSpeeds]) (by simp)
    exact hblend

theorem sensed_actualAccel (h : p.Steerable) (haligned : p.Aligned) :
    (p.sensed pitch desired tuning).actualAccel = p.lateralAccel := by
  have hspeed := h.speed_ne_zero
  have haccel : (p.sensed pitch desired tuning).actualAccel
      = (p.sensed pitch desired tuning).actualCurvature * p.scenario.speed ^ 2 := by
    rw [pow_two]
    unfold sensed LateralSignals.build
    split <;> rfl
  rw [haccel, sensed_actualCurvature pitch desired tuning h haligned]
  field_simp

/-- Measured from the steering angle, the jerk is the change of the acceleration over a step. -/
theorem sensed_actualJerk_step (h : p.Steerable) (haligned : p.Aligned)
    (hsteering : tuning.useSteeringAngle = true) (demand : ℝ) :
    ((p.step demand).sensed pitch desired tuning).actualJerk
      = ((p.step demand).lateralAccel - p.lateralAccel) / p.period := by
  have hspeed := h.speed_ne_zero
  have hrate : (p.step demand).vehicleState.steeringRate
      = (p.angleFor (p.step demand).lateralAccel - p.angleFor p.lateralAccel) / p.period := by
    rw [← haligned]
    rfl
  have hjerk : ((p.step demand).sensed pitch desired tuning).actualJerk
      = -p.scenario.vehicle.curvature (Scalar.radians (p.step demand).vehicleState.steeringRate)
          p.scenario.speed 0 * p.scenario.speed ^ 2 := by
    rw [pow_two, sensed, LateralSignals.build, hsteering]
    rfl
  rw [hjerk, hrate, neg_curvature_rate h]
  field_simp

end Signals

/-- **What is sensed is what the plant does.**  At a constant speed of at least one metre per second,
for a vehicle that can be steered at it, the measured lateral acceleration is that of the plant after
any torque demands, whether it is measured from the steering angle, from the yaw rate or from a blend
of both; and measured from the steering angle, the lateral jerk is the change of the acceleration
over the last step. -/
theorem sensed_accel_eq {scenario : Scenario ℝ} (hratio : scenario.vehicle.steerRatio ≠ 0)
    (hwheelbase : scenario.vehicle.wheelbase ≠ 0)
    (hslip : 1 - scenario.vehicle.slipFactor * scenario.speed ^ 2 ≠ 0) (hspeed : 1 ≤ scenario.speed)
    (period : ℝ) (demands : List ℝ) (pitch : Option ℝ) (desired : DesiredMotion ℝ)
    (tuning : Tuning ℝ) :
    let p := (create scenario period).run demands
    (p.sensed pitch desired tuning).actualAccel = p.lateralAccel ∧
      (tuning.useSteeringAngle = true → ∀ demand,
        ((p.step demand).sensed pitch desired tuning).actualJerk
          = ((p.step demand).lateralAccel - p.lateralAccel) / period) := by
  intro p
  have hscenario : p.scenario = scenario := run_scenario _ demands
  have hperiod : p.period = period := run_period _ demands
  have hsteerable : p.Steerable := by
    constructor <;> rwa [hscenario]
  have haligned : p.Aligned := (aligned_create scenario period).run demands
  constructor
  · exact sensed_actualAccel pitch desired tuning hsteerable haligned
  · intro hsteering demand
    rw [← hperiod]
    exact sensed_actualJerk_step pitch desired tuning hsteerable haligned hsteering demand

/-- At three metres per second, where yaw rate and steering angle are blended: an understeering
vehicle after two demands, of which the first one does not move the rack. -/
theorem sensed_accel_of_understeering :
    let scenario : Scenario ℝ :=
      ⟨10, 1, false, 3, 0, 0.1, 2.5, 0.05, none, none, ⟨15, 2.7, -0.002⟩, []⟩
    let p := (create scenario 0.01).run [-0.5]
    let signals (q : SteerPlant ℝ) := q.sensed (some 0.1) ⟨0.001, none⟩
    scenario.vehicle.steerRatio ≠ 0 ∧ scenario.vehicle.wheelbase ≠ 0 ∧
      1 - scenario.vehicle.slipFactor * scenario.speed ^ 2 ≠ 0 ∧ 1 ≤ scenario.speed ∧
      (signals (p.step (-1)) { Tuning.standard with useSteeringAngle := false }).actualAccel
        = (p.step (-1)).lateralAccel ∧
      (signals (p.step (-1)) Tuning.standard).actualAccel = (p.step (-1)).lateralAccel ∧
      (signals (p.step (-1)) Tuning.standard).actualJerk
        = ((p.step (-1)).lateralAccel - p.lateralAccel) / 0.01 := by
  intro scenario p signals
  have hratio : scenario.vehicle.steerRatio ≠ 0 := by norm_num [scenario]
  have hwheelbase : scenario.vehicle.wheelbase ≠ 0 := by norm_num [scenario]
  have hslip : 1 - scenario.vehicle.slipFactor * scenario.speed ^ 2 ≠ 0 := by norm_num [scenario]
  have hspeed : 1 ≤ scenario.speed := by norm_num [scenario]
  have hsensed := sensed_accel_eq hratio hwheelbase hslip hspeed 0.01
  refine ⟨hratio, hwheelbase, hslip, hspeed, ?_, ?_, ?_⟩
  · exact (hsensed [-0.5, -1] (some 0.1) ⟨0.001, none⟩ _).1
  · exact (hsensed [-0.5, -1] (some 0.1) ⟨0.001, none⟩ Tuning.standard).1
  · exact (hsensed [-0.5] (some 0.1) ⟨0.001, none⟩ Tuning.standard).2 rfl (-1)

end SteerPlant

end LateralTorque
