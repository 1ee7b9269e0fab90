import LateralTorque.Interp
import LateralTorque.Tuning
import LateralTorque.Vehicle

/-!
# Lateral signals

The measured and the desired lateral acceleration of one cycle, a pure function of the sensed
vehicle, the road, the demand and the tuning.

Curvature is measured in one of two ways.  From the steering angle, through the curvature model of
the vehicle, it comes with a deadzone and with the lateral jerk.  From the yaw rate it comes without
either, and at low speed, where a yaw rate says little, the steering angle takes over.

* `CurvatureModel` — the path curvature for a steering angle, a speed and a roll, any function;
* `BicycleModel` — the steady state single track vehicle, with its curvature model;
* `LateralSignals.build` — the signals of a cycle.

A vehicle model counts curvature in the opposite direction to the path, which `steeringCurvature`
puts right.  Dynamics of the vehicle beyond its steady state are left out.
-/

set_option autoImplicit false

namespace LateralTorque

variable {α : Type} [Scalar α]

/-- The path curvature that a steering angle in radians produces, at a speed in m/s and on a road
with a roll in radians. -/
abbrev CurvatureModel (α : Type) := (steeringAngle speed roll : α) → α

/-! ## Single track vehicle -/

/-- A steady state single track vehicle: its steering wheel angle per road wheel angle, its
wheelbase in metres, and its slip factor in s²/m², which is negative where it understeers. -/
structure BicycleModel (α : Type) where
  steerRatio : α
  wheelbase : α
  slipFactor : α

namespace BicycleModel

/-- Curvature per radian of road wheel angle. -/
def curvatureFactor (m : BicycleModel α) (speed : α) : α :=
  1 / (1 - m.slipFactor * Scalar.square speed) / m.wheelbase

/-- Curvature that gravity induces on a rolled road; none without slip. -/
def rollCurvature (m : BicycleModel α) (roll speed : α) : α :=
  if Scalar.abs m.slipFactor < 1e-6 then 0
  else gravity * roll / (1 / m.slipFactor - Scalar.square speed)

/-- The curvature model of the vehicle. -/
def curvature (m : BicycleModel α) : CurvatureModel α := fun steeringAngle speed roll =>
  m.curvatureFactor speed * steeringAngle / m.steerRatio + m.rollCurvature roll speed

end BicycleModel

/-! ## Signals of a cycle -/

/-- Speeds between which the measured curvature goes over from the steering angle to the yaw
rate, in m/s. -/
def blendSpeeds : List α := [2.0, 5.0]

/-- Attenuation of the desired curvature: a little less at medium speed cuts curves less. -/
def curvatureAttenuation (speed : α) : α :=
  interp speed [8.0, 13.0, 20.0] [0.88, 0.93, 1.0]

/-- The lateral signals of one cycle: path curvatures in 1/m, lateral accelerations in m/s² and the
measured lateral jerk in m/s³, which is zero unless it is measured from the steering angle.  The
deadzones are what the steering angle deadzone comes to, `curvatureScale` attenuates the desired
curvature, and `rollCompensation` is the lateral acceleration due to gravity on the rolled road. -/
structure LateralSignals (α : Type) where
  actualCurvature : α
  curvatureDeadzone : α
  curvatureScale : α
  actualAccel : α
  desiredAccel : α
  accelDeadzone : α
  actualJerk : α
  rollCompensation : α

namespace LateralSignals

/-- The signals from a measured curvature, its deadzone and its rate. -/
def ofCurvature (vehicle : VehicleState α) (road : RoadGeometry α) (desired : DesiredMotion α)
    (actual deadzone rate : α) : LateralSignals α :=
  let speedSquared := Scalar.square vehicle.speed
  let scale := curvatureAttenuation vehicle.speed
  { actualCurvature := actual
    curvatureDeadzone := deadzone
    curvatureScale := scale
    actualAccel := actual * speedSquared
    desiredAccel := desired.curvature * speedSquared * scale
    accelDeadzone := deadzone * speedSquared
    actualJerk := rate
    rollCompensation := road.roll * gravity }

/-- The curvature that the steering angle stands for.  A vehicle model counts curvature in the
opposite direction to the path. -/
def steeringCurvature (model : CurvatureModel α) (vehicle : VehicleState α)
    (road : RoadGeometry α) : α :=
  -model (Scalar.radians (vehicle.steeringAngle - road.angleOffset)) vehicle.speed road.roll

/-- The signals of one cycle. -/
def build (vehicle : VehicleState α) (road : RoadGeometry α) (desired : DesiredMotion α)
    (tuning : Tuning α) (model : CurvatureModel α) : LateralSignals α :=
  let speed := vehicle.speed
  let steering := steeringCurvature model vehicle road
  if tuning.useSteeringAngle then
    let deadzone := Scalar.abs (model (Scalar.radians tuning.angleDeadzone) speed 0)
    let rate := -model (Scalar.radians vehicle.steeringRate) speed 0
    ofCurvature vehicle road desired steering deadzone (rate * Scalar.square speed)
  else
    let inertial := vehicle.yawRate / Scalar.maxNum speed minDivisorSpeed
    ofCurvature vehicle road desired (interp speed blendSpeeds [steering, inertial]) 0 0

end LateralSignals

end LateralTorque
