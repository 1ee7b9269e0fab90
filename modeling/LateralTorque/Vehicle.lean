import LateralTorque.Scalar

/-!
# What the controller is told each cycle

The sensed vehicle, the road surface and the planner's demand.  Angles of the steering wheel are in
degrees, all other angles in radians.

Curvature is positive to the left, and with it yaw rate and lateral acceleration.  Steering wheel
angle and torque count in the other direction: what turns the wheel towards positive angles makes
the path curve to the right.

These records carry what a host reports, as it reports it.  Nothing is assumed of their values,
which may be infinite or NaN; the rate of the demanded curvature is carried along and not used.
-/

set_option autoImplicit false

namespace LateralTorque

/-- Standard gravitational acceleration in m/s². -/
def gravity {α : Type} [Scalar α] : α := 9.81

/-- The smallest speed used as a divisor, in m/s: nothing blows up at standstill. -/
def minDivisorSpeed {α : Type} [Scalar α] : α := 1.0

/-- The vehicle as sensed at the start of a cycle: speed in m/s and longitudinal acceleration in
m/s², steering wheel angle in degrees and its rate in degrees per second, yaw rate in radians per
second, and whether the driver turns the wheel. -/
structure VehicleState (α : Type) where
  speed : α
  longitudinalAccel : α
  steeringAngle : α
  steeringRate : α
  yawRate : α
  steeringPressed : Bool

/-- The road surface, with roll and pitch in radians and the pitch not always known, and the learned
offset of the straight-ahead steering angle in degrees. -/
structure RoadGeometry (α : Type) where
  roll : α
  pitch : Option α
  angleOffset : α

/-- What the planner asks for: the path curvature in 1/m, and the rate of it in 1/(m s) where the
planner gives one. -/
structure DesiredMotion (α : Type) where
  curvature : α
  curvatureRate : Option α

end LateralTorque
