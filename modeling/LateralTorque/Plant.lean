import LateralTorque.LowPass
import LateralTorque.Scenario

/-!
# Simulated steering plant

The actuator follows the demand with a first order lag, the rack takes some torque before anything
moves, and the lateral acceleration is proportional to the rest.  Positive torque gives negative
curvature.

* `SteerPlant.step` — applies a torque demand for one period;
* `SteerPlant.effectiveTorque` — the part of a torque that gets past the rack friction;
* `SteerPlant.angleFor` — the steering wheel angle that goes with a lateral acceleration;
* `SteerPlant.vehicleState` — the vehicle as the controller senses it.

The speed is constant, and where it is divided by it counts as one metre per second at least.
Inertia, tyres and the dynamics of yaw are left out: the angle of the steering wheel is worked out
from the acceleration, and not the other way round.
-/

set_option autoImplicit false

namespace LateralTorque

/-- The simulated actuator and vehicle, stepped every `period` seconds.  The steering wheel angle is
in degrees, its rate in degrees per second and the lateral acceleration in m/s². -/
structure SteerPlant (α : Type) where
  scenario : Scenario α
  actuator : LowPass α
  period : α
  steeringAngle : α
  steeringRate : α
  lateralAccel : α

namespace SteerPlant

variable {α : Type} [Scalar α]

/-- The plant at rest. -/
def create (scenario : Scenario α) (period : α) : SteerPlant α where
  scenario := scenario
  actuator := LowPass.create 0 scenario.actuatorTimeConstant period true
  period := period
  steeringAngle := 0
  steeringRate := 0
  lateralAccel := 0

/-- The speed where it is divided by. -/
def divisorSpeed (p : SteerPlant α) : α := Scalar.maxNum p.scenario.speed minDivisorSpeed

/-- The vehicle as sensed. -/
def vehicleState (p : SteerPlant α) : VehicleState α where
  speed := p.scenario.speed
  longitudinalAccel := 0
  steeringAngle := p.steeringAngle
  steeringRate := p.steeringRate
  yawRate := p.lateralAccel / p.divisorSpeed
  steeringPressed := false

/-- The torque that the actuator realises. -/
def realised (p : SteerPlant α) : α := p.actuator.value

/-- The part of a torque that gets past the rack friction. -/
def effectiveTorque (s : Scenario α) (torque : α) : α :=
  Scalar.signum torque * Scalar.maxNum (Scalar.abs torque - s.rackFriction) 0

/-- The steering wheel angle in degrees at which the vehicle has a lateral acceleration. -/
def angleFor (p : SteerPlant α) (lateralAccel : α) : α :=
  let curvature := lateralAccel / Scalar.square p.divisorSpeed
  let vehicle := p.scenario.vehicle
  Scalar.degrees (-curvature * vehicle.steerRatio / vehicle.curvatureFactor p.divisorSpeed)

/-- Applies a torque demand for one step. -/
def step (p : SteerPlant α) (demand : α) : SteerPlant α :=
  let actuator := p.actuator.update demand
  let lateralAccel := -effectiveTorque p.scenario actuator.value * p.scenario.torqueToAccel
  let angle := p.angleFor lateralAccel
  { p with
    actuator := actuator
    lateralAccel := lateralAccel
    steeringAngle := angle
    steeringRate := (angle - p.steeringAngle) / p.period }

end SteerPlant

end LateralTorque
