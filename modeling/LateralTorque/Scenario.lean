import LateralTorque.Signals
import LateralTorque.Trajectory

/-!
# Simulated scenario

A vehicle at constant speed on a road of constant roll, and a script of path curvatures in the place
of the planner.

* `Scenario.curvatureAt` — the curvature that the script has at a time, zero before its first
  segment;
* `Scenario.plannedTrajectory` — the plan that the script implies, as a planner would hand it over.

The plan knows the script ahead of time, and its roll and pitch do not change.  The parameters are
not checked: a script out of order is read up to the first segment that has not started yet.
-/

set_option autoImplicit false

namespace LateralTorque

/-- A stretch of constant curvature in 1/m, from its start time in seconds up to the start of the
next one. -/
structure ProfileSegment (α : Type) where
  start : α
  curvature : α

/-- The parameters of a simulation, in metres, seconds and radians: its length and the time at which
the controller is engaged, whether the cycles are paced by the clock, speed and roll, the actuator
and the rack, where the tuning overrides and the neural torque model are, if there are such, the
simulated vehicle and the script of curvatures.  The torque that exceeds `rackFriction` is worth
`torqueToAccel` of lateral acceleration per unit. -/
structure Scenario (α : Type) where
  duration : α
  engageTime : α
  realtime : Bool
  speed : α
  roll : α
  actuatorTimeConstant : α
  torqueToAccel : α
  rackFriction : α
  tuningDirectory : Option String
  networkFile : Option String
  vehicle : BicycleModel α
  profile : List (ProfileSegment α)

namespace Scenario

variable {α : Type} [Scalar α]

/-- The curvature at a time: that of the last segment before the first one still to start. -/
def curvatureAt (s : Scenario α) (time : α) : α :=
  ((s.profile.takeWhile fun segment => segment.start ≤ time).getLast?.map (·.curvature)).getD 0

/-- The plan that the script implies from a time on. -/
def plannedTrajectory (s : Scenario α) (time : α) : Trajectory α :=
  Trajectory.ofSamples <| Trajectory.timeGrid.map fun offset =>
    { time := offset
      lateralAccel := s.curvatureAt (time + offset) * Scalar.square s.speed
      roll := 0
      pitch := 0 }

end Scenario

end LateralTorque
