import LateralTorque.Controller
import LateralTorque.Plant

/-!
# The closed loop

Controller and plant at a fixed rate: each cycle takes the plan from the script, senses the plant,
runs the controller and hands its torque to the plant.  The torque that the plant realises is the
feedback of the next cycle.

* `ClosedLoop.input` — what the controller is given in the next cycle;
* `ClosedLoop.step`, `ClosedLoop.run` — one cycle of the loop, and a number of them.

Simulated time is the number of cycles done, times the period.  The road is level in its pitch, the
steering wheel is centred, the driver does not steer and nothing limits the actuator.  How long a
cycle takes, and waiting for the next one, are up to the program.
-/

set_option autoImplicit false

namespace LateralTorque

/-- Controller and plant, the torque that the plant realised in the cycle before, and the number of
cycles done. -/
structure ClosedLoop (α : Type) where
  controller : Controller α
  plant : SteerPlant α
  feedback : Option α
  cycle : Nat

namespace ClosedLoop

variable {α : Type} [Scalar α]

/-- The loop before its first cycle. -/
def initial (controller : Controller α) (scenario : Scenario α) : ClosedLoop α where
  controller := controller
  plant := SteerPlant.create scenario controller.params.period
  feedback := none
  cycle := 0

/-- The simulated time of the next cycle in seconds. -/
def time (l : ClosedLoop α) : α := (l.cycle : α) * l.controller.params.period

/-- What the controller is given in the next cycle. -/
def input (l : ClosedLoop α) : CycleInput α :=
  let scenario := l.plant.scenario
  { active := scenario.engageTime ≤ l.time
    vehicle := l.plant.vehicleState
    road := ⟨scenario.roll, some 0, 0⟩
    desired := ⟨scenario.curvatureAt l.time, none⟩
    trajectory := some (scenario.plannedTrajectory l.time)
    actuatorTorque := l.feedback
    steerLimited := false }

/-- One cycle of the loop. -/
def step (l : ClosedLoop α) : ClosedLoop α × List (Event α) :=
  let (controller, events) := l.controller.step l.input
  let plant := l.plant.step controller.output
  ({ controller := controller
     plant := plant
     feedback := some plant.realised
     cycle := l.cycle + 1 }, events)

/-- The loop after a number of cycles. -/
def run (l : ClosedLoop α) (cycles : Nat) : ClosedLoop α :=
  cycles.repeat (fun l => l.step.1) l

end ClosedLoop

end LateralTorque
