import LateralTorque.Interp
import LateralTorque.Tuning

/-!
# Low speed factor

At low speed lateral acceleration, which grows with the square of the speed, hides large errors of
curvature.  The low speed factor adds curvature to both sides of the control error to keep the loop
stiff.

* `LowSpeedLaw` — how a vehicle computes the factor, any function of the tuning and of what is known
  in a cycle, the factor before it included;
* `LowSpeedTable.law` — the law that reads it from a table over the speed, with a second row for
  cycles in which it is suppressed;
* `LowSpeedScheduler` — carries the factor from cycle to cycle, asks the law once in an active
  cycle, and replaces a factor that is not finite by zero.

What suppression is for is the controller's matter: here it only chooses the row of the table.
-/

set_option autoImplicit false

namespace LateralTorque

variable {α : Type} [Scalar α]

/-- All that a low speed law may depend on, in metres and seconds: the factor of the previous active
cycle, the lateral accelerations, the speed and the measured lateral jerk, whether another mechanism
shapes the response at low speed already (`suppress`), and whether the integrator is frozen. -/
structure LowSpeedInputs (α : Type) where
  previousFactor : α
  desiredAccel : α
  actualAccel : α
  speed : α
  actualJerk : α
  suppress : Bool
  freezeIntegrator : Bool

/-- A vehicle's law for the factor, in m²/s². -/
abbrev LowSpeedLaw (α : Type) := Tuning α → LowSpeedInputs α → α

/-- A table of square roots of the factor over ascending speeds in m/s, with a second row for cycles
in which the factor is suppressed. -/
structure LowSpeedTable (α : Type) where
  speeds : List α
  roots : List α
  suppressedRoots : List α

namespace LowSpeedTable

/-- The table of a vehicle about which nothing is known. -/
def standard : LowSpeedTable α where
  speeds := [0.0, 10.0, 20.0, 30.0]
  roots := [15.0, 13.0, 10.0, 5.0]
  suppressedRoots := [12.0, 3.0, 1.0, 0.0]

/-- The factor at a speed. -/
def factor (t : LowSpeedTable α) (speed : α) (suppress : Bool) : α :=
  Scalar.square (interp speed t.speeds (if suppress then t.suppressedRoots else t.roots))

/-- The law that reads the factor from the table. -/
def law (t : LowSpeedTable α) : LowSpeedLaw α := fun _ inputs =>
  t.factor inputs.speed inputs.suppress

end LowSpeedTable

/-- The factor of the most recent active cycle, kept between cycles. -/
structure LowSpeedScheduler (α : Type) where
  lastFactor : α

namespace LowSpeedScheduler

/-- No cycle was active yet. -/
def initial : LowSpeedScheduler α := ⟨0⟩

/-- What the law says this cycle, given the factor of the cycle before. -/
def demand (s : LowSpeedScheduler α) (law : LowSpeedLaw α) (tuning : Tuning α)
    (inputs : LowSpeedInputs α) : α :=
  law tuning { inputs with previousFactor := s.lastFactor }

/-- Asks the law once; a factor that is not finite becomes zero. -/
def update (s : LowSpeedScheduler α) (law : LowSpeedLaw α) (tuning : Tuning α)
    (inputs : LowSpeedInputs α) : LowSpeedScheduler α :=
  let factor := s.demand law tuning inputs
  ⟨if Scalar.isFinite factor then factor else 0⟩

end LowSpeedScheduler

end LateralTorque
