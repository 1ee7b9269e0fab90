import LateralTorque.Interp

/-!
# Gains scheduled on speed

A gain is a piecewise linear function of the speed, held below the first and above the last of its
breakpoints.  Repeated breakpoints are allowed and make a step.

* `GainSchedule.value` — the gain at a speed, for any schedule;
* `GainSchedule.isValid` — what the controller asks of each of its schedules when it is set up: one
  gain for each breakpoint and at least one, breakpoints that do not descend, and finite gains.

The sign of a gain is not part of that.
-/

set_option autoImplicit false

namespace LateralTorque

variable {α : Type} [Scalar α]

/-- A gain over the speed: the gain at each of some ascending speeds in m/s. -/
structure GainSchedule (α : Type) where
  speeds : List α
  gains : List α

namespace GainSchedule

/-- The same gain at every speed. -/
def constant (gain : α) : GainSchedule α := ⟨[0], [gain]⟩

/-- The gain at a speed. -/
def value (g : GainSchedule α) (speed : α) : α := interp speed g.speeds g.gains

/-- Whether no element of a list is less than the one before it. -/
def nonDescending : List α → Bool
  | [] => true
  | first :: rest =>
    match rest with
    | [] => true
    | second :: _ => decide (first ≤ second) && nonDescending rest

/-- Whether a schedule can be used: as many gains as breakpoints and at least one, breakpoints that
do not descend, and finite gains. -/
def isValid (g : GainSchedule α) : Bool :=
  !g.speeds.isEmpty && g.speeds.length == g.gains.length && nonDescending g.speeds
    && g.gains.all Scalar.isFinite

end GainSchedule

end LateralTorque
