import LateralTorque.Interp
import LateralTorque.Trajectory

/-!
# Looking ahead along the plan

The lateral jerk of one instant says little.  If the planned jerk keeps its sign a little into the
future the change of acceleration is meant, and only then it shapes the friction compensation.

A look along the plan compares the jerk that reaches the planned acceleration with the planned jerks
that follow, up to the first sample beyond a time that grows with the speed.  If there is no such
sample it goes up to the end of the control horizon, however many samples the plan has.

* `persistentValue` — the part of a value that all future values share;
* `JerkEstimate.ofTrajectory` — the jerks and the friction scaling of one cycle.

The plan is taken to be a good one in the sense of `Trajectory.isGood`, which the controller has
checked before.
-/

set_option autoImplicit false

namespace LateralTorque

variable {α : Type} [Scalar α]

/-! ## The persistent part of a value -/

/-- The value of least magnitude among `least` and the future values, or zero as soon as one of
them has another sign. -/
def persistFrom (sign least : α) : List α → α
  | [] => least
  | v :: rest =>
    if Scalar.sign v == sign then
      persistFrom sign (if Scalar.abs v < Scalar.abs least then v else least) rest
    else 0

/-- The part of `current` that persists over the future values: zero if one of them differs in
sign, otherwise the value of least magnitude. -/
def persistentValue (future : List α) (current : α) : α :=
  persistFrom (Scalar.sign current) current future

/-! ## Jerk of a cycle -/

/-- How far to look ahead at a speed, in seconds. -/
def lookaheadTime (speed : α) : α := interp speed [9.0, 30.0] [1.4, 2.0]

/-- Number of first planned jerks that are left out: with the actuator delay they lie before the
current demand. -/
def skippedJerks : Nat := 5

/-- Margin over the actuator delay at which the planned acceleration is read, in seconds. -/
def jerkTimeMargin : α := 0.3

/-- The jerks of one cycle and what follows for the friction compensation.  `desired` is the jerk
that reaches the planned acceleration one delay and margin from now and `lookahead` the persistent
part of it, both in m/s³; `setpoint` and `measurement` are the jerk terms of the two torques, and
`accelFrictionFactor` weighs the acceleration error in the friction input. -/
structure JerkEstimate (α : Type) where
  desired : α
  lookahead : α
  setpoint : α
  measurement : α
  accelFrictionFactor : α

namespace JerkEstimate

/-- The estimate without a plan. -/
def none (accelFrictionFactor : α) : JerkEstimate α := ⟨0, 0, 0, 0, accelFrictionFactor⟩

/-- The index of the first sample beyond the look-ahead time, or of the last one of the control
horizon if there is none. -/
def upperIndex (t : Trajectory α) (speed : α) : Nat :=
  (t.times.findIdx? fun time => lookaheadTime speed < time).getD (Trajectory.controlLength - 1)

/-- The planned jerks that have to agree with the desired one. -/
def window (t : Trajectory α) (speed : α) : List α :=
  (t.jerks.drop skippedJerks).take (upperIndex t speed - skippedJerks)

/-- The jerk that reaches the planned acceleration one delay and margin from now. -/
def desiredJerk (t : Trajectory α) (desiredAccel delay : α) : α :=
  (interp (delay + jerkTimeMargin) t.times t.lateralAccels - desiredAccel)
    / (delay + jerkTimeMargin)

/-- The estimate over a good trajectory.  Measuring from the steering angle, or a plan that
reverses, takes out the jerk terms and leaves the acceleration error unscaled. -/
def ofTrajectory (t : Trajectory α) (speed desiredAccel actualJerk delay : α)
    (useSteeringAngle : Bool) (jerkFrictionFactor accelFrictionFactor : α) : JerkEstimate α :=
  let desired := desiredJerk t desiredAccel delay
  let persistent := persistentValue (window t speed) desired
  if useSteeringAngle || persistent == 0 then
    { desired := desired
      lookahead := 0
      setpoint := jerkFrictionFactor * 0
      measurement := jerkFrictionFactor * 0
      accelFrictionFactor := 1 }
  else
    { desired := desired
      lookahead := persistent
      setpoint := jerkFrictionFactor * persistent
      measurement := jerkFrictionFactor * actualJerk
      accelFrictionFactor := accelFrictionFactor }

end JerkEstimate

end LateralTorque
