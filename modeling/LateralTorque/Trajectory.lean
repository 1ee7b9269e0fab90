import LateralTorque.Scalar

/-!
# Planned trajectory

The planner predicts the vehicle's motion at ascending times from now.  A trajectory holds one list
per quantity, so that each can be interpolated on its own.  The lists arrive as they are, and may be
too short, of different lengths, out of order or not finite.

* `Trajectory.isGood` — when the controller may use a plan: it covers the control horizon, its lists
  are of one length, its times ascend, and all its values are finite;
* `Trajectory.timeGrid` — the times at which the planner of the simulation predicts;
* `Trajectory.jerks` — the planned lateral jerks, from each sample to the next.

A plan that is not good is never looked into: to the controller it is as if there were none.
-/

set_option autoImplicit false

namespace LateralTorque

/-- One sample of the plan: the time from now in seconds, the lateral acceleration in m/s², and the
changes of roll and pitch in radians. -/
structure TrajectorySample (α : Type) where
  time : α
  lateralAccel : α
  roll : α
  pitch : α

/-- A planned trajectory, one list per quantity. -/
structure Trajectory (α : Type) where
  times : List α
  lateralAccels : List α
  rolls : List α
  pitches : List α

namespace Trajectory

/-- Number of samples in a full plan. -/
def fullLength : Nat := 33

/-- Number of samples that cover the control horizon; a shorter plan is not usable. -/
def controlLength : Nat := 17

variable {α : Type}

/-- The trajectory through a list of samples. -/
def ofSamples (samples : List (TrajectorySample α)) : Trajectory α where
  times := samples.map (·.time)
  lateralAccels := samples.map (·.lateralAccel)
  rolls := samples.map (·.roll)
  pitches := samples.map (·.pitch)

/-- Number of samples. -/
def length (t : Trajectory α) : Nat := t.times.length

variable [Scalar α]

/-- Whether each element of a list is greater than the one before it. -/
def ascending : List α → Bool
  | [] => true
  | first :: rest =>
    match rest with
    | [] => true
    | second :: _ => decide (first < second) && ascending rest

/-- Whether the controller may use the plan: it covers the control horizon, has the same number of
values for every quantity, strictly ascending times and no value that is not finite. -/
def isGood (t : Trajectory α) : Bool :=
  decide (controlLength ≤ t.length)
    && t.lateralAccels.length == t.length
    && t.rolls.length == t.length
    && t.pitches.length == t.length
    && ascending t.times
    && (t.times ++ t.lateralAccels ++ t.rolls ++ t.pitches).all Scalar.isFinite

/-- The planner's times, `10 (i / 32)²` seconds: dense near the present and sparse far ahead. -/
def timeGrid : List α :=
  (List.range fullLength).map fun (i : Nat) =>
    10.0 * Scalar.square ((i : α) / ((fullLength - 1 : Nat) : α))

/-- The planned lateral jerk from each sample to the next. -/
def jerks (t : Trajectory α) : List α :=
  let points := t.times.zip t.lateralAccels
  points.zipWith (fun before after => (after.2 - before.2) / (after.1 - before.1)) points.tail

end Trajectory

end LateralTorque
