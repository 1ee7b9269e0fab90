import LateralTorque.Scalar

/-!
# Record of a cycle

Every cycle, active or not, leaves a record of what the controller saw and did.  The record is made
anew in each cycle: it starts from tuning, delay and low speed factor as they are, and the parts of
the cycle add to it.  What a part of the cycle that was not reached would have written is zero, or
not set.

The controller keeps the record of the latest cycle, and no later cycle reads it: it is there for
those who run the controller, and for the archive of the session.
-/

set_option autoImplicit false

namespace LateralTorque

/-- The record of one cycle, with cycles counted from one, accelerations in m/s², jerks in m/s³ and
the delay in seconds.

`p`, `i`, `d` and `f` are the terms of the PID controller, `error` is the torque error, which is
zero where the previous output was held, and `output` the torque demand handed out.  `desiredJerk`
is the planned jerk over the actuator delay and `lookaheadJerk` the persistent part of it;
`frictionInput` is where the friction term was evaluated.  `saturated` says that the output is at
its limit, `saturationTimeout` that it has been there for too long, and `modelFault` that the torque
model failed and the previous output was held.  Factor, offset and friction are those of the tuning
in use.  The feature vectors are there where the neural model was used: feedforward, setpoint,
measurement. -/
structure Diagnostics (α : Type) where
  tick : Nat
  active : Bool
  p : α
  i : α
  d : α
  f : α
  error : α
  output : α
  actualAccel : α
  desiredAccel : α
  desiredJerk : α
  lookaheadJerk : α
  frictionInput : α
  saturated : Bool
  saturationTimeout : Bool
  lowSpeedFactor : α
  accelFactor : α
  accelOffset : α
  friction : α
  actuatorDelay : α
  usedNeural : Bool
  modelFault : Bool
  features : Option (List α)

/-- The record before the first cycle. -/
def Diagnostics.initial {α : Type} [Zero α] : Diagnostics α where
  tick := 0
  active := false
  p := 0
  i := 0
  d := 0
  f := 0
  error := 0
  output := 0
  actualAccel := 0
  desiredAccel := 0
  desiredJerk := 0
  lookaheadJerk := 0
  frictionInput := 0
  saturated := false
  saturationTimeout := false
  lowSpeedFactor := 0
  accelFactor := 0
  accelOffset := 0
  friction := 0
  actuatorDelay := 0
  usedNeural := false
  modelFault := false
  features := none

end LateralTorque
