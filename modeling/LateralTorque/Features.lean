import LateralTorque.History
import LateralTorque.Interp
import LateralTorque.LowPass
import LateralTorque.Trajectory
import LateralTorque.Vehicle

/-!
# Features of the neural torque model

Besides the present the neural model sees a short history of the desired acceleration and of the
road roll, and both of them a little into the planned future.

* `FeatureContext` — the histories, and the filter that smooths the pitch of the road;
* `FeatureContext.record` — what a cycle adds to them;
* `FeatureContext.assemble` — records a cycle and builds its three feature vectors, for setpoint,
  measurement and feedforward.

A context knows of the cycles that assemble features and of no others: how far back the past
features lie in time depends on when it was called.  Until its histories are full, places beyond
their end take the newest sample.  A pitch that is not known leaves the roll as it is and the filter
where it was.

Nothing is asked of the values of a cycle, and what comes out is not checked to be finite here.
-/

set_option autoImplicit false

namespace LateralTorque

variable {α : Type} [Scalar α]

/-- Length of a feature vector. -/
def featureCount : Nat := 18

/-- Number of cycles of history. -/
def historyLength : Nat := 30

/-- Where in a full history the past features lie: 0.3, 0.2 and 0.1 seconds ago at 100 cycles per
second. -/
def historyOffsets : List Nat := [0, 10, 20]

/-- Times of the future features before the delay is added, in seconds. -/
def futureOffsets : List α := [0.3, 0.6, 1.0, 1.5]

/-- Margin over the actuator delay in the future times, in seconds. -/
def futureMargin : α := 0.2

/-- Time constant of the pitch smoothing in seconds. -/
def pitchTimeConstant : α := 0.5

/-- The part of a roll that acts across the vehicle: with growing pitch gravity points along it. -/
def pitchedRoll (roll pitch : α) : α := roll * Scalar.cos pitch

/-- The times of the future features, shifted by an offset and stretched by the longitudinal
acceleration. -/
def futureTimes (offset longitudinalAccel speed : α) : List α :=
  futureOffsets.map fun start =>
    let time := start + offset
    time + 0.5 * longitudinalAccel * (time / Scalar.maxNum speed minDivisorSpeed)

/-- The values of a cycle that go into its features, in metres, seconds and radians.  Setpoint and
measurement are the lateral accelerations with the low speed term, `desiredAccel` is the desired one
without it; the friction input is scaled for the model, the pitch may be unknown, and the future
times are shifted by `timeOffset`. -/
structure FeatureInputs (α : Type) where
  speed : α
  longitudinalAccel : α
  setpoint : α
  measurement : α
  jerkSetpoint : α
  jerkMeasurement : α
  desiredAccel : α
  frictionInput : α
  roll : α
  pitch : Option α
  timeOffset : α

/-- The feature vectors of a cycle, each for the torque that it is named after, and the roll that is
in them. -/
structure Features (α : Type) where
  setpoint : List α
  measurement : List α
  feedforward : List α
  roll : α

/-- The three vectors in one list, as they are recorded. -/
def Features.toList (f : Features α) : List α := f.feedforward ++ f.setpoint ++ f.measurement

/-- Histories and filter behind the features of cycles that are `period` seconds apart. -/
structure FeatureContext (α : Type) where
  rolls : History α historyLength
  desiredAccels : History α historyLength
  pitchFilter : LowPass α
  period : α

namespace FeatureContext

/-- A context without history, its pitch filter settled at a level road. -/
def create (period : α) : FeatureContext α where
  rolls := .empty
  desiredAccels := .empty
  pitchFilter := LowPass.create 0 pitchTimeConstant period true
  period := period

/-- Clears all history. -/
def reset (c : FeatureContext α) : FeatureContext α := create c.period

/-- The smoothed pitch of the road in radians. -/
def pitch (c : FeatureContext α) : α := c.pitchFilter.value

/-- Takes in the pitch of a cycle, if it is known. -/
def takePitch (c : FeatureContext α) (pitch : Option α) : FeatureContext α :=
  match pitch with
  | some p => { c with pitchFilter := c.pitchFilter.update p }
  | none => c

/-- The roll of a cycle whose pitch was taken in: adjusted for the smoothed pitch if the pitch of
the cycle is known. -/
def cycleRoll (c : FeatureContext α) (inputs : FeatureInputs α) : α :=
  match inputs.pitch with
  | some _ => pitchedRoll inputs.roll c.pitch
  | none => inputs.roll

/-- Records a cycle. -/
def record (c : FeatureContext α) (inputs : FeatureInputs α) : FeatureContext α :=
  let c := c.takePitch inputs.pitch
  { c with
    rolls := c.rolls.push (c.cycleRoll inputs)
    desiredAccels := c.desiredAccels.push inputs.desiredAccel }

/-- The past features of a history.  Until it is full, places beyond its end take the newest
sample. -/
def pastSamples (h : History α historyLength) (current : α) : List α :=
  historyOffsets.map fun offset => (h.getOrNewest? offset).getD current

/-- The planned roll at the future times, as a change from `roll` and `pitch`. -/
def futureRolls (t : Trajectory α) (roll pitch : α) (times : List α) : List α :=
  times.map fun time =>
    pitchedRoll (interp time t.times t.rolls + roll) (interp time t.times t.pitches + pitch)

/-- The planned acceleration at the future times, over the control horizon only. -/
def futureAccels (t : Trajectory α) (times : List α) : List α :=
  times.map fun time => interp time (t.times.take Trajectory.controlLength) t.lateralAccels

/-- The features of the cycle recorded last. -/
def features (c : FeatureContext α) (inputs : FeatureInputs α) (t : Trajectory α) :
    Features α :=
  let roll := c.cycleRoll inputs
  let times := futureTimes inputs.timeOffset inputs.longitudinalAccel inputs.speed
  let rolls := pastSamples c.rolls roll ++ futureRolls t roll c.pitch times
  let errorVector (value jerk : α) : List α :=
    [inputs.speed, value, jerk, roll] ++ List.replicate 7 value ++ rolls
  { setpoint := errorVector inputs.setpoint inputs.jerkSetpoint
    measurement := errorVector inputs.measurement inputs.jerkMeasurement
    feedforward :=
      [inputs.speed, inputs.desiredAccel, inputs.frictionInput, roll]
        ++ pastSamples c.desiredAccels inputs.desiredAccel ++ futureAccels t times ++ rolls
    roll := roll }

/-- Records a cycle and builds its features. -/
def assemble (c : FeatureContext α) (inputs : FeatureInputs α) (t : Trajectory α) :
    FeatureContext α × Features α :=
  (c.record inputs, (c.record inputs).features inputs t)

end FeatureContext

end LateralTorque
