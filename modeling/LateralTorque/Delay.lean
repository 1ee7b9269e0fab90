import LateralTorque.Interp
import LateralTorque.LowPass

/-!
# Delay of the steering actuator

At low torque the rack takes up slack before anything moves; at higher torque the actuator answers
quickly, and faster still if it already follows the demand.  `rawDelay` reads that off the realised
and the commanded torque of one cycle, and `DelayEstimator` smooths it.

* `DelayEstimator.update` — takes in the feedback of a cycle, if both torques are finite;
* `DelayEstimator.delay` — the delay to use: the estimate from the first feedback on, and the static
  delay before it or if the estimator is not enabled;
* `DelayEstimator.report?` — what is reported of the estimate from time to time.

Feedback that is missing, infinite or NaN leaves the estimate as it is.  The estimate is a rule of
thumb of the two torques; times at which the actuator moves are not looked at.
-/

set_option autoImplicit false

namespace LateralTorque

variable {α : Type} [Scalar α]

/-- Delay at low torque in seconds. -/
def lowTorqueDelay : α := 0.5

/-- Delay for the difference between realised and commanded torque, in seconds. -/
def torqueBasedDelay (difference : α) : α := interp difference [0.0, 1.0] [0.02, 0.40]

/-- Weight of the torque based delay against the one at low torque. -/
def delayBlend (realised : α) : α := interp (Scalar.abs realised) [0.1, 0.35] [0.0, 1.0]

/-- The delay of one cycle in seconds.  Realised and commanded torque have opposite signs, so their
sum is small where the actuator follows. -/
def rawDelay (realised commanded : α) : α :=
  delayBlend realised * torqueBasedDelay (Scalar.abs (realised + commanded))
    + (1 - delayBlend realised) * lowTorqueDelay

/-- A smoothed estimate of the delay.  The static delay, in seconds, is used until the first
feedback arrives, and throughout if the estimator is not enabled. -/
structure DelayEstimator (α : Type) where
  enabled : Bool
  staticDelay : α
  filter : LowPass α

namespace DelayEstimator

/-- Time constant of the smoothing in seconds. -/
def timeConstant : α := 2.5

/-- An estimator that has not seen any feedback. -/
def create (enabled : Bool) (staticDelay period : α) : DelayEstimator α :=
  ⟨enabled, staticDelay, LowPass.create 0 timeConstant period false⟩

/-- The delay to use, in seconds. -/
def delay (e : DelayEstimator α) : α :=
  if e.enabled && e.filter.settled then e.filter.value else e.staticDelay

/-- The realised torque of a cycle whose feedback the estimator takes in: it is enabled, and
feedback and command are finite. -/
def accepted? (e : DelayEstimator α) (realised : Option α) (commanded : α) : Option α :=
  if e.enabled then
    realised.filter fun r => Scalar.isFinite r && Scalar.isFinite commanded
  else none

/-- Takes in the feedback of one cycle; without usable feedback the estimate holds. -/
def update (e : DelayEstimator α) (realised : Option α) (commanded : α) : DelayEstimator α :=
  match e.accepted? realised commanded with
  | some r => { e with filter := e.filter.update (rawDelay r commanded) }
  | none => e

/-- Number of cycles between two reports of the estimate. -/
def reportPeriod : Nat := 50

/-- What is reported after the update of a cycle: the estimate with the realised and the commanded
torque, the latter in the actuator's direction. -/
def report? (e : DelayEstimator α) (realised : Option α) (commanded : α) (tick : Nat) :
    Option (α × α × α) :=
  (e.accepted? realised commanded).bind fun r =>
    if tick % reportPeriod = 0 then
      some ((e.update realised commanded).filter.value, r, -commanded)
    else none

end DelayEstimator

end LateralTorque
