import LateralTorque.Gain
import LateralTorque.LowPass

/-!
# PID controller with feedforward

A PID controller with gains scheduled on speed, a feedforward term, a limited output and an
integrator that can be frozen.

The integrator does not wind up: it moves only where that moves the output away from its limit, or
the integrator towards zero.  The derivative term differentiates the smoothed error, so that a step
of the error does not kick it, and there is none for the first error after a reset.

* `Pid.update` — one step, from error, feedforward, speed and whether the integrator is frozen;
* `Pid.mayIntegrate` — the guard of the integrator;
* `Pid.reset` — clears the memory and keeps gains and limits.

The output is held between the limits, the lower of which wins where they cross; terms that add up
to NaN pass through.
-/

set_option autoImplicit false

namespace LateralTorque

/-- A PID controller and its memory: its gains, the limits of its output, the time from one update
to the next in seconds, the filter that smooths the error for the derivative term with the smoothed
error of the update before, and its latest output `control`, which is within the limits, with its
terms. -/
structure Pid (α : Type) where
  proportionalGain : GainSchedule α
  integralGain : GainSchedule α
  derivativeGain : GainSchedule α
  feedforwardGain : GainSchedule α
  upperLimit : α
  lowerLimit : α
  period : α
  errorFilter : LowPass α
  previousError : α
  p : α
  i : α
  d : α
  f : α
  control : α

namespace Pid

variable {α : Type} [Scalar α]

/-- Time constant of the error smoothing in seconds. -/
def errorTimeConstant : α := 0.5

/-- A controller with its output between `-limit` and `limit`. -/
def create (proportional integral derivative feedforward : GainSchedule α) (limit period : α) :
    Pid α where
  proportionalGain := proportional
  integralGain := integral
  derivativeGain := derivative
  feedforwardGain := feedforward
  upperLimit := limit
  lowerLimit := -limit
  period := period
  errorFilter := LowPass.create 0 errorTimeConstant period false
  previousError := 0
  p := 0
  i := 0
  d := 0
  f := 0
  control := 0

/-- The rate of the smoothed error; zero for the first error. -/
def errorRate (c : Pid α) (error : α) : α :=
  if c.errorFilter.settled then
    ((c.errorFilter.update error).value - c.previousError) / c.period
  else 0

/-- Where the integrator would go. -/
def candidate (c : Pid α) (error speed : α) : α :=
  c.i + error * c.integralGain.value speed * c.period

/-- Whether the integrator may go to `integral`, which would give the output `control`. -/
def mayIntegrate (c : Pid α) (error integral control : α) : Bool :=
  (0 ≤ error && (control ≤ c.upperLimit || integral < 0))
    || (error ≤ 0 && (c.lowerLimit ≤ control || 0 < integral))

/-- One step of the controller. -/
def update (c : Pid α) (error feedforward speed : α) (freeze : Bool) : Pid α :=
  let p := error * c.proportionalGain.value speed
  let f := feedforward * c.feedforwardGain.value speed
  let d := c.errorRate error * c.derivativeGain.value speed
  let integral := c.candidate error speed
  let i := if c.mayIntegrate error integral (p + integral + d + f) && !freeze then integral else c.i
  { c with
    errorFilter := c.errorFilter.update error
    previousError := (c.errorFilter.update error).value
    p := p
    i := i
    d := d
    f := f
    control := Scalar.clamp (p + i + d + f) c.lowerLimit c.upperLimit }

/-- Clears the memory and keeps gains and limits. -/
def reset (c : Pid α) : Pid α :=
  { c with
    errorFilter := c.errorFilter.reset 0 false
    previousError := 0
    p := 0
    i := 0
    d := 0
    f := 0
    control := 0 }

end Pid

end LateralTorque
