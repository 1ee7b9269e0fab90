import LateralTorque.Scalar

/-!
# First order low-pass filter

`LowPass` smooths a signal sampled at a fixed period: an update moves the value towards the sample
by a weight that comes from the time constant and the period.  Until it has seen a sample a filter
is unsettled, and the first sample is taken as it is instead of being approached from the start
value.  A reset starts again, at a value that stands for the signal or at one that only holds its
place.

The controller smooths the error of its PID controller, the pitch of the road and the delay of the
actuator in this way, and the actuator of the simulated plant follows the torque demand in it.

Samples are not checked: one that is infinite or NaN is taken in like any other, and it is left to
those who use a filter to keep it away.
-/

set_option autoImplicit false

namespace LateralTorque

/-- A first order low-pass filter, with its sample period in seconds and the weight of a new sample.
`settled` says whether `value` already stands for the signal. -/
structure LowPass (α : Type) where
  value : α
  period : α
  weight : α
  settled : Bool

namespace LowPass

variable {α : Type} [Scalar α]

/-- The weight of a new sample under the time constant `timeConstant`. -/
def weightOf (timeConstant period : α) : α := period / (timeConstant + period)

/-- A filter at `start` with the given time constant and sample period, both in seconds. -/
def create (start timeConstant period : α) (settled : Bool) : LowPass α :=
  ⟨start, period, weightOf timeConstant period, settled⟩

/-- Changes the time constant and keeps the value. -/
def retime (f : LowPass α) (timeConstant : α) : LowPass α :=
  { f with weight := weightOf timeConstant f.period }

/-- Takes in one sample. -/
def update (f : LowPass α) (sample : α) : LowPass α :=
  { f with
    value := if f.settled then (1 - f.weight) * f.value + f.weight * sample else sample
    settled := true }

theorem value_update_of_settled {f : LowPass α} (h : f.settled = true) (sample : α) :
    (f.update sample).value = (1 - f.weight) * f.value + f.weight * sample := by
  simp only [update, h, if_true]

theorem value_update_of_unsettled {f : LowPass α} (h : f.settled = false) (sample : α) :
    (f.update sample).value = sample := by
  simp [update, h]

/-- Starts again at `start`. -/
def reset (f : LowPass α) (start : α) (settled : Bool) : LowPass α :=
  { f with value := start, settled := settled }

end LowPass

end LateralTorque
