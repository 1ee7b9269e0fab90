import LateralTorque.Scalar

/-!
# Time

Times are counted in nanoseconds, within the range of 64 bits with sign.  A duration out of range
has no number of seconds; one within it becomes the quotient of two numbers, the nanoseconds and
those of a second, each rounded first as the number system rounds.
-/

set_option autoImplicit false

namespace LateralTorque.Clock

/-- Nanoseconds in a second. -/
def nanosecondsPerSecond : Nat := 1000000000

/-- Durations from this one on are out of range, and so are negative ones longer than it. -/
def limit : Nat := Nat.pow 2 63

/-- A duration in seconds, unless its nanoseconds are out of range. -/
def seconds? {α : Type} [Scalar α] (nanoseconds : Int) : Option α :=
  if -(limit : Int) ≤ nanoseconds ∧ nanoseconds < (limit : Int) then
    let size : α := Scalar.ofDecimal nanoseconds.natAbs 0
    some ((if nanoseconds < 0 then -size else size) / Scalar.ofDecimal nanosecondsPerSecond 0)
  else none

end LateralTorque.Clock
