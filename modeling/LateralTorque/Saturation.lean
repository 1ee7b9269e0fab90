import LateralTorque.Scalar

/-!
# Saturation of the output

An output close to its limit is saturated.  `SaturationMonitor` counts the time spent saturated up
to a limit, and back down otherwise, and times out at the limit.

* `isSaturated` — whether an output is within a margin of its limit;
* `SaturationMonitor.counts` — which cycles count: saturated, above a minimum speed, with neither
  the host limiting the actuator nor the driver steering;
* `SaturationMonitor.update`, `timedOut`, `reset` — the count and what it says.

A cycle that does not count takes time off, so that the monitor measures how much saturation
outweighs, and not how long it lasted without a break.
-/

set_option autoImplicit false

namespace LateralTorque

variable {α : Type} [Scalar α]

/-- Distance from the limit within which an output is saturated. -/
def saturationMargin : α := 1e-3

/-- Whether an output is saturated. -/
def isSaturated (output limit : α) : Bool :=
  limit - Scalar.abs output < saturationMargin

/-- Counts saturated time: the time counted, the time at which the monitor times out and the time
per update, all in seconds. -/
structure SaturationMonitor (α : Type) where
  count : α
  limit : α
  period : α

namespace SaturationMonitor

/-- A monitor that has counted nothing. -/
def create (limit period : α) : SaturationMonitor α := ⟨0, limit, period⟩

/-- Speed above which saturation counts, in m/s. -/
def minSpeed : α := 10.0

/-- Whether a cycle counts towards the timeout: saturated above the minimum speed, with neither the
host limiting the actuator nor the driver steering. -/
def counts (saturated : Bool) (speed : α) (steerLimited steeringPressed : Bool) : Bool :=
  saturated && minSpeed < speed && !steerLimited && !steeringPressed

/-- Counts one cycle up or down, between zero and the limit. -/
def update (m : SaturationMonitor α) (counted : Bool) : SaturationMonitor α :=
  { m with
    count := Scalar.clamp (if counted then m.count + m.period else m.count - m.period) 0 m.limit }

/-- Whether the count has reached the limit. -/
def timedOut (m : SaturationMonitor α) : Bool := m.limit - saturationMargin < m.count

/-- Forgets the time counted. -/
def reset (m : SaturationMonitor α) : SaturationMonitor α := { m with count := 0 }

end SaturationMonitor

end LateralTorque
