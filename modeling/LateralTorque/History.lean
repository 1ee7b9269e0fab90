import LateralTorque.Scalar

/-!
# A bounded history of samples

`History α n` keeps the last `n` samples in a circle of `n` slots: sample number `k` is written to
slot `k mod n`, over the oldest one once the circle is full.  Reading is oldest first, and `toList`
is the history read as a list.

* `History.push` — adds the newest sample;
* `History.get?`, `getOrNewest?` — the sample in a place, or nothing or the newest one where there
  is none;
* `History.size`, `toList` — all that is held.

The number of samples ever pushed is unbounded here.  A counter of 64 bits shows the same numbers
below `2 ^ 64`, which a sample per cycle does not reach; what a counter does that overflows is left
out.
-/

set_option autoImplicit false

namespace LateralTorque

/-- The last `capacity` samples in a circle of slots.  `pushed` counts all samples ever pushed; it
is unbounded, and a counter of 64 bits shows the same below `2 ^ 64` samples. -/
structure History (α : Type) (capacity : Nat) where
  slots : Vector α capacity
  pushed : Nat

namespace History

variable {α : Type} {capacity : Nat}

/-- The history without samples. -/
def empty [Zero α] : History α capacity := ⟨Vector.replicate capacity 0, 0⟩

/-- Adds the newest sample, over the oldest one if the circle is full. -/
def push (h : History α capacity) (sample : α) : History α capacity :=
  { slots := h.slots.setIfInBounds (h.pushed % capacity) sample, pushed := h.pushed + 1 }

/-- Number of samples held. -/
def size (h : History α capacity) : Nat := min h.pushed capacity

/-- Whether nothing was ever pushed. -/
def isEmpty (h : History α capacity) : Bool := h.pushed == 0

/-- The slot of the oldest sample. -/
def start (h : History α capacity) : Nat :=
  if capacity < h.pushed then h.pushed % capacity else 0

/-- The sample with `index` older ones before it. -/
def get? (h : History α capacity) (index : Nat) : Option α :=
  if index < h.size then h.slots[(h.start + index) % capacity]? else none

/-- The sample with `index` older ones before it, or the newest if there are not that many. -/
def getOrNewest? (h : History α capacity) (index : Nat) : Option α :=
  if h.isEmpty then none else h.get? (min index (h.size - 1))

/-- The samples, oldest first. -/
def toList (h : History α capacity) : List α := (List.range h.size).filterMap h.get?

end History

end LateralTorque
