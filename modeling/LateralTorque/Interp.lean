import LateralTorque.Scalar

/-!
# Piecewise linear curves

Gains, delays and scalings are tables of breakpoints and values.  `interp` holds the first and the
last value outside the breakpoints and joins neighbouring points by straight lines.  Where a
breakpoint is repeated the curve jumps just after it; only at the last of several it is the value
after the jump that counts.

Nothing is asked of a table.  Of lists of different lengths the common part counts, a table without
points is zero everywhere, and one whose breakpoints are out of order still has a value at every
argument: the search goes along the points up to the first one that is not below the argument.

* `interpAfter` — the search along the points, with the point before as its state;
* `interpPoints` — the curve through a list of points;
* `interp` — the same for two lists, as tables are written.
-/

set_option autoImplicit false

namespace LateralTorque

variable {α : Type} [Scalar α]

/-- The straight line through `(s₀, t₀)` and `(s₁, t₁)`, evaluated at `x`. -/
def linearMap (s₀ s₁ t₀ t₁ x : α) : α :=
  t₀ + (x - s₀) * (t₁ - t₀) / (s₁ - s₀)

/-- The curve to the right of the point `before`: the segment that ends at the first later
breakpoint not below `x`, or the last value if there is none. -/
def interpAfter (x : α) (before : α × α) : List (α × α) → α
  | [] => before.2
  | point :: rest =>
    if x ≤ point.1 then
      if point.1 == before.1 then point.2
      else linearMap before.1 point.1 before.2 point.2 x
    else interpAfter x point rest

/-- The piecewise linear curve through a list of points, zero for the empty list. -/
def interpPoints (x : α) : List (α × α) → α
  | [] => 0
  | first :: rest =>
    let last := rest.getLast?.getD first
    if x ≤ first.1 then first.2
    else if last.1 ≤ x then last.2
    else interpAfter x first rest

/-- The piecewise linear curve with the given breakpoints and values.  Of lists of different
lengths only the common part counts. -/
def interp (x : α) (breakpoints values : List α) : α :=
  interpPoints x (breakpoints.zip values)

end LateralTorque
