/-!
# The numbers the controller computes with

Every law of the controller is written once, over an arbitrary `Scalar`.  Evaluated on `Float` it is
the program; read over the real numbers, or over the real numbers with infinities and NaN, it is the
law in exact arithmetic that the program approximates.

The class demands operations and assumes nothing of them.  A result about every number system holds
by the shape of the program alone; whatever needs more is stated for one number system, or takes the
laws that it needs as hypotheses.

* `Scalar` — arithmetic, comparison, literals and the few transcendental functions in use;
* `maxNum`, `clamp`, `sign`, `square` — derived operations with their behaviour on special values;
* `Scalar Float` — IEEE double precision, rounded to nearest.

The functions `cos`, `exp` and `tanh` of `Float` have no logical model, so that nothing is known of
their values.  Other rounding modes and the payloads of NaN are left out.
-/

set_option autoImplicit false

namespace LateralTorque

/-- A number system the control laws can be evaluated in.

Nothing is assumed of the operations here: on `Float` comparisons with NaN are false and
`x == x` fails for NaN, while over a field all values are finite.  Angles are in radians, and `pi`
is half a turn. -/
class Scalar (α : Type) extends Zero α, One α, Add α, Sub α, Mul α, Div α, Neg α, LT α, LE α,
    BEq α, OfScientific α, NatCast α where
  decidableLT (a b : α) : Decidable (a < b)
  decidableLE (a b : α) : Decidable (a ≤ b)
  /-- Neither infinite nor NaN. -/
  isFinite : α → Bool
  abs : α → α
  /-- `1` for positive numbers and positive zero, `-1` for negative numbers and negative zero. -/
  signum : α → α
  cos : α → α
  exp : α → α
  tanh : α → α
  pi : α
  /-- `ofDecimal m e` is the number nearest to `m · 10 ^ e`. -/
  ofDecimal : Nat → Int → α

namespace Scalar

variable {α : Type} [Scalar α]

instance (a b : α) : Decidable (a < b) := decidableLT a b

instance (a b : α) : Decidable (a ≤ b) := decidableLE a b

/-- The larger of two numbers; where exactly one of them is NaN, the other one. -/
def maxNum (a b : α) : α :=
  if a < b then b else if a == a then a else b

/-- The sign of a number as `-1`, `0` or `1`; both zeros and NaN give `0`. -/
def sign (x : α) : α :=
  if 0 < x then 1 else if x < 0 then -1 else 0

/-- `x` held between `lo` and `hi`.  The lower bound wins where the two cross, and NaN passes
through. -/
def clamp (x lo hi : α) : α :=
  let below := if hi < x then hi else x
  if below < lo then lo else below

/-- `x` multiplied by itself. -/
def square (x : α) : α := x * x

/-- Radians from degrees. -/
def radians (degrees : α) : α := degrees * (pi / 180.0)

/-- Degrees from radians. -/
def degrees (radians : α) : α := radians * (180.0 / pi)

end Scalar

/-! ## Double precision -/

/-- `m · 10 ^ e` in double precision.  An exponent far outside the range of a double is answered
without computing the power. -/
def doubleOfDecimal (m : Nat) (e : Int) : Float :=
  if m = 0 then 0.0
  else if 400 < e then 1.0 / 0.0
  else if e + (m.log2 / 3 : Nat) + 1 < -400 then 0.0
  else OfScientific.ofScientific m (decide (e < 0)) e.natAbs

instance : Scalar Float where
  natCast n := Float.ofNat n
  zero := 0.0
  one := 1.0
  decidableLT := Float.decLt
  decidableLE := Float.decLe
  isFinite := Float.isFinite
  abs := Float.abs
  signum x := if x.isNaN then x else if x.toBits >>> 63 == 0 then 1.0 else -1.0
  cos := Float.cos
  exp := Float.exp
  tanh := Float.tanh
  pi := 3.141592653589793
  ofDecimal := doubleOfDecimal

end LateralTorque
