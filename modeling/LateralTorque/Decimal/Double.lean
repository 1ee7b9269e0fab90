/-!
# Doubles as exact numbers

A finite double is a sign and `mantissa · 2 ^ exponent`.  The decimal texts are computed from that
form in natural number arithmetic, so no rounding happens but the one that is meant.

* `Double.ofFloat` — the parts of a double;
* `Ratio` — a quotient of natural numbers, with `Ratio.nearest`, rounding half to even;
* `decimalExponent` — the power of ten of the leading digit.
-/

set_option autoImplicit false

namespace LateralTorque.Decimal

/-- What a double stands for: a finite one for `mantissa · 2 ^ exponent`, negated if `negative`. -/
inductive Double where
  | nan
  | infinite (negative : Bool)
  | finite (negative : Bool) (mantissa : Nat) (exponent : Int)

/-- The leading bit of the mantissa of a normal number; the bits below it make up the fraction. -/
def leadingBit : Nat := Nat.pow 2 52

/-- The exponent field of infinities and NaN. -/
def lastExponent : Nat := 2047

/-- The parts of a double.  A normal number has its leading bit made explicit. -/
def Double.ofFloat (x : Float) : Double :=
  let bits := x.toBits.toNat
  let fraction := bits % leadingBit
  let biased : Nat := bits / leadingBit % (lastExponent + 1)
  let negative := bits / leadingBit / (lastExponent + 1) == 1
  if biased = lastExponent then
    if fraction = 0 then .infinite negative else .nan
  else if biased = 0 then .finite negative fraction (-1074)
  else .finite negative (leadingBit + fraction) ((biased : Int) - 1075)

/-- A quotient of natural numbers. -/
structure Ratio where
  num : Nat
  den : Nat

namespace Ratio

/-- `mantissa · 2 ^ exponent / 10 ^ power`. -/
def ofParts (mantissa : Nat) (exponent power : Int) : Ratio where
  num := mantissa * Nat.pow 2 exponent.toNat * Nat.pow 10 (-power).toNat
  den := Nat.pow 2 (-exponent).toNat * Nat.pow 10 power.toNat

/-- The largest natural number not above the quotient. -/
def floor (r : Ratio) : Nat := r.num / r.den

/-- The natural number nearest to the quotient; of two equally near ones the even one. -/
def nearest (r : Ratio) : Nat :=
  let below := r.num / r.den
  let rest := 2 * (r.num % r.den)
  if rest < r.den ∨ (rest = r.den ∧ below % 2 = 0) then below else below + 1

end Ratio

/-- The largest `k` with `10 ^ k ≤ mantissa · 2 ^ exponent`, for a mantissa that is not zero.  The
first guess, from the leading bit, is at most one off. -/
def decimalExponent (mantissa : Nat) (exponent : Int) : Int :=
  let guess := (mantissa.log2 + exponent) * 30103 / 100000
  let atLeast (k : Int) : Bool := (Ratio.ofParts mantissa exponent k).floor ≠ 0
  if atLeast (guess + 1) then guess + 1
  else if atLeast guess then guess
  else guess - 1

end LateralTorque.Decimal
