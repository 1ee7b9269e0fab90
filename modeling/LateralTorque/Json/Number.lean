import LateralTorque.Json

/-!
# Numbers of JSON texts as scalars

The number of a JSON text is formed from its leading digits, as many as fit in 64 bits, and a power
of ten, by one multiplication or division where the power is in the range of doubles.  The result
may differ in the last place from the number nearest to the text.
-/

set_option autoImplicit false

namespace LateralTorque.Json

open Decimal (Numeral)

/-- The largest value of the leading digits. -/
def largestWord : Nat := 18446744073709551615

/-- Drops digits at the end of `value · 10 ^ exponent` until the rest is at most `largestWord`. -/
def leadingDigits (value : Nat) (exponent : Int) : Nat × Int :=
  if value ≤ largestWord then (value, exponent) else leadingDigits (value / 10) (exponent + 1)
termination_by value
decreasing_by exact Nat.div_lt_self (by simp [largestWord] at *; omega) (by decide)

/-- The largest power of ten that is multiplied or divided by in one go. -/
def largestPower : Nat := 308

variable {α : Type} [Scalar α]

/-- `10 ^ exponent`. -/
def tenTo (exponent : Nat) : α := Scalar.ofDecimal 1 exponent

/-- `x` divided by `10 ^ exponent`, in several goes if need be. -/
def divideByPower (x : α) (exponent : Nat) : α :=
  if exponent ≤ largestPower then x / tenTo exponent
  else if x == 0 then x
  else divideByPower (x / tenTo largestPower) (exponent - largestPower)
termination_by exponent
decreasing_by simp [largestPower] at *; omega

/-- `x` multiplied by `10 ^ exponent`, unless that leaves the range of finite numbers. -/
def multiplyByPower? (x : α) (exponent : Nat) : Option α :=
  if exponent ≤ largestPower then
    let product := x * tenTo exponent
    if Scalar.isFinite product then some product else none
  else if x == 0 then some x
  else none

/-- The scalar for a number of a JSON text, unless it is too large. -/
def scalar? : Numeral → Option α
  | .finite negative value exponent => do
    let (digits, exponent) := leadingDigits value exponent
    let whole : α := Scalar.ofDecimal digits 0
    let size ←
      if exponent < 0 then some (divideByPower whole exponent.natAbs)
      else multiplyByPower? whole exponent.natAbs
    return if negative then -size else size
  | _ => none

end LateralTorque.Json
