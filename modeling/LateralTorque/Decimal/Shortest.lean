import LateralTorque.Decimal.Double

/-!
# The fewest digits that read back

A reader rounds to nearest, so every decimal between the midpoints to the two neighbouring doubles
reads back as the same double; a midpoint itself does if the mantissa is even.  `shortest` takes
the coarsest decimal grid with a point in that interval, and on it the point nearest to the value.
-/

set_option autoImplicit false

namespace LateralTorque.Decimal

/-- The decimal number `value · 10 ^ exponent`. -/
structure Digits where
  value : Nat
  exponent : Int

/-- Which of two equally near decimals is taken: the one with the even last digit, or the larger
one. -/
inductive TieRule where
  | toEven
  | upward

/-- Removes up to `count` trailing zeros. -/
def Digits.strip (d : Digits) : Nat → Digits
  | 0 => d
  | count + 1 =>
    if d.value % 10 = 0 ∧ d.value ≠ 0 then
      Digits.strip ⟨d.value / 10, d.exponent + 1⟩ count
    else d

/-- Whether `candidate · 10 ^ power` reads back as the double `mantissa · 2 ^ exponent`.  Lengths
are in quarters of the spacing above the value; below a power of two the spacing is half as wide. -/
def readsBack (mantissa : Nat) (exponent power : Int) (candidate : Nat) : Bool :=
  let below := if mantissa = leadingBit ∧ -1074 < exponent then 1 else 2
  let low := Ratio.ofParts (4 * mantissa - below) (exponent - 2) power
  let high := Ratio.ofParts (4 * mantissa + 2) (exponent - 2) power
  if mantissa % 2 = 0 then low.num ≤ candidate * low.den ∧ candidate * high.den ≤ high.num
  else low.num < candidate * low.den ∧ candidate * high.den < high.num

/-- The point of the grid of multiples of `10 ^ power` that reads back, the nearer one if both
neighbours of the value do. -/
def onGrid (tie : TieRule) (mantissa : Nat) (exponent power : Int) : Option Nat :=
  let value := Ratio.ofParts mantissa exponent power
  let below := value.floor
  let accepts := readsBack mantissa exponent power
  match accepts below, accepts (below + 1) with
  | false, false => none
  | true, false => some below
  | false, true => some (below + 1)
  | true, true =>
    let rest := 2 * (value.num % value.den)
    if rest < value.den then some below
    else if value.den < rest then some (below + 1)
    else match tie with
      | .toEven => some (if below % 2 = 0 then below else below + 1)
      | .upward => some (below + 1)

/-- The fewest digits that read back as `mantissa · 2 ^ exponent`, and of those the nearest.
Seventeen digits always suffice. -/
def shortest (tie : TieRule) (mantissa : Nat) (exponent : Int) : Digits :=
  if mantissa = 0 then ⟨0, 0⟩
  else
    let lead := decimalExponent mantissa exponent
    let found := (List.range 17).findSome? fun (more : Nat) =>
      let power := lead - (more : Int)
      (onGrid tie mantissa exponent power).map fun value => (⟨value, power⟩ : Digits)
    (found.getD ⟨0, 0⟩).strip 18

/-- `mantissa · 2 ^ exponent` rounded to `count` significant digits, half to even. -/
def significant (count mantissa : Nat) (exponent : Int) : Digits :=
  if mantissa = 0 then ⟨0, 0⟩
  else
    let power := decimalExponent mantissa exponent - count + 1
    ⟨(Ratio.ofParts mantissa exponent power).nearest, power⟩

end LateralTorque.Decimal
