import LateralTorque.Scalar

/-!
# Reading decimal numbers

A numeral is an optional sign followed by `inf`, `infinity` or `nan` in any case, or by digits with
at most one point among them and an optional exponent.  At least one digit is needed before or
after the point, and at least one in an exponent.
-/

set_option autoImplicit false

namespace LateralTorque.Decimal

/-- A number as it was written: a finite one is `value · 10 ^ exponent`, negated if `negative`. -/
inductive Numeral where
  | nan
  | infinite (negative : Bool)
  | finite (negative : Bool) (value : Nat) (exponent : Int)

/-- The value of a list of decimal digits, after the digits already read. -/
def digitsValue (start : Nat) (ds : List Char) : Nat :=
  ds.foldl (fun value d => 10 * value + (d.toNat - 48)) start

/-- A sign, read as "is negative", and the rest of the text. -/
def readSign : List Char → Bool × List Char
  | '-' :: rest => (true, rest)
  | '+' :: rest => (false, rest)
  | cs => (false, cs)

/-- The exponent that ends a numeral; no exponent counts as zero. -/
def readExponent? : List Char → Option Int
  | [] => some 0
  | c :: rest =>
    if c = 'e' ∨ c = 'E' then
      let (negative, ds) := readSign rest
      if ds.isEmpty || !ds.all Char.isDigit then none
      else
        let size : Int := digitsValue 0 ds
        some (if negative then -size else size)
    else none

/-- Digits, point and exponent without a sign. -/
def readUnsigned? (negative : Bool) (cs : List Char) : Option Numeral :=
  let whole := cs.takeWhile Char.isDigit
  let rest := cs.dropWhile Char.isDigit
  let (fraction, rest) := match rest with
    | '.' :: more => (more.takeWhile Char.isDigit, more.dropWhile Char.isDigit)
    | _ => ([], rest)
  if whole.isEmpty && fraction.isEmpty then none
  else (readExponent? rest).map fun exponent =>
    .finite negative (digitsValue (digitsValue 0 whole) fraction) (exponent - fraction.length)

/-- Reads a whole text as one numeral. -/
def Numeral.read? (cs : List Char) : Option Numeral :=
  let (negative, rest) := readSign cs
  let word := String.ofList (rest.map Char.toLower)
  if word = "nan" then some .nan
  else if word = "inf" ∨ word = "infinity" then some (.infinite negative)
  else readUnsigned? negative rest

/-- The number that a finite numeral stands for, in any number system; infinities and NaN are not
taken. -/
def Numeral.toScalar? {α : Type} [Scalar α] : Numeral → Option α
  | .finite negative value exponent =>
    let size := Scalar.ofDecimal value exponent
    some (if negative then -size else size)
  | _ => none

/-- The double nearest to a numeral. -/
def Numeral.toFloat : Numeral → Float
  | .nan => 0.0 / 0.0
  | .infinite negative => if negative then -1.0 / 0.0 else 1.0 / 0.0
  | .finite negative value exponent =>
    let size : Float := doubleOfDecimal value exponent
    if negative then -size else size

end LateralTorque.Decimal
