import LateralTorque.Decimal.Shortest

/-!
# Decimal texts of a double

The program writes doubles in four ways.  Three of them show the fewest digits that read back and
differ in a `Style`: messages (`plain`), structured dumps (`structured`) and tables (`tabular`).
The fourth is `fixed`, a given number of places after the point.
-/

set_option autoImplicit false

namespace LateralTorque.Decimal

/-- How the shortest digits of a number are laid out: when without exponent, whether an integer
written so ends in `.0`, and which of two equally near shortest texts is taken. -/
structure Style where
  /-- Whether a number whose leading digit has this power of ten is written without exponent. -/
  positional : Int → Bool
  point : Bool
  tie : TieRule

/-- Messages never use an exponent and write integers without a point. -/
def Style.plain : Style := ⟨fun _ => true, false, .upward⟩

/-- Structured dumps use an exponent from `10 ^ 16` on and below `10 ^ (-4)`. -/
def Style.structured : Style := ⟨fun k => -4 ≤ k && k < 16, true, .upward⟩

/-- Table cells use an exponent from `10 ^ 16` on and below `10 ^ (-5)`. -/
def Style.tabular : Style := ⟨fun k => -5 ≤ k && k < 16, true, .toEven⟩

/-- `count` zeros. -/
def zeros (count : Nat) : String := String.ofList (List.replicate count '0')

/-- Digits without an exponent. -/
def positional (point : Bool) (d : Digits) : String :=
  let text := toString d.value
  if 0 ≤ d.exponent then
    text ++ zeros (if d.value = 0 then 0 else d.exponent.toNat) ++ (if point then ".0" else "")
  else
    let places := d.exponent.natAbs
    let padded := (zeros (places + 1 - text.length) ++ text).toList
    String.ofList (padded.take (padded.length - places)) ++ "." ++
      String.ofList (padded.drop (padded.length - places))

/-- Digits with one of them before the point, and an exponent. -/
def exponential (d : Digits) : String :=
  match (toString d.value).toList with
  | [] => ""
  | lead :: rest =>
    let fraction := if rest.isEmpty then "" else "." ++ String.ofList rest
    String.singleton lead ++ fraction ++ "e" ++ toString (d.exponent + rest.length)

/-- A minus sign for negative numbers, negative zero included. -/
def signText (negative : Bool) : String := if negative then "-" else ""

/-- The text of a double in a style. -/
def format (style : Style) (x : Float) : String :=
  match Double.ofFloat x with
  | .nan => "NaN"
  | .infinite negative => signText negative ++ "inf"
  | .finite negative mantissa exponent =>
    let d := shortest style.tie mantissa exponent
    let lead := d.exponent + ((toString d.value).length - 1 : Nat)
    signText negative ++
      if d.value = 0 || style.positional lead then positional style.point d else exponential d

/-- The text of a double with `places` digits after the point, rounded half to even. -/
def fixed (places : Nat) (x : Float) : String :=
  match Double.ofFloat x with
  | .nan => "NaN"
  | .infinite negative => signText negative ++ "inf"
  | .finite negative mantissa exponent =>
    let units := (Ratio.ofParts mantissa exponent (-places)).nearest
    signText negative ++ positional false ⟨units, -places⟩

/-- The double nearest to `x` rounded to `count` significant digits; `x` itself if it is not
finite or if rounding leaves the range of finite doubles. -/
def roundSignificant (count : Nat) (x : Float) : Float :=
  match Double.ofFloat x with
  | .finite negative mantissa exponent =>
    let d := significant count mantissa exponent
    let rounded := OfScientific.ofScientific d.value (decide (d.exponent < 0)) d.exponent.natAbs
    if rounded.isFinite then (if negative then -rounded else rounded) else x
  | _ => x

end LateralTorque.Decimal
