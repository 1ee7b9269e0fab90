import LateralTorque.Toml.Token

/-!
# Numbers of TOML

A number is written over several tokens, since point and plus sign are tokens of their own.
Integers are decimal, or hexadecimal, octal or binary behind `0x`, `0o` or `0b`, and have to fit in
64 bits with sign; other numbers have to be finite, or one of `inf` and `nan`.  Underscores may
stand between digits.
-/

set_option autoImplicit false

namespace LateralTorque.Toml

open Decimal (Numeral)

/-- Which digits a run of digits consists of, and whether a zero may stand before other digits. -/
structure DigitRule where
  isDigit : Char → Bool
  leadingZeros : Bool

/-- The digits of integers and of whole parts. -/
def wholeDigits : DigitRule := ⟨Char.isDigit, false⟩

/-- The digits of fractions and exponents. -/
def partDigits : DigitRule := ⟨Char.isDigit, true⟩

/-- Whether no underscore in a run of digits stands at an end or beside another one. -/
def separatesDigits (run : List Char) : Bool :=
  run.head? != some '_' && run.getLast? != some '_' &&
    (run.zip run.tail).all fun (a, b) => a != '_' || b != '_'

/-- The digits at the start of a word, without underscores, and the rest of the word. -/
def readDigits? (rule : DigitRule) (cs : List Char) : Option (List Char × List Char) :=
  let isRun (c : Char) : Bool := rule.isDigit c || c == '_'
  let run := cs.takeWhile isRun
  let digits := run.filter (· != '_')
  if digits.isEmpty || !separatesDigits run then none
  else if digits.head? == some '0' && 1 < digits.length && !rule.leadingZeros then none
  else some (digits, cs.dropWhile isRun)

/-- A minus sign, read as "is negative", and the rest of a word. -/
def readMinus : List Char → Bool × List Char
  | '-' :: rest => (true, rest)
  | cs => (false, cs)

/-! ## Integers -/

/-- The value of digits in a base. -/
def digitsIn (base : Nat) (ds : List Char) : Nat :=
  ds.foldl (fun n d => base * n + (Json.hexValue? d).getD 0) 0

/-- The size of the least integer; all others are smaller. -/
def integerLimit : Nat := Nat.pow 2 63

/-- An integer of 64 bits with sign; zero has none. -/
def integer? (negative : Bool) (size : Nat) : Option Numeral :=
  if size < integerLimit then some (.finite (negative && size != 0) size 0)
  else if negative && size == integerLimit then some (.finite true size 0)
  else none

/-- A decimal integer that takes up a whole word. -/
def decimalInteger? (word : List Char) : Option Numeral := do
  let (negative, cs) := readMinus word
  let (digits, rest) ← readDigits? wholeDigits cs
  if rest.isEmpty then integer? negative (digitsIn 10 digits) else none

/-- An integer behind a sign of its base. -/
def basedInteger? (base : Nat) (cs : List Char) : Option Numeral := do
  let isDigit (c : Char) : Bool := (Json.hexValue? c).any (· < base)
  let (digits, rest) ← readDigits? ⟨isDigit, true⟩ cs
  if rest.isEmpty then integer? false (digitsIn base digits) else none

/-! ## Other numbers -/

/-- The exponent of a number: digits in the same word, or in the word behind a plus sign. -/
def readExponent? : List Char → List Token → Option (Int × List Token)
  | [], .plus :: .word cs :: ts => do
    let (digits, rest) ← readDigits? partDigits cs
    if rest.isEmpty then return (digitsIn 10 digits, ts) else none
  | [], _ => none
  | cs, ts => do
    let (negative, cs) := readMinus cs
    let (digits, rest) ← readDigits? partDigits cs
    let size : Int := digitsIn 10 digits
    if rest.isEmpty then return (if negative then -size else size, ts) else none

/-- A finite number from its parts. -/
def finite? (negative : Bool) (whole fraction : List Char) (exponent : Int) : Option Numeral :=
  let numeral : Numeral :=
    .finite negative (digitsIn 10 (whole ++ fraction)) (exponent - fraction.length)
  if numeral.toFloat.isFinite then some numeral else none

/-- A number with an exponent or a fraction: a first word, the word behind the point if there is
one, and the tokens after them. -/
def readFractional? (word : List Char) (afterPoint : Option (List Char)) (ts : List Token) :
    Option (Numeral × List Token) := do
  let (negative, cs) := readMinus word
  let (whole, rest) ← readDigits? wholeDigits cs
  let (fraction, rest) ← match afterPoint with
    | some after => if rest.isEmpty then readDigits? partDigits after else none
    | none => some ([], rest)
  let (exponent, ts) ← match rest with
    | [] => some (0, ts)
    | c :: rest => if c == 'e' || c == 'E' then readExponent? rest ts else none
  return (← finite? negative whole fraction exponent, ts)

/-- A number that begins with a word, and the tokens after it. -/
def readNumber? (word : List Char) (ts : List Token) : Option (Numeral × List Token) :=
  match word with
  | '0' :: 'x' :: cs => (basedInteger? 16 cs).map (·, ts)
  | '0' :: 'o' :: cs => (basedInteger? 8 cs).map (·, ts)
  | '0' :: 'b' :: cs => (basedInteger? 2 cs).map (·, ts)
  | _ =>
    if word.contains 'e' || word.contains 'E' then readFractional? word none ts
    else match ts with
      | .period :: .word after :: ts => readFractional? word (some after) ts
      | .period :: _ => none
      | _ =>
        let (negative, cs) := readMinus word
        if cs = ['i', 'n', 'f'] then some (.infinite negative, ts)
        else if cs = ['n', 'a', 'n'] then some (.nan, ts)
        else (decimalInteger? word).map (·, ts)

/-! ## Dates -/

/-- Whether a word is the start of a date or time. -/
def startsDate (word : List Char) : Bool :=
  word.contains 'T' || word.contains 't' ||
    (word.tail.contains '-' &&
      (word.zip word.tail).all fun (a, b) => !((a == 'e' || a == 'E') && b == '-'))

/-- An optional separator with a word behind it. -/
def skipPart? (separator : Token) : List Token → Option (List Token)
  | token :: ts =>
    if token = separator then
      match ts with
      | .word _ :: ts => some ts
      | _ => none
    else some (token :: ts)
  | [] => some []

/-- Passes over a date or time after its first word.  The parts are not looked at: no parameter is
a date. -/
def skipDate? (colonSeen : Bool) (ts : List Token) : Option (List Token) :=
  let ts := match ts with
    | .blank true :: .word _ :: rest => rest
    | _ => ts
  let time := match ts with
    | .colon :: rest => if colonSeen then none else some rest
    | _ => none
  if colonSeen || time.isSome then
    match time.getD ts with
    | .word _ :: .colon :: .word _ :: ts => do
      skipPart? .colon (← skipPart? .plus (← skipPart? .period ts))
    | _ => none
  else some ts

end LateralTorque.Toml
