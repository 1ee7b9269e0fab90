import LateralTorque.Data

/-!
# Reading JSON

The strict grammar: no comments, no trailing commas, no leading zeros, and nothing but blanks
around the value.  A string may name halves of surrogate pairs that do not make up characters; it
is kept as a text without characters, so that only a reader which needs the text refuses it.
-/

set_option autoImplicit false

namespace LateralTorque.Json

open Decimal (Numeral)

/-! ## Characters -/

/-- The blanks between tokens. -/
def isBlank (c : Char) : Bool := c == ' ' || c == '\t' || c == '\n' || c == '\r'

/-- The value of a hexadecimal digit. -/
def hexValue? (c : Char) : Option Nat :=
  if c.isDigit then some (c.toNat - 48)
  else if 'a' ≤ c ∧ c ≤ 'f' then some (c.toNat - 87)
  else if 'A' ≤ c ∧ c ≤ 'F' then some (c.toNat - 55)
  else none

/-! ## Strings -/

/-- The character that a short escape stands for. -/
def shortEscape? : Char → Option Char
  | '"' => some '"'
  | '\\' => some '\\'
  | '/' => some '/'
  | 'b' => some '\x08'
  | 'f' => some '\x0c'
  | 'n' => some '\n'
  | 'r' => some '\r'
  | 't' => some '\t'
  | _ => none

/-- The rest of a string after the opening quote, as code points and surrogates, and what follows
the closing quote. -/
def readUnits? : List Char → Option (List Nat × List Char)
  | [] => none
  | '"' :: rest => some ([], rest)
  | '\\' :: 'u' :: a :: b :: c :: d :: rest => do
    let a ← hexValue? a
    let b ← hexValue? b
    let c ← hexValue? c
    let d ← hexValue? d
    let (units, rest) ← readUnits? rest
    return ((((a * 16 + b) * 16 + c) * 16 + d) :: units, rest)
  | '\\' :: e :: rest => do
    let escaped ← shortEscape? e
    let (units, rest) ← readUnits? rest
    return (escaped.toNat :: units, rest)
  | c :: rest =>
    if c.toNat < 0x20 ∨ c = '\\' then none
    else (readUnits? rest).map fun (units, rest) => (c.toNat :: units, rest)

/-- Joins surrogate pairs; `none` if a half of one stands alone. -/
def joinSurrogates : List Nat → Option (List Char)
  | [] => some []
  | unit :: rest =>
    if 0xD800 ≤ unit ∧ unit < 0xDC00 then
      match rest with
      | low :: rest =>
        if 0xDC00 ≤ low ∧ low < 0xE000 then
          (joinSurrogates rest).map
            (Char.ofNat (0x10000 + (unit - 0xD800) * 0x400 + (low - 0xDC00)) :: ·)
        else none
      | [] => none
    else if 0xDC00 ≤ unit ∧ unit < 0xE000 then none
    else (joinSurrogates rest).map (Char.ofNat unit :: ·)

/-- A string after its opening quote. -/
def readText? (cs : List Char) : Option (Option String × List Char) :=
  (readUnits? cs).map fun (units, rest) => ((joinSurrogates units).map String.ofList, rest)

/-! ## Numbers -/

/-- The characters of numbers. -/
def isNumberChar (c : Char) : Bool :=
  c.isDigit || c == '+' || c == '-' || c == '.' || c == 'e' || c == 'E'

/-- Whether the point of a numeral, if it has one, stands between digits, and no needless zero or
sign is in front. -/
def isStrict (cs : List Char) : Bool :=
  let unsigned := match cs with
    | '-' :: rest => rest
    | _ => cs
  let whole := unsigned.takeWhile Char.isDigit
  let fraction := match unsigned.dropWhile Char.isDigit with
    | '.' :: rest => rest.head?.any Char.isDigit
    | _ => true
  fraction && match whole with
    | [] => false
    | ['0'] => true
    | lead :: _ => lead != '0'

/-- A number and what follows it. -/
def readNumber? (cs : List Char) : Option (Data × List Char) :=
  let digits := cs.takeWhile isNumberChar
  if isStrict digits then
    (Numeral.read? digits).map fun numeral => (.number numeral, cs.dropWhile isNumberChar)
  else none

/-! ## Values -/

/-- A keyword or a number, and what follows it. -/
def readPlain? : List Char → Option (Data × List Char)
  | 'n' :: 'u' :: 'l' :: 'l' :: rest => some (.null, rest)
  | 't' :: 'r' :: 'u' :: 'e' :: rest => some (.flag true, rest)
  | 'f' :: 'a' :: 'l' :: 's' :: 'e' :: rest => some (.flag false, rest)
  | cs => readNumber? cs

/-- A key with its colon, and what follows them. -/
def readKey? (cs : List Char) : Option (Option String × List Char) :=
  match cs.dropWhile isBlank with
  | '"' :: rest => do
    let (key, rest) ← readText? rest
    match rest.dropWhile isBlank with
    | ':' :: rest => return (key, rest)
    | _ => none
  | _ => none

mutual

/-- A value and what follows it. -/
def readValue? : (fuel : Nat) → List Char → Option (Data × List Char)
  | 0, _ => none
  | fuel + 1, cs =>
    match cs.dropWhile isBlank with
    | '"' :: rest => (readText? rest).map fun (text, rest) => (.text text, rest)
    | '[' :: rest =>
      match rest.dropWhile isBlank with
      | ']' :: rest => some (.list [], rest)
      | rest => (readItems? fuel rest).map fun (items, rest) => (.list items, rest)
    | '{' :: rest =>
      match rest.dropWhile isBlank with
      | '}' :: rest => some (.table [], rest)
      | rest => (readEntries? fuel rest).map fun (entries, rest) => (.table entries, rest)
    | cs => readPlain? cs

/-- The items of a list that is not empty, to its end. -/
def readItems? : (fuel : Nat) → List Char → Option (List Data × List Char)
  | 0, _ => none
  | fuel + 1, cs => do
    let (item, rest) ← readValue? fuel cs
    match rest.dropWhile isBlank with
    | ',' :: rest =>
      let (items, rest) ← readItems? fuel rest
      return (item :: items, rest)
    | ']' :: rest => return ([item], rest)
    | _ => none

/-- The entries of a table that is not empty, to its end. -/
def readEntries? : (fuel : Nat) → List Char → Option (List (Option String × Data) × List Char)
  | 0, _ => none
  | fuel + 1, cs => do
    let (key, rest) ← readKey? cs
    let (value, rest) ← readValue? fuel rest
    match rest.dropWhile isBlank with
    | ',' :: rest =>
      let (entries, rest) ← readEntries? fuel rest
      return ((key, value) :: entries, rest)
    | '}' :: rest => return ([(key, value)], rest)
    | _ => none

end

/-- Reads a text as one value.  Each step of the reader uses up a character, so the length of the
text bounds their number. -/
def read? (text : String) : Option Data := do
  let cs := text.toList
  let (value, rest) ← readValue? (cs.length + 1) cs
  if rest.all isBlank then return value else none

end LateralTorque.Json
