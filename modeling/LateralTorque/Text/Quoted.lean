import LateralTorque.Text.Unprintable

/-!
# Quoted texts

A text in double quotes.  Quotes, backslashes and the common control characters are written with a
backslash, and other characters without a glyph by their code point in hexadecimal.  Errors and logs
show texts from outside in this way, so that what is shown is one line and can be told from the text
around it.
-/

set_option autoImplicit false

namespace LateralTorque.Text

/-- The lower case hexadecimal digits of a number. -/
def hexDigits (n : Nat) : String := String.ofList (Nat.toDigits 16 n)

/-- How one character is written between the quotes. -/
def escape (c : Char) : String :=
  match c with
  | '\x00' => "\\0"
  | '\t' => "\\t"
  | '\n' => "\\n"
  | '\r' => "\\r"
  | '"' => "\\\""
  | '\\' => "\\\\"
  | _ =>
    if isUnprintable c then "\\u\x7b" ++ hexDigits c.toNat ++ "\x7d" else String.singleton c

/-- A text in quotes. -/
def quoted (text : String) : String :=
  "\"" ++ String.join (text.toList.map escape) ++ "\""

end LateralTorque.Text
