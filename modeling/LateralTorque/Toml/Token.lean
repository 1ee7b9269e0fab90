import LateralTorque.Json

/-!
# Tokens of TOML

A TOML text as a row of tokens.  Comments and a byte order mark are left out, and a carriage return
before a line feed does not count.

* `Token` — the tokens;
* `readBasic?`, `readLiteral?` — the two kinds of strings;
* `tokens?` — the tokens of a text.
-/

set_option autoImplicit false

namespace LateralTorque.Toml

/-- A token.  Blanks count: they may not stand inside a number or between doubled brackets, and
`oneSpace` tells a single space from other spaces and tabs.  A word of letters, digits, dashes and
underscores is a bare key, a keyword, or part of a number. -/
inductive Token where
  | blank (oneSpace : Bool)
  | newline
  | equals
  | period
  | comma
  | colon
  | plus
  | leftBrace
  | rightBrace
  | leftBracket
  | rightBracket
  | word (chars : List Char)
  | text (value : String) (multiline : Bool)
deriving DecidableEq

/-! ## Characters -/

/-- Space or tab. -/
def isBlank (c : Char) : Bool := c == ' ' || c == '\t'

/-- A character of words. -/
def isWordChar (c : Char) : Bool := c.isAlphanum || c == '-' || c == '_'

/-- A character that may stand in a comment. -/
def isCommentChar (c : Char) : Bool := c == '\t' || 0x20 ≤ c.toNat

/-- A character that may stand in a string as it is. -/
def isTextChar (c : Char) : Bool := isCommentChar c && c != '\x7f'

/-- Line feeds for pairs of carriage return and line feed. -/
def foldLineEnds : List Char → List Char
  | '\r' :: '\n' :: rest => '\n' :: foldLineEnds rest
  | c :: rest => c :: foldLineEnds rest
  | [] => []

/-! ## Strings -/

/-- The character that a one-letter escape stands for. -/
def shortEscape? : Char → Option Char
  | '"' => some '"'
  | '\\' => some '\\'
  | 'b' => some '\x08'
  | 'f' => some '\x0c'
  | 'n' => some '\n'
  | 'r' => some '\r'
  | 't' => some '\t'
  | _ => none

/-- The character with a code point in hexadecimal. -/
def codePoint? (digits : List Char) : Option Char := do
  let values ← digits.mapM Json.hexValue?
  let n := values.foldl (fun n d => 16 * n + d) 0
  if n.isValidChar then some (Char.ofNat n) else none

/-- Whether a backslash before these characters ends its line: nothing but blanks follow it. -/
def endsLine (cs : List Char) : Bool := (cs.dropWhile isBlank).head? == some '\n'

/-- The rest of a string in double quotes, and what follows it.  `skipping` passes over blanks and
line ends, as behind a backslash that ends its line. -/
def readBasic? (multiline skipping : Bool) : List Char → Option (List Char × List Char)
  | [] => none
  | '\\' :: 'u' :: a :: b :: c :: d :: rest => do
    let c ← codePoint? [a, b, c, d]
    let (cs, rest) ← readBasic? multiline false rest
    return (c :: cs, rest)
  | '\\' :: 'U' :: a :: b :: c :: d :: e :: f :: g :: h :: rest => do
    let c ← codePoint? [a, b, c, d, e, f, g, h]
    let (cs, rest) ← readBasic? multiline false rest
    return (c :: cs, rest)
  | '\\' :: c :: rest =>
    if multiline && endsLine (c :: rest) then readBasic? multiline true rest
    else do
      let c ← shortEscape? c
      let (cs, rest) ← readBasic? multiline false rest
      return (c :: cs, rest)
  | c :: rest =>
    if skipping && (isBlank c || c == '\n') then readBasic? multiline true rest
    else if c == '"' then
      if !multiline then some ([], rest)
      else match rest with
        | '"' :: '"' :: '"' :: '"' :: rest => some (['"', '"'], rest)
        | '"' :: '"' :: '"' :: rest => some (['"'], rest)
        | '"' :: '"' :: rest => some ([], rest)
        | _ => (readBasic? multiline false rest).map fun (cs, rest) => ('"' :: cs, rest)
    else if (c == '\n' && multiline) || (isTextChar c && c != '\\') then
      (readBasic? multiline false rest).map fun (cs, rest) => (c :: cs, rest)
    else none

/-- The rest of a string in single quotes, and what follows it. -/
def readLiteral? (multiline : Bool) : List Char → Option (List Char × List Char)
  | [] => none
  | c :: rest =>
    if c == '\x27' then
      if !multiline then some ([], rest)
      else match rest with
        | '\x27' :: '\x27' :: '\x27' :: '\x27' :: rest => some (['\x27', '\x27'], rest)
        | '\x27' :: '\x27' :: '\x27' :: rest => some (['\x27'], rest)
        | '\x27' :: '\x27' :: rest => some ([], rest)
        | _ => (readLiteral? multiline rest).map fun (cs, rest) => ('\x27' :: cs, rest)
    else if (c == '\n' && multiline) || isTextChar c then
      (readLiteral? multiline rest).map fun (cs, rest) => (c :: cs, rest)
    else none

/-- A string after its first quote.  Three quotes open a string of several lines, and a line end
right behind them does not count. -/
def readText? (quote : Char) (body : Bool → List Char → Option (List Char × List Char))
    (cs : List Char) : Option (Token × List Char) :=
  let finish (multiline : Bool) (cs : List Char) :=
    (body multiline cs).map fun (value, rest) =>
      (Token.text (String.ofList value) multiline, rest)
  match cs with
  | a :: b :: rest =>
    if a == quote && b == quote then
      finish true (match rest with
        | '\n' :: rest => rest
        | _ => rest)
    else if a == quote then some (.text "" false, b :: rest)
    else finish false cs
  | [a] => if a == quote then some (.text "" false, []) else none
  | [] => none

/-! ## Texts -/

/-- The token that a character is by itself. -/
def punctuation? : Char → Option Token
  | '\n' => some .newline
  | '=' => some .equals
  | '.' => some .period
  | ',' => some .comma
  | ':' => some .colon
  | '+' => some .plus
  | '{' => some .leftBrace
  | '}' => some .rightBrace
  | '[' => some .leftBracket
  | ']' => some .rightBracket
  | _ => none

/-- The first token of a text that is not empty, and what follows it; no token for a comment. -/
def readToken? (c : Char) (rest : List Char) : Option (Option Token × List Char) :=
  if isBlank c then
    some (some (.blank (c == ' ' && !(rest.head?.any isBlank))), rest.dropWhile isBlank)
  else if c == '#' then some (none, rest.dropWhile isCommentChar)
  else if c == '"' then
    (readText? '"' (readBasic? · false) rest).map fun (token, rest) => (some token, rest)
  else if c == '\x27' then
    (readText? '\x27' readLiteral? rest).map fun (token, rest) => (some token, rest)
  else if isWordChar c then
    some (some (.word ((c :: rest).takeWhile isWordChar)), rest.dropWhile isWordChar)
  else (punctuation? c).map fun token => (some token, rest)

/-- The tokens of a text of at most `fuel` characters. -/
def readTokens? : (fuel : Nat) → List Char → Option (List Token)
  | _, [] => some []
  | 0, _ => none
  | fuel + 1, c :: rest => do
    let (token, rest) ← readToken? c rest
    let tokens ← readTokens? fuel rest
    return token.toList ++ tokens

/-- The tokens of a text. -/
def tokens? (text : String) : Option (List Token) :=
  let cs := foldLineEnds text.toList
  let cs := match cs with
    | '\uFEFF' :: rest => rest
    | _ => cs
  readTokens? cs.length cs

end LateralTorque.Toml
