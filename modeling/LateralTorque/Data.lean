import LateralTorque.Decimal.Numeral

/-!
# Structured data

The values that a JSON text or a TOML file consists of, and their reading as records.

* `Data` — the values;
* `Data.record?` — the fields of a record, by name from a table or in order from a list;
* `Record.required?`, `Record.optional?` — one field of a record.

Fields that a record does not know are passed over.  A field that it knows may occur only once.
-/

set_option autoImplicit false

namespace LateralTorque

open Decimal (Numeral)

/-- A value of a structured text.  The text of a value or of a key is `none` where its escapes do
not make up characters; a table has its entries in the order of the text, repeated keys included;
and a date or time is kept without its parts, since no parameter is one. -/
inductive Data where
  | null
  | flag (value : Bool)
  | number (value : Numeral)
  | text (value : Option String)
  | list (items : List Data)
  | table (entries : List (Option String × Data))
  | date

/-- Known fields of a record with their values. -/
abbrev Record := List (String × Data)

namespace Data

/-- The truth value of a flag. -/
def flag? : Data → Option Bool
  | .flag value => some value
  | _ => none

/-- The characters of a text. -/
def text? : Data → Option String
  | .text value => value
  | _ => none

/-- A number as it was written. -/
def numeral? : Data → Option Numeral
  | .number value => some value
  | _ => none

/-- The items of a list, each read by `item`. -/
def list? {β : Type} (item : Data → Option β) : Data → Option (List β)
  | .list items => items.mapM item
  | _ => none

/-- One of several named choices: its name, or a table with nothing but the name over null. -/
def choice? : Data → Option String
  | .text name => name
  | .table [(name, .null)] => name
  | _ => none

/-- Those entries of a table that are among the given names.  A key without characters and a known
name that is repeated are refused. -/
def knownEntries? (names : List String) : List (Option String × Data) → Option Record
  | [] => some []
  | (key, value) :: rest => do
    let name ← key
    let known ← knownEntries? names rest
    if !names.contains name then return known
    else if (known.lookup name).isSome then none
    else return (name, value) :: known

/-- The fields of a record with the given names: from a table by name, from a list in order. -/
def record? (names : List String) : Data → Option Record
  | .table entries => knownEntries? names entries
  | .list items => if items.length ≤ names.length then some (names.zip items) else none
  | _ => none

end Data

namespace Record

variable {β : Type}

/-- A field that has to be there. -/
def required? (r : Record) (name : String) (read : Data → Option β) : Option β :=
  (r.lookup name).bind read

/-- A field that may be missing, with the value that it then has. -/
def optional? (r : Record) (name : String) (missing : β) (read : Data → Option β) : Option β :=
  match r.lookup name with
  | some value => read value
  | none => some missing

end Record

end LateralTorque
