import LateralTorque.Decimal.Format

/-!
# Tables of comma separated values

A table has one line per record and first a line of column names.  A cell is quoted only where it
would not read back otherwise, and a quote inside a quoted cell is written twice.

* `line` — the line of a row of cells;
* `Column` — a column of a table of records, with its name and its cells;
* `header`, `row` — the first line of a table and the line of a record.

Tables are written here and never read, and the columns of a table are the same for all its lines.
-/

set_option autoImplicit false

namespace LateralTorque.Csv

/-- Whether a cell has to be quoted. -/
def needsQuotes (cell : String) : Bool :=
  cell.toList.any fun c => c == ',' || c == '"' || c == '\r' || c == '\n'

/-- The characters of a quoted cell. -/
def doubleQuotes : List Char → List Char
  | [] => []
  | c :: rest => if c = '"' then '"' :: '"' :: doubleQuotes rest else c :: doubleQuotes rest

/-- A cell as it is written. -/
def cell (text : String) : String :=
  if needsQuotes text then "\"" ++ String.ofList (doubleQuotes text.toList) ++ "\"" else text

/-- The line of a row of cells.  A row with nothing but one empty cell is quoted, so that its line
is not blank. -/
def line (cells : List String) : String :=
  (if cells == [""] then "\"\"" else ",".intercalate (cells.map cell)) ++ "\n"

/-! ## Cells -/

/-- The cell of a number. -/
def number (x : Float) : String := Decimal.format .tabular x

/-- The cell of a truth value. -/
def flag (b : Bool) : String := toString b

/-! ## Columns -/

/-- A column of a table of records. -/
structure Column (ρ : Type) where
  name : String
  cell : ρ → String

/-- The line of column names. -/
def header {ρ : Type} (columns : List (Column ρ)) : String := line (columns.map (·.name))

/-- The line of a record. -/
def row {ρ : Type} (columns : List (Column ρ)) (record : ρ) : String :=
  line (columns.map fun column => column.cell record)

end LateralTorque.Csv
