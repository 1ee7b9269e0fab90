import LateralTorque.Toml.Number

/-!
# Keys and values of TOML

Keys may be dotted, and a dotted key makes the tables on its way.  Only tables made so take in
further dotted keys; a table in braces is complete as it stands.

* `readKey?` — dotted keys;
* `Value`, `readValue?` — values;
* `addKeyed?` — how an entry with a dotted key goes into a table.

Reading descends into lists and tables with a bound on its steps, for which the number of tokens is
enough.
-/

set_option autoImplicit false

namespace LateralTorque.Toml

/-! ## Keys -/

/-- Tokens from the first one on that is not blank. -/
def skipBlank : List Token → List Token
  | .blank _ :: ts => skipBlank ts
  | ts => ts

theorem length_skipBlank_le (ts : List Token) : (skipBlank ts).length ≤ ts.length := by
  fun_induction skipBlank ts with
  | case1 _ ts ih => simp only [List.length_cons]; omega
  | case2 => exact Nat.le_refl _

/-- One name of a key. -/
def readName? : List Token → Option (String × List Token)
  | .word cs :: ts => some (String.ofList cs, ts)
  | .text value false :: ts => some (value, ts)
  | _ => none

theorem length_of_readName? {ts rest : List Token} {name : String}
    (h : readName? ts = some (name, rest)) : ts.length = rest.length + 1 := by
  unfold readName? at h
  split at h <;> simp_all

/-- The names that follow a name, each behind a period, and the tokens after them. -/
def readMoreNames? (ts : List Token) : Option (List String × List Token) :=
  match hp : skipBlank ts with
  | .period :: rest =>
    match hn : readName? (skipBlank rest) with
    | some (name, after) =>
      have : after.length < ts.length := by
        have h₁ := length_skipBlank_le ts
        have h₂ := length_skipBlank_le rest
        have h₃ := length_of_readName? hn
        rw [hp, List.length_cons] at h₁
        omega
      (readMoreNames? after).map fun (names, ts) => (name :: names, ts)
    | none => none
  | rest => some ([], rest)
termination_by ts.length

/-- A dotted key and the tokens after it, from the first one on that is not blank. -/
def readKey? (ts : List Token) : Option (List String × List Token) := do
  let (name, ts) ← readName? ts
  let (names, ts) ← readMoreNames? ts
  return (name :: names, ts)

/-! ## Values -/

/-- A value.  Only a table that dotted keys have made takes in further dotted keys. -/
inductive Value where
  | plain (data : Data)
  | list (items : List Value)
  | braced (entries : List (String × Value))
  | dotted (entries : List (String × Value))

mutual

/-- The value as structured data. -/
def Value.toData : Value → Data
  | .plain data => data
  | .list items => .list (itemsToData items)
  | .braced entries => .table (entriesToData entries)
  | .dotted entries => .table (entriesToData entries)

/-- Items as structured data. -/
def itemsToData : List Value → List Data
  | [] => []
  | item :: rest => item.toData :: itemsToData rest

/-- Entries as structured data. -/
def entriesToData : List (String × Value) → List (Option String × Data)
  | [] => []
  | (key, value) :: rest => (some key, value.toData) :: entriesToData rest

end

/-- Replaces the first entry with a key, or adds one at the end. -/
def setEntry (key : String) (value : Value) : List (String × Value) → List (String × Value)
  | [] => [(key, value)]
  | (other, old) :: rest =>
    if other = key then (key, value) :: rest else (other, old) :: setEntry key value rest

/-- Adds an entry.  A plain key is added even if it is there already; a dotted key goes into the
table that earlier dotted keys have made, and may not go into any other value. -/
def addKeyed? (value : Value) :
    (key : List String) → List (String × Value) → Option (List (String × Value))
  | [], _ => none
  | [name], entries => some (entries ++ [(name, value)])
  | name :: more, entries =>
    match entries.lookup name with
    | some (.dotted inner) =>
      (addKeyed? value more inner).map fun inner => setEntry name (.dotted inner) entries
    | some _ => none
    | none => (addKeyed? value more []).map fun inner => entries ++ [(name, .dotted inner)]

/-- Tokens from the first one on that is neither blank nor a line end. -/
def skipLines : List Token → List Token
  | .blank _ :: ts => skipLines ts
  | .newline :: ts => skipLines ts
  | ts => ts

/-- A date, or a number that begins with a word. -/
def readNumberOrDate? (word : List Char) (ts : List Token) : Option (Value × List Token) :=
  if startsDate word then (skipDate? false ts).map (.plain .date, ·)
  else match ts with
    | .colon :: ts => (skipDate? true ts).map (.plain .date, ·)
    | _ => (readNumber? word ts).map fun (numeral, ts) => (.plain (.number numeral), ts)

/-- A value that begins with a word. -/
def readWord? (word : List Char) (ts : List Token) : Option (Value × List Token) :=
  match String.ofList word with
  | "true" => some (.plain (.flag true), ts)
  | "false" => some (.plain (.flag false), ts)
  | "inf" => readNumberOrDate? word ts
  | "nan" => readNumberOrDate? word ts
  | _ =>
    if word.head?.any fun c => c == '-' || c.isDigit then readNumberOrDate? word ts else none

mutual

/-- A value and the tokens after it. -/
def readValue? : (fuel : Nat) → List Token → Option (Value × List Token)
  | 0, _ => none
  | fuel + 1, ts =>
    match ts with
    | .text value _ :: ts => some (.plain (.text (some value)), ts)
    | .word word :: ts => readWord? word ts
    | .plus :: .word word :: ts =>
      (readNumber? word ts).map fun (numeral, ts) => (.plain (.number numeral), ts)
    | .leftBracket :: ts => (readItems? fuel ts).map fun (items, ts) => (.list items, ts)
    | .leftBrace :: ts =>
      match skipBlank ts with
      | .rightBrace :: ts => some (.braced [], ts)
      | ts => (readEntries? fuel [] ts).map fun (entries, ts) => (.braced entries, ts)
    | _ => none

/-- The items of a list to its end, line ends and a comma after the last one allowed. -/
def readItems? : (fuel : Nat) → List Token → Option (List Value × List Token)
  | 0, _ => none
  | fuel + 1, ts =>
    match skipLines ts with
    | .rightBracket :: ts => some ([], ts)
    | ts => do
      let (item, ts) ← readValue? fuel ts
      match skipLines ts with
      | .comma :: ts =>
        let (items, ts) ← readItems? fuel ts
        return (item :: items, ts)
      | .rightBracket :: ts => return ([item], ts)
      | _ => none

/-- The entries of a table in braces to its end, after those already read. -/
def readEntries? : (fuel : Nat) → List (String × Value) → List Token →
    Option (List (String × Value) × List Token)
  | 0, _, _ => none
  | fuel + 1, entries, ts => do
    let (key, ts) ← readKey? ts
    match ts with
    | .equals :: ts =>
      let (value, ts) ← readValue? fuel (skipBlank ts)
      let entries ← addKeyed? value key entries
      match skipBlank ts with
      | .rightBrace :: ts => return (entries, ts)
      | .comma :: ts => readEntries? fuel entries (skipBlank ts)
      | _ => none
    | _ => none

end

end LateralTorque.Toml
