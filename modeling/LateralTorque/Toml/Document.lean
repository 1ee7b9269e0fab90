import LateralTorque.Toml.Value

/-!
# TOML documents

A document is a row of sections: entries below a header that names the table they belong to, or one
element of a list of tables.  `Toml.read?` puts the sections together to one table.

A table may have one section of its own, in any place among those of its sub-tables.  In a list of
tables each element takes in the sections of its sub-tables up to the next element.
-/

set_option autoImplicit false

namespace LateralTorque.Toml

/-- A header with the entries below it.  Its names lead to the table, none for the entries before
the first header; `isElement` says that the section is an element of a list of tables. -/
structure Section where
  header : List String
  isElement : Bool
  entries : List (String × Value)

/-! ## Lines -/

/-- Requires the end of a line. -/
def endLine? (ts : List Token) : Option (List Token) :=
  match skipBlank ts with
  | [] => some []
  | .newline :: ts => some ts
  | _ => none

/-- A header after its brackets, to the end of its line. -/
def readHeader? (isElement : Bool) (ts : List Token) : Option (Section × List Token) := do
  let (header, ts) ← readKey? (skipBlank ts)
  let rest ← match isElement, ts with
    | false, .rightBracket :: ts => endLine? ts
    | true, .rightBracket :: .rightBracket :: ts => endLine? ts
    | _, _ => none
  return (⟨header, isElement, []⟩, rest)

/-- The sections of a document, `current` being the one that entries go into. -/
def readSections? : (fuel : Nat) → (current : Section) → List Token → Option (List Section)
  | 0, _, _ => none
  | fuel + 1, current, ts =>
    match skipBlank ts with
    | [] => some [current]
    | .newline :: ts => readSections? fuel current ts
    | .leftBracket :: .leftBracket :: ts => do
      let (next, ts) ← readHeader? true ts
      return current :: (← readSections? fuel next ts)
    | .leftBracket :: ts => do
      let (next, ts) ← readHeader? false ts
      return current :: (← readSections? fuel next ts)
    | ts => do
      let (key, ts) ← readKey? ts
      match ts with
      | .equals :: ts =>
        let (value, ts) ← readValue? (ts.length + 1) (skipBlank ts)
        let entries ← addKeyed? value key current.entries
        readSections? fuel { current with entries := entries } (← endLine? ts)
      | _ => none

/-! ## Tables -/

/-- A section seen from inside the table that its first name leads to. -/
def Section.inner (s : Section) : Section := { s with header := s.header.tail }

/-- Whether a section, seen from inside a list of tables, is an element of it. -/
def Section.startsElement (s : Section) : Bool := s.isElement && s.header.isEmpty

/-- The sections of a list of tables, one list for each element. -/
def elements (sections : List Section) : List (List Section) :=
  sections.foldr (fun s chunks =>
    match chunks with
    | chunk :: later =>
      if chunk.head?.any Section.startsElement then [s] :: chunks else (s :: chunk) :: later
    | [] => [[s]]) []

/-- The entries of the table that the sections belong to.  `hasOwn` says that the table had a
section of its own already. -/
def gather? : (fuel : Nat) → (hasOwn : Bool) → List Section →
    Option (List (Option String × Data))
  | 0, _, _ => none
  | _, _, [] => some []
  | fuel + 1, hasOwn, s :: rest =>
    match s.header with
    | [] =>
      if hasOwn || s.isElement then none
      else (gather? fuel true rest).map (entriesToData s.entries ++ ·)
    | name :: more => do
      let (same, others) := rest.partition fun other => other.header.head? == some name
      let inner := (s :: same).map Section.inner
      let element (chunk : List Section) : Option Data :=
        match chunk with
        | own :: below =>
          (gather? fuel true below).map fun below => .table (entriesToData own.entries ++ below)
        | [] => none
      let value ←
        if s.isElement && more.isEmpty then ((elements inner).mapM element).map Data.list
        else (gather? fuel false inner).map Data.table
      return (some name, value) :: (← gather? fuel hasOwn others)

/-- Bound on the number of steps of `gather?`: each one leaves a section behind or goes one name
further into the headers. -/
def gatherBound (sections : List Section) : Nat :=
  sections.foldl (fun n s => n + s.header.length + 1) 1

/-- Reads a text as a document. -/
def read? (text : String) : Option Data := do
  let ts ← tokens? text
  let sections ← readSections? (ts.length + 1) ⟨[], false, []⟩ ts
  return .table (← gather? (gatherBound sections) false sections)

end LateralTorque.Toml
