/-!
# TOML documents

A document is a table.  Tables can be written in several ways: under a
header, only as a step in the header of another table, by dotted keys, or
inline.  How a table was written decides how more can be added to it later,
so that no key is ever given two meanings.
-/

namespace BuildWatch

/-- How a table was written. -/
inductive TableOrigin where
  /-- Under its own header. -/
  | header
  /-- As a step in the header of a table inside it. -/
  | implied
  /-- As a step in a dotted key. -/
  | dotted
  /-- As a value. -/
  | inline
deriving DecidableEq, Inhabited

/-- A value; numbers with fractions and dates are known only as such. -/
inductive Toml where
  | string (text : String)
  | integer (number : Int)
  | float
  | boolean (truth : Bool)
  | dateTime
  | array (items : List Toml)
  | table (origin : TableOrigin) (entries : List (String × Toml))
  /-- Tables under repeated headers, the last of which is the open one. -/
  | tables (elements : List (List (String × Toml)))
deriving Inhabited

namespace Toml

/-- The entries of a table, in the order in which their keys came up. -/
abbrev Entries := List (String × Toml)

def find? (key : String) (entries : Entries) : Option Toml :=
  (entries.find? (·.1 = key)).map (·.2)

/-- Gives a key another value, or a first one. -/
def set (key : String) (value : Toml) : Entries → Entries
  | [] => [(key, value)]
  | (other, bound) :: rest =>
      if key = other then (key, value) :: rest
      else (other, bound) :: set key value rest

/--
Changes the table at the end of a path.  Tables that are missing on the way
are made; of repeated tables the path goes through the last.  Dotted keys do
not go through tables that have a header, and nothing goes through a value.
-/
def edit (dotted : Bool)
    (change : TableOrigin → Entries → Option (TableOrigin × Entries)) :
    List String → TableOrigin → Entries → Option (TableOrigin × Entries)
  | [], origin, entries => change origin entries
  | key :: rest, origin, entries =>
      match find? key entries with
      | none => do
          let made := if dotted then TableOrigin.dotted else .implied
          let (inner, child) ← edit dotted change rest made []
          some (origin, set key (.table inner child) entries)
      | some (.table .inline _) => none
      | some (.table .header child) =>
          if dotted then none
          else do
            let (inner, changed) ← edit dotted change rest .header child
            some (origin, set key (.table inner changed) entries)
      | some (.table known child) => do
          let (inner, changed) ← edit dotted change rest known child
          some (origin, set key (.table inner changed) entries)
      | some (.tables elements) => do
          let open_ ← elements.getLast?
          let (_, changed) ← edit dotted change rest .header open_
          some (origin,
            set key (.tables (elements.dropLast ++ [changed])) entries)
      | some _ => none

/-- Gives a new key a value; a dotted key ends in a table made by such keys. -/
def insertLast (dotted : Bool) (key : String) (value : Toml)
    (origin : TableOrigin) (entries : Entries) :
    Option (TableOrigin × Entries) :=
  if dotted && origin ≠ .dotted then none
  else
    match find? key entries with
    | some _ => none
    | none => some (origin, entries ++ [(key, value)])

/-- Gives the end of a dotted key a value. -/
def insert (path : List String) (value : Toml) (origin : TableOrigin)
    (entries : Entries) : Option (TableOrigin × Entries) :=
  match path.getLast? with
  | none => none
  | some key =>
      let above := path.dropLast
      edit true (insertLast (!above.isEmpty) key value) above origin entries

/-- Starts the table under a header. -/
def openTable (path : List String) (entries : Entries) : Option Entries := do
  let key ← path.getLast?
  let start (origin : TableOrigin) (inside : Entries) :
      Option (TableOrigin × Entries) :=
    match find? key inside with
    | none => some (origin, inside ++ [(key, .table .header [])])
    | some (.table .implied known) =>
        some (origin, set key (.table .header known) inside)
    | some _ => none
  let (_, changed) ← edit false start path.dropLast .header entries
  some changed

/-- Starts the next of the tables under a repeated header. -/
def openElement (path : List String) (entries : Entries) :
    Option Entries := do
  let key ← path.getLast?
  let start (origin : TableOrigin) (inside : Entries) :
      Option (TableOrigin × Entries) :=
    match find? key inside with
    | none => some (origin, inside ++ [(key, .tables [[]])])
    | some (.tables elements) =>
        some (origin, set key (.tables (elements ++ [[]])) inside)
    | some _ => none
  let (_, changed) ← edit false start path.dropLast .header entries
  some changed

/-- Gives a dotted key a value in the table that was started last. -/
def insertUnder (header path : List String) (value : Toml)
    (entries : Entries) : Option Entries := do
  let (_, changed) ← edit false (insert path value) header .header entries
  some changed

end Toml

end BuildWatch
