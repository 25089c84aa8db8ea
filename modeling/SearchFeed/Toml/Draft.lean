import SearchFeed.Toml

/-! # Configuration files in the course of being read

A file spells its tables piecemeal: a header opens a table, a key of several
parts opens the tables on its way, and a double header adds a table to a list.
Each table may be spelled out in one place only, so a draft remembers for every
table how it came about.
-/

namespace SearchFeed.Toml

/-- How a table came about. -/
inductive TableOrigin where
  /-- By a header of its own. -/
  | header
  /-- On the way of a header to a table further down. -/
  | passing
  /-- On the way of a key of several parts. -/
  | dotted
deriving DecidableEq, Repr

/-- A part of a file in the course of being read. -/
inductive Draft where
  | value (value : Toml)
  | table (origin : TableOrigin) (entries : List (String × Draft))
  /-- Tables that double headers added, the last one first. -/
  | tables (items : List (List (String × Draft)))

/-- The entries of a table. -/
abbrev Entries := List (String × Draft)

namespace Entries

/-- The entries with the part at a key replaced, or added at the end. -/
def put (entries : Entries) (key : String) (part : Draft) : Entries :=
  if (entries.lookup key).isSome then
    entries.map fun entry => if entry.1 = key then (key, part) else entry
  else entries ++ [(key, part)]

/-- Changes the entries at the end of a path, passing through tables and through the last one of
each list of tables; what is missing on the way is added. -/
def modifyAt (change : Entries → Option Entries) : (path : List String) → Entries → Option Entries
  | [], entries => change entries
  | key :: path, entries =>
    match entries.lookup key with
    | none => do some (entries.put key (.table .passing (← modifyAt change path [])))
    | some (.table origin inner) => do
      some (entries.put key (.table origin (← modifyAt change path inner)))
    | some (.tables (last :: earlier)) => do
      some (entries.put key (.tables ((← modifyAt change path last) :: earlier)))
    | some _ => none

/-- Sets a value at a key of several parts, the first ones given as a path. All tables on the way
have to be open to such keys, and the one that takes the value has to be made by them. -/
def define (key : String) (value : Toml) : (path : List String) → (origin : TableOrigin) →
    Entries → Option Entries
  | [], origin, entries =>
    if origin ≠ .dotted ∨ (entries.lookup key).isSome then none
    else some (entries ++ [(key, .value value)])
  | step :: path, _, entries =>
    match entries.lookup step with
    | none => do some (entries.put step (.table .dotted (← define key value path .dotted [])))
    | some (.table .header _) => none
    | some (.table origin inner) => do
      some (entries.put step (.table origin (← define key value path origin inner)))
    | some (.tables (last :: earlier)) => do
      some (entries.put step (.tables ((← define key value path .header last) :: earlier)))
    | some _ => none

/-- Sets a value at a key of one or more parts, in a table that its own header opened. -/
def assign (path : List String) (key : String) (value : Toml) (entries : Entries) :
    Option Entries :=
  match path with
  | [] =>
    if (entries.lookup key).isSome then none else some (entries ++ [(key, .value value)])
  | path => define key value path .header entries

/-- Opens the table of a header; only one that lies on the way of another header is there yet. -/
def openTable (key : String) (entries : Entries) : Option Entries :=
  match entries.lookup key with
  | none => some (entries.put key (.table .header []))
  | some (.table .passing inner) => some (entries.put key (.table .header inner))
  | some _ => none

/-- Adds a table to the list of a double header. -/
def addTable (key : String) (entries : Entries) : Option Entries :=
  match entries.lookup key with
  | none => some (entries.put key (.tables [[]]))
  | some (.tables items) => some (entries.put key (.tables ([] :: items)))
  | some _ => none

end Entries

mutual

/-- The value that a draft comes to. -/
def Draft.finish : Draft → Toml
  | .value value => value
  | .table _ entries => .table (finishEntries entries)
  | .tables items => .array (finishTables items).reverse

/-- The entries of a table that a draft comes to. -/
def finishEntries : List (String × Draft) → List (String × Toml)
  | [] => []
  | (key, part) :: rest => (key, part.finish) :: finishEntries rest

/-- The tables of a list that a draft comes to. -/
def finishTables : List (List (String × Draft)) → List Toml
  | [] => []
  | entries :: rest => .table (finishEntries entries) :: finishTables rest

end

end SearchFeed.Toml
