import Rulebook.Toml.Value

/-!
# Tables under construction

Keys fill a table one after the other.  A table that a header has opened cannot be opened again, a
table that dotted keys have made can be extended by dotted keys only, and a value that is written as
a whole is closed.
-/

namespace Rulebook
namespace Toml

/-- How a table came about. -/
inductive Origin where
  /-- A header opened it. -/
  | header
  /-- The header of a table below it made it. -/
  | implied
  /-- A dotted key made it. -/
  | dotted
  deriving DecidableEq, Repr

/-- What a key holds while a table is being filled. -/
inductive Entry where
  /-- A value that is written as a whole. -/
  | value (value : Value)
  /-- A table that can be filled further. -/
  | table (origin : Origin) (entries : List (String × Entry))
  /-- Tables that are opened one after the other, the last one first. -/
  | tables (last : List (String × Entry)) (earlier : List (List (String × Entry)))

/-- A table while it is being filled. -/
abbrev Entries : Type :=
  List (String × Entry)

namespace Entries

/-- Replaces what a key holds, or adds it behind the other keys. -/
def put (key : String) (entry : Entry) : Entries → Entries
  | [] => [(key, entry)]
  | (known, held) :: later =>
      if known = key then (known, entry) :: later else (known, held) :: put key entry later

/-- Changes the table that a key of a header path holds. -/
def below (change : Entries → Option Entries) (key : String) (entries : Entries) :
    Option Entries :=
  match entries.lookup key with
  | none => (change []).map fun inner => entries.put key (.table .implied inner)
  | some (.table origin inner) =>
      (change inner).map fun inner => entries.put key (.table origin inner)
  | some (.tables last earlier) =>
      (change last).map fun last => entries.put key (.tables last earlier)
  | some (.value _) => none

/-- Changes the table that a header path leads to. -/
def descend (change : Entries → Option Entries) : List String → Entries → Option Entries
  | [], entries => change entries
  | key :: path, entries => below (descend change path) key entries

/-- Opens the table of a header. -/
def openTable (key : String) (entries : Entries) : Option Entries :=
  match entries.lookup key with
  | none => some (entries.put key (.table .header []))
  | some (.table .implied inner) => some (entries.put key (.table .header inner))
  | some _ => none

/-- Opens one more table of a header for many. -/
def openNext (key : String) (entries : Entries) : Option Entries :=
  match entries.lookup key with
  | none => some (entries.put key (.tables [] []))
  | some (.tables last earlier) => some (entries.put key (.tables [] (last :: earlier)))
  | some _ => none

/-- Gives a key its value; `origin` tells how the table came about and `isInner` whether a dotted
key leads to it. -/
def assignHere (key : String) (value : Value) (origin : Origin) (isInner : Bool)
    (entries : Entries) : Option Entries :=
  if isInner ∧ origin ≠ .dotted then none
  else
    match entries.lookup key with
    | none => some (entries.put key (.value value))
    | some _ => none

/-- Gives a dotted key its value.  On the way down a table must not have been opened by a header. -/
def assign (value : Value) (origin : Origin) (isInner : Bool) :
    List String → Entries → Option Entries
  | [], _ => none
  | [key], entries => assignHere key value origin isInner entries
  | key :: path, entries =>
      match entries.lookup key with
      | none =>
          (assign value .dotted true path []).map fun inner =>
            entries.put key (.table .dotted inner)
      | some (.table .header _) => none
      | some (.table made inner) =>
          (assign value made true path inner).map fun inner => entries.put key (.table made inner)
      | some (.tables last earlier) =>
          (assign value .header true path last).map fun last =>
            entries.put key (.tables last earlier)
      | some (.value _) => none

/-- Gives a dotted key its value in a table that a header or a bracket has opened. -/
def set (path : List String) (value : Value) (entries : Entries) : Option Entries :=
  assign value .header false path entries

end Entries

mutual

/-- The finished value of a key. -/
def Entry.finish : Entry → Value
  | .value value => value
  | .table _ entries => .table (finishEntries entries)
  | .tables last earlier => .array (finishTables earlier [.table (finishEntries last)])

/-- The finished values of keys. -/
def finishEntries : List (String × Entry) → List (String × Value)
  | [] => []
  | (key, entry) :: later => (key, entry.finish) :: finishEntries later

/-- The finished tables before others, given the last one first. -/
def finishTables : List (List (String × Entry)) → List Value → List Value
  | [], later => later
  | entries :: earlier, later => finishTables earlier (.table (finishEntries entries) :: later)

end

end Toml
end Rulebook
