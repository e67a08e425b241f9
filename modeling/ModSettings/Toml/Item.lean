/-
The values of a TOML document.

A table remembers how it came about, since that decides whether a later line may
add to it.  `Table.below` is the one rule for that: it leads from a table to the
table of a given name inside it, and makes that table where there is none.
-/
namespace ModSettings
namespace Toml

/-- A value without parts.  No setting here is a fraction, a date or a time, so
of these the kind is all that is kept. -/
inductive Scalar where
  | string (text : String)
  | integer (value : Int64)
  | boolean (value : Bool)
  | float
  | moment
  deriving DecidableEq, Repr

/-- How a table came about. -/
inductive Origin where
  /-- Written in braces. -/
  | inline
  /-- Named by a header of its own; the whole document is such a table too. -/
  | header
  /-- On the way to a table that a header names. -/
  | implied
  /-- On the way to a value that a dotted key names. -/
  | dotted
  deriving DecidableEq, Repr

inductive Item where
  | scalar (value : Scalar)
  | array (elements : List Item)
  | table (origin : Origin) (entries : List (String × Item))
  /-- The tables of repeated headers, the latest apart from the others. -/
  | tables (earlier : List (List (String × Item))) (latest : List (String × Item))

structure Table where
  origin : Origin
  entries : List (String × Item) := []

def Table.item (t : Table) : Item := .table t.origin t.entries

namespace Table

def find? (name : String) (t : Table) : Option Item := t.entries.lookup name

/-- Gives the name this item, whatever it had before. -/
def put (name : String) (item : Item) (t : Table) : Table :=
  { t with entries := (name, item) :: t.entries.filter fun entry => entry.1 != name }

/-- Changes the table of the given name inside this one.  `dotted` tells that a
dotted key leads there, and not the path in a header: a dotted key may not enter
a table that has a header of its own.  Nothing enters a table in braces, and of
repeated headers the latest is meant. -/
def below (dotted : Bool) (name : String) (change : Table → Option Table) (t : Table) :
    Option Table :=
  match t.find? name with
  | none => do
      let made ← change { origin := if dotted then .dotted else .implied }
      return t.put name made.item
  | some (.table origin entries) =>
      if origin = .inline ∨ dotted ∧ origin = .header then none
      else do
        let changed ← change { origin, entries }
        return t.put name changed.item
  | some (.tables earlier latest) => do
      let changed ← change { origin := .header, entries := latest }
      return t.put name (.tables earlier changed.entries)
  | some (.scalar _) => none
  | some (.array _) => none

/-- Changes the table at the end of a path. -/
def along (dotted : Bool) (change : Table → Option Table) : List String → Table → Option Table
  | [], t => change t
  | name :: rest, t => t.below dotted name (along dotted change rest)

/-- Gives the last name of a key a value, which it must not have yet.  The names
in front of it lead along tables of dotted keys only. -/
def assign (path : List String) (name : String) (item : Item) (t : Table) : Option Table :=
  t.along true (fun last =>
    if (last.origin = .dotted ↔ path = []) ∨ (last.find? name).isSome then none
    else some (last.put name item)) path

/-- Opens the table of a header.  It may exist already only as one implied by
the headers of others, and then keeps what it holds. -/
def openTable (path : List String) (name : String) (t : Table) : Option Table :=
  t.along false (fun last =>
    match last.find? name with
    | none => some (last.put name (.table .header []))
    | some (.table .implied entries) => some (last.put name (.table .header entries))
    | some _ => none) path

/-- Opens one more table of a repeated header. -/
def openRow (path : List String) (name : String) (t : Table) : Option Table :=
  t.along false (fun last =>
    match last.find? name with
    | none => some (last.put name (.tables [] []))
    | some (.tables earlier latest) => some (last.put name (.tables (earlier ++ [latest]) []))
    | some _ => none) path

end Table

end Toml
end ModSettings
