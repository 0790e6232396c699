import StateTree.Toml.Lexeme
import StateTree.Toml.Value

/-!
# `StateTree.Toml.Tree`: tables while they are being read

A table may be written in several pieces: its own header, headers of tables in it, and keys with
points. Which pieces may come together depends on how the table came to be.

- `Node`, `Entries`: the tables read so far.
- `Entries.assign`: the entry of a key.
- `Entries.define`, `Entries.append`: the table and the item of a header.
- `entryValues`: the tables as values.
-/

set_option autoImplicit false

namespace StateTree.Toml

/-- How a table came to be: by its header, on the way to a header, or on the way to an entry. -/
inductive Origin where
  | header
  | onHeader
  | onEntry
  deriving DecidableEq, Repr

/-- What stands under a name. -/
inductive Node where
  /-- A value, to which nothing can be added. -/
  | value (v : Value)
  | table (origin : Origin) (entries : List (String × Node))
  /-- An array of tables; the last one can be added to. -/
  | tables (done : List (List (String × Node))) (last : List (String × Node))

/-- The entries of a table. -/
abbrev Entries : Type := List (String × Node)

namespace Entries

/-- The entries with another node under a name that has one. -/
def replace (entries : Entries) (name : String) (node : Node) : Entries :=
  entries.map fun (other, old) => if other = name then (other, node) else (other, old)

/-- Changes the table at a path of names. Tables that are not there are made on the way. A value
in the way makes it fail. -/
def within (change : Entries → Option Entries) : List String → Entries → Option Entries
  | [], entries => change entries
  | name :: path, entries =>
    match entries.lookup name with
    | none => (within change path []).map fun made => entries ++ [(name, .table .onHeader made)]
    | some (.table origin inner) =>
      (within change path inner).map fun inner => entries.replace name (.table origin inner)
    | some (.tables done last) =>
      (within change path last).map fun last => entries.replace name (.tables done last)
    | some (.value _) => none

/-- Gives a name a value, which it must not have yet. -/
def put (entries : Entries) (name : String) (value : Value) : Option Entries :=
  if (entries.lookup name).isSome then none else some (entries ++ [(name, .value value)])

/-- Gives the name at the end of a path a value. Tables on the way are those of other entries or on
the way to a header, but the last one is of other entries. -/
def assignAt (name : String) (value : Value) : List String → Entries → Option Entries
  | [], entries => entries.put name value
  | first :: path, entries =>
    match entries.lookup first with
    | none =>
      (assignAt name value path []).map fun made => entries ++ [(first, .table .onEntry made)]
    | some (.table origin inner) =>
      -- A table with a header of its own is complete, and one on the way to a header can only be
      -- passed through.
      if origin = .header || (path.isEmpty && origin = .onHeader) then none
      else
        (assignAt name value path inner).map fun inner =>
          entries.replace first (.table origin inner)
    | some (.tables done last) =>
      -- An item of an array of tables has a header, too, but may hold tables to add to.
      if path.isEmpty then none
      else
        (assignAt name value path last).map fun last => entries.replace first (.tables done last)
    | some (.value _) => none

/-- The entry of a key. -/
def assign (entries : Entries) (key : Key) (value : Value) : Option Entries :=
  assignAt key.name value key.path entries

/-- The table of a header. There may be one that was only made on the way to another header. -/
def define (entries : Entries) (name : String) : Option Entries :=
  match entries.lookup name with
  | none => some (entries ++ [(name, .table .header [])])
  | some (.table .onHeader inner) => some (entries.replace name (.table .header inner))
  | some _ => none

/-- The next item of an array of tables. -/
def append (entries : Entries) (name : String) : Option Entries :=
  match entries.lookup name with
  | none => some (entries ++ [(name, .tables [] [])])
  | some (.tables done last) => some (entries.replace name (.tables (done ++ [last]) []))
  | some _ => none

end Entries

mutual

/-- The value under a name. -/
def Node.toValue : Node → Value
  | .value v => v
  | .table _ entries => .table (entryValues entries)
  | .tables done last => .array (tableValues done ++ [.table (entryValues last)])

/-- The values of entries. -/
def entryValues : List (String × Node) → List (String × Value)
  | [] => []
  | (name, node) :: rest => (name, node.toValue) :: entryValues rest

/-- Tables as values. -/
def tableValues : List (List (String × Node)) → List Value
  | [] => []
  | entries :: rest => .table (entryValues entries) :: tableValues rest

end

end StateTree.Toml
