import MakeAtlas.Value.Basic

/-!
# Tables of a TOML document under construction

A table is defined by a header of its own or by dotted keys, and only within one section of the
document: a later section may not define it again, but it may add tables below it. Tables that stand
only in front of others in a header are not defined by it. Values written in one piece, lists and
tables among them, are never added to.

* `define`   a header
* `extend`   a header of a list of tables
* `assign`   a key with its value
-/

namespace MakeAtlas.Toml

/-- A part of a document under construction. -/
inductive Node where
  /-- A value written in one piece. -/
  | value (v : Value)
  /-- A table and the section that has defined it. -/
  | table (definedIn : Option Nat) (entries : List (String × Node))
  /-- A list of tables, one for each of its headers; the last one may still grow. -/
  | tables (earlier : List (List (String × Node))) (last : List (String × Node))

/-- The entries of a table under construction. -/
abbrev Entries := Table Node

namespace Node

mutual

/-- The finished value. -/
def toValue : Node → Value
  | value v => v
  | table _ entries => .table (toValues entries)
  | tables earlier last => .list (toItems earlier ++ [.table (toValues last)])

/-- The finished entries of a table. -/
def toValues : List (String × Node) → List (String × Value)
  | [] => []
  | (key, node) :: rest => (key, toValue node) :: toValues rest

/-- The finished items of a list of tables. -/
def toItems : List (List (String × Node)) → List Value
  | [] => []
  | entries :: rest => .table (toValues entries) :: toItems rest

end

end Node

/-- Changes the table at a path. A list of tables stands for its last one; tables that are missing
on the way are made. -/
def change (f : Entries → Option Entries) : List String → Entries → Option Entries
  | [], entries => f entries
  | key :: path, entries =>
    match Table.get? entries key with
    | none => (change f path []).map fun inner => Table.put entries key (.table none inner)
    | some (.table definedIn inner) =>
      (change f path inner).map fun inner => Table.put entries key (.table definedIn inner)
    | some (.tables earlier last) =>
      (change f path last).map fun last => Table.put entries key (.tables earlier last)
    | some (.value _) => none

/-- Whether a table may be defined in a section. -/
def isOpen (number : Nat) (definedIn : Option Nat) : Bool :=
  definedIn.all (number ≤ ·)

/-- Defines the table under a key by a header. -/
def define (number : Nat) (key : String) (entries : Entries) : Option Entries :=
  match Table.get? entries key with
  | none => some (Table.put entries key (.table (some number) []))
  | some (.table none inner) => some (Table.put entries key (.table (some number) inner))
  | some _ => none

/-- Adds a table to the list of tables under a key. -/
def extend (key : String) (entries : Entries) : Option Entries :=
  match Table.get? entries key with
  | none => some (Table.put entries key (.tables [] []))
  | some (.tables earlier last) =>
    some (Table.put entries key (.tables (earlier ++ [last]) []))
  | some _ => none

/-- Enters a value under a dotted key. -/
def assign (number : Nat) (value : Value) (key : String) :
    (rest : List String) → Entries → Option Entries
  | [], entries =>
    if Table.has entries key then none else some (Table.put entries key (.value value))
  | next :: rest, entries =>
    match Table.get? entries key with
    | none =>
      (assign number value next rest []).map fun inner =>
        Table.put entries key (.table (some number) inner)
    | some (.table definedIn inner) =>
      if isOpen number definedIn then
        (assign number value next rest inner).map fun inner =>
          Table.put entries key (.table (some number) inner)
      else none
    | some _ => none

end MakeAtlas.Toml
