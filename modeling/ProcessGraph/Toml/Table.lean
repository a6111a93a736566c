import ProcessGraph.Json.Value

/-!
# Tables of a configuration file

* `Node`: a value, a table that can still grow, or an array of tables.
* `Origin`: how a table came to be, which decides who may add to it.
* `assign`: sets a dotted key in a table.
* `Section`: the entries below one header; `build` puts all sections together.

A table has one header at most. A header may add tables below any table; a dotted key adds only to
tables that dotted keys have made.
-/

namespace ProcessGraph.Toml

open Json (Value)

/-- How a table came to be: by its own header, as a step of a header, or as a step of a dotted
key. -/
inductive Origin where
  | header
  | headerStep
  | keyStep
deriving DecidableEq, Repr

/-- What a table holds under a key. -/
inductive Node where
  | value (v : Value)
  | table (origin : Origin) (entries : List (String × Node))
  | tables (items : List (List (String × Node)))

/-- The entries of a table. -/
abbrev Entries := Keyed String Node

namespace Entries

/-- Changes the last of some tables. -/
def changeLast (change : Entries → Option Entries) : List Entries → Option (List Entries)
  | [] => none
  | [t] => (change t).map fun t => [t]
  | t :: u :: rest => (changeLast change (u :: rest)).map fun ts => t :: ts

/-- Follows the steps of a header from a table, making tables where there are none, and changes the
table that they lead to. Of an array of tables the last one is meant. -/
def alongHeader (change : Entries → Option Entries) : List String → Entries → Option Entries
  | [], t => change t
  | key :: rest, t =>
    match Keyed.find? key t with
    | none => (alongHeader change rest []).map fun sub => Keyed.insert key (.table .headerStep sub) t
    | some (.value _) => none
    | some (.table origin sub) =>
      (alongHeader change rest sub).map fun sub => Keyed.insert key (.table origin sub) t
    | some (.tables items) =>
      (changeLast (alongHeader change rest) items).map fun items => Keyed.insert key (.tables items) t

/-- Sets a key to a value, unless it is there. -/
def setNew (key : String) (v : Value) (t : Entries) : Option Entries :=
  match Keyed.find? key t with
  | none => some (Keyed.insert key (.value v) t)
  | some _ => none

/-- Sets a dotted key: `key` below the tables of the steps. Only a table of dotted keys takes the
value; on the way there, tables without a header of their own are passed. -/
def assign (key : String) (v : Value) : (steps : List String) → (takes : Bool) → Entries → Option Entries
  | [], takes, t => if takes then setNew key v t else none
  | step :: rest, _, t =>
    match Keyed.find? step t with
    | none =>
      (assign key v rest true []).map fun sub => Keyed.insert step (.table .keyStep sub) t
    | some (.value _) => none
    | some (.table origin sub) =>
      if origin = .header then none
      else
        (assign key v rest (decide (origin = .keyStep)) sub).map fun sub =>
          Keyed.insert step (.table origin sub) t
    | some (.tables items) =>
      (changeLast (assign key v rest false) items).map fun items =>
        Keyed.insert step (.tables items) t

/-- Sets the dotted keys of a table one after another. -/
def assignAll : List (List String × String × Value) → Entries → Option Entries
  | [], t => some t
  | (steps, key, v) :: rest, t => (assign key v steps true t).bind (assignAll rest)

/-- Opens a table under a key for the entries below its header. It may be there already as a step of
another header. -/
def openTable (key : String) (pairs : List (List String × String × Value)) (t : Entries) :
    Option Entries :=
  match Keyed.find? key t with
  | none => (assignAll pairs []).map fun sub => Keyed.insert key (.table .header sub) t
  | some (.table .headerStep sub) =>
    (assignAll pairs sub).map fun sub => Keyed.insert key (.table .header sub) t
  | some _ => none

/-- Adds a table to the array of tables under a key. -/
def pushTable (key : String) (pairs : List (List String × String × Value)) (t : Entries) :
    Option Entries :=
  match Keyed.find? key t with
  | none => (assignAll pairs []).map fun sub => Keyed.insert key (.tables [sub]) t
  | some (.tables items) =>
    (assignAll pairs []).map fun sub => Keyed.insert key (.tables (items ++ [sub])) t
  | some _ => none

end Entries

/-- The entries below one header: the steps to its table, the key of the table, and whether it is
one of an array. -/
structure Section where
  steps : List String
  key : String
  isItem : Bool
  pairs : List (List String × String × Value)

/-- Adds a section to the tables of a file. -/
def Section.addTo (s : Section) (t : Entries) : Option Entries :=
  Entries.alongHeader
    (if s.isItem then Entries.pushTable s.key s.pairs else Entries.openTable s.key s.pairs) s.steps t

/-- Adds sections one after another. -/
def addSections : List Section → Entries → Option Entries
  | [], t => some t
  | s :: rest, t => (s.addTo t).bind (addSections rest)

mutual

/-- The value of a node. -/
def Node.toValue : Node → Value
  | .value v => v
  | .table _ entries => .object (membersOf entries)
  | .tables items => .array (objectsOf items)

/-- The members of the object of a table. -/
def membersOf : List (String × Node) → List (String × Value)
  | [] => []
  | (key, node) :: rest => (key, node.toValue) :: membersOf rest

/-- The objects of an array of tables. -/
def objectsOf : List (List (String × Node)) → List Value
  | [] => []
  | entries :: rest => .object (membersOf entries) :: objectsOf rest

end

/-- The object of an inline table. -/
def inlineTable (pairs : List (List String × String × Value)) : Option Value :=
  (Entries.assignAll pairs []).map fun t => .object (membersOf t)

/-- The object of a file: its entries before the first header, and its sections. -/
def build (pairs : List (List String × String × Value)) (sections : List Section) : Option Value :=
  ((Entries.assignAll pairs []).bind (addSections sections)).map fun t => .object (membersOf t)

end ProcessGraph.Toml
