import Gleaner.Json.Basic

/-!
# Tables of TOML documents

A document builds one table, line by line. A table is defined once: by its own header, by the dotted
keys of another table, or by being on the way to a table with a header, and only the last kind may
still be given a header. No key is ever given a second value.
-/

namespace Gleaner.Toml

/-- How a table came to be. -/
inductive Origin where
  | header
  | dottedKey
  | onTheWay
deriving DecidableEq

inductive Node where
  | value (v : Json)
  | table (origin : Origin) (entries : List (String × Node))
  /-- An array of tables, last first. -/
  | tables (elements : List (List (String × Node)))

abbrev Table := List (String × Node)

namespace Table

/-- Change the table that a path leads to, making the tables on the way. -/
def change (change? : Table → Option Table) : List String → Table → Option Table
  | [], t => change? t
  | key :: path, t =>
    match Entries.get? key t with
    | none =>
      (change change? path []).map fun inner => Entries.insert key (.table .onTheWay inner) t
    | some (.table origin inner) =>
      (change change? path inner).map fun inner => Entries.insert key (.table origin inner) t
    | some (.tables (last :: others)) =>
      (change change? path last).map fun last => Entries.insert key (.tables (last :: others)) t
    | some _ => none

/-- Define a table by its header. -/
def define (key : String) (t : Table) : Option Table :=
  match Entries.get? key t with
  | none => some (Entries.insert key (.table .header []) t)
  | some (.table .onTheWay inner) => some (Entries.insert key (.table .header inner) t)
  | some _ => none

/-- Add an element to an array of tables. -/
def addElement (key : String) (t : Table) : Option Table :=
  match Entries.get? key t with
  | none => some (Entries.insert key (.tables [[]]) t)
  | some (.tables elements) => some (Entries.insert key (.tables ([] :: elements)) t)
  | some _ => none

/-- Give a value to a key whose parts are `path` and `key`. -/
def assign (key : String) (v : Json) : List String → Table → Option Table
  | [], t => if Entries.contains key t then none else some (Entries.insert key (.value v) t)
  | part :: path, t =>
    match Entries.get? part t with
    | none =>
      (assign key v path []).map fun inner => Entries.insert part (.table .dottedKey inner) t
    | some (.table .dottedKey inner) =>
      (assign key v path inner).map fun inner => Entries.insert part (.table .dottedKey inner) t
    | some _ => none

end Table

mutual

def Node.toJson : Node → Json
  | .value v => v
  | .table _ entries => .object (membersOf entries)
  | .tables elements => .array (elementsOf elements).reverse

def membersOf : List (String × Node) → List (String × Json)
  | [] => []
  | (key, node) :: rest => (key, node.toJson) :: membersOf rest

def elementsOf : List (List (String × Node)) → List Json
  | [] => []
  | entries :: rest => .object (membersOf entries) :: elementsOf rest

end

/-- The document that a table denotes. -/
def Table.toJson (t : Table) : Json :=
  .object (membersOf t)

end Gleaner.Toml
