/-
The tables of a TOML text while it is read. How a table came about decides what may still be added to it: a table that a
header names is defined once; one that only stands on the way to another may still be defined by a header; one that a
dotted key makes takes more dotted keys and no header; values, with inline tables among them, are closed.
-/
import AccessibleWalk.Document.Basic

namespace AccessibleWalk.Toml

/-- how a table came about -/
inductive Origin where
  | header
  | passed
  | dotted
  deriving DecidableEq

/-- what a key stands for -/
inductive Node where
  | value (d : Document)
  | table (origin : Origin) (entries : List (String × Node))
  /-- a list of tables made by headers, the newest first -/
  | tables (done : List (List (String × Node)))

abbrev Entries : Type := List (String × Node)

namespace Entries

def find? (entries : Entries) (key : String) : Option Node := entries.lookup key

/-- puts a node under a key, in place of the one that is there -/
def put (key : String) (node : Node) : Entries → Entries
  | [] => [(key, node)]
  | (other, old) :: rest => if key = other then (key, node) :: rest else (other, old) :: put key node rest

/-- changes the table at the end of a path of header keys, making tables on the way -/
def along (change : Entries → Option Entries) : List String → Entries → Option Entries
  | [], entries => change entries
  | key :: path, entries =>
    match entries.find? key with
    | none => (along change path []).map fun inner => entries.put key (.table .passed inner)
    | some (.table origin inner) => (along change path inner).map fun inner => entries.put key (.table origin inner)
    | some (.tables (newest :: older)) =>
      (along change path newest).map fun newest => entries.put key (.tables (newest :: older))
    | some _ => none

/-- changes the table at the end of the front part of a dotted key; tables that a header has defined are closed to it -/
def alongDotted (change : Entries → Option Entries) : List String → Entries → Option Entries
  | [], entries => change entries
  | key :: path, entries =>
    match entries.find? key with
    | none => (alongDotted change path []).map fun inner => entries.put key (.table .dotted inner)
    | some (.table .header _) => none
    | some (.table origin inner) =>
      (alongDotted change path inner).map fun inner => entries.put key (.table origin inner)
    | some _ => none

/-- gives a dotted key a value, which it must not have yet -/
def define (path : List String) (key : String) (d : Document) (entries : Entries) : Option Entries :=
  entries.alongDotted (fun inner =>
    match inner.find? key with
    | none => some (inner.put key (.value d))
    | some _ => none) path

/-- defines a table by a header -/
def openTable (path : List String) (key : String) (entries : Entries) : Option Entries :=
  entries.along (fun inner =>
    match inner.find? key with
    | none => some (inner.put key (.table .header []))
    | some (.table .passed given) => some (inner.put key (.table .header given))
    | some _ => none) path

/-- adds a table to a list of tables by a header -/
def openListed (path : List String) (key : String) (entries : Entries) : Option Entries :=
  entries.along (fun inner =>
    match inner.find? key with
    | none => some (inner.put key (.tables [[]]))
    | some (.tables done) => some (inner.put key (.tables ([] :: done)))
    | some _ => none) path

end Entries

/-! ## Documents -/

mutual

/-- what a key stands for once the text is read -/
def Node.document : Node → Document
  | .value d => d
  | .table _ entries => .record (entriesFields entries)
  | .tables done => .list (tablesItems done [])

def entriesFields : List (String × Node) → List (String × Document)
  | [] => []
  | (key, node) :: rest => (key, node.document) :: entriesFields rest

/-- the tables of a list, put in front of those that come after -/
def tablesItems : List (List (String × Node)) → List Document → List Document
  | [], after => after
  | entries :: older, after => tablesItems older (.record (entriesFields entries) :: after)

end

/-- the record of a table -/
def Entries.document (entries : Entries) : Document := .record (entriesFields entries)

end AccessibleWalk.Toml
