import Gatehouse.Document.Value

/-!
# Trees of tables in TOML

What the lines of a text say, taken together. Every table remembers how it came to be, since that
decides what later lines may do with it: a table that was only implied by a longer header may still
get a header of its own, one made by a dotted key may still be extended by dotted keys, and one that
has had its header is closed to both. A value is closed to everything.
-/

namespace Gatehouse.Toml

open Document

/-- How a table came to be. -/
inductive Origin where
  | implied
  | dotted
  | headed
  deriving DecidableEq

inductive Node where
  | value (v : Value)
  | table (origin : Origin) (entries : List (String × Node))
  | tables (rows : List (List (String × Node)))

/-- The entries of a table, in the order in which they came. -/
abbrev Entries := List (String × Node)

namespace Entries

def find? (entries : Entries) (key : String) : Option Node :=
  (List.find? (·.1 = key) entries).map Prod.snd

/-- Puts a node in the place of the one with its key, or at the end. -/
def put (key : String) (node : Node) : Entries → Entries
  | [] => [(key, node)]
  | entry :: entries =>
    if entry.1 = key then (key, node) :: entries else entry :: put key node entries

/-- A change of a table that can be refused. -/
abbrev Change := Entries → Option Entries

/-- Changes the last row of a list of tables. -/
def changeLast (change : Change) (rows : List (List (String × Node))) :
    Option (List (List (String × Node))) := do
  let last ← rows.getLast?
  return rows.dropLast ++ [← change last]

/-- Changes the table that the keys of a header lead to. Missing tables are implied; a list of tables
stands for its last row. -/
def changeAt : List String → Change → Change
  | [], change => change
  | key :: path, change => fun entries =>
    match entries.find? key with
    | none => do return entries.put key (.table .implied (← changeAt path change []))
    | some (.table origin sub) => do
      return entries.put key (.table origin (← changeAt path change sub))
    | some (.tables rows) => do
      return entries.put key (.tables (← changeLast (changeAt path change) rows))
    | some (.value _) => none

/-- Adds a value under a new key. -/
def add (key : String) (v : Value) : Change := fun entries =>
  match entries.find? key with
  | none => some (entries ++ [(key, .value v)])
  | some _ => none

/-- Adds a value under a dotted key, whose last part is `key`, to a table of the given origin. Missing
tables are made by it; it ends in a table that dotted keys made, and passes none that has a header. -/
def addDotted (origin : Origin) : List String → String → Value → Change
  | [], key, v => fun entries => if origin = .dotted then add key v entries else none
  | step :: path, key, v => fun entries =>
    match entries.find? step with
    | none => do return entries.put step (.table .dotted (← addDotted .dotted path key v []))
    | some (.table .headed _) => none
    | some (.table origin sub) => do
      return entries.put step (.table origin (← addDotted origin path key v sub))
    | some (.tables rows) => do
      return entries.put step (.tables (← changeLast (addDotted .headed path key v) rows))
    | some (.value _) => none

/-- Adds a value under a key of one part or more. -/
def assign (keys : List String) (v : Value) : Change := fun entries =>
  match keys with
  | [] => none
  | [key] => add key v entries
  | step :: more =>
    addDotted .headed (step :: more.dropLast) (more.getLast?.getD "") v entries

/-- Gives a table its header. -/
def openTable (key : String) : Change := fun entries =>
  match entries.find? key with
  | none => some (entries.put key (.table .headed []))
  | some (.table .implied sub) => some (entries.put key (.table .headed sub))
  | some _ => none

/-- Begins a new row of a list of tables. -/
def openRow (key : String) : Change := fun entries =>
  match entries.find? key with
  | none => some (entries.put key (.tables [[]]))
  | some (.tables rows) => some (entries.put key (.tables (rows ++ [[]])))
  | some _ => none

end Entries

mutual

/-- The value that a node amounts to. -/
def Node.toValue : Node → Value
  | .value v => v
  | .table _ entries => .record (entriesToFields entries)
  | .tables rows => .list (rowsToValues rows)

def entriesToFields : List (String × Node) → Fields
  | [] => []
  | (key, node) :: entries => (key, node.toValue) :: entriesToFields entries

def rowsToValues : List (List (String × Node)) → List Value
  | [] => []
  | row :: rows => .record (entriesToFields row) :: rowsToValues rows

end

def Entries.toValue (entries : Entries) : Value := .record (entriesToFields entries)

/-- The table made by the assignments of an inline table. -/
def Entries.ofAssignments (assignments : List (List String × Value)) : Option Entries :=
  assignments.foldlM (fun entries assignment => Entries.assign assignment.1 assignment.2 entries) []

end Gatehouse.Toml
