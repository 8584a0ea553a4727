import Gatehouse.Toml.Inline

/-!
# Statements in TOML

A document is a list of statements, one a line: a header opens a table or begins a row of a list of
tables, and an assignment puts a value into the table that was opened last.
-/

namespace Gatehouse.Toml

open Document

inductive Statement where
  | table (path : List String)
  | row (path : List String)
  | assign (path : List String) (v : Value)

/-! ## Reading -/

/-- Reads a header or an assignment. -/
def readStatement (cs : List Char) : Option (Statement × List Char) :=
  match cs with
  | '[' :: '[' :: cs => do
    let (path, rest) ← readPath cs
    match rest with
    | ']' :: ']' :: rest => return (.row path, rest)
    | _ => none
  | '[' :: cs => do
    let (path, rest) ← readPath cs
    match rest with
    | ']' :: rest => return (.table path, rest)
    | _ => none
  | cs => do
    let ((path, v), rest) ← readAssignment readValue cs
    return (.assign path v, rest)

/-- What follows a line on which nothing is left but blanks and a comment. -/
def finishLine (cs : List Char) : Option (List Char) :=
  match skipComment (skipGaps cs) with
  | [] => some []
  | rest => lineEnd? rest

def readStatements : Nat → List Char → Option (List Statement)
  | _, [] => some []
  | 0, _ => none
  | n + 1, cs =>
    match finishLine cs with
    | some rest => readStatements n rest
    | none => do
      let (statement, rest) ← readStatement (skipGaps cs)
      let statements ← readStatements n (← finishLine rest)
      return statement :: statements

/-- Drops a byte order mark. -/
def skipMark : List Char → List Char
  | '\ufeff' :: cs => cs
  | cs => cs

/-! ## Meaning -/

/-- The tables so far, and the path to the one that was opened last. -/
structure Draft where
  entries : Entries := []
  place : List String := []

namespace Draft

/-- Changes the last key of a header's path in its table, and stands there. -/
def openAt (draft : Draft) (path : List String) (change : String → Entries.Change) :
    Option Draft := do
  let key ← path.getLast?
  let entries ← Entries.changeAt path.dropLast (change key) draft.entries
  return { entries, place := path }

def obey (draft : Draft) : Statement → Option Draft
  | .table path => draft.openAt path Entries.openTable
  | .row path => draft.openAt path Entries.openRow
  | .assign path v => do
    let entries ← Entries.changeAt draft.place (Entries.assign path v) draft.entries
    return { draft with entries }

end Draft

/-- The record that the statements of a document make. -/
def Statement.meaning? (statements : List Statement) : Option Value := do
  let draft ← statements.foldlM Draft.obey {}
  return draft.entries.toValue

/-- Reads a document. -/
def parse? (text : String) : Option Value :=
  let cs := skipMark text.toList
  readStatements cs.length cs >>= Statement.meaning?

end Gatehouse.Toml
