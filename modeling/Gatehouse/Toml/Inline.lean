import Gatehouse.Toml.Key
import Gatehouse.Toml.Scalar
import Gatehouse.Toml.Tree

/-!
# Values in TOML

A value is a scalar, a text, a list or an inline table. A list may run over lines, hold comments and
end in a comma; an inline table may do none of these.
-/

namespace Gatehouse.Toml

open Document

/-- Drops a comment, if there is one, up to the end of its line. -/
def skipComment : List Char → List Char
  | '#' :: cs => cs.dropWhile isPlain
  | cs => cs

/-- Drops blanks, line ends and comments that end with their line. -/
def skipBreaks : Nat → List Char → List Char
  | 0, cs => cs
  | n + 1, cs =>
    match skipLines cs with
    | '#' :: comment =>
      match lineEnd? (comment.dropWhile isPlain) with
      | some rest => skipBreaks n rest
      | none => '#' :: comment
    | rest => rest

/-- A way to read a value. -/
abbrev Reader := List Char → Option (Value × List Char)

/-- Reads the elements of a list that is not closed yet, and its closing. -/
def readElements (read : Reader) : Nat → List Char → Option (List Value × List Char)
  | 0, _ => none
  | n + 1, cs =>
    match skipBreaks cs.length cs with
    | ']' :: rest => some ([], rest)
    | cs => do
      let (v, rest) ← read cs
      match skipBreaks rest.length rest with
      | ',' :: rest => do
        let (more, rest) ← readElements read n rest
        return (v :: more, rest)
      | ']' :: rest => return ([v], rest)
      | _ => none

/-- Reads a dotted key and its value. -/
def readAssignment (read : Reader) (cs : List Char) :
    Option ((List String × Value) × List Char) := do
  let (path, rest) ← readPath cs
  match rest with
  | '=' :: rest => do
    let (v, rest) ← read (skipGaps rest)
    return ((path, v), rest)
  | _ => none

/-- Reads assignments between commas, of which there is one at least, and the closing brace. -/
def readAssignments (read : Reader) : Nat → List Char →
    Option (List (List String × Value) × List Char)
  | 0, _ => none
  | n + 1, cs => do
    let (assignment, rest) ← readAssignment read cs
    match skipGaps rest with
    | ',' :: rest => do
      let (more, rest) ← readAssignments read n rest
      return (assignment :: more, rest)
    | '\x7d' :: rest => return ([assignment], rest)
    | _ => none

/-- Reads a list after its opening. -/
def readList (read : Reader) (cs : List Char) : Option (Value × List Char) :=
  (readElements read (cs.length + 1) cs).map (·.map Value.list id)

/-- Reads an inline table after its opening. -/
def readInlineTable (read : Reader) (cs : List Char) : Option (Value × List Char) :=
  match skipGaps cs with
  | '\x7d' :: rest => some (.record [], rest)
  | cs => do
    let (assignments, rest) ← readAssignments read (cs.length + 1) cs
    let entries ← Entries.ofAssignments assignments
    return (entries.toValue, rest)

/-- Reads a value in which lists and tables are nested at most `depth` levels. -/
def readNested (depth : Nat) (cs : List Char) : Option (Value × List Char) :=
  match depth, cs with
  | n + 1, '[' :: cs => readList (readNested n) cs
  | n + 1, '\x7b' :: cs => readInlineTable (readNested n) cs
  | _, '"' :: _ | _, '\'' :: _ => (readText cs).map (·.map (Value.text ∘ String.ofList) id)
  | _, _ => readScalar cs

def readValue : Reader := readNested (depthLimit - 1)

end Gatehouse.Toml
