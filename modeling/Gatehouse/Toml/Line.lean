import Gatehouse.Toml.Statement

/-!
# Lines of a TOML document

How a document is laid out: each header after an empty line, and each setting on a line of its own
with its value. A list of several texts has a line for each.
-/

namespace Gatehouse.Toml

open Document

/-- A value on a line of its own. -/
inductive Setting where
  | flag (b : Bool)
  | text (s : String)
  | texts (l : List String)

inductive Line where
  | table (path : List String)
  | row (path : List String)
  | setting (key : String) (s : Setting)

def Setting.toValue : Setting → Value
  | flag b => .bool b
  | text s => .text s
  | texts l => .texts l

def Line.toStatement : Line → Statement
  | table path => .table path
  | row path => .row path
  | setting key s => .assign [key] s.toValue

/-- An element on its own line, indented, with a comma. -/
def writeElement (s : String) : List Char :=
  [' ', ' ', ' ', ' '] ++ writeText s.toList ++ [',', '\n']

def Setting.write : Setting → List Char
  | flag true => ['t', 'r', 'u', 'e']
  | flag false => ['f', 'a', 'l', 's', 'e']
  | text s => writeText s.toList
  | texts [] => ['[', ']']
  | texts [s] => ['['] ++ writeText s.toList ++ [']']
  | texts l => ['[', '\n'] ++ l.flatMap writeElement ++ [']']

def Line.isHeader : Line → Bool
  | table _ | row _ => true
  | setting .. => false

def Line.write : Line → List Char
  | table path => ['['] ++ writePath path ++ [']', '\n']
  | row path => ['[', '['] ++ writePath path ++ [']', ']', '\n']
  | setting key s => writeKey key ++ [' ', '=', ' '] ++ s.write ++ ['\n']

/-- Writes lines that follow others. -/
def writeMore (lines : List Line) : List Char :=
  lines.flatMap fun line => (if line.isHeader then ['\n'] else []) ++ line.write

/-- Writes a document. -/
def writeLines : List Line → String
  | [] => ""
  | line :: lines => String.ofList (line.write ++ writeMore lines)

end Gatehouse.Toml
