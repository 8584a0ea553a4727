import Gatehouse.Toml.Text

/-!
# Keys in TOML

A key is a word of letters, digits, hyphens and underscores, or a text on one line. A dotted key is a
path of keys.
-/

namespace Gatehouse.Toml

/-- The characters of a key that is not quoted. -/
def isKeyChar (c : Char) : Bool := c.isAlphanum || c = '-' || c = '_'

def skipGaps (cs : List Char) : List Char := cs.dropWhile isGap

def readKey (cs : List Char) : Option (String × List Char) :=
  match cs with
  | '"' :: quoted => (readBasic (quoted.length + 1) quoted).map (·.map String.ofList id)
  | '\'' :: quoted => (readLiteral quoted).map (·.map String.ofList id)
  | _ =>
    let word := cs.takeWhile isKeyChar
    if word.isEmpty then none else some (String.ofList word, cs.dropWhile isKeyChar)

/-- Reads keys between dots, with blanks around each. -/
def readKeys : Nat → List Char → Option (List String × List Char)
  | 0, _ => none
  | n + 1, cs => do
    let (key, rest) ← readKey (skipGaps cs)
    match skipGaps rest with
    | '.' :: cs => do
      let (path, rest) ← readKeys n cs
      return (key :: path, rest)
    | rest => return ([key], rest)

/-- Tables, paths and lists are nested less deeply than this. -/
def depthLimit : Nat := 80

/-- Reads a dotted key. -/
def readPath (cs : List Char) : Option (List String × List Char) := do
  let (path, rest) ← readKeys (cs.length + 1) cs
  if path.length < depthLimit then some (path, rest) else none

/-! ## Writing -/

/-- The style of a key, where a key that is not quoted has none. -/
def Style.ofKey? (cs : List Char) : Option Style :=
  let control := !cs.all isPlain
  if !cs.isEmpty && cs.all isKeyChar then none
  else if !control && !cs.contains '\\' && !cs.contains '"' then some .basic
  else if !control && !cs.contains '\'' then some .literal
  else some .basic

def writeKey (key : String) : List Char :=
  match Style.ofKey? key.toList with
  | none => key.toList
  | some style => writeAs key.toList style

def writePath (path : List String) : List Char := ['.'].intercalate (path.map writeKey)

end Gatehouse.Toml
