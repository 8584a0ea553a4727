/-!
# Document values

What a structured text says, whatever its notation: the values of JSON and of TOML. Numbers and
points in time are kept as they are written, since nothing in the library computes with them.
-/

namespace Gatehouse.Document

inductive Value where
  | null
  | bool (b : Bool)
  | number (written : String)
  | moment (written : String)
  | text (s : String)
  | list (elements : List Value)
  | record (fields : List (String × Value))
  deriving Inhabited

/-- Fields by name; the first field of a name counts. -/
abbrev Fields := List (String × Value)

namespace Value

def texts (l : List String) : Value := .list (l.map .text)

def bool? : Value → Option Bool
  | bool b => some b
  | _ => none

def text? : Value → Option String
  | text s => some s
  | _ => none

def list? : Value → Option (List Value)
  | list elements => some elements
  | _ => none

/-- Every element of a list, read alike. -/
def listOf? (read : Value → Option α) (v : Value) : Option (List α) := v.list? >>= (·.mapM read)

/-- Every field of a record, read alike. -/
def recordOf? (read : Value → Option α) : Value → Option (List (String × α))
  | record fields => fields.mapM fun field => (read field.2).map (field.1, ·)
  | _ => none

end Value

end Gatehouse.Document
