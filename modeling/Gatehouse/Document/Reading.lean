import Gatehouse.Document.Value

/-!
# Reading records

A record is written by naming its members or by listing them in their order. Two conventions differ
between notations: whether a list may hold more elements than there are members, and what is written
beside the name of an alternative that has no members.
-/

namespace Gatehouse.Document

structure Dialect where
  /-- A list may hold more elements than there are members. -/
  surplus : Bool
  /-- What may stand beside the name of an alternative without members. -/
  isUnit : Value → Bool

namespace Dialect

def json : Dialect where
  surplus := false
  isUnit
    | .null => true
    | _ => false

/-- The convention of JSON inside a value that is told apart by one of its own members. -/
def jsonTagged : Dialect where
  surplus := false
  isUnit
    | .null | .record [] => true
    | _ => false

def toml : Dialect where
  surplus := true
  isUnit
    | .record [] | .list [] => true
    | _ => false

end Dialect

/-- The members of a record as written. -/
inductive Members where
  | named (fields : Fields)
  | listed (elements : List Value)

namespace Members

/-- The member with a name, which is the one at a place in the list. -/
def get? (m : Members) (place : Nat) (name : String) : Option Value :=
  match m with
  | named fields => (fields.find? (·.1 = name)).map Prod.snd
  | listed elements => elements[place]?

/-- A member that has to be there. -/
def required (m : Members) (read : Value → Option α) (place : Nat) (name : String) : Option α :=
  m.get? place name >>= read

/-- A member that has a value also when it is not there. -/
def optional (m : Members) (default : α) (read : Value → Option α) (place : Nat) (name : String) :
    Option α :=
  match m.get? place name with
  | some v => read v
  | none => some default

/-- A member that may be missing where members are named, but not where they are listed. -/
def omissible (m : Members) (default : α) (read : Value → Option α) (place : Nat)
    (name : String) : Option α :=
  match m with
  | named _ => m.optional default read place name
  | listed _ => m.required read place name

end Members

namespace Value

/-- The members of a record of the given size. A point in time is a record of its own kind, which
has none of the members asked for. -/
def members? (d : Dialect) (size : Nat) : Value → Option Members
  | record fields => some (.named fields)
  | list elements =>
    if elements.length ≤ size || d.surplus then some (.listed elements) else none
  | moment _ => some (.named [])
  | _ => none

/-- Reads `null` as nothing. -/
def nullable (read : Value → Option α) : Value → Option (Option α)
  | null => some none
  | v => (read v).map some

/-- Reads an alternative without members: its name, or its name beside a unit. -/
def alternative? (d : Dialect) (ofName? : String → Option α) : Value → Option α
  | text name => ofName? name
  | record [(name, v)] => if d.isUnit v then ofName? name else none
  | _ => none

end Value

end Gatehouse.Document
