import Gatehouse.Authorizer
import Gatehouse.Account
import Gatehouse.Fault

/-!
# Answers

What an operation on a site gives back.
-/

namespace Gatehouse

/-- What a manager shows of itself. -/
structure ManagerView where
  realms : List String
  defaultOperator : Operator
  sharesBus : Bool
  text : String
  deriving DecidableEq, Repr

inductive Answer where
  /-- Nothing to tell. -/
  | none
  /-- A check that passed. -/
  | passed
  /-- The operation names something that is not there. -/
  | unknown
  | flag (b : Bool)
  | count (n : Nat)
  /-- How many there are, and whether that is none. -/
  | extent (size : Nat) (isEmpty : Bool)
  /-- Whether an identity is remembered, and how many are. -/
  | remembered (isCached : Bool) (count : Nat)
  | counts (l : List (Option Nat))
  | text (s : String)
  | texts (l : List String)
  | permissions (l : List Permission)
  | grants (l : List Grant)
  | verdicts (l : Verdicts String)
  | clearance (c : Clearance)
  | account (a : Account)
  | manager (view : ManagerView)
  | fault (report : Report)
  /-- The text of a configuration that cannot be read. -/
  | malformed
  deriving DecidableEq

namespace Answer

def ofFault [Fault ε] (e : ε) : Answer := fault (Report.of e)

def ofOption (f : α → Answer) : Option α → Answer
  | some a => f a
  | .none => none

/-- What an attempt comes to, where `f` tells a success. -/
def ofExcept [Fault ε] (f : α → Answer) : Except ε α → Answer
  | .ok a => f a
  | .error e => ofFault e

end Answer

end Gatehouse
