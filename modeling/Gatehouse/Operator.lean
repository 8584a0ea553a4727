import Gatehouse.Text.Blank
import Gatehouse.Text.Lowercase

/-!
# Operators

How the verdicts on several items make one: all of them must be granted, or any one of them.
-/

namespace Gatehouse

inductive Operator where
  | all
  | any
  deriving DecidableEq, Repr, Inhabited

/-- The text names neither operator. -/
structure UnknownOperator where
  text : String
  deriving DecidableEq, Repr

namespace UnknownOperator

def message (e : UnknownOperator) : String :=
  "unknown logical operator '" ++ e.text ++ "', expected 'all' or 'any'"

end UnknownOperator

namespace Operator

def name : Operator → String
  | all => "all"
  | any => "any"

/-- The operator of a name written exactly. -/
def ofName? (s : String) : Option Operator :=
  if s = "all" then some all else if s = "any" then some any else none

/-- Reads a name between blanks, in letters of either case. -/
def parse (s : String) : Except UnknownOperator Operator :=
  match ofName? (Text.lowercaseASCII (Text.trim s)) with
  | some op => .ok op
  | none => .error ⟨s⟩

/-- The verdict that decides the fold as soon as it is met. -/
def decisive : Operator → Bool
  | all => false
  | any => true

def apply : Operator → List Bool → Bool
  | all, verdicts => verdicts.all id
  | any, verdicts => verdicts.any id

/-- How many verdicts are looked at: all of them, or those up to the first decisive one. -/
def consulted (op : Operator) : List Bool → Nat
  | [] => 0
  | v :: vs => if v = op.decisive then 1 else op.consulted vs + 1

theorem ofName?_name (op : Operator) : ofName? op.name = some op := by cases op <;> rfl

end Operator

end Gatehouse
