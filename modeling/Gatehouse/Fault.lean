import Gatehouse.Text.Quoted

/-!
# Faults

Every kind of error of the library has a stable code, a message, and a hint whether asking again can
help. Codes are words of capital letters and digits joined by single underscores, and begin with the
name of the part of the library that raises them.
-/

namespace Gatehouse

/-- What every kind of error tells about itself. -/
class Fault (ε : Type u) where
  code : ε → String
  message : ε → String
  recoverable : ε → Bool

/-- An error as it is shown outside the library. -/
structure Report where
  code : String
  message : String
  recoverable : Bool
  deriving DecidableEq, Repr

def Report.of [Fault ε] (e : ε) : Report := ⟨Fault.code e, Fault.message e, Fault.recoverable e⟩

namespace Code

/-- How a code breaks the rule for codes. -/
inductive Violation where
  | wrongStart
  | notUpperSnakeCase
  deriving DecidableEq, Repr

def Violation.text : Violation → String
  | wrongStart => "wrong prefix"
  | notUpperSnakeCase => "not UPPER_SNAKE_CASE"

/-- Capital letters and digits, as bytes. -/
def isLetter (b : UInt8) : Bool :=
  'A'.toUInt8 ≤ b && b ≤ 'Z'.toUInt8 || '0'.toUInt8 ≤ b && b ≤ '9'.toUInt8

/-- No underscore stands at an end of the code or beside another one, and nothing but underscores
stands between the letters. -/
def isUpperSnakeCase (code : String) : Bool :=
  !code.isEmpty && !code.startsWith '_' && !code.endsWith '_' && !code.contains "__" &&
    code.toUTF8.data.all fun b => isLetter b || b == '_'.toUInt8

/-- The first rule that the code breaks, given how it has to begin. -/
def violation? (code start : String) : Option Violation :=
  if !code.startsWith start then some .wrongStart
  else if !isUpperSnakeCase code then some .notUpperSnakeCase
  else none

/-- The complaint about a code that breaks a rule. -/
def complaintOf? (code start : String) : Option String :=
  (violation? code start).map fun violation =>
    "error code " ++ Text.quote code ++ " (expected prefix " ++ Text.quote start ++ "): " ++
      violation.text

/-- The complaint about the first code of a list that breaks a rule. -/
def complaint? (codes : List String) (start : String) : Option String :=
  codes.findSome? (complaintOf? · start)

end Code

end Gatehouse
