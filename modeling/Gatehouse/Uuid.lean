import Gatehouse.Text.Hex

/-!
# Universally unique identifiers

A number of 32 hexadecimal digits. It is written in groups of 8, 4, 4, 4 and 12 lower case digits
joined by hyphens; it is read also without the hyphens, between braces and after `urn:uuid:`, with
letters of either case throughout.
-/

namespace Gatehouse

structure Uuid where
  digits : List (Fin 16)
  length_digits : digits.length = 32
  deriving DecidableEq

namespace Uuid

def ofDigits? (digits : List (Fin 16)) : Option Uuid :=
  if h : digits.length = 32 then some ⟨digits, h⟩ else none

/-- The sizes of the groups between the hyphens. -/
def groups : List Nat := [8, 4, 4, 4, 12]

/-- Cuts a list into consecutive pieces of the given sizes. -/
def cut : List Nat → List α → List (List α)
  | [], _ => []
  | n :: sizes, l => l.take n :: cut sizes (l.drop n)

def text (u : Uuid) : String :=
  String.ofList (['-'].intercalate (cut groups (u.digits.map Text.hexDigit)))

/-- Reads 32 digits. -/
def parsePlain (cs : List Char) : Option Uuid := cs.mapM Text.hexValue? >>= ofDigits?

/-- Reads groups of digits between hyphens. -/
def parseGrouped (cs : List Char) : Option Uuid :=
  let pieces := cs.splitOn '-'
  if pieces.map List.length = groups then parsePlain pieces.flatten else none

/-- What may stand before the groups, in letters of either case. -/
def scheme : List Char := ['u', 'r', 'n', ':', 'u', 'u', 'i', 'd', ':']

def parse? (s : String) : Option Uuid :=
  match s.toList with
  | '{' :: cs => if cs.getLast? = some '}' then parseGrouped cs.dropLast else none
  | cs =>
    if (cs.take scheme.length).map Char.toLower = scheme then parseGrouped (cs.drop scheme.length)
    else if cs.length = 32 then parsePlain cs
    else parseGrouped cs

/-- The last `size` hexadecimal digits of a number. -/
def hexDigits : Nat → Nat → List (Fin 16)
  | 0, _ => []
  | size + 1, n => hexDigits size (n / 16) ++ [Text.lastHexDigit n]

theorem length_hexDigits (size n : Nat) : (hexDigits size n).length = size := by
  induction size generalizing n with
  | zero => rfl
  | succ size ih => simp [hexDigits, ih]

/-- The identifier of version 4 made from a number: the digit of the version stands at place 12 and
that of the variant at place 16, and the digits of the number fill the other places. -/
def numbered (n : Nat) : Uuid where
  digits :=
    let free := hexDigits 30 n
    free.take 12 ++ Text.lastHexDigit 4 :: (free.drop 12).take 3 ++
      Text.lastHexDigit 8 :: free.drop 15
  length_digits := by simp [length_hexDigits]

/-- The digit of the version. -/
def version (u : Uuid) : Nat := (u.digits.get ⟨12, by simp [u.length_digits]⟩).val

instance : Inhabited Uuid := ⟨numbered 0⟩

end Uuid

/-- The identifier of an event. -/
structure EventId where
  uuid : Uuid
  deriving DecidableEq, Inhabited

def EventId.text (id : EventId) : String := "evt:" ++ id.uuid.text

/-- The identifier of a session. -/
structure SessionId where
  uuid : Uuid
  deriving DecidableEq, Inhabited

def SessionId.text (id : SessionId) : String := "session:" ++ id.uuid.text

end Gatehouse
