/-!
# Hexadecimal digits
-/

namespace Gatehouse.Text

/-- The lower case digit of a value. -/
def hexDigit (d : Fin 16) : Char :=
  if d.val < 10 then Char.ofNat ('0'.toNat + d.val) else Char.ofNat ('a'.toNat + (d.val - 10))

/-- The upper case digit of a value. -/
def hexDigitUpper (d : Fin 16) : Char := (hexDigit d).toUpper

/-- The last digit of a number. -/
def lastHexDigit (n : Nat) : Fin 16 := Fin.ofNat 16 n

/-- The value of a digit of either case. -/
def hexValue? (c : Char) : Option (Fin 16) :=
  if '0' ≤ c ∧ c ≤ '9' then some (lastHexDigit (c.toNat - '0'.toNat))
  else if 'a' ≤ c ∧ c ≤ 'f' then some (lastHexDigit (c.toNat - 'a'.toNat + 10))
  else if 'A' ≤ c ∧ c ≤ 'F' then some (lastHexDigit (c.toNat - 'A'.toNat + 10))
  else none

/-- The number that a row of digits writes. -/
def ofHexDigits (digits : List (Fin 16)) : Nat := digits.foldl (fun n d => 16 * n + d.val) 0

theorem hexValue?_hexDigit (d : Fin 16) : hexValue? (hexDigit d) = some d := by
  revert d; decide

theorem hexValue?_hexDigitUpper (d : Fin 16) : hexValue? (hexDigitUpper d) = some d := by
  revert d; decide

end Gatehouse.Text
