import Gatehouse.Text.Visible

/-!
# Quoted text

A text between double quotes, on one line and with nothing hidden in it: the quote and the backslash
are escaped, the usual controls have short escapes, and any other character that would not show
stands as its code point in braces.
-/

namespace Gatehouse.Text

/-- The escape `\u{…}` with the code point in lower case hexadecimal digits. -/
def codePointEscape (c : Char) : List Char :=
  ['\\', 'u', '\x7b'] ++ Nat.toDigits 16 c.toNat ++ ['\x7d']

def escapeChar (c : Char) : List Char :=
  if c = '\x00' then ['\\', '0']
  else if c = '\t' then ['\\', 't']
  else if c = '\r' then ['\\', 'r']
  else if c = '\n' then ['\\', 'n']
  else if c = '\\' || c = '"' then ['\\', c]
  else if isVisible c then [c]
  else codePointEscape c

def quote (s : String) : String :=
  String.ofList (['"'] ++ s.toList.flatMap escapeChar ++ ['"'])

end Gatehouse.Text
