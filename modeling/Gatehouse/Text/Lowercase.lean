import Gatehouse.Text.LetterCase

/-!
# Lower case

The full lower case form of a text. Three things go beyond a table of single characters: the dotted
capital I keeps its dot as a combining mark, a capital sigma becomes a final sigma at the end of a
word and a medial one elsewhere, and a capital sharp s stays one letter.
-/

namespace Gatehouse.Text

/-- The one-character lower case form; a character without one stays. -/
def lowerChar (c : Char) : Char :=
  if c.toNat < 0x80 then c.toLower
  else
    match lowercaseRuns.find? (·.covers c.toNat) with
    | some run => Char.ofNat (c.toNat + run.shift).toNat
    | none => c

/-- The first character that is not ignored for case is a letter with case. -/
def meetsCased (cs : List Char) : Bool := ((cs.dropWhile isCaseIgnorable).head?.map isCased).getD false

/-- Lowers `c`, given the characters before it, nearest first, and those after it. -/
def lowerAt (before : List Char) (c : Char) (after : List Char) : List Char :=
  if c = 'Σ' then [if meetsCased before && !meetsCased after then 'ς' else 'σ']
  else if c = 'İ' then ['i', '\u0307']
  else [lowerChar c]

def lowerFrom (before : List Char) : List Char → List Char
  | [] => []
  | c :: after => lowerAt before c after ++ lowerFrom (c :: before) after

def lowerChars (cs : List Char) : List Char := lowerFrom [] cs

def lowercase (s : String) : String := String.ofList (lowerChars s.toList)

/-- Lowers the letters `A` to `Z` alone. -/
def lowercaseASCII (s : String) : String := String.ofList (s.toList.map Char.toLower)

end Gatehouse.Text
