import Gatehouse.Document.Value
import Gatehouse.Text.Hex

/-!
# Numbers and points in time in TOML

Which words are whole numbers, decimal numbers, dates and times. Whole numbers fit in 64 bits, decimal
numbers are smaller than the least power of two past the range of doubles, rounded, and dates are days
of the calendar.
-/

namespace Gatehouse.Toml

open Document

/-- Characters of words that are not quoted. -/
def isWordChar (c : Char) : Bool := c.isAlphanum || c ∈ ['+', '-', '.', '_', ':']

/-! ## Numbers -/

/-- Digits with single underscores between them. -/
def isGrouped (isDigit : Char → Bool) (cs : List Char) : Bool :=
  (cs.splitOn '_').all fun group => !group.isEmpty && group.all isDigit

/-- The number written by digits of a base, underscores aside. -/
def digitsValue (base : Nat) (cs : List Char) : Nat :=
  (cs.filterMap Text.hexValue?).foldl (fun n d => base * n + d.val) 0

/-- Takes a sign off a word: whether the sign is a minus, and the rest. -/
def unsign : List Char → Bool × List Char
  | '-' :: cs => (true, cs)
  | '+' :: cs => (false, cs)
  | cs => (false, cs)

/-- Grouped digits that begin with a zero only if that is all. -/
def isPlainWhole (cs : List Char) : Bool :=
  isGrouped Char.isDigit cs && (cs.head? ≠ some '0' || cs.length = 1)

def isOctDigit (c : Char) : Bool := '0' ≤ c && c ≤ '7'

def isHexDigit (c : Char) : Bool := (Text.hexValue? c).isSome

def isBinDigit (c : Char) : Bool := c = '0' || c = '1'

/-- Whole numbers of 64 bits are less than this. -/
def wordBound : Nat := Nat.pow 2 63

/-- A whole number of 64 bits, in base ten with a sign or in another base without one. -/
def isWhole (word : List Char) : Bool :=
  match word with
  | '0' :: 'x' :: cs => isGrouped isHexDigit cs && digitsValue 16 cs < wordBound
  | '0' :: 'o' :: cs => isGrouped isOctDigit cs && digitsValue 8 cs < wordBound
  | '0' :: 'b' :: cs => isGrouped isBinDigit cs && digitsValue 2 cs < wordBound
  | _ =>
    let (negative, cs) := unsign word
    isPlainWhole cs && digitsValue 10 cs < wordBound + negative.toNat

/-- The least number that rounds to infinity as a double, halfway from the greatest double to the power
of two that would be next. -/
def doubleBound : Nat := Nat.pow 2 1024 - Nat.pow 2 970

/-- The number `digits · 10 ^ power` rounds to infinity as a double. -/
def overflows (digits : List Char) (power : Int) : Bool :=
  let digits := digits.dropWhile (· = '0')
  let magnitude := digits.length + power
  if digits.isEmpty || magnitude < 309 then false
  else if magnitude > 309 then true
  else if 0 ≤ power then doubleBound ≤ digitsValue 10 digits * Nat.pow 10 power.toNat
  else doubleBound * Nat.pow 10 (-power).toNat ≤ digitsValue 10 digits

/-- A decimal number: a whole part, then a fraction or an exponent or both. A positive one must not
be too large. -/
def isDecimal (word : List Char) : Bool :=
  let (negative, cs) := unsign word
  if cs = ['i', 'n', 'f'] || cs = ['n', 'a', 'n'] then true
  else
    let isMark (c : Char) : Bool := c = 'e' || c = 'E'
    let mantissa := cs.takeWhile (!isMark ·)
    let exponent := cs.dropWhile (!isMark ·)
    let whole := mantissa.takeWhile (· ≠ '.')
    let fraction := mantissa.dropWhile (· ≠ '.')
    let (down, power) := unsign exponent.tail
    let digits (part : List Char) : List Char := part.filter Char.isDigit
    let scale : Int := if down then -(digitsValue 10 power : Int) else digitsValue 10 power
    isPlainWhole whole && (!fraction.isEmpty || !exponent.isEmpty) &&
      (fraction.isEmpty || isGrouped Char.isDigit fraction.tail) &&
      (exponent.isEmpty || isGrouped Char.isDigit power) &&
      (negative || !overflows (digits mantissa) (scale - (digits fraction).length))

/-! ## Points in time -/

/-- The value of two digits within bounds. -/
def twoDigits? (least most : Nat) (a b : Char) : Option Nat :=
  if a.isDigit && b.isDigit then
    let n := digitsValue 10 [a, b]
    if least ≤ n && n ≤ most then some n else none
  else none

def isLeapYear (year : Nat) : Bool := year % 4 = 0 && (year % 100 ≠ 0 || year % 400 = 0)

def daysIn (year month : Nat) : Nat :=
  if month = 2 then if isLeapYear year then 29 else 28
  else if month ∈ [4, 6, 9, 11] then 30
  else 31

/-- What follows a date. -/
def readDate : List Char → Option (List Char)
  | y₁ :: y₂ :: y₃ :: y₄ :: '-' :: m₁ :: m₂ :: '-' :: d₁ :: d₂ :: cs => do
    let year := [y₁, y₂, y₃, y₄]
    if !year.all Char.isDigit then none
    let month ← twoDigits? 1 12 m₁ m₂
    let _ ← twoDigits? 1 (daysIn (digitsValue 10 year) month) d₁ d₂
    return cs
  | _ => none

/-- What follows a fraction of a second, if there is one. -/
def skipFraction : List Char → List Char
  | '.' :: d :: cs => if d.isDigit then cs.dropWhile Char.isDigit else '.' :: d :: cs
  | cs => cs

/-- What follows a time of day. -/
def readTime : List Char → Option (List Char)
  | h₁ :: h₂ :: ':' :: m₁ :: m₂ :: ':' :: s₁ :: s₂ :: cs => do
    let _ ← twoDigits? 0 23 h₁ h₂
    let _ ← twoDigits? 0 59 m₁ m₂
    let _ ← twoDigits? 0 60 s₁ s₂
    return skipFraction cs
  | _ => none

/-- What follows an offset from universal time. -/
def readOffset : List Char → Option (List Char)
  | 'Z' :: cs | 'z' :: cs => some cs
  | sign :: h₁ :: h₂ :: ':' :: m₁ :: m₂ :: cs => do
    if sign ≠ '+' && sign ≠ '-' then none
    let _ ← twoDigits? 0 23 h₁ h₂
    let _ ← twoDigits? 0 59 m₁ m₂
    return cs
  | _ => none

/-- What follows a date, a time, or a date and a time with or without an offset. -/
def readMoment (cs : List Char) : Option (List Char) :=
  match readDate cs with
  | none => readTime cs
  | some rest =>
    match rest with
    | mark :: after =>
      if mark ∈ ['T', 't', ' '] then
        match readTime after with
        | some rest => some ((readOffset rest).getD rest)
        | none => some rest
      else some rest
    | [] => some rest

/-- Reads a truth value, a number or a point in time. -/
def readScalar (cs : List Char) : Option (Value × List Char) :=
  match readMoment cs with
  | some rest => some (.moment (String.ofList (cs.take (cs.length - rest.length))), rest)
  | none =>
    let word := cs.takeWhile isWordChar
    let rest := cs.dropWhile isWordChar
    if word = ['t', 'r', 'u', 'e'] then some (.bool true, rest)
    else if word = ['f', 'a', 'l', 's', 'e'] then some (.bool false, rest)
    else if isWhole word || isDecimal word then some (.number (String.ofList word), rest)
    else none

end Gatehouse.Toml
