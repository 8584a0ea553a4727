import Gatehouse.Text.Hex

/-!
# Texts in TOML

A text is written in one of four ways. Between double quotes a backslash begins an escape; between
single quotes every character stands for itself. Tripled quotes let the text run over lines: a line
end right after the opening is dropped, and in the escaping form a backslash at the end of a line
drops all blanks and line ends up to the next character.

Reading takes the characters after the opening and returns the text with what follows the closing.
`write` chooses the plainest way that can hold the text.
-/

namespace Gatehouse.Toml

/-- A character that stands for itself on a line: no control character but the tab. -/
def isPlain (c : Char) : Bool := c = '\t' || (0x20 ≤ c.toNat && c.toNat ≠ 0x7F)

def isGap (c : Char) : Bool := c = ' ' || c = '\t'

/-- Puts a character before the text that was read. -/
def prepend (c : Char) : List Char × List Char → List Char × List Char
  | (text, rest) => (c :: text, rest)

/-- Drops a line end. -/
def lineEnd? : List Char → Option (List Char)
  | '\n' :: cs => some cs
  | '\r' :: '\n' :: cs => some cs
  | _ => none

/-- Drops blanks and line ends. -/
def skipLines : List Char → List Char
  | '\r' :: '\n' :: cs => skipLines cs
  | c :: cs => if isGap c || c = '\n' then skipLines cs else c :: cs
  | [] => []

/-- Reads the digits of a code point, of which there are `size`. -/
def readCodePoint (size : Nat) (cs : List Char) : Option (Char × List Char) := do
  let digits ← (cs.take size).mapM Text.hexValue?
  let code := Text.ofHexDigits digits
  if h : code.isValidChar then
    if digits.length = size then some (Char.ofNatAux code h, cs.drop size) else none
  else none

/-- Reads an escape after its backslash. -/
def readEscape : List Char → Option (Char × List Char)
  | 'b' :: cs => some ('\x08', cs)
  | 't' :: cs => some ('\t', cs)
  | 'n' :: cs => some ('\n', cs)
  | 'f' :: cs => some ('\x0c', cs)
  | 'r' :: cs => some ('\r', cs)
  | '"' :: cs => some ('"', cs)
  | '\\' :: cs => some ('\\', cs)
  | 'u' :: cs => readCodePoint 4 cs
  | 'U' :: cs => readCodePoint 8 cs
  | _ => none

/-- Reads an escaping text on one line. -/
def readBasic : Nat → List Char → Option (List Char × List Char)
  | 0, _ => none
  | _ + 1, '"' :: cs => some ([], cs)
  | n + 1, '\\' :: cs => do
    let (c, cs) ← readEscape cs
    (readBasic n cs).map (prepend c)
  | n + 1, c :: cs => if isPlain c then (readBasic n cs).map (prepend c) else none
  | _ + 1, [] => none

/-- Reads a verbatim text on one line. -/
def readLiteral : List Char → Option (List Char × List Char)
  | '\'' :: cs => some ([], cs)
  | c :: cs => if isPlain c then (readLiteral cs).map (prepend c) else none
  | [] => none

/-- Closes a text over lines: up to two quotes before the closing three belong to the text. -/
def closeLines (quote : Char) : List Char → Option (List Char × List Char)
  | a :: b :: c :: cs =>
    if a = quote && b = quote && c = quote then
      match cs with
      | d :: e :: cs =>
        if d = quote && e = quote then some ([quote, quote], cs)
        else if d = quote then some ([quote], e :: cs)
        else some ([], d :: e :: cs)
      | [d] => if d = quote then some ([quote], []) else some ([], [d])
      | [] => some ([], [])
    else none
  | _ => none

/-- A backslash at the end of a line: what follows the blanks and line ends. -/
def continued? (cs : List Char) : Option (List Char) :=
  (lineEnd? (cs.dropWhile isGap)).map skipLines

/-- Reads an escaping text over lines. -/
def readBasicLines : Nat → List Char → Option (List Char × List Char)
  | 0, _ => none
  | n + 1, cs =>
    match closeLines '"' cs with
    | some closed => some closed
    | none =>
      match cs with
      | '\\' :: cs =>
        match continued? cs with
        | some cs => readBasicLines n cs
        | none => do
          let (c, cs) ← readEscape cs
          (readBasicLines n cs).map (prepend c)
      | c :: cs =>
        match lineEnd? (c :: cs) with
        | some cs => (readBasicLines n cs).map (prepend '\n')
        | none => if isPlain c then (readBasicLines n cs).map (prepend c) else none
      | [] => none

/-- Reads a verbatim text over lines. -/
def readLiteralLines : Nat → List Char → Option (List Char × List Char)
  | 0, _ => none
  | n + 1, cs =>
    match closeLines '\'' cs with
    | some closed => some closed
    | none =>
      match lineEnd? cs, cs with
      | some cs, _ => (readLiteralLines n cs).map (prepend '\n')
      | none, c :: cs => if isPlain c then (readLiteralLines n cs).map (prepend c) else none
      | none, [] => none

/-- Reads a text from its opening quotes on. -/
def readText : List Char → Option (List Char × List Char)
  | '"' :: '"' :: '"' :: cs => readBasicLines (cs.length + 1) ((lineEnd? cs).getD cs)
  | '\'' :: '\'' :: '\'' :: cs => readLiteralLines (cs.length + 1) ((lineEnd? cs).getD cs)
  | '"' :: cs => readBasic (cs.length + 1) cs
  | '\'' :: cs => readLiteral cs
  | _ => none

/-! ## Writing -/

/-- The ways to write a text. -/
inductive Style where
  | basic
  | literal
  | basicLines
  | literalLines
  deriving DecidableEq

/-- A control character that needs an escape; a tab and a line end do not. -/
def needsEscape (c : Char) : Bool := !isPlain c && c ≠ '\n'

/-- The longest run of a character. -/
def longestRun (q : Char) (cs : List Char) : Nat :=
  let step (state : Nat × Nat) (c : Char) : Nat × Nat :=
    if c = q then (state.1 + 1, max state.2 (state.1 + 1)) else (0, state.2)
  (cs.foldl step (0, 0)).2

/-- The first way of writing, in order of preference, that shows the text without escapes; a text
that cannot be shown so is escaped. -/
def Style.of (cs : List Char) : Style :=
  let control := cs.any needsEscape
  let line := cs.contains '\n'
  if !control && !line && !cs.contains '\\' && !cs.contains '"' then basic
  else if !control && !line && !cs.contains '\'' then literal
  else if !control && !cs.contains '\\' && longestRun '"' cs ≤ 2 then basicLines
  else if !control && longestRun '\'' cs ≤ 2 then literalLines
  else if line then basicLines
  else basic

/-- The escape of a character by its code point. -/
def codeEscape (c : Char) : List Char :=
  ['\\', 'u', '0', '0', Text.hexDigitUpper (Text.lastHexDigit (c.toNat / 16)),
    Text.hexDigitUpper (Text.lastHexDigit c.toNat)]

/-- A character of an escaping text that is neither a quote nor a line end. -/
def writeChar (c : Char) : List Char :=
  if c = '\x08' then ['\\', 'b']
  else if c = '\t' then ['\\', 't']
  else if c = '\x0c' then ['\\', 'f']
  else if c = '\r' then ['\\', 'r']
  else if c = '\\' then ['\\', '\\']
  else if isPlain c then [c]
  else codeEscape c

/-- The body of an escaping text on one line. -/
def writeBasic : List Char → List Char
  | [] => []
  | '"' :: cs => '\\' :: '"' :: writeBasic cs
  | '\n' :: cs => '\\' :: 'n' :: writeBasic cs
  | c :: cs => writeChar c ++ writeBasic cs

/-- The body of an escaping text over lines, after `quotes` double quotes in a row: the third quote
of a run is escaped. -/
def writeBasicLines (quotes : Nat) : List Char → List Char
  | [] => []
  | '"' :: cs =>
    if quotes = 2 then '\\' :: '"' :: writeBasicLines 0 cs
    else '"' :: writeBasicLines (quotes + 1) cs
  | '\n' :: cs => '\n' :: writeBasicLines 0 cs
  | c :: cs => writeChar c ++ writeBasicLines 0 cs

/-- Opens a text over lines; one that holds a line end begins on a line of its own. -/
def openLines (cs : List Char) : List Char := if cs.contains '\n' then ['\n'] else []

def writeAs (cs : List Char) : Style → List Char
  | .basic => ['"'] ++ writeBasic cs ++ ['"']
  | .literal => ['\''] ++ cs ++ ['\'']
  | .basicLines => ['"', '"', '"'] ++ openLines cs ++ writeBasicLines 0 cs ++ ['"', '"', '"']
  | .literalLines => ['\'', '\'', '\''] ++ openLines cs ++ cs ++ ['\'', '\'', '\'']

def writeText (cs : List Char) : List Char := writeAs cs (.of cs)

end Gatehouse.Toml
