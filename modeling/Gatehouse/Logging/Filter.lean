import Gatehouse.Sorted.Insertion
import Gatehouse.Text.Alphanumeric
import Gatehouse.Text.Blank

/-!
# Log filters

A filter tells up to which level the lines of each target are logged. Its text is a list of
directives between commas, in which empty places count for nothing: a level for every target, a target
with its level, or a target alone, of which everything is logged. A directive about a longer target
comes before one about a shorter target, so that the first one that fits a line is the most specific;
of two about one target the later counts.
-/

namespace Gatehouse

inductive LogLevel where
  | off
  | error
  | warn
  | info
  | debug
  | trace
  deriving DecidableEq, Repr

namespace LogLevel

def all : List LogLevel := [off, error, warn, info, debug, trace]

def name : LogLevel → String
  | off => "off"
  | error => "error"
  | warn => "warn"
  | info => "info"
  | debug => "debug"
  | trace => "trace"

/-- The number written by digits, of which there is one at least, after an optional plus. -/
def readNumber (cs : List Char) : Option Nat :=
  let digits := if cs.head? = some '+' then cs.tail else cs
  if !digits.isEmpty && digits.all Char.isDigit then
    some (digits.foldl (fun n c => 10 * n + (c.toNat - '0'.toNat)) 0)
  else none

/-- Reads a name in letters of either case, or the place in the list of levels. -/
def read (cs : List Char) : Option LogLevel :=
  match readNumber cs with
  | some n => all[n]?
  | none => all.find? (·.name.toList = cs.map Char.toLower)

end LogLevel

/-- What a directive is about: one target or all of them. -/
structure LogScope where
  target? : Option String := none
  deriving DecidableEq, Repr

namespace LogScope

def text (scope : LogScope) : String := scope.target?.getD ""

/-- The longer target comes first, and of two of one length the greater. -/
instance : Ord LogScope :=
  ⟨fun a b => (compare b.text.utf8ByteSize a.text.utf8ByteSize).then (compare b.text a.text)⟩

end LogScope

structure Directive where
  scope : LogScope
  level : LogLevel
  deriving DecidableEq, Repr

/-- Why a text is not a filter. -/
inductive FilterFault where
  | badDirective
  | badLevel
  deriving DecidableEq, Repr

def FilterFault.reason : FilterFault → String
  | badDirective => "invalid filter directive"
  | badLevel =>
    "error parsing level filter: expected one of \"off\", \"error\", \"warn\", \"info\", " ++
      "\"debug\", \"trace\", or a number 0-5"

namespace Directive

def text (d : Directive) : String :=
  match d.scope.target? with
  | some target => target ++ "=" ++ d.level.name
  | none => d.level.name

/-- The characters that a directive begins with. -/
def isStart (c : Char) : Bool := Text.isAlphanumeric c || c = '-' || c = ':' || c = '_'

/-- Reads a level, where none at all is the highest. -/
def readLevel (cs : List Char) : Except FilterFault LogLevel :=
  if cs.isEmpty then .ok .trace
  else
    match LogLevel.read cs with
    | some level => .ok level
    | none => .error .badLevel

/-- Reads the directive whose target has `size` characters, of which the sign `=` is the next. -/
def readTargeted (size : Nat) (cs : List Char) : Except FilterFault Directive :=
  (readLevel (cs.drop (size + 1))).map
    ({ scope := ⟨some (String.ofList (cs.take size))⟩, level := · })

/-- Reads a level for every target, and otherwise a target of which everything is logged. -/
def readBare (cs : List Char) : Directive :=
  match LogLevel.read cs with
  | some level => { scope := {}, level }
  | none => { scope := ⟨some (String.ofList cs)⟩, level := .trace }

/-- Reads a directive. Blanks at its ends are part of a target and spoil a level. The size of the
target is counted from the first character that is not blank, so a directive with a level has none
before it: the sign would be left in the level. -/
def read (cs : List Char) : Except FilterFault Directive :=
  let inner := Text.trimChars cs
  if inner.head?.any isStart then
    if '=' ∈ inner then readTargeted (inner.idxOf '=') cs else .ok (readBare cs)
  else .error .badDirective

end Directive

/-- The directives in the order in which they are tried. -/
structure LogFilter where
  directives : List Directive
  deriving DecidableEq, Repr

namespace LogFilter

def ofDirectives (l : List Directive) : LogFilter :=
  ⟨l.foldl (fun directives d => Sorted.insertBy Directive.scope d directives) []⟩

def parse (s : String) : Except FilterFault LogFilter :=
  (((s.toList.splitOn ',').filter (!·.isEmpty)).mapM Directive.read).map ofDirectives

def text (filter : LogFilter) : String := ",".intercalate (filter.directives.map Directive.text)

end LogFilter

end Gatehouse
