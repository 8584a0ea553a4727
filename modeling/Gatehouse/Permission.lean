import Gatehouse.Sorted.Set
import Gatehouse.Text.Blank
import Gatehouse.Text.Lowercase

/-!
# Permissions

A permission has one to three parts, the domain, the action and the target, and each part is a
non-empty set of tokens. The text form writes the parts between colons and the tokens between
commas; reading it drops blanks and empty tokens and lowers the letters.

A permission implies another when it allows at least as much in every part. The token `*` allows
everything, and so does a part that is not written.
-/

namespace Gatehouse

/-- Why a text is not a permission. -/
inductive FormatFault where
  | blank
  | tooManyParts
  | emptyDomain
  | emptyPart
  | other (reason : String)
  deriving DecidableEq, Repr

namespace FormatFault

def reason : FormatFault → String
  | blank => "permission text is empty"
  | tooManyParts => "at most three parts (domain:action:target) are allowed"
  | emptyDomain => "domain part is empty"
  | emptyPart => "a part contains only dividers"
  | other reason => reason

end FormatFault

/-- A text that is not a permission, as it was given. -/
structure FormatError where
  text : String
  fault : FormatFault
  deriving DecidableEq, Repr

namespace FormatError

def message (e : FormatError) : String :=
  "invalid permission '" ++ e.text ++ "': " ++ e.fault.reason

end FormatError

/-- What one part of a permission names. -/
abbrev Tokens := SortedSet String

namespace Tokens

/-- The token that stands for every other one. -/
def wildcard : String := "*"

def isWildcard (part : Tokens) : Bool := decide (wildcard ∈ part)

/-- Whoever holds the part `held` holds the part `wanted`. -/
def allows (held wanted : Tokens) : Bool := held.isWildcard || held.includes wanted

/-- The tokens between the commas of a text, in written order: without blanks around them, none of
them empty, in lower case. -/
def read (cs : List Char) : List String :=
  (((cs.splitOn ',').map Text.trimChars).filter (!·.isEmpty)).map
    fun token => String.ofList (Text.lowerChars token)

def text (part : Tokens) : String := ",".intercalate part.toList

end Tokens

structure Permission where
  parts : List Tokens
  parts_ne_nil : parts ≠ []
  length_parts_le : parts.length ≤ 3
  inhabited : ∀ part ∈ parts, part.isEmpty = false
  deriving DecidableEq

namespace Permission

@[ext] theorem ext {p q : Permission} (h : p.parts = q.parts) : p = q := by
  cases p; cases q; simp_all

/-- The permission that implies every other one. -/
def wildcard : Permission where
  parts := [.singleton Tokens.wildcard]
  parts_ne_nil := by simp
  length_parts_le := by simp
  inhabited := by simp [SortedSet.singleton, SortedSet.isEmpty]

instance : Inhabited Permission := ⟨wildcard⟩

/-- Puts parts together, or tells which rule they break first. -/
def ofParts (parts : List Tokens) : Except FormatFault Permission :=
  if none : parts = [] then .error .blank
  else if long : parts.length > 3 then .error .tooManyParts
  else
    match found : parts.findIdx? SortedSet.isEmpty with
    | some 0 => .error .emptyDomain
    | some _ => .error .emptyPart
    | .none => .ok
      { parts
        parts_ne_nil := none
        length_parts_le := by omega
        inhabited := List.findIdx?_eq_none_iff.1 found }

def parse (text : String) : Except FormatError Permission :=
  let cs := Text.trimChars text.toList
  let outcome :=
    if cs.isEmpty then .error .blank
    else ofParts ((cs.splitOn ':').map (SortedSet.ofList <| Tokens.read ·))
  outcome.mapError (⟨text, ·⟩)

def text (p : Permission) : String := ":".intercalate (p.parts.map Tokens.text)

/-- What the permission applies to. -/
def domain (p : Permission) : Tokens := p.parts.head p.parts_ne_nil

def action? (p : Permission) : Option Tokens := p.parts[1]?

def target? (p : Permission) : Option Tokens := p.parts[2]?

/-- Part by part, what is held allows what is wanted: a held part that is missing allows everything,
and a wanted part that is missing needs everything. -/
def cover : List Tokens → List Tokens → Bool
  | held, [] => held.all Tokens.isWildcard
  | [], _ :: _ => true
  | h :: held, w :: wanted => h.allows w && cover held wanted

/-- Whoever holds `p` is granted `requested`. -/
def implies (p requested : Permission) : Bool := cover p.parts requested.parts

/-- The tokens by which permissions are ordered: part by part, token by token. -/
def key (p : Permission) : List (List String) := p.parts.map SortedSet.toList

instance : Ord Permission := ⟨compareOn key⟩

instance : Std.TransOrd Permission := inferInstanceAs (Std.TransCmp (compareOn key))

theorem key_injective {p q : Permission} (h : p.key = q.key) : p = q := by
  refine Permission.ext <| List.map_inj_right (fun s t same => ?_) |>.1 h
  cases s; cases t; simp_all

instance : Std.LawfulEqOrd Permission where
  compare_self := Std.ReflCmp.compare_self
  eq_of_compare h := key_injective (Std.LawfulEqOrd.eq_of_compare (α := List (List String)) h)

end Permission

end Gatehouse
