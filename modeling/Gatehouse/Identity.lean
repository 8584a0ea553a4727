/-!
# Identities

Who asks: the identifiers under which one subject is known, each with the source that supplied it,
in the order in which they were added. The first one is the primary identifier; an identity without
identifiers is anonymous.
-/

namespace Gatehouse

/-- An identifier and the source that supplied it. -/
structure Identifier where
  source : String
  name : String
  deriving DecidableEq, Repr

structure Identity where
  entries : List Identifier := []
  deriving DecidableEq, Repr, Inhabited

namespace Identity

def anonymous : Identity := {}

/-- Appends an identifier unless the same source has supplied it before. -/
def add (identity : Identity) (entry : Identifier) : Identity :=
  if entry ∈ identity.entries then identity else ⟨identity.entries ++ [entry]⟩

def addAll (identity : Identity) (entries : List Identifier) : Identity :=
  entries.foldl add identity

def ofList (entries : List Identifier) : Identity := anonymous.addAll entries

def primary? (identity : Identity) : Option String := identity.entries.head?.map Identifier.name

/-- The identifiers that one source supplied. -/
def fromSource (identity : Identity) (source : String) : List String :=
  (identity.entries.filter (·.source = source)).map Identifier.name

/-- The sources, each once, in order of first appearance. -/
def sources (identity : Identity) : List String := (identity.entries.map Identifier.source).eraseDups

def isAnonymous (identity : Identity) : Bool := identity.entries.isEmpty

def size (identity : Identity) : Nat := identity.entries.length

/-- The primary identifier, or a word for having none. -/
def label (identity : Identity) : String := identity.primary?.getD "<anonymous>"

theorem entries_add (identity : Identity) (entry : Identifier) :
    (identity.add entry).entries =
      identity.entries ++ if entry ∈ identity.entries then [] else [entry] := by
  unfold add
  split <;> simp

end Identity

end Gatehouse
