import Gatehouse.Grant
import Gatehouse.Sorted.Map

/-!
# Clearances

What one identity may do: the roles it holds, and its grants filed under each of their domain tokens.
A request is judged by the grants filed under its own domain tokens and under `*`, the only ones that
can imply it.
-/

namespace Gatehouse

structure Clearance where
  roles : SortedSet String
  index : SortedMap String (SortedSet Grant)
  deriving DecidableEq

namespace Clearance

def empty : Clearance := ⟨.empty, .empty⟩

instance : Inhabited Clearance := ⟨empty⟩

def isEmpty (c : Clearance) : Bool := c.roles.isEmpty && c.index.isEmpty

def hasRole (c : Clearance) (role : String) : Bool := decide (role ∈ c.roles)

/-- The grants filed under a domain token. -/
def filed (c : Clearance) (domain : String) : SortedSet Grant := (c.index.find? domain).getD .empty

/-- Every grant on file, once. -/
def grants (c : Clearance) : SortedSet Grant :=
  .ofList (c.index.toList.flatMap fun entry => entry.2.toList)

def addRoles (c : Clearance) (roles : List String) : Clearance :=
  { c with roles := c.roles.insertAll roles }

/-- Files a grant under one domain token. -/
def fileUnder (grant : Grant) (c : Clearance) (domain : String) : Clearance :=
  { c with index := c.index.insert domain ((c.filed domain).insert grant) }

/-- Files a grant under each of its domain tokens. -/
def file (c : Clearance) (grant : Grant) : Clearance := grant.domains.foldl (fileUnder grant) c

def addGrants (c : Clearance) (grants : List Grant) : Clearance := grants.foldl file c

/-- Replaces the grants and keeps the roles. -/
def setGrants (c : Clearance) (grants : List Grant) : Clearance :=
  { c with index := .empty }.addGrants grants

def ofParts (roles : List String) (grants : List Grant) : Clearance :=
  (empty.addRoles roles).addGrants grants

/-- The grants that have no domain token, so that filing leaves them out. -/
def unfiled (grants : List Grant) : List Grant := grants.filter (·.domains.isEmpty)

/-- The grants that could imply the request, each once: those filed under its domain tokens, then
those filed under `*`. -/
def candidates (c : Clearance) (requested : Permission) : List Grant :=
  ((requested.domain.toList ++ [Tokens.wildcard]).flatMap fun domain =>
    (c.filed domain).toList).eraseDups

/-- The candidates as permissions; the first text that is not one spoils them all. -/
def resolved (c : Clearance) (requested : Permission) : Except FormatError (List Permission) :=
  (c.candidates requested).mapM Grant.resolve

def permits (c : Clearance) (requested : Permission) : Except FormatError Bool :=
  (c.resolved requested).map fun held => held.any (·.implies requested)

/-- A verdict for each request, in order. -/
def judge (c : Clearance) (requested : List Permission) :
    Except FormatError (List (Permission × Bool)) :=
  requested.mapM fun p => (c.permits p).map (p, ·)

def judgeRoles (c : Clearance) (roles : List String) : List (String × Bool) :=
  roles.map fun role => (role, c.hasRole role)

end Clearance

end Gatehouse
