import Gatehouse.Clearance

/-!
# Accounts

The record that a store keeps of an account, and the clearance that it amounts to.
-/

namespace Gatehouse

/-- The roles of an account, and the texts of its permissions as written. -/
structure Account where
  roles : SortedSet String := .empty
  permissions : List String := []
  deriving DecidableEq, Inhabited

namespace Account

def ofLists (roles permissions : List String) : Account := ⟨.ofList roles, permissions⟩

def grants (a : Account) : List Grant := a.permissions.map .raw

def clearance (a : Account) : Clearance := .ofParts a.roles.toList a.grants

end Account

end Gatehouse
