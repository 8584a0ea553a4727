import Gatehouse.Account
import Gatehouse.Operator

/-!
# Configurations

What a site is set up from: how checks are combined and logged, how much is logged, and the realms
with their accounts, in the order in which they are asked.
-/

namespace Gatehouse

namespace Config

structure Authz where
  defaultOperator : Operator := .all
  logResults : Bool := true
  deriving DecidableEq, Inhabited

structure Logging where
  level : String := "warn"
  ansi : Bool := true
  deriving DecidableEq, Inhabited

/-- A realm over the accounts written in the configuration. -/
structure Realm where
  name : String
  accounts : SortedMap String Account := .empty
  deriving DecidableEq, Inhabited

end Config

structure Config where
  authz : Config.Authz := {}
  logging : Config.Logging := {}
  realms : List Config.Realm := []
  deriving DecidableEq, Inhabited

end Gatehouse
