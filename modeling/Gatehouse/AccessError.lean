import Gatehouse.Fault
import Gatehouse.Identity
import Gatehouse.Operator
import Gatehouse.Permission

/-!
# Access errors

Why a check gives no verdict, or gives a denial as an error.
-/

namespace Gatehouse

/-- What a check is about. -/
inductive ItemKind where
  | permission
  | role
  deriving DecidableEq, Repr

def ItemKind.name : ItemKind → String
  | permission => "permission"
  | role => "role"

/-- A request that was refused as a whole. -/
structure Denial where
  identity : Identity
  kind : ItemKind
  items : List String
  operator : Operator
  deriving DecidableEq, Repr

inductive AccessError where
  | invalidFormat (error : FormatError)
  | realmsNotConfigured
  | unauthorized (denial : Denial)
  | eventBusNotConfigured
  | realmFailed (realm message : String)
  deriving DecidableEq, Repr

namespace AccessError

def code : AccessError → String
  | invalidFormat _ => "AUTHZ_INVALID_FORMAT"
  | realmsNotConfigured => "AUTHZ_REALMS_NOT_CONFIGURED"
  | unauthorized _ => "AUTHZ_UNAUTHORIZED"
  | eventBusNotConfigured => "AUTHZ_EVENT_BUS_NOT_CONFIGURED"
  | realmFailed .. => "AUTHZ_REALM_FAILED"

def message : AccessError → String
  | invalidFormat error => error.message
  | realmsNotConfigured => "no realms configured: at least one realm is required to authorize"
  | unauthorized d =>
    "unauthorized: '" ++ d.identity.label ++ "' is not granted " ++ d.kind.name ++ "(s) [" ++
      ", ".intercalate d.items ++ "] under '" ++ d.operator.name ++ "'"
  | eventBusNotConfigured => "no event bus configured: authorization events cannot be published"
  | realmFailed realm message => "realm '" ++ realm ++ "' failed: " ++ message

/-- Only the outage of a realm can pass. -/
def recoverable : AccessError → Bool
  | realmFailed .. => true
  | _ => false

def isUnauthorized : AccessError → Bool
  | unauthorized _ => true
  | _ => false

instance : Fault AccessError := ⟨code, message, recoverable⟩

end AccessError

end Gatehouse
