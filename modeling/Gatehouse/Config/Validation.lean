import Gatehouse.Config
import Gatehouse.Config.Error

/-!
# Validation

A configuration is valid when its realms have distinct names that are not blank and every permission
text of every account is a permission. The first violation in reading order is reported.
-/

namespace Gatehouse.Config

/-- Reads every permission text of an account. -/
def checkAccount (realm account : String) (record : Account) : Except ConfigError Unit :=
  record.permissions.forM fun text =>
    match Permission.parse text with
    | .ok _ => .ok ()
    | .error error => .error (.invalidPermission realm account error)

/-- Checks the name of a realm against those of the realms before it, then its accounts. -/
def checkRealm (earlier : List String) (realm : Realm) : Except ConfigError Unit :=
  if (Text.trimChars realm.name.toList).isEmpty then .error (.invalidRealm realm.name .blankName)
  else if realm.name ∈ earlier then .error (.invalidRealm realm.name .repeatedName)
  else realm.accounts.toList.forM fun entry => checkAccount realm.name entry.1 entry.2

def checkRealms (earlier : List String) : List Realm → Except ConfigError Unit
  | [] => .ok ()
  | realm :: realms => do
    checkRealm earlier realm
    checkRealms (earlier ++ [realm.name]) realms

def validate (config : Config) : Except ConfigError Unit := checkRealms [] config.realms

end Gatehouse.Config
