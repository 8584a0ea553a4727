import Gatehouse.Fault
import Gatehouse.Operator
import Gatehouse.Permission

/-!
# Configuration errors

Why a configuration cannot be loaded or used.
-/

namespace Gatehouse

/-- What is wrong with the entry of a realm. -/
inductive RealmFault where
  | blankName
  | repeatedName
  | other (message : String)
  deriving DecidableEq, Repr

def RealmFault.message : RealmFault → String
  | blankName => "name is empty"
  | repeatedName => "name is duplicated"
  | other message => message

/-- Why the value of an environment variable is of no use. -/
inductive VariableFault where
  | operator (error : UnknownOperator)
  | notBoolean
  | other (reason : String)
  deriving DecidableEq, Repr

def VariableFault.reason : VariableFault → String
  | operator error => error.message
  | notBoolean => "not a boolean"
  | other reason => reason

/-- Why a file that is there cannot be read. -/
inductive FileFault where
  | notText
  | other (reason : String)
  deriving DecidableEq, Repr

def FileFault.reason : FileFault → String
  | notText => "stream did not contain valid UTF-8"
  | other reason => reason

inductive ConfigError where
  | unreadable (path : String) (fault : FileFault)
  | malformed (path : String)
  | badVariable (name value : String) (fault : VariableFault)
  | invalidRealm (name : String) (fault : RealmFault)
  | invalidPermission (realm account : String) (error : FormatError)
  deriving DecidableEq, Repr

namespace ConfigError

def code : ConfigError → String
  | unreadable .. => "CONFIG_IO"
  | malformed _ => "CONFIG_PARSE"
  | badVariable .. => "CONFIG_ENV_VAR"
  | invalidRealm .. => "CONFIG_INVALID_REALM"
  | invalidPermission .. => "CONFIG_INVALID_PERMISSION"

def message : ConfigError → String
  | unreadable path fault => "cannot read '" ++ path ++ "': " ++ fault.reason
  | malformed path => "cannot parse '" ++ path ++ "'"
  | badVariable name value fault => name ++ "=" ++ Text.quote value ++ " rejected: " ++ fault.reason
  | invalidRealm name fault => "invalid realm '" ++ name ++ "': " ++ fault.message
  | invalidPermission realm account error =>
    "realm '" ++ realm ++ "', account '" ++ account ++ "': " ++ error.message

instance : Fault ConfigError := ⟨code, message, fun _ => false⟩

end ConfigError

end Gatehouse
