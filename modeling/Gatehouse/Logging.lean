import Gatehouse.Config
import Gatehouse.Fault
import Gatehouse.Logging.Filter

/-!
# Logging

What is logged is decided by the filter of the process, if it has a usable one, and else by the level
of the configuration. Logging is set up once in a process.
-/

namespace Gatehouse

inductive LoggingError where
  | invalidFilter (text : String) (fault : FilterFault)
  | alreadyInitialized
  deriving DecidableEq, Repr

namespace LoggingError

def code : LoggingError → String
  | invalidFilter .. => "LOGGING_INVALID_DIRECTIVE"
  | alreadyInitialized => "LOGGING_ALREADY_INITIALIZED"

def message : LoggingError → String
  | invalidFilter text fault => "invalid log filter '" ++ text ++ "': " ++ fault.reason
  | alreadyInitialized =>
    "tracing subscriber already initialized: a global default trace dispatcher has already been set"

instance : Fault LoggingError := ⟨code, message, fun _ => false⟩

end LoggingError

namespace Config.Logging

/-- The filter of the process, where it is usable, or else that of the settings. -/
def filter (settings : Logging) (process? : Option String) : Except LoggingError LogFilter :=
  match process?.map LogFilter.parse with
  | some (.ok filter) => .ok filter
  | _ => (LogFilter.parse settings.level).mapError (.invalidFilter settings.level)

/-- Sets logging up, in a process where that has been done before or not. -/
def init (settings : Logging) (process? : Option String) (installed : Bool) :
    Except LoggingError LogFilter := do
  let filter ← settings.filter process?
  if installed then .error .alreadyInitialized else return filter

end Config.Logging

end Gatehouse
