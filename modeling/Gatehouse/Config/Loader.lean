import Gatehouse.Config.Toml
import Gatehouse.Config.Validation
import Gatehouse.Files

/-!
# Loading a configuration

A configuration is put together from layers, each laid over the ones before it: the global file, the
files given, and the variables of the environment. What comes out is validated. A file that is not
there counts for nothing, and so does a variable whose value is not text.
-/

namespace Gatehouse.Config

/-- The surroundings that a configuration is loaded from. -/
structure Surroundings where
  home : String
  files : FileTree := .empty
  environment : SortedMap String ByteArray := .empty

/-- Continues a path. -/
def joinPath (path name : String) : String :=
  if path.isEmpty || path.toList.getLast? = some '/' then path ++ name else path ++ "/" ++ name

/-- The directory below a home that holds its configuration. -/
def directoryOf (home : String) : String := joinPath home ".warden"

/-- The configuration file of a home. -/
def fileOf (home : String) : String := joinPath (directoryOf home) "config.toml"

/-- Where the global layer is written. -/
inductive Global where
  | home
  | at (path : String)
  | skipped
  deriving DecidableEq

structure Loader where
  global : Global := .home
  files : List String := []
  skipVariables : Bool := false
  deriving DecidableEq

namespace Surroundings

/-- The value of a variable that is set to text. -/
def valueOf? (s : Surroundings) (name : String) : Option String :=
  s.environment.find? name >>= String.fromUTF8?

/-- Reads the layer in a file, if the path leads to one. -/
def layer? (s : Surroundings) (path : String) : Except ConfigError (Option Layer) :=
  match s.files.entry? path with
  | none | some .directory => .ok none
  | some (.locked reason) => .error (.unreadable path (.other reason))
  | some (.file content) =>
    match String.fromUTF8? content with
    | none => .error (.unreadable path .notText)
    | some text =>
      match Layer.ofToml? text with
      | none => .error (.malformed path)
      | some layer => .ok (some layer)

/-- Lays the layer in a file over a configuration. -/
def overlayFile (s : Surroundings) (config : Config) (path : String) : Except ConfigError Config :=
  (s.layer? path).map fun layer? => layer?.elim config config.overlay

end Surroundings

/-- Reads a truth value between blanks, in letters of either case. -/
def readFlag (text : String) : Option Bool :=
  let word := Text.lowercaseASCII (Text.trim text)
  if word ∈ ["true", "1", "yes", "on"] then some true
  else if word ∈ ["false", "0", "no", "off"] then some false
  else none

/-! ## Variables -/

def operatorVariable : String := "WARDEN_DEFAULT_OPERATOR"

def resultsVariable : String := "WARDEN_LOG_RESULTS"

def levelVariable : String := "WARDEN_LOG_LEVEL"

def operatorOf (value : String) : Except ConfigError Operator :=
  (Operator.parse value).mapError fun e => .badVariable operatorVariable value (.operator e)

def flagOf (value : String) : Except ConfigError Bool :=
  match readFlag value with
  | some b => .ok b
  | none => .error (.badVariable resultsVariable value .notBoolean)

/-- The layer that the variables write. -/
def Surroundings.variableLayer (s : Surroundings) : Except ConfigError Layer := do
  let defaultOperator? ← (s.valueOf? operatorVariable).mapM operatorOf
  let logResults? ← (s.valueOf? resultsVariable).mapM flagOf
  let level? := s.valueOf? levelVariable
  return { authz := { defaultOperator?, logResults? }, logging := { level? } }

namespace Loader

/-- The files to read, the one of lowest priority first. -/
def paths (loader : Loader) (s : Surroundings) : List String :=
  let global :=
    match loader.global with
    | .home => [fileOf s.home]
    | .at path => [path]
    | .skipped => []
  global ++ loader.files

/-- The configuration that the files write. -/
def readFiles (loader : Loader) (s : Surroundings) : Except ConfigError Config :=
  (loader.paths s).foldlM s.overlayFile {}

/-- The configuration before validation. -/
def gather (loader : Loader) (s : Surroundings) : Except ConfigError Config := do
  let config ← loader.readFiles s
  if loader.skipVariables then return config
  return config.overlay (← s.variableLayer)

def load (loader : Loader) (s : Surroundings) : Except ConfigError Config := do
  let config ← loader.gather s
  config.validate
  return config

end Loader

end Gatehouse.Config
