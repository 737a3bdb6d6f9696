import HostWatch.Config.Overrides
import HostWatch.Config.Record
import HostWatch.Host.File
import HostWatch.Text.Utf8
import HostWatch.Toml.Parse
set_option autoImplicit false

/-!
# Configuration: loading

A configuration is a TOML file under the overrides of the environment.  A file that was
asked for has to be there; without one the file at the usual place counts, and when that
is missing too, the built-in values do.
-/

namespace HostWatch

/-- Why no configuration could be loaded. -/
inductive LoadFailure where
  /-- there is no usual place for the file -/
  | noPlace
  /-- the file cannot be read as a text -/
  | unreadable (path reason : String)
  /-- the text is no configuration -/
  | unparsable (path : String)
  deriving DecidableEq, Repr, Inhabited

/-- What failed, from the outermost to the innermost cause. -/
def LoadFailure.causes : LoadFailure → List String
  | .noPlace => ["Could not find config directory"]
  | .unreadable path reason => ["Failed to read config file " ++ path, reason]
  | .unparsable path => ["Failed to parse config file " ++ path, "not a configuration in TOML"]

/-- What failed, in one line. -/
def LoadFailure.message (f : LoadFailure) : String := f.causes.headD ""

/-- The configuration that a TOML text holds. -/
def MonitorConfig.ofToml? (text : String) : Option MonitorConfig :=
  (Toml.parse? text).bind (MonitorConfig.ofJson? .toml)

/-- The configuration in a file that was read. -/
def MonitorConfig.ofFile (path : String) : FileReading → Except LoadFailure MonitorConfig
  | .error fault => .error (.unreadable path fault.message)
  | .ok bytes =>
    match Text.decode? bytes with
    | none => .error (.unreadable path "stream did not contain valid UTF-8")
    | some text =>
      match ofToml? text with
      | none => .error (.unparsable path)
      | some c => .ok c

/-- The file below the directory for configurations. -/
def configFile (directory : String) : String := directory ++ "/monic/config.toml"

/-- The usual place of the file: below the directory for configurations when the
environment names one by an absolute path, else below the home directory, which is the
account's when the environment names none. -/
def Environment.configPlace? (env : Environment) (home : Option String) : Option String :=
  match (env "XDG_CONFIG_HOME").filter fun d => d.toList.head? = some '/' with
  | some directory => some (configFile directory)
  | none =>
    (((env "HOME").filter fun d => !d.isEmpty).or home).map fun h => configFile (h ++ "/.config")

namespace MonitorConfig

/-- Loads a file that has to be there. -/
def loadFile (file : String → FileReading) (path : String) :
    Except LoadFailure (MonitorConfig × List LogLine) :=
  (ofFile path (file path)).map fun c =>
    (c, [.plain .info ("Loaded configuration from " ++ path)])

/-- Loads the file at the usual place, if there is something. -/
def loadPlace (file : String → FileReading) (path : String) :
    Except LoadFailure (MonitorConfig × List LogLine) :=
  let absent : Bool :=
    match file path with
    | .error fault => fault.isAbsence
    | .ok _ => false
  if absent then
    .ok (initial, [.plain .info ("No config file at " ++ path ++ ", using defaults")])
  else loadFile file path

/-- Loads the configuration: the file that was asked for or the one at the usual place,
under the overrides of the environment. -/
def load (file : String → FileReading) (asked place : Option String) (env : Environment) :
    Except LoadFailure (MonitorConfig × List LogLine) := do
  let (c, logs) ←
    match asked, place with
    | some path, _ => loadFile file path
    | none, some path => loadPlace file path
    | none, none => .error .noPlace
  return (c.overriddenBy env, logs ++ env.complaints)

end MonitorConfig

end HostWatch
