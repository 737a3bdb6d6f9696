import HostWatch.CommandLine.Check
import HostWatch.Json.Render
set_option autoImplicit false

/-!
# The program

Reads what is around it, runs the command line and writes what that says.
-/

namespace HostWatch.CommandLine

/-- How the program is used. -/
def usage : List String := [
  "Host monitoring agent with debounced alerting", "",
  "Usage: monic [OPTIONS]", "",
  "Options:",
  "  -c, --config <CONFIG>  Configuration file [env: MONIC_CONFIG=]",
  "      --check-config     Validate the configuration and exit",
  "      --log-json         Emit logs as JSON",
  "  -h, --help             Print help",
  "  -V, --version          Print version"]

/-- The fault that the system reports. -/
def faultOf : IO.Error → FileFault
  | .noFileOrDirectory .. => .notFound
  | .inappropriateType _ 20 _ => .notDirectory
  | .inappropriateType _ 21 _ => .isDirectory
  | .invalidArgument _ 36 _ => .nameTooLong
  | e => .other (toString e)

/-- What comes of reading a file. -/
def readFile (path : String) : IO FileReading := do
  try
    return .ok (← IO.FS.readBinFile path).toList
  catch e => return .error (faultOf e)

/-- The text of a file, if it can be read. -/
def readText (path : String) : IO (Option String) := do
  match ← readFile path with
  | .ok bytes => return Text.decode? bytes
  | .error _ => return none

/-- The fields of the lines of a file that have colons between them. -/
def readFields (path : String) : IO (List (List String)) := do
  let text := (← readText path).getD ""
  return (Text.lines text).map fun l => (Text.splitAt ':' l.toList).map String.ofList

/-- The variables of the environment. -/
def readEnvironment : IO Environment := do
  let text :=
    match ← readFile "/proc/self/environ" with
    | .ok bytes => Text.decodeLossy bytes
    | .error _ => ""
  let entries := (Text.splitAt '\x00' text.toList).filterMap (Text.splitOnce '=')
  return .ofEntries (entries.map fun e => (String.ofList e.1, String.ofList e.2))

/-- The home directory of the account that runs the program: its number is the first after
`Uid`, and is the third field of its line among the accounts; the directory is the sixth. -/
def readHome : IO (Option String) := do
  let status ← readFields "/proc/self/status"
  let numbers := (status.find? (·.head? == some "Uid")).bind (·[1]?)
  let own := numbers.bind fun n => (Text.splitAt '\t' n.toList)[1]?
  let accounts ← readFields "/etc/passwd"
  return (accounts.find? fun a => own.any fun n => a[2]? == some (String.ofList n)).bind (·[5]?)

/-- The files that a run may ask for, with what comes of reading them. -/
def readCandidates (s : Surroundings) (args : List String) : IO (List (String × FileReading)) := do
  match s.fullEnvironment? with
  | none => return []
  | some env =>
    let asked :=
      match Request.ofArguments args with
      | .run o => (o.path env).toList
      | _ => []
    (asked ++ (env.configPlace? s.home).toList).mapM fun path => return (path, ← readFile path)

/-- A log line as text. -/
def showLine (json : Bool) (l : LogLine) : String :=
  if json then l.toJson.render
  else l.severity.text ++ " " ++ l.message
    ++ String.join (l.fields.map fun f => " " ++ f.1 ++ "=" ++ f.2)

/-- Writes what a run says. -/
def tell (json : Bool) (o : Outcome) : IO Unit := do
  o.logs.forM fun l => IO.println (showLine json l)
  o.report.forM IO.eprintln
  match o with
  | .crashed => IO.eprintln "error: the environment cannot be used"
  | .misuse => IO.eprintln "error: invalid arguments; for more information, try '--help'."
  | .help => usage.forM IO.println
  | .version => IO.println "monic 0.1.0"
  | _ => return

end HostWatch.CommandLine

open HostWatch HostWatch.CommandLine in
/-- Checks the configuration; the monitor itself is started by whoever provides its
collaborators. -/
def main (args : List String) : IO UInt32 := do
  let environment ← readEnvironment
  let home ← readHome
  let envFile ← readText ".env"
  let bare : Surroundings := ⟨environment, home, envFile, fun _ => .error .notFound⟩
  let files ← readCandidates bare args
  let s := { bare with file := fun path => (files.lookup path).getD (.error .notFound) }
  let outcome := run s args
  tell (args.contains "--log-json") outcome
  return outcome.code.toUInt32
