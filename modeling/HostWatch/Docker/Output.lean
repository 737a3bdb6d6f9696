import HostWatch.Fault
import HostWatch.Json.Parse
import HostWatch.Json.Record
import HostWatch.Text.Blank
import HostWatch.Text.Utf8
set_option autoImplicit false

/-!
# Docker: what its commands print

A command ends with a code and two outputs; any code but zero is a failure, whose reason
is in the second output.  The list of containers has one JSON object on each line, and
the details of a container are the first of a JSON array.
-/

namespace HostWatch.Docker

open HostWatch.Text

/-- How a command ended. -/
structure Output where
  stdout : List UInt8
  stderr : List UInt8
  code : Int
  deriving DecidableEq, Repr, Inhabited

/-- Runs the command with the given arguments; what keeps it from running is an error. -/
abbrev Runner := List String → Except String Output

/-- The words for a text that is not the JSON it should be. -/
def unreadable : String := "not the expected JSON"

/-- The program that is run. -/
def binary : String := "docker"

/-- Why the arguments cannot be given to a program. -/
def argumentFault? (args : List String) : Option String :=
  if args.any fun a => a.toList.contains '\x00' then some "nul byte found in provided data"
  else none

/-- The output of a command with the given arguments. -/
def run (runner : Runner) (args : List String) : Except Fault String :=
  let refused (reason : String) : Except Fault String :=
    .error (.containers ("failed to run " ++ binary ++ ": " ++ reason))
  match argumentFault? args with
  | some reason => refused reason
  | none =>
    match runner args with
    | .error reason => refused reason
    | .ok out =>
      if out.code = 0 then .ok (decodeLossy out.stdout)
      else .error (.containers (binary ++ " " ++ args.headD "" ++ " failed: "
        ++ trim (decodeLossy out.stderr)))

/-! ## The list of containers -/

/-- One line of the list of containers. -/
structure Line where
  id : String
  name : String
  status : String
  state : String
  deriving DecidableEq, Repr, Inhabited

/-- A line from a record. -/
def Line.ofJson? (v : Json) : Option Line := do
  let r ← Json.Record.ofJson? .json ["ID", "Names", "Status", "State"] v
  return {
    id := ← r.required "ID" Json.text?
    name := ← r.required "Names" Json.text?
    status := ← r.withDefault "Status" Json.text? ""
    state := ← r.withDefault "State" Json.text? "" }

/-- The container that a line describes. -/
def Line.ofText? (s : String) : Option Line := (Json.parse? s).bind Line.ofJson?

/-- The lines of a list that are not blank, without the blanks at their ends. -/
def filledLines (output : String) : List String := ((lines output).map trim).filter (! ·.isEmpty)

/-- The containers of a list; lines that describe none are left out. -/
def parseList (output : String) : List Line := (filledLines output).filterMap Line.ofText?

/-! ## Details -/

/-- The details of a container. -/
structure Details where
  restarts : UInt32
  exitCode : Int64
  error : Option String
  deriving DecidableEq, Repr, Inhabited

/-- What is taken for the details of a container that gives none. -/
def Details.none : Details := ⟨0, 0, .none⟩

/-- How a container ended: its code and the error of the runtime. -/
def readState? (v : Json) : Option (Int64 × String) := do
  let r ← Json.Record.ofJson? .json ["ExitCode", "Error"] v
  return (← r.withDefault "ExitCode" Json.int64? 0, ← r.withDefault "Error" Json.text? "")

/-- Details from a record. -/
def Details.ofJson? (v : Json) : Option Details := do
  let r ← Json.Record.ofJson? .json ["RestartCount", "State"] v
  let restarts ← r.withDefault "RestartCount" Json.uint32? 0
  let (exitCode, error) ← r.withDefault "State" readState? (0, "")
  return ⟨restarts, exitCode, if error.isEmpty then .none else some error⟩

/-- The details of the first container of an array. -/
def parseDetails (output : String) : Except Fault Details :=
  match (Json.parse? output).bind (Json.list? Details.ofJson?) with
  | .none => .error (.containers ("failed to parse container inspect JSON: " ++ unreadable))
  | some [] => .error (.containers "no container info found")
  | some (d :: _) => .ok d

end HostWatch.Docker
