import HostWatch.Docker.Output
import HostWatch.Log
import HostWatch.Sample.Container
set_option autoImplicit false

/-!
# Docker: listing containers

The list of containers gives name and state; a second command for each wanted container
adds the restarts, the exit code and the error of the runtime.  A container whose details
cannot be had is listed without them.
-/

namespace HostWatch.Docker

open HostWatch.Text
open HostWatch.Time (Instant)

/-- The command for the list of containers. -/
def listArgs : List String := ["ps", "-a", "--format", "\x7b\x7bjson .\x7d\x7d"]

/-- The command for the details of a container. -/
def inspectArgs (id : String) : List String := ["inspect", id]

/-- The command that shows whether the runtime is there. -/
def versionArgs : List String := ["version", "--format", "\x7b\x7b.Server.Version\x7d\x7d"]

/-- A container is selected by its name, which may start with a slash that the filter
leaves out; no names select every container. -/
def wanted (names : List String) (name : String) : Bool :=
  names.isEmpty || names.any fun n => name == n || name == "/" ++ n

/-- The containers of a list that are wanted. -/
def wantedLines (names : List String) (output : String) : List Line :=
  (parseList output).filter fun l => wanted names l.name

/-- The details of a container. -/
def details (runner : Runner) (id : String) : Except Fault Details :=
  (run runner (inspectArgs id)).bind parseDetails

/-- The details of a container, or none of them. -/
def knownDetails (runner : Runner) (id : String) : Details :=
  match details runner id with
  | .ok d => d
  | .error _ => .none

/-- The sample of a container at `now`. -/
def sampleOf (line : Line) (d : Details) (now : Instant) : ContainerSample where
  id := line.id
  name := line.name
  status := line.status
  state := line.state
  running := contains line.state "running"
  restarts := d.restarts
  exitCode := d.exitCode
  error := d.error
  time := now

/-- The wanted containers at `now`. -/
def list (runner : Runner) (names : List String) (now : Instant) :
    Except Fault (List ContainerSample) :=
  (run runner listArgs).map fun output =>
    (wantedLines names output).map fun l => sampleOf l (knownDetails runner l.id) now

/-- The runtime can be used. -/
def checkReady (runner : Runner) : Except Fault Unit :=
  match run runner versionArgs with
  | .ok _ => .ok ()
  | .error f => .error (.containers
      ("Docker CLI not available or Docker daemon not running: " ++ f.message))

/-! ## What is run and logged -/

/-- The commands that reach the program when containers are listed. -/
def listCalls (runner : Runner) (names : List String) : List (List String) :=
  let inspections :=
    match run runner listArgs with
    | .ok output => (wantedLines names output).map fun l => inspectArgs l.id
    | .error _ => []
  (listArgs :: inspections).filter fun args => (argumentFault? args).isNone

/-- The line for a command. -/
def runLog (args : List String) : LogLine :=
  .plain .debug ("Executing " ++ binary ++ " " ++ " ".intercalate args)

/-- The line for a container that is listed as text which describes none. -/
def lineLog? (text : String) : Option LogLine :=
  match Line.ofText? text with
  | some _ => none
  | none => some (.plain .warn ("Failed to parse container JSON: " ++ unreadable))

/-- The lines for one wanted container. -/
def detailLogs (runner : Runner) (line : Line) : List LogLine :=
  runLog (inspectArgs line.id) ::
    match details runner line.id with
    | .ok _ => []
    | .error f =>
      [⟨.warn, "Failed to inspect container: " ++ f.message, [("container", line.name)]⟩]

/-- The log of listing containers. -/
def listLogs (runner : Runner) (names : List String) : List LogLine :=
  runLog listArgs ::
    match run runner listArgs with
    | .error _ => []
    | .ok output =>
      (filledLines output).filterMap lineLog? ++
        (wantedLines names output).flatMap (detailLogs runner)

/-- The log of asking for the runtime. -/
def readyLogs (runner : Runner) : List LogLine :=
  runLog versionArgs ::
    match checkReady runner with
    | .ok () => [.plain .info "Docker monitor initialized successfully"]
    | .error _ => []

end HostWatch.Docker
