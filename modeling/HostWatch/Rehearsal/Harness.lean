import HostWatch.Json.Tagged
import HostWatch.Monitor.Service
import HostWatch.Rehearsal.Script
set_option autoImplicit false

/-!
# Rehearsal: a monitor with scripted collaborators

The rehearsal has a recording channel, which accepts every alert, and after it channels
that fail every delivery with a fixed reason.  Calls take no time.
-/

namespace HostWatch.Rehearsal

open HostWatch.Time (Instant)

/-- The scripted outside of a monitor. -/
structure Stage where
  resources : ResourceScript
  probes : ProbeScript
  containers : ContainerShelf
  /-- why each channel after the recording one fails -/
  failing : List (String × String)
  now : Instant
  deriving Inhabited

/-- The configuration of a rehearsal: alerting is on without a cooldown, and every interval
is a second. -/
def config : MonitorConfig :=
  let c := MonitorConfig.initial
  { c with
    resources := { c.resources with intervalSecs := 1, diskPaths := ["/"] }
    endpoints := { c.endpoints with intervalSecs := 1 }
    containers := { c.containers with intervalSecs := 1 }
    alerting := { c.alerting with enabled := true, cooldownMinutes := 0, dispatchIntervalSecs := 1 } }

/-- The name of the channel that accepts every alert. -/
def recordingChannel : String := "recording"

namespace Stage

/-- The names of the channels. -/
def channels (s : Stage) : List String := recordingChannel :: s.failing.map (·.1)

/-- What the channel at a position answers. -/
def reply (s : Stage) : Nat → Option String
  | 0 => none
  | i + 1 => (s.failing[i]?).map (·.2)

/-- The stage as the collaborators of a monitor. -/
def collaborators : Collaborators Stage where
  collect s _ :=
    let r := s.resources.collect s.now
    ({ s with resources := r.1 }, ⟨0, some r.2⟩)
  probe s check :=
    let r := s.probes.probe check s.now
    ({ s with probes := r.1 }, ⟨0, some (.ok r.2)⟩)
  hasRuntime := true
  ready s := s.containers.ready
  list s names := (s, ⟨0, some (.ok (s.containers.list names s.now))⟩)
  deliver s _ := (s, ⟨0, fun i => s.reply i⟩)
  wallClock s := s.now

end Stage

/-- Compares a field of a monitor's status with what was expected: nothing, or what is
wrong. -/
def fieldComplaint? (status : Json) (path : String) (expected : Json) : Option String :=
  let parts := (Text.splitAt '.' path.toList).map String.ofList
  match Json.part? parts status with
  | none => some ("Field '" ++ path ++ "' not found in service status")
  | some actual =>
    let actual := actual.canonical
    let expected := expected.canonical
    if actual.same expected then none
    else some ("Field '" ++ path ++ "' mismatch: expected " ++ expected.tagged ++ ", got "
      ++ actual.tagged)

end HostWatch.Rehearsal
