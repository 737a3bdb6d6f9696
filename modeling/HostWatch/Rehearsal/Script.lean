import HostWatch.Config.Basic
import HostWatch.Fault
import HostWatch.KeyMap
import HostWatch.Sample.Container
set_option autoImplicit false

/-!
# Rehearsal: scripted collaborators

Collaborators that answer from a script, for rehearsing what the monitor does.  Each is
a value, and a call leads to the next value and the answer.

A resource script repeats its last sample when it is exhausted; a probe script repeats
its last entry; an endpoint without a script answers with the status its check expects.
-/

namespace HostWatch.Rehearsal

open HostWatch.Number HostWatch.Time

/-! ## Made-up samples -/

/-- Bytes of the given percentage of a total: how many are used.  Nothing has more in use
than there is. -/
def share? (total : UInt64) (percent : Float) : Option UInt64 :=
  let used := (total.toFloat * percent / 100.0).toUInt64
  if used ≤ total then some used else none

/-- A gibibyte. -/
def gibibyte : UInt64 := 1073741824

/-- Memory of 16 GiB with the given percentage in use. -/
def memory? (percent : Float) : Option MemoryUsage :=
  let total := 16 * gibibyte
  (share? total percent).map fun used => ⟨total, used, total - used, percent⟩

/-- A disk of 100 GiB with the given percentage in use. -/
def disk? (path : String) (percent : Float) : Option DiskUsage :=
  let total := 100 * gibibyte
  (share? total percent).map fun used => ⟨path, total, used, total - used, percent⟩

/-- A sample with the given percentages; none when more would be in use than there is. -/
def resourceSample? (cpu memory : Float) (disks : List (String × Float)) (now : Instant) :
    Option ResourceSample := do
  let memory ← memory? memory
  let disks ← disks.mapM fun d => disk? d.1 d.2
  return ⟨now, cpu, memory, disks⟩

/-- A container with the given name; its id tells the length of the name. -/
def containerSample (name : String) (running : Bool) (exitCode : Int64) (now : Instant) :
    ContainerSample where
  id := padded 12 name.utf8ByteSize
  name := name
  status := if running then "Up 2 hours" else "Exited (" ++ intText exitCode.toInt ++ ")"
  state := if running then "running" else "exited"
  running := running
  restarts := 0
  exitCode := exitCode
  error := none
  time := now

/-! ## Resources -/

/-- A script of samples and failures. -/
structure ResourceScript where
  entries : List (Except String ResourceSample)
  /-- the last sample that was given -/
  last : Option ResourceSample
  calls : Nat
  deriving Inhabited

namespace ResourceScript

/-- The script without entries. -/
def empty : ResourceScript := ⟨[], none, 0⟩

/-- One more entry at the end. -/
def push (s : ResourceScript) (entry : Except String ResourceSample) : ResourceScript :=
  { s with entries := s.entries ++ [entry] }

/-- A script of processor loads, with little memory and disk in use. -/
def ofLoads (loads : List Float) (now : Instant) : ResourceScript :=
  let samples := loads.filterMap fun load => resourceSample? load 20.0 [("/", 30.0)] now
  samples.foldl (fun s sample => s.push (.ok sample)) empty

/-- Answers a call at `now`. -/
def collect (s : ResourceScript) (now : Instant) :
    ResourceScript × Except Fault ResourceSample :=
  let s := { s with calls := s.calls + 1 }
  match s.entries with
  | .ok sample :: rest =>
    let sample := { sample with time := now }
    ({ s with entries := rest, last := some sample }, .ok sample)
  | .error reason :: rest => ({ s with entries := rest }, .error (.collection reason))
  | [] =>
    match s.last with
    | some sample => (s, .ok { sample with time := now })
    | none => (s, .error (.collection "no scripted sample"))

end ResourceScript

/-! ## Endpoints -/

/-- Scripts of statuses by endpoint; no status stands for a refused connection. -/
structure ProbeScript where
  scripts : KeyMap (List (Option UInt16))
  /-- the endpoints that were probed, in the order of the calls -/
  probed : List String
  deriving Inhabited

namespace ProbeScript

/-- No endpoint has a script. -/
def empty : ProbeScript := ⟨.empty, []⟩

/-- More statuses for an endpoint. -/
def extend (s : ProbeScript) (name : String) (statuses : List (Option UInt16)) : ProbeScript :=
  { s with scripts := s.scripts.insert name ((s.scripts.find? name).getD [] ++ statuses) }

/-- The next status of a script, and the script afterwards: the last entry stays. -/
def nextStatus : List (Option UInt16) → Option UInt16 × List (Option UInt16)
  | [] => (none, [])
  | [status] => (status, [status])
  | status :: rest => (status, rest)

/-- The result of a probe that met a status. -/
def resultOf (check : EndpointCheck) (status : Option UInt16) (now : Instant) : EndpointResult :=
  let error : Option String :=
    match status with
    | none => some "request failed: connection refused"
    | some code =>
      if code = check.expectedStatus then none
      else some ("unexpected status code: " ++ natText code.toNat ++ " (expected: "
        ++ natText check.expectedStatus.toNat ++ ")")
  ⟨check.name, check.url, status, 5, error.isNone, error, now⟩

/-- Answers a probe at `now`. -/
def probe (s : ProbeScript) (check : EndpointCheck) (now : Instant) :
    ProbeScript × EndpointResult :=
  let s := { s with probed := s.probed ++ [check.name] }
  match s.scripts.find? check.name with
  | none => (s, resultOf check (some check.expectedStatus) now)
  | some script =>
    let (status, rest) := nextStatus script
    ({ s with scripts := s.scripts.insert check.name rest }, resultOf check status now)

end ProbeScript

/-! ## Containers -/

/-- A container runtime that always lists the same containers. -/
structure ContainerShelf where
  available : Bool
  containers : List ContainerSample
  deriving Inhabited

namespace ContainerShelf

/-- The containers with one of the names, or all of them when no names are given. -/
def list (s : ContainerShelf) (names : List String) (now : Instant) : List ContainerSample :=
  (s.containers.filter fun c => names.isEmpty || names.contains c.name).map
    fun c => { c with time := now }

/-- The runtime can be used when it is available. -/
def ready (s : ContainerShelf) : Except Fault Unit :=
  if s.available then .ok () else .error (.containers "runtime not running")

end ContainerShelf

end HostWatch.Rehearsal
