import HostWatch.Alert.Book
import HostWatch.Config.Basic
import HostWatch.Log
import HostWatch.Number.Shortest
import HostWatch.Sample.Container
set_option autoImplicit false

/-!
# Alerts: findings

A finding is the verdict on one reading of one thing, with the words for an event
that may come of it.  Samples are turned into findings here, and a list of findings
goes through the book in its order (`AlertBook.observeAll`).

The keys of the four domains cannot meet: `cpu` and `memory` stand for themselves,
and the keys of disks, endpoints and containers start with a word of their own.  A
percentage that is not finite is no reading at all and only leaves a log line.
-/

namespace HostWatch

open HostWatch.Number HostWatch.Time

/-- The key of a path on a disk. -/
def diskKey (path : String) : String := "disk_" ++ path

/-- The key of an endpoint. -/
def endpointKey (name : String) : String := "http_" ++ name

/-- The key of a container. -/
def containerKey (name : String) : String := "docker_" ++ name

/-- The verdict on one reading. -/
structure Finding where
  key : String
  health : Health
  message : String
  time : Instant
  deriving DecidableEq, Repr, Inhabited

/-! ## Percentages -/

/-- One percentage of a sample with the threshold that it is held against. -/
structure Gauge where
  key : String
  label : String
  value : Float
  threshold : Float
  deriving DecidableEq, Inhabited

namespace Gauge

/-- A percentage is bad from its threshold on. -/
def classify (value threshold : Float) : Health := .ofFailure (decide (threshold ≤ value))

/-- The words for a reading. -/
def message (g : Gauge) : Health → String
  | .critical =>
    g.label ++ " is " ++ fixedText 1 g.value ++ "% (threshold: " ++ fixedText 1 g.threshold ++ "%)"
  | .ok =>
    g.label ++ " recovered to " ++ fixedText 1 g.value ++ "% (threshold: "
      ++ fixedText 1 g.threshold ++ "%)"

/-- The finding of a reading; what is not finite gives none. -/
def finding? (g : Gauge) (time : Instant) : Option Finding :=
  if isFinite g.value then
    let health := classify g.value g.threshold
    some ⟨g.key, health, g.message health, time⟩
  else none

/-- The log line for a reading that is not finite. -/
def skipped? (g : Gauge) : Option LogLine :=
  if isFinite g.value then none
  else some ⟨.warn, "Skipping non-finite reading",
    [("key", g.key), ("value", floatText g.value)]⟩

end Gauge

namespace ResourceSample

/-- The percentages of a sample: processor, memory, and every disk. -/
def gauges (s : ResourceSample) (checks : ResourceChecks) : List Gauge :=
  ⟨"cpu", "CPU usage", s.cpuPercent, checks.cpuThreshold⟩ ::
    ⟨"memory", "Memory usage", s.memory.usedPercent, checks.memoryThreshold⟩ ::
    s.disks.map fun d =>
      ⟨diskKey d.path, "Disk usage on " ++ d.path, d.usedPercent, checks.diskThreshold⟩

/-- The findings of a sample. -/
def findings (s : ResourceSample) (checks : ResourceChecks) : List Finding :=
  (s.gauges checks).filterMap (·.finding? s.time)

/-- The log lines for what a sample holds that is no reading. -/
def skipped (s : ResourceSample) (checks : ResourceChecks) : List LogLine :=
  (s.gauges checks).filterMap Gauge.skipped?

end ResourceSample

/-! ## Endpoints and containers -/

/-- The finding of a probe. -/
def EndpointResult.finding (e : EndpointResult) : Finding :=
  let message :=
    if e.success then
      match e.status with
      | some code => e.name ++ " is reachable again (status " ++ natText code.toNat ++ ")"
      | none => e.name ++ " is reachable again"
    else e.error.getD (e.name ++ " is unreachable")
  ⟨endpointKey e.name, .ofFailure !e.success, message, e.time⟩

/-- The finding of a container. -/
def ContainerSample.finding (c : ContainerSample) : Finding :=
  ⟨containerKey c.name, .ofFailure c.problem?.isSome,
    c.problem?.getD ("Container " ++ c.name ++ " is running again"), c.time⟩

/-! ## Through the book -/

namespace AlertBook

/-- Takes in one finding. -/
def observeFinding (b : AlertBook) (f : Finding) : AlertBook × Option AlertEvent :=
  b.observe f.key f.health f.message f.time

/-- Takes in findings in their order: the book afterwards and the events they cause. -/
def observeAll (b : AlertBook) : List Finding → AlertBook × List AlertEvent
  | [] => (b, [])
  | f :: fs =>
    let r := b.observeFinding f
    let rest := r.1.observeAll fs
    (rest.1, r.2.toList ++ rest.2)

@[simp] theorem observeAll_nil (b : AlertBook) : b.observeAll [] = (b, []) := rfl

theorem observeAll_append (b : AlertBook) (fs gs : List Finding) :
    b.observeAll (fs ++ gs) =
      ((b.observeAll fs).1.observeAll gs |>.1,
        (b.observeAll fs).2 ++ ((b.observeAll fs).1.observeAll gs).2) := by
  induction fs generalizing b with
  | nil => simp
  | cons f fs ih => simp [observeAll, ih]

end AlertBook

end HostWatch
