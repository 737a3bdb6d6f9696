import HostWatch.Alert.Finding
import HostWatch.Monitor.Basic
set_option autoImplicit false

/-!
# Monitor: cycles

A cycle of a watched domain takes what its collaborator answered and turns it into a
list of effects: one history entry, one finding after the other, and at the end the
events that came of them are queued.  The effects do not depend on the state of the
monitor, so that the effects of two cycles can be interleaved at will; what a cycle
carries from effect to effect is the list of events it has caused so far.

A failed collaborator gives no effects at all.

A dispatch cycle takes every pending event, archives them, and dispatches them; what
becomes of the deliveries changes neither.
-/

namespace HostWatch

open HostWatch.Number
open HostWatch.Time (Instant)

/-! ## Effects -/

/-- Entries for the history of one domain. -/
inductive Batch where
  | resource (sample : ResourceSample)
  | endpoints (results : List EndpointResult)
  | containers (samples : List ContainerSample)
  deriving Inhabited

/-- One thing that a cycle does to the monitor. -/
inductive Effect where
  /-- writes to the history -/
  | record (batch : Batch)
  /-- takes a finding into the book; the cycle keeps the event that comes of it -/
  | observe (finding : Finding)
  /-- queues the events that the cycle has kept -/
  | enqueue
  deriving Inhabited

namespace Monitor

/-- Writes entries to the history of their domain. -/
def record (m : Monitor) : Batch → Monitor
  | .resource s => { m with history := { m.history with resources := m.history.resources.append s } }
  | .endpoints rs =>
    { m with history := { m.history with endpoints := m.history.endpoints.extend rs } }
  | .containers cs =>
    { m with history := { m.history with containers := m.history.containers.extend cs } }

/-- One effect of a cycle that has kept the events `caused`. -/
def apply (m : Monitor) (caused : List AlertEvent) : Effect → Monitor × List AlertEvent
  | .record batch => (m.record batch, caused)
  | .observe f =>
    let r := m.book.observeFinding f
    ({ m with book := r.1 }, caused ++ r.2.toList)
  | .enqueue => ({ m with pending := m.pending.pushAll caused }, caused)

/-- The effects of a cycle in their order. -/
def applyAll (m : Monitor) (caused : List AlertEvent) : List Effect → Monitor × List AlertEvent
  | [] => (m, caused)
  | e :: es =>
    let r := m.apply caused e
    r.1.applyAll r.2 es

end Monitor

namespace Effect

/-- The effects of a batch with its findings. -/
def ofBatch (batch : Batch) (findings : List Finding) : List Effect :=
  .record batch :: findings.map .observe ++ [.enqueue]

/-- The effects of a resource cycle. -/
def ofResources (checks : ResourceChecks) : Except Fault ResourceSample → List Effect
  | .error _ => []
  | .ok s => ofBatch (.resource s) (s.findings checks)

/-- The results among the outcomes of a round of probes. -/
def results (outcomes : List (EndpointCheck × Except Fault EndpointResult)) :
    List EndpointResult :=
  outcomes.filterMap fun o => o.2.toOption

/-- The effects of an endpoint cycle; a round without results has none. -/
def ofEndpoints (outcomes : List (EndpointCheck × Except Fault EndpointResult)) : List Effect :=
  match results outcomes with
  | [] => []
  | rs => ofBatch (.endpoints rs) (rs.map EndpointResult.finding)

/-- The effects of a container cycle. -/
def ofContainers : Except Fault (List ContainerSample) → List Effect
  | .error _ => []
  | .ok cs => ofBatch (.containers cs) (cs.map ContainerSample.finding)

end Effect

/-! ## The log of a cycle -/

namespace CycleLog

/-- The line that counts the events of a cycle, if there are any. -/
def generated (what : String) (events : List AlertEvent) : List LogLine :=
  if events.isEmpty then []
  else [⟨.info, what ++ " alerts generated", [("count", natText events.length)]⟩]

/-- A percentage in a log line. -/
def percent (places : Nat) (x : Float) : String := fixedText places x ++ "%"

/-- The log of a resource cycle that caused `events`. -/
def ofResources (checks : ResourceChecks) (events : List AlertEvent) :
    Except Fault ResourceSample → List LogLine
  | .error f => [.plain .error ("Error collecting system stats: " ++ f.message)]
  | .ok s =>
    s.skipped checks ++ generated "System" events ++
      [⟨.info, "System stats",
        [("cpu", percent 2 s.cpuPercent), ("memory", percent 2 s.memory.usedPercent),
          ("disk", diskSummary s.disks)]⟩]

/-- The line for a probe that could not be made. -/
def skippedProbe? : EndpointCheck × Except Fault EndpointResult → Option LogLine
  | (_, .ok _) => none
  | (c, .error f) => some ⟨.warn, "Skipping endpoint probe: " ++ f.message, [("endpoint", c.name)]⟩

/-- The log of an endpoint cycle that caused `events`. -/
def ofEndpoints (events : List AlertEvent)
    (outcomes : List (EndpointCheck × Except Fault EndpointResult)) : List LogLine :=
  outcomes.filterMap skippedProbe? ++
    match Effect.results outcomes with
    | [] => []
    | rs =>
      let t := EndpointResult.tally rs
      generated "HTTP" events ++
        [⟨.info, "HTTP stats",
          [("total", natText t.total), ("success", natText t.good), ("failed", natText t.bad),
            ("rate", percent 1 t.rate)]⟩]

/-- The log of a container cycle that caused `events`. -/
def ofContainers (events : List AlertEvent) : Except Fault (List ContainerSample) → List LogLine
  | .error f => [.plain .error ("Error collecting Docker stats: " ++ f.message)]
  | .ok cs =>
    let t := ContainerSample.tally cs
    generated "Docker" events ++
      [⟨.info, "Docker stats",
        [("total", natText t.total), ("running", natText t.good), ("stopped", natText t.bad),
          ("percentage", percent 1 t.rate)]⟩]

/-- The line for an event that is taken for dispatch. -/
def taken (e : AlertEvent) : LogLine :=
  ⟨.info, "ALERT", [("level", e.level.text), ("alert_type", e.kind), ("message", e.message)]⟩

/-- The line for a dispatch in which deliveries failed. -/
def failed (outcome : Except Fault Nat) : List LogLine :=
  match outcome with
  | .ok _ => []
  | .error f => [.plain .error ("Failed to send some alerts: " ++ f.message)]

end CycleLog

/-! ## Whole cycles -/

/-- What a cycle of a watched domain came to. -/
structure CycleReport where
  /-- the events it queued -/
  queued : List AlertEvent
  logs : List LogLine
  deriving DecidableEq, Repr, Inhabited

/-- What a dispatch cycle came to. -/
structure DispatchReport where
  /-- the events it took from the queue -/
  drained : List AlertEvent
  handled : List Handling
  logs : List LogLine
  deriving DecidableEq, Repr, Inhabited

namespace Monitor

/-- A resource cycle whose collector answered with `outcome`. -/
def resourceCycle (m : Monitor) (outcome : Except Fault ResourceSample) : Monitor × CycleReport :=
  let checks := m.config.resources
  let r := m.applyAll [] (Effect.ofResources checks outcome)
  (r.1, ⟨r.2, CycleLog.ofResources checks r.2 outcome⟩)

/-- An endpoint cycle whose probes came out as `outcomes`, in the order of the checks. -/
def endpointCycle (m : Monitor)
    (outcomes : List (EndpointCheck × Except Fault EndpointResult)) : Monitor × CycleReport :=
  let r := m.applyAll [] (Effect.ofEndpoints outcomes)
  (r.1, ⟨r.2, CycleLog.ofEndpoints r.2 outcomes⟩)

/-- A container cycle whose runtime answered with `outcome`. -/
def containerCycle (m : Monitor) (outcome : Except Fault (List ContainerSample)) :
    Monitor × CycleReport :=
  let r := m.applyAll [] (Effect.ofContainers outcome)
  (r.1, ⟨r.2, CycleLog.ofContainers r.2 outcome⟩)

/-- Takes every pending event and archives it. -/
def takePending (m : Monitor) : Monitor × List AlertEvent :=
  let r := m.pending.drain
  ({ m with
      pending := r.1
      history := { m.history with alerts := m.history.alerts.extend r.2 } }, r.2)

/-- Dispatches events at `now`. -/
def dispatchEvents (m : Monitor) (events : List AlertEvent) (now : Instant) (replies : Replies) :
    Monitor × List Handling :=
  let r := m.dispatcher.dispatch events now replies
  ({ m with dispatcher := r.1 }, r.2)

/-- A dispatch cycle at `now`. -/
def dispatchCycle (m : Monitor) (now : Instant) (replies : Replies) : Monitor × DispatchReport :=
  let taken := m.takePending
  let r := taken.1.dispatchEvents taken.2 now replies
  (r.1, ⟨taken.2, r.2, taken.2.map CycleLog.taken ++ r.2.flatMap Handling.logs
    ++ CycleLog.failed (Handling.outcome r.2)⟩)

end Monitor

end HostWatch
