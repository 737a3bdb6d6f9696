import HostWatch.Monitor.Journal
import HostWatch.Monitor.Ticker
import HostWatch.Text.Quoted
set_option autoImplicit false

/-!
# Monitor: the running service

Each domain has a task that runs a cycle whenever its ticker is due.  A cycle makes its
calls to the outside, waits for the answers and then does its effects; while it waits,
other tasks go on.  Time is a count of milliseconds that is moved from outside
(`Service.advanceTo`), and stops at every moment at which a task has something to do.
Tasks that are due at the same moment run in the order in which they began to wait.

Whoever moves the time goes on as soon as it has reached the target: what is due at that
very moment happens when the time is moved again.

Everything that happens is written to the journal, which only grows.

Shutdown lets cycles that are under way finish, and nothing else starts.
-/

namespace HostWatch

open HostWatch.Time (Instant)

/-! ## Cycles under way -/

/-- A cycle under way. -/
structure Run where
  domain : Domain
  begun : Nat
  /-- how many calls may be under way at a time -/
  bound : Nat
  /-- the times of the calls made so far -/
  spans : List Span
  /-- what came back from them -/
  replies : List Reply
  /-- how many events a dispatch has taken from the queue -/
  taken : Nat
  /-- the time of day at which the cycle began -/
  time : Instant
  deriving Inhabited

namespace Run

/-- When the next call may start. -/
def slot (r : Run) : Nat := Span.slot r.bound r.begun r.spans

/-- When the last call made so far ends. -/
def lastEnd (r : Run) : Nat := Span.latest r.begun r.spans

/-- The run with one more call. -/
def add (r : Run) (span : Span) (reply : Reply) : Run :=
  { r with spans := r.spans ++ [span], replies := r.replies ++ [reply] }

/-- The outcome of the collection. -/
def sampled? (r : Run) : Option (Except Fault ResourceSample) :=
  r.replies.findSome? fun
    | .sampled o => some o
    | _ => none

/-- The outcomes of the probes, in the order of the checks. -/
def probed (r : Run) : List (EndpointCheck × Except Fault EndpointResult) :=
  r.replies.filterMap fun
    | .probed c o => some (c, o)
    | _ => none

/-- The outcome of the listing. -/
def listed? (r : Run) : Option (Except Fault (List ContainerSample)) :=
  r.replies.findSome? fun
    | .listed o => some o
    | _ => none

/-- What became of the events, in their order. -/
def handled (r : Run) : List Handling :=
  r.replies.filterMap fun
    | .handled h => some h
    | _ => none

end Run

/-- What a task is doing. -/
inductive Phase where
  /-- it waits for its ticker -/
  | waiting
  /-- a cycle is under way, with calls still to be made -/
  | busy (run : Run) (todo : List Call)
  /-- it is over -/
  | ended
  /-- it is over because a collaborator broke down -/
  | broken
  deriving Inhabited

namespace Phase

/-- When a cycle under way goes on. -/
def nextEvent? : Phase → Option Nat
  | busy run [] => some run.lastEnd
  | busy run (_ :: _) => some run.slot
  | _ => none

/-- How many steps the cycle under way has still to make. -/
def remaining : Phase → Nat
  | busy _ todo => todo.length + 1
  | _ => 0

/-- A collaborator broke down. -/
def isBroken : Phase → Bool
  | broken => true
  | _ => false

end Phase

/-- Who waits for a task to end. -/
inductive Standing where
  /-- nobody yet: the task goes on -/
  | held
  /-- somebody who shuts the tasks down -/
  | stopping
  /-- nobody any more -/
  | released
  deriving DecidableEq, Repr, Inhabited

/-- The task of a domain. -/
structure Task where
  domain : Domain
  ticker : Ticker
  phase : Phase
  standing : Standing
  deriving Inhabited

namespace Task

/-- The task ends as soon as it waits. -/
def isLeaving (t : Task) : Bool := t.standing != .held

/-- When the task has something to do; one that is to end has it at once. -/
def nextEvent? (t : Task) : Option Nat :=
  match t.phase with
  | .waiting => some (if t.isLeaving then 0 else t.ticker.due)
  | phase => phase.nextEvent?

/-- The task has something to do at `now`. -/
def isDue (now : Nat) (t : Task) : Bool := t.nextEvent?.any (· ≤ now)

/-- The task is over. -/
def hasEnded (t : Task) : Bool :=
  match t.phase with
  | .ended => true
  | _ => false

/-- The task waits or works. -/
def isAlive (t : Task) : Bool :=
  match t.phase with
  | .waiting | .busy _ _ => true
  | _ => false

end Task

/-! ## The world of a service -/

/-- The monitor with the outside and the journal. -/
structure World (σ : Type) where
  monitor : Monitor
  outside : σ
  /-- everything that happened, the latest at the end -/
  journal : Array Entry

namespace World

variable {σ : Type}

/-- The entries of the journal. -/
def entries (w : World σ) : List Entry := w.journal.toList

/-- Writes to the journal. -/
def note (w : World σ) (entries : List Entry) : World σ :=
  { w with journal := w.journal ++ entries }

@[simp] theorem entries_note (w : World σ) (es : List Entry) :
    (w.note es).entries = w.entries ++ es := by
  simp [World.entries, note]

/-- Writes log lines to the journal. -/
def log (w : World σ) (lines : List LogLine) : World σ := w.note (lines.map .logged)

/-- A cycle of a domain begins: the run and the calls it will make.  A dispatch takes its
events from the queue at once. -/
def begin (c : Collaborators σ) (w : World σ) (domain : Domain) (now : Nat) :
    World σ × Run × List Call :=
  let w := w.note [.began domain now]
  let config := w.monitor.config
  let run : Run := ⟨domain, now, 1, [], [], 0, c.wallClock w.outside⟩
  match domain with
  | .resources => (w, run, [.collect config.resources.diskPaths])
  | .endpoints =>
    (w, { run with bound := config.endpoints.probeBound }, config.endpoints.checks.map .probe)
  | .containers => (w, run, if c.hasRuntime then [.list config.containers.names] else [])
  | .dispatch =>
    let taken := w.monitor.takePending
    let w := { w with monitor := taken.1 }.log (taken.2.map CycleLog.taken)
    (w, { run with taken := taken.2.length },
      if w.monitor.dispatcher.enabled then taken.2.map .deliver else [])

/-- Asks a collaborator, who answers with a reply of one kind. -/
def ask {α : Type} (w : World σ) (r : σ × Answer α) (reply : Except Fault α → Reply) :
    World σ × Nat × Option Reply :=
  ({ w with outside := r.1 }, r.2.takes, r.2.outcome.map reply)

/-- Makes one call of a run: how long it takes and what comes back. -/
def perform (c : Collaborators σ) (w : World σ) (run : Run) : Call → World σ × Nat × Option Reply
  | .collect paths => w.ask (c.collect w.outside paths) .sampled
  | .probe check => w.ask (c.probe w.outside check) (.probed check)
  | .list names => w.ask (c.list w.outside names) .listed
  | .deliver event =>
    match w.monitor.dispatcher.decideEvent event run.time with
    | .passed =>
      let (outside, a) := c.deliver w.outside event
      match Receipt.outcome a.reply w.monitor.dispatcher.channels.length with
      | some reply =>
        let (dispatcher, h) := w.monitor.dispatcher.handle event run.time reply
        let w := { w with monitor := { w.monitor with dispatcher }, outside }
        ((w.note [.handled h]).log h.logs, a.takes, some (.handled h))
      | none =>
        -- The cooldown has begun before the channels are asked.
        let (dispatcher, _) := w.monitor.dispatcher.admitEvent event run.time
        ({ w with monitor := { w.monitor with dispatcher }, outside }, a.takes, none)
    | _ =>
      let (dispatcher, h) := w.monitor.dispatcher.handle event run.time fun _ => none
      let w := { w with monitor := { w.monitor with dispatcher } }
      ((w.note [.handled h]).log h.logs, 0, some (.handled h))

/-- The effects of a domain's cycle, with its report. -/
def conclude (w : World σ) (domain : Domain) (now : Nat) (r : Monitor × CycleReport) : World σ :=
  ({ w with monitor := r.1 }.log r.2.logs).note [.finished domain r.2.queued.length now]

/-- A cycle whose calls have all come back does its effects. -/
def finish (w : World σ) (run : Run) (now : Nat) : World σ :=
  match run.domain with
  | .resources =>
    match run.sampled? with
    | some o => w.conclude .resources now (w.monitor.resourceCycle o)
    | none => w.note [.finished .resources 0 now]
  | .endpoints => w.conclude .endpoints now (w.monitor.endpointCycle run.probed)
  | .containers =>
    match run.listed? with
    | some o => w.conclude .containers now (w.monitor.containerCycle o)
    | none => w.note [.finished .containers 0 now]
  | .dispatch =>
    (w.log (CycleLog.failed (Handling.outcome run.handled))).note
      [.finished .dispatch run.taken now]

/-- Carries a run on as far as it comes at `now`, with the calls still to be made. -/
def pursue (c : Collaborators σ) (now : Nat) (w : World σ) (run : Run) :
    List Call → World σ × Phase
  | [] => if run.lastEnd ≤ now then (w.finish run now, .waiting) else (w, .busy run [])
  | call :: todo =>
    if run.slot ≤ now then
      match w.perform c run call with
      | (w, takes, some reply) =>
        let span : Span := ⟨now, now + takes⟩
        (w.note [.called run.domain call span]).pursue c now (run.add span reply) todo
      | (w, takes, none) =>
        (w.note [.called run.domain call ⟨now, now + takes⟩, .broke run.domain], .broken)
    else (w, .busy run (call :: todo))

/-- A task that waits begins a cycle when it is due, and ends when it is to leave. -/
def wake (c : Collaborators σ) (now : Nat) (w : World σ) (t : Task) : World σ × Task :=
  match t.phase with
  | .waiting =>
    if t.isLeaving then
      (w.log [⟨.debug, "Monitoring task stopped", [("task", t.domain.text)]⟩],
        { t with phase := .ended })
    else if t.ticker.due ≤ now then
      let (w, run, todo) := w.begin c t.domain now
      let (w, phase) := w.pursue c now run todo
      (w, { t with ticker := t.ticker.next now, phase })
    else (w, t)
  | _ => (w, t)

/-- A task does everything it has to do at `now`. -/
def settle (c : Collaborators σ) (now : Nat) (w : World σ) (t : Task) : World σ × Task :=
  match t.phase with
  | .busy run todo =>
    let (w, phase) := w.pursue c now run todo
    w.wake c now { t with phase }
  | _ => w.wake c now t

/-- The tasks that are due at `now` do everything they have to do: the tasks that were not
due, and those that were, both in their order. -/
def settleAll (c : Collaborators σ) (now : Nat) (w : World σ) :
    List Task → World σ × List Task × List Task
  | [] => (w, [], [])
  | t :: ts =>
    if t.isDue now then
      let (w, t) := w.settle c now t
      let (w, idle, settled) := w.settleAll c now ts
      (w, idle, t :: settled)
    else
      let (w, idle, settled) := w.settleAll c now ts
      (w, t :: idle, settled)

end World

/-! ## The service -/

/-- A monitor with its tasks. -/
structure Service (σ : Type) where
  world : World σ
  /-- the tasks in the order in which they began to wait -/
  tasks : List Task
  /-- milliseconds since the machine was started -/
  clock : Nat

namespace Service

variable {σ : Type}

/-- A service without tasks. -/
def new (monitor : Monitor) (outside : σ) (clock : Nat) : Service σ :=
  ⟨⟨monitor, outside, #[]⟩, [], clock⟩

/-- The earliest moment at which a task has something to do. -/
def nextEvent? (s : Service σ) : Option Nat := (s.tasks.filterMap Task.nextEvent?).min?

/-- The tasks that are due at `now` do everything they have to do, and begin to wait again
behind the others. -/
def settleAt (c : Collaborators σ) (s : Service σ) (now : Nat) : Service σ :=
  let (world, idle, settled) := s.world.settleAll c now s.tasks
  { s with world, tasks := (idle ++ settled).filter (!·.hasEnded), clock := now }

/-- Moves the clock to `target`, stopping wherever a task has something to do from `front`
on and before the target. -/
def advanceFrom (c : Collaborators σ) (target front : Nat) (s : Service σ) : Service σ :=
  match s.nextEvent? with
  | none => { s with clock := max s.clock target }
  | some t =>
    let now := max t front
    if _h : now < target then (s.settleAt c now).advanceFrom c target (now + 1)
    else { s with clock := max s.clock target }
termination_by target - front
decreasing_by omega

/-- Moves the clock to `target`; what is due at that very moment is left for later. -/
def advanceTo (c : Collaborators σ) (s : Service σ) (target : Nat) : Service σ :=
  s.advanceFrom c target s.clock

/-! ### Start -/

/-- The container runtime can be watched; when it cannot, the log says why. -/
def containersReady (c : Collaborators σ) (s : Service σ) : Bool × List LogLine :=
  if !s.world.monitor.config.containers.enabled then (false, [])
  else if !c.hasRuntime then
    (false, [.plain .warn "Container checks enabled but no container runtime configured"])
  else
    match c.ready s.world.outside with
    | .ok () => (true, [])
    | .error f => (false, [.plain .warn
        ("Container runtime unavailable, container checks disabled: " ++ f.message)])

/-- The domains that get a task, with their intervals in seconds. -/
def timetable (config : MonitorConfig) (containers : Bool) : List (Domain × Nat) :=
  [(.resources, config.resources.intervalSecs.toNat),
    (.endpoints, config.endpoints.intervalSecs.toNat)] ++
    (if containers then [(.containers, config.containers.intervalSecs.toNat)] else []) ++
    [(.dispatch, config.alerting.dispatchIntervalSecs.toNat)]

/-- A task that starts at `now`; without a first due time it breaks at once. -/
def startTask (now : Nat) (entry : Domain × Nat) : Task :=
  match Ticker.start? now entry.2 with
  | some ticker => ⟨entry.1, ticker, .waiting, .held⟩
  | none => ⟨entry.1, ⟨0, now⟩, .broken, .held⟩

/-- The names of the tasks. -/
def taskNames (tasks : List Task) : List String := tasks.map (·.domain.text)

/-- Gives the tasks that are held another standing. -/
def letGo (s : Service σ) (standing : Standing) : Service σ :=
  { s with tasks := s.tasks.map fun t => if t.standing = .held then { t with standing } else t }

/-- Nobody holds the tasks any more: those that wait end, and those with a cycle under way
end when it is finished. -/
def release (s : Service σ) : Service σ := s.letGo .released

/-- Starts a task for every domain and names them; containers are watched only when they
are enabled and the runtime is ready.  Tasks that were held before are released. -/
def start (c : Collaborators σ) (s : Service σ) : Service σ × List String :=
  let (containers, logs) := s.containersReady c
  let tasks := (timetable s.world.monitor.config containers).map (startTask s.clock)
  let started : LogLine := ⟨.info, "Monitoring service started",
    [("tasks", Text.quotedList (taskNames tasks))]⟩
  let s := s.release
  ({ s with
      tasks := s.tasks ++ tasks
      world := s.world.log (logs ++ [started]) },
    taskNames tasks)

/-! ### Single cycles -/

/-- Waits for a cycle under way, for at most `fuel` of its steps; the tasks go on
meanwhile. -/
def awaitCycle (c : Collaborators σ) : Nat → Service σ → Phase → Service σ × Phase
  | 0, s, phase => (s, phase)
  | fuel + 1, s, phase =>
    match phase, phase.nextEvent? with
    | .busy run todo, some t =>
      let s := s.advanceTo c t
      let (world, phase) := s.world.pursue c s.clock run todo
      awaitCycle c fuel { s with world } phase
    | _, _ => (s, phase)

/-- Runs one cycle of a domain now and waits until it is over: how many events it queued or
took, and nothing when a collaborator broke down. -/
def runCycle (c : Collaborators σ) (s : Service σ) (domain : Domain) : Service σ × Option Nat :=
  let (world, run, todo) := s.world.begin c domain s.clock
  let (world, phase) := world.pursue c s.clock run todo
  let (s, phase) := awaitCycle c phase.remaining { s with world } phase
  (s, if phase.isBroken then none else some (Entry.lastCount domain s.world.entries))

/-- Runs a number of cycles one after the other: the service afterwards and how many events
they queued or took together. -/
def runCycles (c : Collaborators σ) (domain : Domain) : Nat → Service σ → Service σ × Nat
  | 0, s => (s, 0)
  | n + 1, s =>
    let (s, count) := s.runCycle c domain
    let rest := runCycles c domain n s
    (rest.1, count.getD 0 + rest.2)

/-- Dispatches events outside of any cycle; `replies` is what the channels answer. -/
def dispatchNow (c : Collaborators σ) (s : Service σ) (events : List AlertEvent)
    (replies : Replies) : Service σ × List Handling :=
  let w := s.world
  let r := w.monitor.dispatchEvents events (c.wallClock w.outside) replies
  let w := ({ w with monitor := r.1 }.note (r.2.map .handled)).log (r.2.flatMap Handling.logs)
  ({ s with world := w }, r.2)

/-- Changes the monitor. -/
def withMonitor (s : Service σ) (f : Monitor → Monitor) : Service σ :=
  { s with world := { s.world with monitor := f s.world.monitor } }

/-- Changes the outside. -/
def withOutside (s : Service σ) (f : σ → σ) : Service σ :=
  { s with world := { s.world with outside := f s.world.outside } }

/-! ### Shutdown -/

/-- The tasks that are waited for. -/
def stopping (s : Service σ) : List Task := s.tasks.filter fun t => t.standing = .stopping

/-- How many steps their cycles under way have still to make. -/
def remaining (s : Service σ) : Nat :=
  s.stopping.foldl (fun n t => n + t.phase.remaining) 0

/-- Goes on until none of the tasks that are waited for has a cycle under way, for at most
`fuel` stops. -/
def awaitTasks (c : Collaborators σ) : Nat → Service σ → Service σ
  | 0, s => s
  | fuel + 1, s =>
    match (s.stopping.filterMap (·.phase.nextEvent?)).min? with
    | none => s
    | some t =>
      let now := max t s.clock
      ((s.advanceTo c now).settleAt c now).awaitTasks c fuel

/-- The line for a task that a collaborator broke. -/
def brokenLog? (t : Task) : Option LogLine :=
  match t.phase with
  | .broken => some ⟨.error, "Monitoring task ended abnormally: the task broke down",
      [("task", t.domain.text)]⟩
  | _ => none

/-- Ends every task that is held, lets its cycle under way finish and says so in the log.
When none is held there is nothing to end. -/
def shutdown (c : Collaborators σ) (s : Service σ) : Service σ :=
  if s.tasks.any fun t => t.standing = .held then
    let s := { s with world := s.world.log [.plain .info "Stopping monitoring service"] }
    let s := s.letGo .stopping
    let s := if s.stopping.any (·.isAlive) then s.settleAt c s.clock else s
    let s := s.awaitTasks c s.remaining
    { s with
      tasks := s.tasks.filter fun t => t.standing != .stopping
      world := s.world.log
        (s.stopping.filterMap brokenLog? ++ [.plain .info "All monitoring tasks stopped"]) }
  else s

end Service

end HostWatch
