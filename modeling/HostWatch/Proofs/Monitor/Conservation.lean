import Mathlib.Data.List.Forall2
import HostWatch.Monitor.Cycle
set_option autoImplicit false

/-!
# Monitor: what a run does with the events

A run is a list of acts: cycles, each with what the outside answered to it, dispatches
that a channel broke off, and events that somebody queues by hand.  Every act is accounted
for (`Movement`): which events it put into the queue, which ones it took out, and what it
returned.

The account of an act (`Monitor.Moves`) says that what it drained, followed by what is
still pending, is what was pending before, followed by what it pushed, and that exactly
what it drained was archived.  Accounts of two acts in a row add up to one of both
(`Monitor.Moves.trans`), so a run of any length has an account as well.
-/

namespace HostWatch

open HostWatch.Time (Instant)

/-! ## Acts -/

/-- A cycle with what the outside answered. -/
inductive Cycle where
  | resources (outcome : Except Fault ResourceSample)
  | endpoints (outcomes : List (EndpointCheck × Except Fault EndpointResult))
  | containers (outcome : Except Fault (List ContainerSample))
  /-- a container cycle where there is no container runtime -/
  | noRuntime
  /-- a dispatch cycle at a time of day; the channels answer with `replies` -/
  | dispatch (now : Instant) (replies : Replies)
  /-- a cycle that ended before it had any effect because a collaborator broke down -/
  | broken (domain : Domain)
  deriving Inhabited

namespace Cycle

/-- What the cycle works on. -/
def domain : Cycle → Domain
  | resources _ => .resources
  | endpoints _ => .endpoints
  | containers _ | noRuntime => .containers
  | dispatch _ _ => .dispatch
  | broken domain => domain

/-- The findings that the cycle takes into the book. -/
def findings (checks : ResourceChecks) : Cycle → List Finding
  | resources (.ok s) => s.findings checks
  | endpoints outcomes => (Effect.results outcomes).map EndpointResult.finding
  | containers (.ok cs) => cs.map ContainerSample.finding
  | _ => []

end Cycle

/-- Something that happens to the events of a monitor. -/
inductive Act where
  | cycle (c : Cycle)
  /-- a dispatch cycle at a time of day that a channel broke off: it had handled so many events,
  and gave out the next one -/
  | brokenDispatch (now : Instant) (replies : Replies) (before : Nat)
  /-- somebody queues events without a cycle -/
  | push (events : List AlertEvent)
  deriving Inhabited

/-- What an act did with the events. -/
structure Movement where
  /-- the events that it had to put into the queue -/
  pushed : List AlertEvent
  /-- the events that it took out of the queue -/
  drained : List AlertEvent
  /-- what became of these, as far as it is known -/
  handled : List Handling
  /-- what it returned, if anything -/
  returned : Option Nat
  deriving DecidableEq, Repr, Inhabited

namespace Effect

/-- The effects are those of a batch with its findings, or there are none at all. -/
def Carry (effects : List Effect) (findings : List Finding) : Prop :=
  (∃ batch, effects = ofBatch batch findings) ∨ effects = [] ∧ findings = []

theorem carry_ofResources (checks : ResourceChecks) (outcome : Except Fault ResourceSample) :
    Carry (ofResources checks outcome) ((Cycle.resources outcome).findings checks) := by
  cases outcome with
  | error _ => exact .inr ⟨rfl, rfl⟩
  | ok s => exact .inl ⟨.resource s, rfl⟩

theorem carry_ofEndpoints (checks : ResourceChecks)
    (outcomes : List (EndpointCheck × Except Fault EndpointResult)) :
    Carry (ofEndpoints outcomes) ((Cycle.endpoints outcomes).findings checks) := by
  rw [Cycle.findings, ofEndpoints]
  cases results outcomes with
  | nil => exact .inr ⟨rfl, rfl⟩
  | cons r rs => exact .inl ⟨.endpoints (r :: rs), rfl⟩

theorem carry_ofContainers (checks : ResourceChecks)
    (outcome : Except Fault (List ContainerSample)) :
    Carry (ofContainers outcome) ((Cycle.containers outcome).findings checks) := by
  cases outcome with
  | error _ => exact .inr ⟨rfl, rfl⟩
  | ok cs => exact .inl ⟨.containers cs, rfl⟩

end Effect

namespace Act

/-- The findings that the act takes into the book. -/
def findings (checks : ResourceChecks) : Act → List Finding
  | cycle c => c.findings checks
  | brokenDispatch _ _ _ | push _ => []

/-- A dispatch cycle pushes nothing and returns how many events it drained, any other cycle
drains nothing and returns how many events it pushed.  There is no answer from a cycle that
broke down, which pushes nothing, and nothing is drained by it unless it is a dispatch; and there
is none to events that are queued by hand. -/
def Accounted : Act → Movement → Prop
  | cycle (.dispatch _ _), mv => mv.pushed = [] ∧ mv.returned = some mv.drained.length
  | cycle (.broken _), mv => mv.drained = [] ∧ mv.pushed = [] ∧ mv.returned = none
  | cycle _, mv => mv.drained = [] ∧ mv.returned = some mv.pushed.length
  | brokenDispatch _ _ _, mv => mv.pushed = [] ∧ mv.returned = none
  | push events, mv => mv.drained = [] ∧ mv.pushed = events ∧ mv.returned = none

end Act

namespace Monitor

/-- A cycle of a watched domain that came to a report; what it has to push are the events
that the book emits over its findings. -/
def account (m : Monitor) (findings : List Finding) (r : Monitor × CycleReport) :
    Monitor × Movement :=
  (r.1, ⟨(m.book.observeAll findings).2, [], [], some r.2.queued.length⟩)

/-- One act, and what it did with the events. -/
def act (m : Monitor) : Act → Monitor × Movement
  | .cycle (.resources o) =>
    m.account ((Cycle.resources o).findings m.config.resources) (m.resourceCycle o)
  | .cycle (.endpoints os) =>
    m.account ((Cycle.endpoints os).findings m.config.resources) (m.endpointCycle os)
  | .cycle (.containers o) =>
    m.account ((Cycle.containers o).findings m.config.resources) (m.containerCycle o)
  | .cycle .noRuntime => (m, ⟨[], [], [], some 0⟩)
  | .cycle (.dispatch now replies) =>
    let r := m.dispatchCycle now replies
    (r.1, ⟨[], r.2.drained, r.2.handled, some r.2.drained.length⟩)
  | .cycle (.broken _) => (m, ⟨[], [], [], none⟩)
  | .brokenDispatch now replies before =>
    let taken := m.takePending
    let handled := (taken.1.dispatchEvents (taken.2.take before) now replies).2
    ((taken.1.dispatchEvents (taken.2.take (before + 1)) now replies).1,
      ⟨[], taken.2, handled, none⟩)
  | .push events => ({ m with pending := m.pending.pushAll events }, ⟨events, [], [], none⟩)

/-- Acts in their order, and what each of them did. -/
def play (m : Monitor) : List Act → Monitor × List Movement
  | [] => (m, [])
  | a :: acts =>
    let r := m.act a
    let rest := r.1.play acts
    (rest.1, r.2 :: rest.2)

/-! ## The account of one act -/

/-- What lies between two states of a monitor: findings taken into the book, events pushed
into the queue, and events drained from it and archived. -/
structure Moves (m next : Monitor) (findings : List Finding)
    (pushed drained : List AlertEvent) : Prop where
  config_eq : next.config = m.config
  book_eq : next.book = (m.book.observeAll findings).1
  queue_eq : drained ++ next.pending.toList = m.pending.toList ++ pushed
  alerts_eq : next.history.alerts = m.history.alerts.extend drained

namespace Moves

variable {m next last : Monitor} {fs gs : List Finding} {ps qs ds es : List AlertEvent}

theorem refl (m : Monitor) : m.Moves m [] [] [] where
  config_eq := rfl
  book_eq := rfl
  queue_eq := by simp
  alerts_eq := (Window.extend_nil _).symm

/-- **Accounts add up.** -/
theorem trans (h : m.Moves next fs ps ds) (h' : next.Moves last gs qs es) :
    m.Moves last (fs ++ gs) (ps ++ qs) (ds ++ es) where
  config_eq := h'.config_eq.trans h.config_eq
  book_eq := by
    rw [h'.book_eq, h.book_eq, AlertBook.observeAll_append]
  queue_eq := by
    calc (ds ++ es) ++ last.pending.toList
        = ds ++ (next.pending.toList ++ qs) := by rw [List.append_assoc, h'.queue_eq]
      _ = (m.pending.toList ++ ps) ++ qs := by rw [← List.append_assoc, h.queue_eq]
      _ = m.pending.toList ++ (ps ++ qs) := List.append_assoc _ _ _
  alerts_eq := by
    rw [h'.alerts_eq, h.alerts_eq, Window.extend_extend]

end Moves

/-- Findings go through the book one after the other, and the cycle keeps the events. -/
theorem applyAll_observe (m : Monitor) (findings : List Finding) (caused : List AlertEvent)
    (effects : List Effect) :
    m.applyAll caused (findings.map .observe ++ effects) =
      { m with book := (m.book.observeAll findings).1 }.applyAll
        (caused ++ (m.book.observeAll findings).2) effects := by
  induction findings generalizing m caused with
  | nil => simp
  | cons f fs ih =>
    rw [List.map_cons, List.cons_append, applyAll, apply, ih]
    simp only [AlertBook.observeAll, List.append_assoc]

theorem dispatcher_applyAll (m : Monitor) (caused : List AlertEvent) (effects : List Effect) :
    (m.applyAll caused effects).1.dispatcher = m.dispatcher := by
  induction effects generalizing m caused with
  | nil => rfl
  | cons e effects ih =>
    rw [applyAll, ih]
    cases e with
    | record batch => cases batch <;> rfl
    | observe f => rfl
    | enqueue => rfl

/-- A batch is recorded, its findings go through the book, and the events are queued. -/
theorem applyAll_ofBatch (m : Monitor) (batch : Batch) (findings : List Finding) :
    m.applyAll [] (Effect.ofBatch batch findings) =
      ({ m.record batch with
          book := (m.book.observeAll findings).1
          pending := m.pending.pushAll (m.book.observeAll findings).2 },
        (m.book.observeAll findings).2) := by
  have hbook : (m.record batch).book = m.book := by cases batch <;> rfl
  have hpending : (m.record batch).pending = m.pending := by cases batch <;> rfl
  rw [Effect.ofBatch, List.cons_append, applyAll, apply, applyAll_observe, hbook]
  simp only [applyAll, apply, List.nil_append, hpending]

/-- **A cycle of a watched domain** takes its findings into the book, queues every event
that the book emits over them, and reports these events. -/
theorem moves_applyAll (m : Monitor) {effects : List Effect} {findings : List Finding}
    (h : Effect.Carry effects findings) :
    m.Moves (m.applyAll [] effects).1 findings (m.book.observeAll findings).2 [] ∧
      (m.applyAll [] effects).2 = (m.book.observeAll findings).2 := by
  rcases h with ⟨batch, rfl⟩ | ⟨rfl, rfl⟩
  · rw [applyAll_ofBatch]
    refine ⟨⟨?_, rfl, rfl, ?_⟩, rfl⟩
    · cases batch <;> rfl
    · rw [Window.extend_nil]
      cases batch <;> rfl
  · exact ⟨.refl m, rfl⟩

/-- **A dispatch cycle** drains the queue and archives what it drained; what becomes of the
deliveries does not matter. -/
theorem moves_dispatchCycle (m : Monitor) (now : Instant) (replies : Replies) :
    m.Moves (m.dispatchCycle now replies).1 [] [] (m.dispatchCycle now replies).2.drained where
  config_eq := rfl
  book_eq := rfl
  queue_eq := rfl
  alerts_eq := rfl

/-- A dispatch that is broken off has drained the queue and archived what it drained. -/
theorem moves_brokenDispatch (m : Monitor) (now : Instant) (replies : Replies) (before : Nat) :
    let r := m.act (.brokenDispatch now replies before)
    m.Moves r.1 [] [] r.2.drained where
  config_eq := rfl
  book_eq := rfl
  queue_eq := rfl
  alerts_eq := rfl

theorem moves_push (m : Monitor) (events : List AlertEvent) :
    m.Moves { m with pending := m.pending.pushAll events } [] events [] where
  config_eq := rfl
  book_eq := rfl
  queue_eq := rfl
  alerts_eq := (Window.extend_nil _).symm

/-- **One act** does what its account says. -/
theorem moves_act (m : Monitor) (a : Act) :
    m.Moves (m.act a).1 (a.findings m.config.resources) (m.act a).2.pushed (m.act a).2.drained := by
  cases a with
  | brokenDispatch now replies before => exact moves_brokenDispatch m now replies before
  | push events => exact moves_push m events
  | cycle c =>
    cases c with
    | resources o => exact (moves_applyAll m (Effect.carry_ofResources _ o)).1
    | endpoints os => exact (moves_applyAll m (Effect.carry_ofEndpoints _ os)).1
    | containers o => exact (moves_applyAll m (Effect.carry_ofContainers _ o)).1
    | noRuntime => exact .refl m
    | dispatch now replies => exact moves_dispatchCycle m now replies
    | broken _ => exact .refl m

/-- **One act** returns the number of events that it moved. -/
theorem accounted_act (m : Monitor) (a : Act) : a.Accounted (m.act a).2 := by
  have hcount : ∀ {effects : List Effect} {findings : List Finding},
      Effect.Carry effects findings →
        some (m.applyAll [] effects).2.length = some (m.book.observeAll findings).2.length := by
    intro effects findings h
    rw [(moves_applyAll m h).2]
  cases a with
  | brokenDispatch _ _ _ => exact ⟨rfl, rfl⟩
  | push events => exact ⟨rfl, rfl, rfl⟩
  | cycle c =>
    cases c with
    | resources o => exact ⟨rfl, hcount (Effect.carry_ofResources _ o)⟩
    | endpoints os => exact ⟨rfl, hcount (Effect.carry_ofEndpoints _ os)⟩
    | containers o => exact ⟨rfl, hcount (Effect.carry_ofContainers _ o)⟩
    | noRuntime => exact ⟨rfl, rfl⟩
    | dispatch _ _ => exact ⟨rfl, rfl⟩
    | broken _ => exact ⟨rfl, rfl, rfl⟩

/-! ## The account of a run -/

/-- **A run** does what the accounts of its acts say together. -/
theorem moves_play (m : Monitor) (acts : List Act) :
    m.Moves (m.play acts).1 (acts.flatMap (Act.findings m.config.resources))
      ((m.play acts).2.flatMap (·.pushed)) ((m.play acts).2.flatMap (·.drained)) := by
  induction acts generalizing m with
  | nil => exact .refl m
  | cons a acts ih =>
    have hact := moves_act m a
    have hrest := ih (m.act a).1
    rw [hact.config_eq] at hrest
    exact hact.trans hrest

theorem accounted_play (m : Monitor) (acts : List Act) :
    List.Forall₂ Act.Accounted acts (m.play acts).2 := by
  induction acts generalizing m with
  | nil => exact .nil
  | cons a acts ih => exact .cons (accounted_act m a) (ih (m.act a).1)

/-- **No event is lost, duplicated or reordered.**  After any run of a new monitor, what
was drained, followed by what is still pending, is what was pushed, in the order of the
pushes; every act returned the number of events that it moved; and the archive holds the
last of the drained events, as many as its capacity allows, whatever the channels
answered. -/
theorem drained_append_pending (config : MonitorConfig) (channels : List String)
    (startedAt : Instant) (acts : List Act) :
    let run := (new config channels startedAt).play acts
    run.2.flatMap (·.drained) ++ run.1.pending.toList = run.2.flatMap (·.pushed) ∧
      List.Forall₂ Act.Accounted acts run.2 ∧
      run.1.history.alerts.entries =
        lastEntries
          (if config.historyCapacity.toNat = 0 then defaultCapacity
            else config.historyCapacity.toNat)
          (run.2.flatMap (·.drained)) := by
  intro run
  have hrun := moves_play (new config channels startedAt) acts
  refine ⟨hrun.queue_eq, accounted_play _ acts, ?_⟩
  rw [hrun.alerts_eq]
  rfl

end Monitor

end HostWatch
