import Mathlib.Logic.Function.Basic
import HostWatch.Proofs.Monitor.Subject
set_option autoImplicit false

/-!
# Monitor: cycles that run at the same time

Every domain has a worker that goes through its cycles one after the other.  The workers
share the monitor, and between any two things that one of them does to it the others may
have had any number of turns; a schedule says whose turn it is (`Crew.run`).

What a watched domain can see of the shared monitor are the states of its own keys and its
own history, and it adds to the queue only events about what it watches.  A turn of any
other worker changes nothing of this (`Crew.SameFor.turn_other`), and its own turn depends
on nothing else (`Crew.SameFor.turn_own`).  So what becomes of a domain depends on its own
turns alone (`Crew.sameFor_run`), and the schedule can be seen in nothing but the order in
which events of different domains stand in the queue (`Crew.domains_independent`).

Cycles that nobody interrupts are the whole cycles of the monitor (`Crew.exists_serial`).
-/

namespace HostWatch

open HostWatch.Time (Instant)

/-! ## Workers -/

/-- What a cycle does without a pause. -/
inductive Stage where
  /-- an effect of a cycle of a watched domain -/
  | effect (e : Effect)
  /-- takes every pending event -/
  | drain
  /-- writes the events taken to the archive -/
  | archive
  /-- hands the events taken to the dispatcher -/
  | dispatch (now : Instant) (replies : Replies)
  /-- the dispatcher handles one of them -/
  | handle (e : AlertEvent) (now : Instant) (reply : Nat → Option String)
  /-- the cycle is over and returns how many events it caused or took -/
  | finish

namespace Stage

/-- The stages of a dispatch of events; `position` is the place of the first one. -/
def handles (now : Instant) (replies : Replies) (position : Nat) : List AlertEvent → List Stage
  | [] => []
  | e :: es => handle e now (replies position) :: handles now replies (position + 1) es

/-- The stages of a cycle of a watched domain. -/
def ofEffects (effects : List Effect) : List Stage := effects.map effect ++ [finish]

/-- The stages of a cycle; one that broke down has none. -/
def ofCycle (checks : ResourceChecks) : Cycle → List Stage
  | .resources o => ofEffects (Effect.ofResources checks o)
  | .endpoints os => ofEffects (Effect.ofEndpoints os)
  | .containers o => ofEffects (Effect.ofContainers o)
  | .noRuntime => [finish]
  | .dispatch now replies => [drain, archive, dispatch now replies, finish]
  | .broken _ => []

end Stage

/-- What a worker has in hand. -/
structure Worker where
  /-- the stages of its cycles that are still to come -/
  todo : List Stage
  /-- the events that the cycle under way has caused or taken -/
  kept : List AlertEvent
  /-- what its cycles have returned -/
  returned : List Nat

/-- A monitor with a worker for every domain. -/
structure Crew where
  monitor : Monitor
  worker : Domain → Worker
  /-- the events that were taken from the queue, in their order -/
  drained : List AlertEvent

/-- One stage of a worker: the monitor and the worker afterwards, and the events that were
taken from the queue. -/
def Stage.perform (m : Monitor) (w : Worker) : Stage → Monitor × Worker × List AlertEvent
  | .effect e =>
    let r := m.apply w.kept e
    (r.1, { w with kept := r.2 }, [])
  | .drain =>
    let r := m.pending.drain
    ({ m with pending := r.1 }, { w with kept := r.2 }, r.2)
  | .archive =>
    ({ m with history := { m.history with alerts := m.history.alerts.extend w.kept } }, w, [])
  | .dispatch now replies =>
    let events := if m.dispatcher.enabled then w.kept else []
    (m, { w with todo := handles now replies 0 events ++ w.todo }, [])
  | .handle e now reply =>
    ({ m with dispatcher := (m.dispatcher.handle e now reply).1 }, w, [])
  | .finish => (m, { w with kept := [], returned := w.returned ++ [w.kept.length] }, [])

namespace Crew

/-- A crew before its cycles; each domain has its own of them, in their order. -/
def start (m : Monitor) (cycles : List Cycle) : Crew where
  monitor := m
  worker d :=
    ⟨(cycles.filter fun k => k.domain = d).flatMap (Stage.ofCycle m.config.resources), [], []⟩
  drained := []

/-- The crew after a stage of the worker of a domain. -/
def after (c : Crew) (d : Domain) (r : Monitor × Worker × List AlertEvent) : Crew :=
  ⟨r.1, Function.update c.worker d r.2.1, c.drained ++ r.2.2⟩

/-- The worker of a domain has a turn; without anything to do it lets it pass. -/
def turn (c : Crew) (d : Domain) : Crew :=
  match (c.worker d).todo with
  | [] => c
  | s :: todo => c.after d (s.perform c.monitor { c.worker d with todo })

/-- The workers have their turns in the order of a schedule. -/
def run (c : Crew) (schedule : List Domain) : Crew := schedule.foldl turn c

/-- Every event that came into the queue, in the order in which they came. -/
def queued (c : Crew) : List AlertEvent := c.drained ++ c.monitor.pending.toList

/-- The workers of the watched domains have done all their cycles. -/
def Finished (c : Crew) : Prop := ∀ d, d ≠ .dispatch → (c.worker d).todo = []

instance (c : Crew) : Decidable c.Finished :=
  decidable_of_iff
    ((c.worker .resources).todo.isEmpty ∧ (c.worker .endpoints).todo.isEmpty ∧
      (c.worker .containers).todo.isEmpty) <| by
    simp only [List.isEmpty_iff, Finished]
    constructor
    · rintro ⟨hresources, hendpoints, hcontainers⟩ d hd
      cases d with
      | dispatch => exact absurd rfl hd
      | resources => exact hresources
      | endpoints => exact hendpoints
      | containers => exact hcontainers
    · intro h
      exact ⟨h .resources nofun, h .endpoints nofun, h .containers nofun⟩

@[simp] theorem worker_after_self (c : Crew) (d : Domain)
    (r : Monitor × Worker × List AlertEvent) : (c.after d r).worker d = r.2.1 := by
  show Function.update c.worker d r.2.1 d = r.2.1
  rw [Function.update_self]

theorem worker_after_of_ne (c : Crew) {d e : Domain} (h : e ≠ d)
    (r : Monitor × Worker × List AlertEvent) : (c.after d r).worker e = c.worker e := by
  show Function.update c.worker d r.2.1 e = c.worker e
  rw [Function.update_of_ne h]

theorem turn_of_done {c : Crew} {d : Domain} (h : (c.worker d).todo = []) : c.turn d = c := by
  rw [turn, h]

theorem turn_of_todo {c : Crew} {d : Domain} {s : Stage} {todo : List Stage}
    (h : (c.worker d).todo = s :: todo) :
    c.turn d = c.after d (s.perform c.monitor { c.worker d with todo }) := by
  rw [turn, h]

theorem run_append (c : Crew) (earlier later : List Domain) :
    c.run (earlier ++ later) = (c.run earlier).run later :=
  List.foldl_append

theorem run_replicate_of_done {c : Crew} {d : Domain} (h : (c.worker d).todo = []) (n : Nat) :
    c.run (List.replicate n d) = c := by
  induction n with
  | zero => rfl
  | succ n ih =>
    rw [List.replicate_succ, run, List.foldl_cons, turn_of_done h]
    exact ih

end Crew

/-! ## Stages keep to their domain -/

/-- The domain of the history that a batch is for. -/
def Batch.domain : Batch → Domain
  | resource _ => .resources
  | endpoints _ => .endpoints
  | containers _ => .containers

theorem Batch.domain_ne_dispatch (batch : Batch) : batch.domain ≠ .dispatch := by
  cases batch <;> exact Domain.noConfusion

namespace Stage

/-- The stage is one of a cycle of the domain. -/
def Of (d : Domain) : Stage → Prop
  | effect (.record batch) => batch.domain = d
  | effect (.observe f) => Domain.ofKey? f.key = some d
  | effect .enqueue => d ≠ .dispatch
  | finish => True
  | _ => d = .dispatch

theorem of_ofEffects_nil {d : Domain} {s : Stage} (hs : s ∈ ofEffects []) : s.Of d := by
  rw [List.mem_singleton.1 hs]
  trivial

theorem of_ofBatch (batch : Batch) {findings : List Finding}
    (hfindings : ∀ f ∈ findings, Domain.ofKey? f.key = some batch.domain) {s : Stage}
    (hs : s ∈ ofEffects (Effect.ofBatch batch findings)) : s.Of batch.domain := by
  rcases List.mem_append.1 hs with hs | hs
  · obtain ⟨e, he, rfl⟩ := List.mem_map.1 hs
    rw [Effect.ofBatch, List.mem_append, List.mem_cons] at he
    rcases he with (rfl | he) | he
    · rfl
    · obtain ⟨f, hf, rfl⟩ := List.mem_map.1 he
      exact hfindings f hf
    · rw [List.mem_singleton.1 he]
      exact batch.domain_ne_dispatch
  · rw [List.mem_singleton.1 hs]
    trivial

theorem of_ofCycle {checks : ResourceChecks} {k : Cycle} {s : Stage} (hs : s ∈ ofCycle checks k) :
    s.Of k.domain := by
  have hkeys : ∀ f ∈ k.findings checks, Domain.ofKey? f.key = some k.domain :=
    fun _ => Cycle.ofKey?_of_mem_findings
  cases k with
  | resources outcome =>
    cases outcome with
    | error _ => exact of_ofEffects_nil hs
    | ok sample => exact of_ofBatch (.resource sample) hkeys hs
  | endpoints outcomes =>
    rw [Cycle.findings] at hkeys
    rw [ofCycle, Effect.ofEndpoints] at hs
    cases hresults : Effect.results outcomes with
    | nil =>
      rw [hresults] at hs
      exact of_ofEffects_nil hs
    | cons r rs =>
      rw [hresults] at hs hkeys
      exact of_ofBatch (.endpoints (r :: rs)) hkeys hs
  | containers outcome =>
    cases outcome with
    | error _ => exact of_ofEffects_nil hs
    | ok samples => exact of_ofBatch (.containers samples) hkeys hs
  | noRuntime => exact of_ofEffects_nil hs
  | dispatch now replies =>
    simp only [ofCycle, List.mem_cons, List.not_mem_nil, or_false] at hs
    rcases hs with rfl | rfl | rfl | rfl
    · rfl
    · rfl
    · rfl
    · trivial
  | broken d => cases hs

end Stage

/-- A worker has nothing in hand but stages and events of its own domain; a dispatch takes
events of every kind. -/
structure Worker.KeepsTo (w : Worker) (d : Domain) : Prop where
  todo_of : ∀ s ∈ w.todo, s.Of d
  kept_of : d ≠ .dispatch → ∀ e ∈ w.kept, Domain.ofKey? e.kind = some d

namespace AlertBook

variable {b b' : AlertBook}

theorem kind_of_mem_observeFinding {f : Finding} {e : AlertEvent}
    (h : e ∈ (b.observeFinding f).2.toList) : e.kind = f.key := by
  rw [observeFinding, observe, Option.mem_toList, Option.map_eq_some_iff] at h
  obtain ⟨level, _, rfl⟩ := h
  rfl

theorem observeFinding_congr (hthreshold : b.threshold = b'.threshold) {f : Finding}
    (hkey : b.get? f.key = b'.get? f.key) :
    (b.observeFinding f).2 = (b'.observeFinding f).2 ∧
      (b.observeFinding f).1.get? f.key = (b'.observeFinding f).1.get? f.key := by
  have hmet : b.met f.key f.time = b'.met f.key f.time := by
    rw [met, hkey, met]
  constructor
  · rw [observeFinding, observe, hmet, hthreshold]
    rfl
  · rw [observeFinding, observeFinding, get?_observe_self, get?_observe_self, hmet, hthreshold]

end AlertBook

namespace Stage

variable {d : Domain} {m : Monitor} {w : Worker} {s : Stage}

theorem of_handles (now : Instant) (replies : Replies) (position : Nat) (events : List AlertEvent) :
    ∀ s ∈ handles now replies position events, s.Of .dispatch := by
  induction events generalizing position with
  | nil =>
    intro s hs
    cases hs
  | cons e es ih =>
    intro s hs
    rcases List.mem_cons.1 hs with rfl | hs
    · rfl
    · exact ih (position + 1) s hs

/-- **A stage** leaves its worker with stages and events of the domain. -/
theorem keepsTo_perform (hw : w.KeepsTo d) (hs : s.Of d) : (s.perform m w).2.1.KeepsTo d := by
  cases s with
  | effect e =>
    refine ⟨hw.todo_of, ?_⟩
    intro hd
    cases e with
    | record batch => exact hw.kept_of hd
    | enqueue => exact hw.kept_of hd
    | observe f =>
      intro e he
      rcases List.mem_append.1 he with he | he
      · exact hw.kept_of hd e he
      · rw [AlertBook.kind_of_mem_observeFinding he]
        exact hs
  | drain => exact ⟨hw.todo_of, fun hd => absurd hs hd⟩
  | archive => exact hw
  | dispatch now replies =>
    refine ⟨?_, fun hd => absurd hs hd⟩
    intro s hmem
    rcases List.mem_append.1 hmem with hmem | hmem
    · rw [show d = .dispatch from hs]
      exact of_handles now replies 0 _ s hmem
    · exact hw.todo_of s hmem
  | handle e now reply => exact hw
  | finish =>
    refine ⟨hw.todo_of, ?_⟩
    intro _ e he
    cases he

end Stage

/-! ## What a domain sees -/

/-- The domain finds the same history. -/
def History.SameFor (d : Domain) (h h' : History) : Prop :=
  match d with
  | .resources => h.resources = h'.resources
  | .endpoints => h.endpoints = h'.endpoints
  | .containers => h.containers = h'.containers
  | .dispatch => True

/-- A watched domain finds the same threshold, the same states of its keys and the same
history. -/
structure Monitor.SameFor (d : Domain) (m m' : Monitor) : Prop where
  threshold_eq : m.book.threshold = m'.book.threshold
  states_eq : ∀ key, Domain.ofKey? key = some d → m.book.get? key = m'.book.get? key
  history_same : m.history.SameFor d m'.history

theorem History.sameFor_refl (d : Domain) (h : History) : h.SameFor d h := by
  cases d with
  | dispatch => trivial
  | resources => rfl
  | endpoints => rfl
  | containers => rfl

theorem Monitor.sameFor_refl (d : Domain) (m : Monitor) : m.SameFor d m :=
  ⟨rfl, fun _ _ => rfl, m.history.sameFor_refl d⟩

theorem History.SameFor.symm {d : Domain} {h h' : History} (hsame : h.SameFor d h') :
    h'.SameFor d h := by
  cases d with
  | dispatch => trivial
  | resources => exact Eq.symm hsame
  | endpoints => exact Eq.symm hsame
  | containers => exact Eq.symm hsame

theorem History.SameFor.trans {d : Domain} {h h' h'' : History} (hsame : h.SameFor d h')
    (hsame' : h'.SameFor d h'') : h.SameFor d h'' := by
  cases d with
  | dispatch => trivial
  | resources => exact Eq.trans hsame hsame'
  | endpoints => exact Eq.trans hsame hsame'
  | containers => exact Eq.trans hsame hsame'

theorem Monitor.SameFor.symm {d : Domain} {m m' : Monitor} (h : m.SameFor d m') :
    m'.SameFor d m :=
  ⟨h.threshold_eq.symm, fun key hkey => (h.states_eq key hkey).symm, h.history_same.symm⟩

theorem Monitor.SameFor.trans {d : Domain} {m m' m'' : Monitor} (h : m.SameFor d m')
    (h' : m'.SameFor d m'') : m.SameFor d m'' :=
  ⟨h.threshold_eq.trans h'.threshold_eq,
    fun key hkey => (h.states_eq key hkey).trans (h'.states_eq key hkey),
    h.history_same.trans h'.history_same⟩

theorem Monitor.history_record_other (m : Monitor) {batch : Batch} {d : Domain}
    (h : batch.domain ≠ d) : (m.record batch).history.SameFor d m.history := by
  cases d with
  | dispatch => trivial
  | resources =>
    cases batch with
    | resource _ => exact absurd rfl h
    | endpoints _ => rfl
    | containers _ => rfl
  | endpoints =>
    cases batch with
    | resource _ => rfl
    | endpoints _ => exact absurd rfl h
    | containers _ => rfl
  | containers =>
    cases batch with
    | resource _ => rfl
    | endpoints _ => rfl
    | containers _ => exact absurd rfl h

namespace Stage

variable {d e : Domain} {m m' : Monitor} {w : Worker} {s : Stage}

theorem get?_perform_of_ne (hs : s.Of e) {key : String} (hkey : Domain.ofKey? key ≠ some e) :
    (s.perform m w).1.book.get? key = m.book.get? key := by
  cases s with
  | effect effect =>
    cases effect with
    | record batch => cases batch <;> rfl
    | enqueue => rfl
    | observe f =>
      have hne : f.key ≠ key := by
        rintro rfl
        exact hkey hs
      exact m.book.get?_observe_of_ne f.health f.message f.time hne
  | drain => rfl
  | archive => rfl
  | dispatch now replies => rfl
  | handle event now reply => rfl
  | finish => rfl

/-- **A stage of another domain** changes nothing that a watched domain sees. -/
theorem sameFor_perform_other (hs : s.Of e) (hne : e ≠ d) (hd : d ≠ .dispatch) :
    (s.perform m w).1.SameFor d m where
  threshold_eq := by
    cases s with
    | effect effect =>
      cases effect with
      | record batch => cases batch <;> rfl
      | enqueue => rfl
      | observe f => rfl
    | drain => rfl
    | archive => rfl
    | dispatch now replies => rfl
    | handle event now reply => rfl
    | finish => rfl
  states_eq := by
    intro key hkey
    apply get?_perform_of_ne hs
    rw [hkey]
    exact fun h => hne (Option.some.inj h).symm
  history_same := by
    cases s with
    | effect effect =>
      cases effect with
      | record batch =>
        apply m.history_record_other
        rw [show batch.domain = e from hs]
        exact hne
      | enqueue => exact m.history.sameFor_refl d
      | observe f => exact m.history.sameFor_refl d
    | drain => exact m.history.sameFor_refl d
    | archive => cases d <;> trivial
    | dispatch now replies => exact m.history.sameFor_refl d
    | handle event now reply => exact m.history.sameFor_refl d
    | finish => exact m.history.sameFor_refl d

/-- **A stage of a watched domain** does the same to whatever looks the same to it. -/
theorem sameFor_perform_own (h : m.SameFor d m') (hs : s.Of d) (hd : d ≠ .dispatch) :
    (s.perform m w).1.SameFor d (s.perform m' w).1 ∧
      (s.perform m w).2.1 = (s.perform m' w).2.1 := by
  cases s with
  | effect effect =>
    cases effect with
    | record batch =>
      refine ⟨⟨?_, ?_, ?_⟩, rfl⟩
      · cases batch <;> exact h.threshold_eq
      · cases batch <;> exact h.states_eq
      · have hsame := h.history_same
        rw [show d = batch.domain from Eq.symm hs] at hsame ⊢
        cases batch with
        | resource sample => exact congrArg (Window.append · sample) hsame
        | endpoints results => exact congrArg (Window.extend · results) hsame
        | containers samples => exact congrArg (Window.extend · samples) hsame
    | enqueue => exact ⟨⟨h.threshold_eq, h.states_eq, h.history_same⟩, rfl⟩
    | observe f =>
      obtain ⟨hevent, hself⟩ :=
        AlertBook.observeFinding_congr h.threshold_eq (h.states_eq f.key hs)
      refine ⟨⟨h.threshold_eq, ?_, h.history_same⟩, ?_⟩
      · intro key hkey
        by_cases hsame : f.key = key
        · rw [← hsame]
          exact hself
        · show (m.book.observeFinding f).1.get? key = (m'.book.observeFinding f).1.get? key
          rw [AlertBook.observeFinding, AlertBook.get?_observe_of_ne _ _ _ _ hsame,
            AlertBook.observeFinding, AlertBook.get?_observe_of_ne _ _ _ _ hsame]
          exact h.states_eq key hkey
      · show { w with kept := w.kept ++ (m.book.observeFinding f).2.toList } =
          { w with kept := w.kept ++ (m'.book.observeFinding f).2.toList }
        rw [hevent]
  | finish => exact ⟨h, rfl⟩
  | drain => exact absurd hs hd
  | archive => exact absurd hs hd
  | dispatch now replies => exact absurd hs hd
  | handle event now reply => exact absurd hs hd

/-- The events that a stage puts into the queue. -/
def pushed (w : Worker) : Stage → List AlertEvent
  | effect .enqueue => w.kept
  | _ => []

/-- What was taken from the queue and what is still in it are what was in it before,
followed by what the stage puts into it. -/
theorem drained_perform (m : Monitor) (w : Worker) (s : Stage) :
    (s.perform m w).2.2 ++ (s.perform m w).1.pending.toList = m.pending.toList ++ s.pushed w := by
  cases s with
  | effect effect =>
    cases effect with
    | record batch => cases batch <;> exact (List.append_nil _).symm
    | enqueue => rfl
    | observe f => exact (List.append_nil _).symm
  | drain => rfl
  | archive => exact (List.append_nil _).symm
  | dispatch now replies => exact (List.append_nil _).symm
  | handle event now reply => exact (List.append_nil _).symm
  | finish => exact (List.append_nil _).symm

theorem ofDomain_pushed_other (hw : w.KeepsTo e) (hs : s.Of e) (hne : e ≠ d) :
    AlertEvent.ofDomain d (s.pushed w) = [] := by
  cases s with
  | effect effect =>
    cases effect with
    | record batch => rfl
    | observe f => rfl
    | enqueue =>
      rw [AlertEvent.ofDomain, List.filter_eq_nil_iff]
      intro event hevent
      rw [hw.kept_of hs event hevent]
      simpa using hne
  | drain => rfl
  | archive => rfl
  | dispatch now replies => rfl
  | handle event now reply => rfl
  | finish => rfl

end Stage

/-! ## Turns -/

namespace Crew

variable {c c' c'' : Crew} {d e : Domain}

/-- Every worker keeps to its domain. -/
def KeepsTo (c : Crew) : Prop := ∀ d, (c.worker d).KeepsTo d

/-- A watched domain sees the same of two crews: its worker, its part of the monitor, and
its events among all that came into the queue. -/
structure SameFor (d : Domain) (c c' : Crew) : Prop where
  worker_eq : c.worker d = c'.worker d
  monitor_same : c.monitor.SameFor d c'.monitor
  queued_eq : AlertEvent.ofDomain d c.queued = AlertEvent.ofDomain d c'.queued

theorem sameFor_refl (d : Domain) (c : Crew) : c.SameFor d c :=
  ⟨rfl, c.monitor.sameFor_refl d, rfl⟩

theorem SameFor.symm (h : c.SameFor d c') : c'.SameFor d c :=
  ⟨h.worker_eq.symm, h.monitor_same.symm, h.queued_eq.symm⟩

theorem SameFor.trans (h : c.SameFor d c') (h' : c'.SameFor d c'') : c.SameFor d c'' :=
  ⟨h.worker_eq.trans h'.worker_eq, h.monitor_same.trans h'.monitor_same,
    h.queued_eq.trans h'.queued_eq⟩

theorem keepsTo_start (m : Monitor) (cycles : List Cycle) : (start m cycles).KeepsTo := by
  intro d
  refine ⟨?_, ?_⟩
  · intro s hs
    obtain ⟨k, hk, hs⟩ := List.mem_flatMap.1 hs
    have hdomain : k.domain = d := by simpa using (List.mem_filter.1 hk).2
    rw [← hdomain]
    exact Stage.of_ofCycle hs
  · intro _ event hevent
    cases hevent

theorem KeepsTo.rest (h : c.KeepsTo) {s : Stage} {todo : List Stage}
    (htodo : (c.worker d).todo = s :: todo) :
    s.Of d ∧ ({ c.worker d with todo } : Worker).KeepsTo d := by
  have hstages := (h d).todo_of
  rw [htodo] at hstages
  exact ⟨hstages s List.mem_cons_self,
    fun s' hs' => hstages s' (List.mem_cons_of_mem s hs'), (h d).kept_of⟩

/-- **A turn** leaves every worker to its domain. -/
theorem KeepsTo.turn (h : c.KeepsTo) (d : Domain) : (c.turn d).KeepsTo := by
  cases htodo : (c.worker d).todo with
  | nil =>
    rw [turn_of_done htodo]
    exact h
  | cons s todo =>
    obtain ⟨hs, hw⟩ := h.rest htodo
    rw [turn_of_todo htodo]
    intro e
    by_cases he : e = d
    · subst he
      rw [worker_after_self]
      exact Stage.keepsTo_perform hw hs
    · rw [worker_after_of_ne c he]
      exact h e

/-- A stage adds to the queue what its worker puts into it. -/
theorem queued_after (c : Crew) (d : Domain) (w : Worker) (s : Stage) :
    (c.after d (s.perform c.monitor w)).queued = c.queued ++ s.pushed w := by
  show (c.drained ++ (s.perform c.monitor w).2.2) ++
    (s.perform c.monitor w).1.pending.toList = _
  rw [List.append_assoc, Stage.drained_perform, ← List.append_assoc]
  rfl

/-- **A turn of another domain** changes nothing that a watched domain sees. -/
theorem SameFor.turn_other (h : c.SameFor d c') (hc : c.KeepsTo) (hne : e ≠ d)
    (hd : d ≠ .dispatch) : (c.turn e).SameFor d c' := by
  cases htodo : (c.worker e).todo with
  | nil =>
    rw [turn_of_done htodo]
    exact h
  | cons s todo =>
    obtain ⟨hs, hw⟩ := hc.rest htodo
    rw [turn_of_todo htodo]
    refine SameFor.trans ⟨?_, Stage.sameFor_perform_other hs hne hd, ?_⟩ h
    · rw [worker_after_of_ne c (Ne.symm hne)]
    · rw [queued_after, AlertEvent.ofDomain, List.filter_append]
      show AlertEvent.ofDomain d c.queued ++ AlertEvent.ofDomain d _ = _
      rw [Stage.ofDomain_pushed_other hw hs hne, List.append_nil]

/-- **A turn of a watched domain** does the same to whatever looks the same to it. -/
theorem SameFor.turn_own (h : c.SameFor d c') (hc : c.KeepsTo) (hd : d ≠ .dispatch) :
    (c.turn d).SameFor d (c'.turn d) := by
  cases htodo : (c.worker d).todo with
  | nil =>
    have htodo' : (c'.worker d).todo = [] := by
      rw [← h.worker_eq]
      exact htodo
    rw [turn_of_done htodo, turn_of_done htodo']
    exact h
  | cons s todo =>
    have htodo' : (c'.worker d).todo = s :: todo := by
      rw [← h.worker_eq]
      exact htodo
    obtain ⟨hs, _⟩ := hc.rest htodo
    rw [turn_of_todo htodo, turn_of_todo htodo', ← h.worker_eq]
    obtain ⟨hmonitor, hworker⟩ :=
      Stage.sameFor_perform_own (w := { c.worker d with todo }) h.monitor_same hs hd
    refine ⟨?_, hmonitor, ?_⟩
    · rw [worker_after_self, worker_after_self]
      exact hworker
    · rw [queued_after, queued_after, AlertEvent.ofDomain, AlertEvent.ofDomain,
        List.filter_append, List.filter_append]
      exact congrArg (· ++ _) h.queued_eq

/-! ## Schedules -/

/-- **A schedule** leaves a watched domain what its own turns alone would have left it. -/
theorem sameFor_run (schedule : List Domain) (hd : d ≠ .dispatch) :
    ∀ {c c' : Crew}, c.KeepsTo → c.SameFor d c' →
      (c.run schedule).SameFor d (c'.run (List.replicate (schedule.count d) d)) := by
  induction schedule with
  | nil =>
    intro c c' _ h
    exact h
  | cons e schedule ih =>
    intro c c' hc h
    by_cases he : e = d
    · subst he
      rw [List.count_cons_self, List.replicate_succ]
      exact ih (hc.turn e) (h.turn_own hc hd)
    · rw [List.count_cons_of_ne he]
      exact ih (hc.turn e) (h.turn_other hc he hd)

/-- A domain that has done all its cycles sees the same after all schedules that let it do
them. -/
theorem sameFor_of_done (hc : c.KeepsTo) (hd : d ≠ .dispatch) {schedule schedule' : List Domain}
    (h : ((c.run schedule).worker d).todo = []) (h' : ((c.run schedule').worker d).todo = []) :
    (c.run schedule).SameFor d (c.run schedule') := by
  have halone := sameFor_run schedule hd hc (sameFor_refl d c)
  have halone' := sameFor_run schedule' hd hc (sameFor_refl d c)
  -- The longer of the two runs of its own turns only adds turns without anything to do.
  have hlonger : ∀ n k, ((c.run (List.replicate n d)).worker d).todo = [] →
      c.run (List.replicate (n + k) d) = c.run (List.replicate n d) := by
    intro n k hdone
    rw [List.replicate_add, run_append, run_replicate_of_done hdone]
  rw [halone.worker_eq] at h
  rw [halone'.worker_eq] at h'
  have hsame : c.run (List.replicate (schedule.count d) d) =
      c.run (List.replicate (schedule'.count d) d) := by
    rcases Nat.le_total (schedule.count d) (schedule'.count d) with hle | hle
    · rw [← Nat.add_sub_cancel' hle, hlonger _ _ h]
    · rw [← Nat.add_sub_cancel' hle, hlonger _ _ h']
  rw [hsame] at halone
  exact halone.trans halone'.symm

theorem get?_run_of_none (schedule : List Domain) {key : String}
    (hkey : Domain.ofKey? key = none) :
    ∀ {c : Crew}, c.KeepsTo →
      (c.run schedule).monitor.book.get? key = c.monitor.book.get? key := by
  induction schedule with
  | nil =>
    intro c _
    rfl
  | cons e schedule ih =>
    intro c hc
    refine Eq.trans (ih (hc.turn e)) ?_
    cases htodo : (c.worker e).todo with
    | nil => rw [turn_of_done htodo]
    | cons s todo =>
      obtain ⟨hs, _⟩ := hc.rest htodo
      rw [turn_of_todo htodo]
      apply Stage.get?_perform_of_ne hs
      rw [hkey]
      exact nofun

/-- **The domains do not interfere.**  However the cycles of the domains are interleaved,
effect by effect and claim by claim, once the watched domains have done all their cycles
the states of the book, the three histories, what the cycles returned, and the events of
each domain among all that came into the queue are the same.  It rests on the keys:
different subjects have different ones, whatever the paths and the names in them are. -/
theorem domains_independent (m : Monitor) (cycles : List Cycle)
    (schedule schedule' : List Domain) (h : ((start m cycles).run schedule).Finished)
    (h' : ((start m cycles).run schedule').Finished) :
    let c := (start m cycles).run schedule
    let c' := (start m cycles).run schedule'
    c.monitor.book.snapshot = c'.monitor.book.snapshot ∧
      c.monitor.history.resources = c'.monitor.history.resources ∧
      c.monitor.history.endpoints = c'.monitor.history.endpoints ∧
      c.monitor.history.containers = c'.monitor.history.containers ∧
      (∀ d, d ≠ .dispatch →
        (c.worker d).returned = (c'.worker d).returned ∧
          AlertEvent.ofDomain d c.queued = AlertEvent.ofDomain d c'.queued) ∧
      ∀ x y : Subject, x.key = y.key → x = y := by
  intro c c'
  have hstart := keepsTo_start m cycles
  have hsame : ∀ d, d ≠ .dispatch → c.SameFor d c' :=
    fun d hd => sameFor_of_done hstart hd (h d hd) (h' d hd)
  have hstates : c.monitor.book.states = c'.monitor.book.states := by
    apply KeyMap.ext_find?
    intro key
    cases hkey : Domain.ofKey? key with
    | none =>
      exact (get?_run_of_none schedule hkey hstart).trans
        (get?_run_of_none schedule' hkey hstart).symm
    | some d =>
      have hd : d ≠ .dispatch := by
        rintro rfl
        exact Domain.ofKey?_ne_dispatch key hkey
      exact (hsame d hd).monitor_same.states_eq key hkey
  refine ⟨?_, ?_, ?_, ?_, ?_, fun _ _ => Subject.key_injective⟩
  · rw [AlertBook.snapshot, hstates, AlertBook.snapshot]
  · exact (hsame .resources nofun).monitor_same.history_same
  · exact (hsame .endpoints nofun).monitor_same.history_same
  · exact (hsame .containers nofun).monitor_same.history_same
  · intro d hd
    exact ⟨congrArg Worker.returned (hsame d hd).worker_eq, (hsame d hd).queued_eq⟩

/-- Three failed probes of an endpoint and three listings of a stopped container, done one
domain after the other, or with a turn of every domain in rotation: the event of the
endpoint comes first in the queue in the one case and last in the other. -/
theorem domains_independent_rotating :
    let probe : EndpointResult := ⟨"api", "http://host", none, 5, false, none, ⟨0, 0⟩⟩
    let stopped : ContainerSample := ⟨"1f", "db", "Exited", "exited", false, 0, 0, none, ⟨0, 0⟩⟩
    let round : Cycle := .endpoints [(.initial "api" "http://host", .ok probe)]
    let listing : Cycle := .containers (.ok [stopped])
    let cycles := [round, round, round, listing, listing, listing, .resources (.error (.probe "")),
      .dispatch ⟨0, 0⟩ fun _ _ => none]
    let m : Monitor := .new .initial [] ⟨0, 0⟩
    let blocks : List Domain :=
      List.replicate 12 .endpoints ++ List.replicate 12 .containers ++ [.resources]
    let rotation : List Domain :=
      (List.replicate 12 [.dispatch, .containers, .endpoints, .resources]).flatten
    ((start m cycles).run blocks).Finished ∧ ((start m cycles).run rotation).Finished ∧
      ((start m cycles).run blocks).queued.map (·.kind) = ["http_api", "docker_db"] ∧
      ((start m cycles).run rotation).queued.map (·.kind) = ["docker_db", "http_api"] ∧
      ((start m cycles).run blocks).monitor.book.snapshot =
        ((start m cycles).run rotation).monitor.book.snapshot ∧
      ∀ d, d ≠ .dispatch →
        AlertEvent.ofDomain d ((start m cycles).run blocks).queued =
          AlertEvent.ofDomain d ((start m cycles).run rotation).queued := by
  intro probe stopped round listing cycles m blocks rotation
  have hblocks : ((start m cycles).run blocks).Finished := by decide +kernel
  have hrotation : ((start m cycles).run rotation).Finished := by decide +kernel
  have hfirst :
      ((start m cycles).run blocks).queued.map (·.kind) = ["http_api", "docker_db"] := by
    decide +kernel
  have hlast :
      ((start m cycles).run rotation).queued.map (·.kind) = ["docker_db", "http_api"] := by
    decide +kernel
  have hsame := domains_independent m cycles blocks rotation hblocks hrotation
  exact ⟨hblocks, hrotation, hfirst, hlast, hsame.1, fun d hd => (hsame.2.2.2.2.1 d hd).2⟩

end Crew

end HostWatch
