import HostWatch.Proofs.Monitor.Due
import HostWatch.Proofs.Monitor.Interleaving
import HostWatch.Proofs.Monitor.SingleCycle
set_option autoImplicit false

/-!
# Monitor: what a domain sees of a service

The tasks of a service share the monitor, the outside and the journal.  What a domain can see
of them are its part of the monitor, the collaborator that answers its calls, and what the
journal says about its own cycles (`World.AlikeFor`).

What the task of another domain does, whether it carries a cycle on, begins one or ends, changes
nothing of this (`World.alikeFor_settle`), and a cycle that is carried on does the same to worlds
that look the same to its domain: it goes equally far, and puts the same events into the queue
(`World.AlikeFor.pursue`).
-/

namespace HostWatch

open HostWatch.Time (Instant)

/-! ## The outside -/

/-- What comes back from a call, and when. -/
structure CallAnswer where
  takes : Nat
  /-- what is answered to a question; a collaborator that breaks down answers nothing -/
  reply : Option Reply
  /-- what the channels answer to an event -/
  acknowledged : Nat → Receipt

namespace Collaborators

variable {σ : Type}

/-- A call to the outside. -/
def answerTo (c : Collaborators σ) (o : σ) : Call → σ × CallAnswer
  | .collect paths =>
    let r := c.collect o paths
    (r.1, ⟨r.2.takes, r.2.outcome.map .sampled, fun _ => .given none⟩)
  | .probe check =>
    let r := c.probe o check
    (r.1, ⟨r.2.takes, r.2.outcome.map (.probed check), fun _ => .given none⟩)
  | .list names =>
    let r := c.list o names
    (r.1, ⟨r.2.takes, r.2.outcome.map .listed, fun _ => .given none⟩)
  | .deliver event =>
    let r := c.deliver o event
    (r.1, ⟨r.2.takes, none, r.2.reply⟩)

/-- The calls of other domains do not change a part of the outside. -/
def Spares (c : Collaborators σ) (d : Domain) {τ : Type} (part : σ → τ) : Prop :=
  ∀ (o : σ) {call : Call}, call.domain ≠ d → part (c.answerTo o call).1 = part o

/-- A part of the outside answers the calls of a domain, and no other call changes it. -/
structure Separates (c : Collaborators σ) (d : Domain) {τ : Type} (part : σ → τ) : Prop where
  own : ∀ {o o' : σ} {call : Call}, call.domain = d → part o = part o' →
    part (c.answerTo o call).1 = part (c.answerTo o' call).1 ∧
      (c.answerTo o call).2 = (c.answerTo o' call).2
  spares : c.Spares d part

end Collaborators

/-! ## The monitor -/

/-- The domain finds its part of the monitor the same: what it watches with its history, or the
dispatcher. -/
structure Monitor.AlikeFor (d : Domain) (m m' : Monitor) : Prop where
  config_eq : m.config = m'.config
  watched_same : d ≠ .dispatch → m.SameFor d m'
  dispatcher_eq : d = .dispatch → m.dispatcher = m'.dispatcher

/-- The effects of a cycle of a watched domain. -/
def Effect.ofCycle (checks : ResourceChecks) : Cycle → List Effect
  | .resources o => ofResources checks o
  | .endpoints os => ofEndpoints os
  | .containers o => ofContainers o
  | _ => []

theorem Effect.of_ofCycle {checks : ResourceChecks} {k : Cycle} {e : Effect}
    (he : e ∈ ofCycle checks k) : (Stage.effect e).Of k.domain := by
  have hstage : ∀ {effects : List Effect}, e ∈ effects →
      Stage.effect e ∈ Stage.ofEffects effects :=
    fun h => List.mem_append_left _ (List.mem_map_of_mem h)
  cases k with
  | resources o => exact @Stage.of_ofCycle checks (.resources o) _ (hstage he)
  | endpoints os => exact @Stage.of_ofCycle checks (.endpoints os) _ (hstage he)
  | containers o => exact @Stage.of_ofCycle checks (.containers o) _ (hstage he)
  | noRuntime => cases he
  | dispatch now replies => cases he
  | broken d => cases he

theorem AlertEvent.ofDomain_append (d : Domain) (earlier later : List AlertEvent) :
    ofDomain d (earlier ++ later) = ofDomain d earlier ++ ofDomain d later :=
  List.filter_append earlier later

namespace Monitor

variable {d e : Domain} {m m' m'' : Monitor}

theorem alikeFor_refl (d : Domain) (m : Monitor) : m.AlikeFor d m :=
  ⟨rfl, fun _ => m.sameFor_refl d, fun _ => rfl⟩

theorem AlikeFor.symm (h : m.AlikeFor d m') : m'.AlikeFor d m :=
  ⟨h.config_eq.symm, fun hd => (h.watched_same hd).symm, fun hd => (h.dispatcher_eq hd).symm⟩

theorem AlikeFor.trans (h : m.AlikeFor d m') (h' : m'.AlikeFor d m'') : m.AlikeFor d m'' :=
  ⟨h.config_eq.trans h'.config_eq, fun hd => (h.watched_same hd).trans (h'.watched_same hd),
    fun hd => (h.dispatcher_eq hd).trans (h'.dispatcher_eq hd)⟩

theorem sameFor_applyAll_other (m : Monitor) (caused : List AlertEvent) {effects : List Effect}
    (he : ∀ effect ∈ effects, (Stage.effect effect).Of e) (hne : e ≠ d) (hd : d ≠ .dispatch) :
    (m.applyAll caused effects).1.SameFor d m := by
  induction effects generalizing m caused with
  | nil => exact m.sameFor_refl d
  | cons effect effects ih =>
    obtain ⟨hfirst, hrest⟩ := List.forall_mem_cons.1 he
    exact (ih _ _ hrest).trans
      (Stage.sameFor_perform_other (w := ⟨[], caused, []⟩) hfirst hne hd)

theorem SameFor.applyAll (h : m.SameFor d m') (hd : d ≠ .dispatch) (caused : List AlertEvent)
    {effects : List Effect} (he : ∀ effect ∈ effects, (Stage.effect effect).Of d) :
    (m.applyAll caused effects).1.SameFor d (m'.applyAll caused effects).1 ∧
      (m.applyAll caused effects).2 = (m'.applyAll caused effects).2 := by
  induction effects generalizing m m' caused with
  | nil => exact ⟨h, rfl⟩
  | cons effect effects ih =>
    obtain ⟨hfirst, hrest⟩ := List.forall_mem_cons.1 he
    obtain ⟨hsame, hworker⟩ :=
      Stage.sameFor_perform_own (w := ⟨[], caused, []⟩) h hfirst hd
    have hcaused : (m.apply caused effect).2 = (m'.apply caused effect).2 :=
      congrArg Worker.kept hworker
    rw [Monitor.applyAll, Monitor.applyAll, hcaused]
    exact ih hsame _ hrest

theorem act_eq_applyAll (m : Monitor) {k : Cycle} (hk : k.domain ≠ .dispatch) :
    (m.act (.cycle k)).1 = (m.applyAll [] (Effect.ofCycle m.config.resources k)).1 ∧
      (m.act (.cycle k)).2.pushed =
        (m.applyAll [] (Effect.ofCycle m.config.resources k)).2 := by
  cases k with
  | resources o => exact ⟨rfl, (moves_applyAll m (Effect.carry_ofResources _ o)).2.symm⟩
  | endpoints os =>
    exact ⟨rfl, (moves_applyAll m (Effect.carry_ofEndpoints m.config.resources os)).2.symm⟩
  | containers o =>
    exact ⟨rfl, (moves_applyAll m (Effect.carry_ofContainers m.config.resources o)).2.symm⟩
  | noRuntime => exact ⟨rfl, rfl⟩
  | dispatch now replies => exact absurd rfl hk
  | broken d => exact ⟨rfl, rfl⟩

/-- **A cycle of another domain** changes nothing that a domain sees of the monitor. -/
theorem alikeFor_act_other (m : Monitor) {k : Cycle} (hk : k.domain ≠ .dispatch)
    (hne : k.domain ≠ d) : (m.act (.cycle k)).1.AlikeFor d m where
  config_eq := (moves_act m (.cycle k)).config_eq
  watched_same hd := by
    rw [(act_eq_applyAll m hk).1]
    exact m.sameFor_applyAll_other [] (fun _ => Effect.of_ofCycle) hne hd
  dispatcher_eq _ := by
    rw [(act_eq_applyAll m hk).1]
    exact dispatcher_applyAll m [] _

/-- **A cycle of a watched domain** does the same to monitors that look the same to it, and
pushes the same events. -/
theorem AlikeFor.act {k : Cycle} (h : m.AlikeFor k.domain m') (hk : k.domain ≠ .dispatch) :
    (m.act (.cycle k)).1.AlikeFor k.domain (m'.act (.cycle k)).1 ∧
      (m.act (.cycle k)).2.pushed = (m'.act (.cycle k)).2.pushed := by
  obtain ⟨hact, hpushed⟩ := act_eq_applyAll m hk
  obtain ⟨hact', hpushed'⟩ := act_eq_applyAll m' hk
  rw [← h.config_eq] at hact' hpushed'
  have heffects : ∀ effect ∈ Effect.ofCycle m.config.resources k,
      (Stage.effect effect).Of k.domain := fun _ => Effect.of_ofCycle
  obtain ⟨hsame, hcaused⟩ := (h.watched_same hk).applyAll hk [] heffects
  refine ⟨⟨?_, fun _ => ?_, fun hd => absurd hd hk⟩, ?_⟩
  · exact ((moves_act m (.cycle k)).config_eq.trans h.config_eq).trans
      (moves_act m' (.cycle k)).config_eq.symm
  · rw [hact, hact']
    exact hsame
  · rw [hpushed, hpushed']
    exact hcaused

theorem ofDomain_pushed_other (m : Monitor) {k : Cycle} (hne : k.domain ≠ d) :
    AlertEvent.ofDomain d (m.act (.cycle k)).2.pushed = [] := by
  rw [AlertEvent.ofDomain, List.filter_eq_nil_iff]
  intro event hevent
  rw [pushed_act_cycle] at hevent
  obtain ⟨f, hf, hkey⟩ := List.mem_map.1
    ((m.book.map_kind_observeAll_sublist _).subset (List.mem_map_of_mem hevent))
  rw [← hkey, Cycle.ofKey?_of_mem_findings hf]
  simpa using hne

end Monitor

/-! ## The journal -/

namespace Entry

/-- The entry is about a cycle of the domain. -/
def isStepOf (d : Domain) : Entry → Bool
  | began e _ | called e _ _ | finished e _ _ | broke e => e = d
  | handled _ | logged _ => false

/-- What a journal says about the cycles of a domain. -/
def courseOf (d : Domain) (journal : List Entry) : List Entry := journal.filter (isStepOf d)

theorem courseOf_append (d : Domain) (earlier later : List Entry) :
    courseOf d (earlier ++ later) = courseOf d earlier ++ courseOf d later :=
  List.filter_append earlier later

theorem courseOf_eq_nil {d : Domain} {journal : List Entry}
    (h : ∀ entry ∈ journal, entry.isStepOf d = false) : courseOf d journal = [] := by
  rw [courseOf, List.filter_eq_nil_iff]
  intro entry hentry
  rw [h entry hentry]
  exact Bool.false_ne_true

@[simp] theorem courseOf_logged (d : Domain) (lines : List LogLine) :
    courseOf d (lines.map .logged) = [] := by
  apply courseOf_eq_nil
  intro entry hentry
  obtain ⟨line, _, rfl⟩ := List.mem_map.1 hentry
  rfl

end Entry

/-! ## The world -/

/-- The cycle that the answers to a run make. -/
def Run.cycle (run : Run) : Cycle :=
  match run.domain with
  | .resources =>
    match run.sampled? with
    | some o => .resources o
    | none => .broken .resources
  | .endpoints => .endpoints run.probed
  | .containers =>
    match run.listed? with
    | some o => .containers o
    | none => .noRuntime
  | .dispatch => .broken .dispatch

/-- How many events a run reports that ends now: those that it took, or those that it pushes. -/
def Run.count (m : Monitor) (run : Run) : Nat :=
  if run.domain = .dispatch then run.taken else (m.act (.cycle run.cycle)).2.pushed.length

theorem Run.domain_cycle (run : Run) : run.cycle.domain = run.domain := by
  unfold cycle
  cases run.domain with
  | resources => cases run.sampled? <;> rfl
  | endpoints => rfl
  | containers => cases run.listed? <;> rfl
  | dispatch => rfl

theorem Run.cycle_of_dispatch {run : Run} (h : run.domain = .dispatch) :
    run.cycle = .broken .dispatch := by
  unfold cycle
  rw [h]

theorem Run.alikeFor_act {d : Domain} {run : Run} (hne : run.domain ≠ d) (m : Monitor) :
    (m.act (.cycle run.cycle)).1.AlikeFor d m := by
  by_cases hrun : run.domain = .dispatch
  · rw [Run.cycle_of_dispatch hrun]
    exact m.alikeFor_refl d
  · exact m.alikeFor_act_other (run.domain_cycle ▸ hrun) (run.domain_cycle ▸ hne)

theorem Run.alikeFor_act_own {run : Run} {m m' : Monitor} (h : m.AlikeFor run.domain m') :
    (m.act (.cycle run.cycle)).1.AlikeFor run.domain (m'.act (.cycle run.cycle)).1 ∧
      (m.act (.cycle run.cycle)).2.pushed = (m'.act (.cycle run.cycle)).2.pushed := by
  by_cases hrun : run.domain = .dispatch
  · rw [Run.cycle_of_dispatch hrun]
    exact ⟨h, rfl⟩
  · rw [← run.domain_cycle] at h hrun ⊢
    exact h.act hrun

/-- The domain cannot tell the worlds apart: its part of the monitor, the collaborator that
answers its calls, and what the journal says about its cycles. -/
structure World.AlikeFor {σ τ : Type} (d : Domain) (part : σ → τ) (w w' : World σ) : Prop where
  monitor_alike : w.monitor.AlikeFor d w'.monitor
  outside_eq : part w.outside = part w'.outside
  course_eq : Entry.courseOf d w.entries = Entry.courseOf d w'.entries
  handlings_eq : d = .dispatch → Entry.handlings w.entries = Entry.handlings w'.entries

namespace World

variable {σ τ : Type} {d : Domain} {part : σ → τ} {w w' w'' : World σ}

theorem alikeFor_refl (d : Domain) (part : σ → τ) (w : World σ) : w.AlikeFor d part w :=
  ⟨w.monitor.alikeFor_refl d, rfl, rfl, fun _ => rfl⟩

theorem AlikeFor.symm (h : w.AlikeFor d part w') : w'.AlikeFor d part w :=
  ⟨h.monitor_alike.symm, h.outside_eq.symm, h.course_eq.symm, fun hd => (h.handlings_eq hd).symm⟩

theorem AlikeFor.trans (h : w.AlikeFor d part w') (h' : w'.AlikeFor d part w'') :
    w.AlikeFor d part w'' :=
  ⟨h.monitor_alike.trans h'.monitor_alike, h.outside_eq.trans h'.outside_eq,
    h.course_eq.trans h'.course_eq,
    fun hd => (h.handlings_eq hd).trans (h'.handlings_eq hd)⟩

theorem AlikeFor.note (h : w.AlikeFor d part w') (entries : List Entry) :
    (w.note entries).AlikeFor d part (w'.note entries) where
  monitor_alike := h.monitor_alike
  outside_eq := h.outside_eq
  course_eq := by
    rw [entries_note, entries_note, Entry.courseOf_append, h.course_eq, Entry.courseOf_append]
  handlings_eq hd := by
    rw [entries_note, entries_note, Entry.handlings_append, h.handlings_eq hd,
      Entry.handlings_append]

theorem alikeFor_note {entries : List Entry} (hcourse : Entry.courseOf d entries = [])
    (hhandlings : d = .dispatch → Entry.handlings entries = []) (w : World σ) :
    (w.note entries).AlikeFor d part w where
  monitor_alike := w.monitor.alikeFor_refl d
  outside_eq := rfl
  course_eq := by
    rw [entries_note, Entry.courseOf_append, hcourse, List.append_nil]
  handlings_eq hd := by
    rw [entries_note, Entry.handlings_append, hhandlings hd, List.append_nil]

theorem alikeFor_log (lines : List LogLine) (w : World σ) : (w.log lines).AlikeFor d part w :=
  w.alikeFor_note (Entry.courseOf_logged d lines) fun _ => Entry.handlings_logged lines

/-- **The end of a run** does what the cycle of its answers does, and says so in the journal. -/
theorem finish_spec (w : World σ) (run : Run) (now : Nat) :
    (w.finish run now).monitor = (w.monitor.act (.cycle run.cycle)).1 ∧
      (w.finish run now).outside = w.outside ∧
      ∃ lines : List LogLine, (w.finish run now).entries =
        w.entries ++ (lines.map .logged ++ [.finished run.domain (run.count w.monitor) now]) := by
  have hlogged : ∀ (w : World σ) (lines : List LogLine) (entry : Entry),
      ((w.log lines).note [entry]).entries = w.entries ++ (lines.map .logged ++ [entry]) := by
    intro w lines entry
    rw [log, entries_note, entries_note, List.append_assoc]
  unfold finish Run.count
  cases hdomain : run.domain with
  | resources =>
    cases ho : run.sampled? with
    | none =>
      have hcycle : run.cycle = .broken .resources := by
        simp only [Run.cycle, hdomain, ho]
      rw [hcycle]
      exact ⟨rfl, rfl, [], w.entries_note _⟩
    | some o =>
      have hcycle : run.cycle = .resources o := by
        simp only [Run.cycle, hdomain, ho]
      have hpushed := (w.monitor.act_eq_applyAll (k := .resources o) nofun).2
      rw [hcycle, hpushed]
      exact ⟨rfl, rfl, _, hlogged _ _ _⟩
  | endpoints =>
    have hcycle : run.cycle = .endpoints run.probed := by
      simp only [Run.cycle, hdomain]
    have hpushed := (w.monitor.act_eq_applyAll (k := .endpoints run.probed) nofun).2
    rw [hcycle, hpushed]
    exact ⟨rfl, rfl, _, hlogged _ _ _⟩
  | containers =>
    cases ho : run.listed? with
    | none =>
      have hcycle : run.cycle = .noRuntime := by
        simp only [Run.cycle, hdomain, ho]
      rw [hcycle]
      exact ⟨rfl, rfl, [], w.entries_note _⟩
    | some o =>
      have hcycle : run.cycle = .containers o := by
        simp only [Run.cycle, hdomain, ho]
      have hpushed := (w.monitor.act_eq_applyAll (k := .containers o) nofun).2
      rw [hcycle, hpushed]
      exact ⟨rfl, rfl, _, hlogged _ _ _⟩
  | dispatch =>
    have hcycle : run.cycle = .broken .dispatch := by
      simp only [Run.cycle, hdomain]
    rw [hcycle]
    exact ⟨rfl, rfl, _, hlogged _ _ _⟩

theorem alikeFor_finish (w : World σ) {run : Run} (hne : run.domain ≠ d) (now : Nat) :
    (w.finish run now).AlikeFor d part w := by
  obtain ⟨hmonitor, houtside, lines, hentries⟩ := w.finish_spec run now
  refine ⟨?_, ?_, ?_, ?_⟩
  · rw [hmonitor]
    exact Run.alikeFor_act hne w.monitor
  · rw [houtside]
  · rw [hentries, Entry.courseOf_append, Entry.courseOf_append, Entry.courseOf_logged,
      Entry.courseOf, Entry.courseOf, List.filter_cons_of_neg (by simpa [Entry.isStepOf])]
    exact List.append_nil _
  · intro _
    rw [hentries, Entry.handlings_append, Entry.handlings_append, Entry.handlings_logged]
    exact List.append_nil _

theorem AlikeFor.finish {run : Run} (h : w.AlikeFor run.domain part w') (now : Nat) :
    (w.finish run now).AlikeFor run.domain part (w'.finish run now) := by
  obtain ⟨hmonitor, houtside, lines, hentries⟩ := w.finish_spec run now
  obtain ⟨hmonitor', houtside', lines', hentries'⟩ := w'.finish_spec run now
  obtain ⟨hact, hpushed⟩ := Run.alikeFor_act_own h.monitor_alike
  refine ⟨?_, ?_, ?_, ?_⟩
  · rw [hmonitor, hmonitor']
    exact hact
  · rw [houtside, houtside']
    exact h.outside_eq
  · rw [hentries, hentries', Run.count, Run.count, hpushed]
    simp only [Entry.courseOf_append, Entry.courseOf_logged, h.course_eq]
  · intro hd
    rw [hentries, hentries', Entry.handlings_append, Entry.handlings_append, h.handlings_eq hd,
      Entry.handlings_append, Entry.handlings_append, Entry.handlings_logged,
      Entry.handlings_logged]
    rfl

/-- The end of a run pushes what the cycle of its answers pushes. -/
theorem pending_finish (w : World σ) (run : Run) (now : Nat) :
    (w.finish run now).monitor.pending.toList =
      w.monitor.pending.toList ++ (w.monitor.act (.cycle run.cycle)).2.pushed := by
  rw [(w.finish_spec run now).1]
  by_cases hrun : run.domain = .dispatch
  · rw [Run.cycle_of_dispatch hrun]
    exact (List.append_nil _).symm
  · exact w.monitor.pending_act (run.domain_cycle ▸ hrun)

/-! ## One call -/

variable {c : Collaborators σ} {run : Run} {call : Call}

/-- The dispatcher has come this far, and the channels were asked. -/
def withDispatcher (w : World σ) (outside : σ) (dispatcher : Dispatcher) : World σ :=
  { w with monitor := { w.monitor with dispatcher }, outside }

/-- The dispatcher has handled an event. -/
def handling (w : World σ) (outside : σ) (r : Dispatcher × Handling) : World σ :=
  ((w.withDispatcher outside r.1).note [.handled r.2]).log r.2.logs

theorem perform_question (w : World σ) (hcall : call.domain ≠ .dispatch) :
    let r := c.answerTo w.outside call
    w.perform c run call = ({ w with outside := r.1 }, r.2.takes, r.2.reply) := by
  cases call with
  | collect paths => rfl
  | probe check => rfl
  | list names => rfl
  | deliver event => exact absurd rfl hcall

/-- An event that goes out is put to the channels. -/
theorem perform_passed (w : World σ) {event : AlertEvent} {reply : Nat → Option String}
    (h : w.monitor.dispatcher.decideEvent event run.time = .passed)
    (hreply : Receipt.outcome (c.answerTo w.outside (.deliver event)).2.acknowledged
      w.monitor.dispatcher.channels.length = some reply) :
    let r := c.answerTo w.outside (.deliver event)
    let handled := w.monitor.dispatcher.handle event run.time reply
    w.perform c run (.deliver event) =
      (w.handling r.1 handled, r.2.takes, some (.handled handled.2)) := by
  intro r handled
  have hreply' : Receipt.outcome (c.deliver w.outside event).2.reply
      w.monitor.dispatcher.channels.length = some reply := hreply
  unfold perform
  simp only [h, hreply']
  rfl

/-- A channel breaks down over an event that goes out. -/
theorem perform_unread (w : World σ) {event : AlertEvent}
    (h : w.monitor.dispatcher.decideEvent event run.time = .passed)
    (hreply : Receipt.outcome (c.answerTo w.outside (.deliver event)).2.acknowledged
      w.monitor.dispatcher.channels.length = none) :
    let r := c.answerTo w.outside (.deliver event)
    w.perform c run (.deliver event) =
      (w.withDispatcher r.1 (w.monitor.dispatcher.admitEvent event run.time).1, r.2.takes,
        none) := by
  intro r
  have hreply' : Receipt.outcome (c.deliver w.outside event).2.reply
      w.monitor.dispatcher.channels.length = none := hreply
  unfold perform
  simp only [h, hreply']
  rfl

/-- An event that is held back is put to nobody. -/
theorem perform_held (w : World σ) {event : AlertEvent}
    (h : w.monitor.dispatcher.decideEvent event run.time ≠ .passed) :
    let handled := w.monitor.dispatcher.handle event run.time fun _ => none
    w.perform c run (.deliver event) =
      (w.handling w.outside handled, 0, some (.handled handled.2)) := by
  unfold perform
  simp only
  rfl

theorem alikeFor_withDispatcher (w : World σ) (hd : d ≠ .dispatch) {outside : σ}
    (houtside : part outside = part w.outside) (dispatcher : Dispatcher) :
    (w.withDispatcher outside dispatcher).AlikeFor d part w :=
  ⟨⟨rfl, fun _ => ⟨rfl, fun _ _ => rfl, w.monitor.history.sameFor_refl d⟩,
    fun h => absurd h hd⟩, houtside, rfl, fun _ => rfl⟩

theorem alikeFor_handling (w : World σ) (hd : d ≠ .dispatch) {outside : σ}
    (houtside : part outside = part w.outside) (r : Dispatcher × Handling) :
    (w.handling outside r).AlikeFor d part w :=
  (alikeFor_log _ _).trans ((alikeFor_note rfl (fun h => absurd h hd) _).trans
    (w.alikeFor_withDispatcher hd houtside r.1))

/-- Alike worlds in which the dispatcher has come equally far. -/
theorem AlikeFor.withDispatcher (h : w.AlikeFor .dispatch part w') {outside outside' : σ}
    (houtside : part outside = part outside') (dispatcher : Dispatcher) :
    (w.withDispatcher outside dispatcher).AlikeFor .dispatch part
      (w'.withDispatcher outside' dispatcher) :=
  ⟨⟨h.monitor_alike.config_eq, fun hd => absurd rfl hd, fun _ => rfl⟩, houtside, h.course_eq,
    h.handlings_eq⟩

theorem AlikeFor.handling (h : w.AlikeFor .dispatch part w') {outside outside' : σ}
    (houtside : part outside = part outside') (r : Dispatcher × Handling) :
    (w.handling outside r).AlikeFor .dispatch part (w'.handling outside' r) := by
  refine (alikeFor_log _ _).trans (AlikeFor.trans ?_ (alikeFor_log _ _).symm)
  exact (h.withDispatcher houtside r.1).note _

/-- **What comes of an event**: it is held back, or handled, or a channel breaks down over it. -/
theorem perform_deliver_cases (c : Collaborators σ) (w : World σ) (run : Run)
    (event : AlertEvent) :
    let d := w.monitor.dispatcher
    let r := c.answerTo w.outside (.deliver event)
    (∃ outside reply, (outside = w.outside ∨ outside = r.1) ∧
      (w.perform c run (.deliver event)).1 =
        w.handling outside (d.handle event run.time reply)) ∨
    (w.perform c run (.deliver event)).1 =
      w.withDispatcher r.1 (d.admitEvent event run.time).1 := by
  intro d r
  by_cases hpassed : w.monitor.dispatcher.decideEvent event run.time = .passed
  · cases hreply : Receipt.outcome r.2.acknowledged w.monitor.dispatcher.channels.length with
    | some reply => exact .inl ⟨r.1, reply, .inr rfl, by rw [w.perform_passed hpassed hreply]⟩
    | none => exact .inr (by rw [w.perform_unread hpassed hreply])
  · exact .inl ⟨w.outside, _, .inl rfl, by rw [w.perform_held hpassed]⟩

/-- **A call of another domain** is not seen. -/
theorem alikeFor_perform (hc : c.Spares d part) (hne : call.domain ≠ d) (w : World σ) :
    (w.perform c run call).1.AlikeFor d part w := by
  cases call with
  | deliver event =>
    have hspared := hc w.outside hne
    rcases w.perform_deliver_cases c run event with ⟨outside, reply, hasked, hworld⟩ | hworld
    · rw [hworld]
      refine w.alikeFor_handling (Ne.symm hne) ?_ _
      rcases hasked with rfl | rfl
      · rfl
      · exact hspared
    · rw [hworld]
      exact w.alikeFor_withDispatcher (Ne.symm hne) hspared _
  | collect paths =>
    exact ⟨w.monitor.alikeFor_refl d, hc w.outside hne, rfl, fun _ => rfl⟩
  | probe check =>
    exact ⟨w.monitor.alikeFor_refl d, hc w.outside hne, rfl, fun _ => rfl⟩
  | list names =>
    exact ⟨w.monitor.alikeFor_refl d, hc w.outside hne, rfl, fun _ => rfl⟩

/-- **A call** is the same in worlds that look the same to its domain, and so is what comes
back. -/
theorem AlikeFor.perform (hc : c.Separates d part) (hcall : call.domain = d)
    (h : w.AlikeFor d part w') :
    (w.perform c run call).1.AlikeFor d part (w'.perform c run call).1 ∧
      (w.perform c run call).2 = (w'.perform c run call).2 := by
  obtain ⟨hpart, hanswer⟩ := hc.own hcall h.outside_eq
  by_cases hd : call.domain = .dispatch
  · cases call with
    | deliver event =>
      subst hcall
      have hsame := h.monitor_alike.dispatcher_eq rfl
      have hdecision : w'.monitor.dispatcher.decideEvent event run.time =
          w.monitor.dispatcher.decideEvent event run.time := by rw [hsame]
      have houtcome : Receipt.outcome (c.answerTo w'.outside (.deliver event)).2.acknowledged
            w'.monitor.dispatcher.channels.length =
          Receipt.outcome (c.answerTo w.outside (.deliver event)).2.acknowledged
            w.monitor.dispatcher.channels.length := by rw [hanswer, hsame]
      by_cases hpassed : w.monitor.dispatcher.decideEvent event run.time = .passed
      · cases hreply : Receipt.outcome (c.answerTo w.outside (.deliver event)).2.acknowledged
            w.monitor.dispatcher.channels.length with
        | some reply =>
          rw [w.perform_passed hpassed hreply,
            w'.perform_passed (hdecision.trans hpassed) (houtcome.trans hreply), hanswer, hsame]
          exact ⟨h.handling hpart _, rfl⟩
        | none =>
          rw [w.perform_unread hpassed hreply,
            w'.perform_unread (hdecision.trans hpassed) (houtcome.trans hreply), hanswer, hsame]
          exact ⟨h.withDispatcher hpart _, rfl⟩
      · rw [w.perform_held hpassed, w'.perform_held (by rwa [hdecision]), hsame]
        exact ⟨h.handling h.outside_eq _, rfl⟩
    | collect paths => cases hd
    | probe check => cases hd
    | list names => cases hd
  · rw [w.perform_question hd, w'.perform_question hd, hanswer]
    exact ⟨⟨h.monitor_alike, hpart, h.course_eq, h.handlings_eq⟩, rfl⟩

theorem pending_perform (w : World σ) :
    (w.perform c run call).1.monitor.pending = w.monitor.pending := by
  cases call with
  | deliver event =>
    rcases w.perform_deliver_cases c run event with ⟨_, _, _, hworld⟩ | hworld
    · rw [hworld]
      rfl
    · rw [hworld]
      rfl
  | collect paths => rfl
  | probe check => rfl
  | list names => rfl

end World

/-! ## A cycle under way -/

/-- A cycle under way is one of the domain, and so are its calls. -/
def Phase.Of (d : Domain) : Phase → Prop
  | busy run todo => run.domain = d ∧ ∀ call ∈ todo, call.domain = d
  | _ => True

namespace World

variable {σ τ : Type} {d e : Domain} {part : σ → τ} {w w' : World σ} {c : Collaborators σ}
  {run : Run} {todo : List Call}

theorem pursue_answered {now takes : Nat} {call : Call} {reply : Reply}
    (hslot : run.slot ≤ now) (h : w.perform c run call = (w', takes, some reply)) :
    w.pursue c now run (call :: todo) =
      (w'.note [.called run.domain call ⟨now, now + takes⟩]).pursue c now
        (run.add ⟨now, now + takes⟩ reply) todo := by
  rw [pursue, if_pos hslot, h]

theorem pursue_broken {now takes : Nat} {call : Call}
    (hslot : run.slot ≤ now) (h : w.perform c run call = (w', takes, none)) :
    w.pursue c now run (call :: todo) =
      (w'.note [.called run.domain call ⟨now, now + takes⟩, .broke run.domain], .broken) := by
  rw [pursue, if_pos hslot, h]

theorem pursue_early {now : Nat} {call : Call} (hslot : ¬ run.slot ≤ now) :
    w.pursue c now run (call :: todo) = (w, .busy run (call :: todo)) := by
  rw [pursue, if_neg hslot]

theorem of_pursue (hphase : (Phase.busy run todo).Of e) (now : Nat) (w : World σ) :
    (w.pursue c now run todo).2.Of e := by
  induction todo generalizing w run with
  | nil =>
    unfold pursue
    split
    · trivial
    · exact hphase
  | cons call todo ih =>
    obtain ⟨hrun, hcalls⟩ := hphase
    obtain ⟨_, hrest⟩ := List.forall_mem_cons.1 hcalls
    by_cases hslot : run.slot ≤ now
    · rcases hperform : w.perform c run call with ⟨w', takes, _ | reply⟩
      · rw [pursue_broken hslot hperform]
        trivial
      · have hnext : (Phase.busy (run.add ⟨now, now + takes⟩ reply) todo).Of e := ⟨hrun, hrest⟩
        rw [pursue_answered hslot hperform]
        exact ih hnext _
    · rw [pursue_early hslot]
      exact ⟨hrun, hcalls⟩

/-- **A cycle of another domain** that is carried on is not seen. -/
theorem alikeFor_pursue (hc : c.Spares d part) (hphase : (Phase.busy run todo).Of e)
    (hne : e ≠ d) (now : Nat) (w : World σ) : (w.pursue c now run todo).1.AlikeFor d part w := by
  induction todo generalizing w run with
  | nil =>
    unfold pursue
    split
    · exact w.alikeFor_finish (hphase.1 ▸ hne) now
    · exact w.alikeFor_refl d part
  | cons call todo ih =>
    obtain ⟨hrun, hcalls⟩ := hphase
    obtain ⟨hcall, hrest⟩ := List.forall_mem_cons.1 hcalls
    by_cases hslot : run.slot ≤ now
    · have hworld : (w.perform c run call).1.AlikeFor d part w :=
        w.alikeFor_perform hc (hcall ▸ hne)
      rcases hperform : w.perform c run call with ⟨w', takes, _ | reply⟩
      · rw [hperform] at hworld
        rw [pursue_broken hslot hperform]
        refine AlikeFor.trans (alikeFor_note (Entry.courseOf_eq_nil ?_) (fun _ => rfl) w') hworld
        simp [Entry.isStepOf, hrun, hne]
      · have hnext : (Phase.busy (run.add ⟨now, now + takes⟩ reply) todo).Of e := ⟨hrun, hrest⟩
        rw [hperform] at hworld
        rw [pursue_answered hslot hperform]
        refine (ih hnext _).trans (AlikeFor.trans ?_ hworld)
        refine alikeFor_note (Entry.courseOf_eq_nil ?_) (fun _ => rfl) w'
        simp [Entry.isStepOf, hrun, hne]
    · rw [pursue_early hslot]
      exact w.alikeFor_refl d part

/-- **A cycle that is carried on** does the same in worlds that look the same to its domain.  It
comes equally far, and pushes the same events; before its end it pushes none. -/
theorem AlikeFor.pursue (hc : c.Separates d part) (hphase : (Phase.busy run todo).Of d)
    (h : w.AlikeFor d part w') (now : Nat) :
    let r := w.pursue c now run todo
    let r' := w'.pursue c now run todo
    r.1.AlikeFor d part r'.1 ∧ r.2 = r'.2 ∧
      ∃ pushed, r.1.monitor.pending.toList = w.monitor.pending.toList ++ pushed ∧
        r'.1.monitor.pending.toList = w'.monitor.pending.toList ++ pushed ∧
        (r.2.remaining ≠ 0 → pushed = []) := by
  induction todo generalizing w w' run with
  | nil =>
    obtain ⟨rfl, _⟩ := hphase
    simp only [World.pursue]
    split
    · have hpushed := (Run.alikeFor_act_own h.monitor_alike).2
      refine ⟨h.finish now, rfl, _, w.pending_finish run now, ?_, fun hbusy => absurd rfl hbusy⟩
      rw [w'.pending_finish run now, hpushed]
    · exact ⟨h, rfl, [], (List.append_nil _).symm, (List.append_nil _).symm, fun _ => rfl⟩
  | cons call todo ih =>
    obtain ⟨hrun, hcalls⟩ := hphase
    obtain ⟨hcall, hrest⟩ := List.forall_mem_cons.1 hcalls
    by_cases hslot : run.slot ≤ now
    · obtain ⟨hworld, hanswer⟩ : (w.perform c run call).1.AlikeFor d part
          (w'.perform c run call).1 ∧ (w.perform c run call).2 = (w'.perform c run call).2 :=
        h.perform hc hcall
      have hpending : (w.perform c run call).1.monitor.pending = w.monitor.pending :=
        w.pending_perform
      have hpending' : (w'.perform c run call).1.monitor.pending = w'.monitor.pending :=
        w'.pending_perform
      rw [← hpending, ← hpending']
      rcases hperform : w.perform c run call with ⟨v, takes, reply⟩
      rcases hperform' : w'.perform c run call with ⟨v', answer⟩
      rw [hperform, hperform'] at hworld hanswer
      obtain rfl : (takes, reply) = answer := hanswer
      cases reply with
      | none =>
        rw [pursue_broken hslot hperform, pursue_broken hslot hperform']
        exact ⟨hworld.note _, rfl, [], (List.append_nil _).symm, (List.append_nil _).symm,
          fun _ => rfl⟩
      | some reply =>
        rw [pursue_answered hslot hperform, pursue_answered hslot hperform']
        exact ih ⟨hrun, hrest⟩ (hworld.note _)
    · rw [pursue_early hslot, pursue_early hslot]
      exact ⟨h, rfl, [], (List.append_nil _).symm, (List.append_nil _).symm, fun _ => rfl⟩

/-- What a cycle that is carried on pushes is about its domain. -/
theorem pending_pursue (c : Collaborators σ) (now : Nat) (w : World σ) (run : Run)
    (todo : List Call) :
    ∃ pushed, (w.pursue c now run todo).1.monitor.pending.toList =
        w.monitor.pending.toList ++ pushed ∧
      ∀ d, run.domain ≠ d → AlertEvent.ofDomain d pushed = [] := by
  induction todo generalizing w run with
  | nil =>
    unfold pursue
    split
    · exact ⟨_, w.pending_finish run now,
        fun d hne => w.monitor.ofDomain_pushed_other (run.domain_cycle ▸ hne)⟩
    · exact ⟨[], (List.append_nil _).symm, fun _ _ => rfl⟩
  | cons call todo ih =>
    by_cases hslot : run.slot ≤ now
    · have hpending : (w.perform c run call).1.monitor.pending = w.monitor.pending :=
        w.pending_perform
      rw [← hpending]
      rcases hperform : w.perform c run call with ⟨w', takes, _ | reply⟩
      · rw [pursue_broken hslot hperform]
        exact ⟨[], (List.append_nil _).symm, fun _ _ => rfl⟩
      · rw [pursue_answered hslot hperform]
        exact ih _ _
    · rw [pursue_early hslot]
      exact ⟨[], (List.append_nil _).symm, fun _ _ => rfl⟩

theorem of_begin (c : Collaborators σ) (w : World σ) (e : Domain) (now : Nat) :
    (Phase.busy (w.begin c e now).2.1 (w.begin c e now).2.2).Of e := by
  cases e with
  | resources =>
    refine ⟨rfl, fun call hcall => ?_⟩
    rw [List.mem_singleton.1 hcall]
    rfl
  | endpoints =>
    refine ⟨rfl, fun call hcall => ?_⟩
    obtain ⟨check, _, rfl⟩ := List.mem_map.1 hcall
    rfl
  | containers =>
    refine ⟨rfl, fun call hcall => ?_⟩
    change call ∈ (if c.hasRuntime then [_] else []) at hcall
    split at hcall
    · rw [List.mem_singleton.1 hcall]
      rfl
    · cases hcall
  | dispatch =>
    refine ⟨rfl, fun call hcall => ?_⟩
    simp only [begin] at hcall
    split at hcall
    · obtain ⟨event, _, rfl⟩ := List.mem_map.1 hcall
      rfl
    · cases hcall

theorem alikeFor_begin (c : Collaborators σ) (w : World σ) (hne : e ≠ d) (now : Nat) :
    (w.begin c e now).1.AlikeFor d part w := by
  have hbegan : (w.note [.began e now]).AlikeFor d part w :=
    alikeFor_note (Entry.courseOf_eq_nil (by simp [Entry.isStepOf, hne])) (fun _ => rfl) w
  cases e with
  | resources => exact hbegan
  | endpoints => exact hbegan
  | containers => exact hbegan
  | dispatch =>
    refine (alikeFor_log _ _).trans (AlikeFor.trans ?_ hbegan)
    refine ⟨⟨rfl, fun _ => ⟨rfl, fun _ _ => rfl, ?_⟩, fun hd => absurd hd.symm hne⟩, rfl, rfl,
      fun _ => rfl⟩
    cases d <;> trivial

end World

/-! ## Tasks -/

/-- The cycle of a task is one of its domain. -/
def Task.Sound (t : Task) : Prop := t.phase.Of t.domain

theorem Task.Sound.of_busy {t : Task} {run : Run} {todo : List Call} (h : t.Sound)
    (hphase : t.phase = .busy run todo) : (Phase.busy run todo).Of t.domain := by
  rw [← hphase]
  exact h

namespace World

variable {σ τ : Type} {d : Domain} {part : σ → τ} {c : Collaborators σ} {t : Task}

theorem wake_same (w : World σ) (now : Nat) (t : Task) :
    (w.wake c now t).2.domain = t.domain ∧ (w.wake c now t).2.standing = t.standing := by
  unfold wake
  split
  · split
    · exact ⟨rfl, rfl⟩
    · split <;> exact ⟨rfl, rfl⟩
  · exact ⟨rfl, rfl⟩

theorem settle_same (w : World σ) (now : Nat) (t : Task) :
    (w.settle c now t).2.domain = t.domain ∧ (w.settle c now t).2.standing = t.standing := by
  unfold settle
  split
  · exact wake_same _ now _
  · exact wake_same w now t

theorem sound_wake (ht : t.Sound) (now : Nat) (w : World σ) : (w.wake c now t).2.Sound := by
  unfold wake
  split
  · split
    · trivial
    · split
      · exact of_pursue (w.of_begin c t.domain now) now _
      · exact ht
  · exact ht

theorem sound_settle (ht : t.Sound) (now : Nat) (w : World σ) :
    (w.settle c now t).2.Sound := by
  unfold settle
  split
  · rename_i run todo hphase
    have hpursued : ({ t with phase := (w.pursue c now run todo).2 } : Task).Sound :=
      of_pursue (ht.of_busy hphase) now w
    exact sound_wake hpursued now _
  · exact sound_wake ht now w

theorem alikeFor_wake (hc : c.Spares d part) (hne : t.domain ≠ d) (now : Nat)
    (w : World σ) : (w.wake c now t).1.AlikeFor d part w := by
  unfold wake
  split
  · split
    · exact alikeFor_log _ w
    · split
      · exact (alikeFor_pursue hc (w.of_begin c t.domain now) hne now _).trans
          (w.alikeFor_begin c hne now)
      · exact w.alikeFor_refl d part
  · exact w.alikeFor_refl d part

/-- **A task of another domain**, whatever it has to do, is not seen. -/
theorem alikeFor_settle (hc : c.Spares d part) (ht : t.Sound) (hne : t.domain ≠ d)
    (now : Nat) (w : World σ) : (w.settle c now t).1.AlikeFor d part w := by
  unfold settle
  split
  · rename_i run todo hphase
    exact (alikeFor_wake (t := { t with phase := (w.pursue c now run todo).2 }) hc hne now _).trans
      (alikeFor_pursue hc (ht.of_busy hphase) hne now w)
  · exact alikeFor_wake hc hne now w

end World

end HostWatch
