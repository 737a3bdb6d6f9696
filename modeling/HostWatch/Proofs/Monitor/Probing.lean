import HostWatch.Proofs.Monitor.Answers
import HostWatch.Proofs.Monitor.Shutdown
import HostWatch.Proofs.Monitor.Slots
set_option autoImplicit false

/-!
# Monitor: a round of probes

An endpoint cycle probes every endpoint that is checked, in a bounded number of slots.  The probes
run on the schedule that their slots and their durations give (`Service.runCycle_probes`), and the
results go into the history and the book in the order of the checks, whichever of them were there
first (`Monitor.act_endpoints`).  So when the probes are finished shifts the end of the cycle and
nothing else (`Service.endpoint_cycle_ordered`).
-/

namespace HostWatch

/-- How long the probes of these checks take, made one after the other. -/
def Collaborators.probeDelays {σ : Type} (c : Collaborators σ) : σ → List EndpointCheck → List Nat
  | _, [] => []
  | o, check :: checks => (c.probe o check).2.takes :: c.probeDelays (c.probe o check).1 checks

theorem Collaborators.length_probeDelays {σ : Type} (c : Collaborators σ) (o : σ)
    (checks : List EndpointCheck) : (c.probeDelays o checks).length = checks.length := by
  induction checks generalizing o with
  | nil => rfl
  | cons check checks ih => rw [probeDelays, List.length_cons, List.length_cons, ih]

/-- What the journal says about the probes of these checks at these times. -/
def Entry.ofProbes (checks : List EndpointCheck) (spans : List Span) : List Entry :=
  List.zipWith (fun check span => ofCall .endpoints (.probe check, span)) checks spans

/-- The times of the probes that a run has still to make. -/
def Run.probesLeft {σ : Type} (c : Collaborators σ) (o : σ) (run : Run)
    (checks : List EndpointCheck) : List Span :=
  Span.scheduleFrom run.bound run.begun run.spans (c.probeDelays o checks)

theorem Run.begun_le_nextEvent {run : Run} {todo : List Call} {due : Nat}
    (hdue : (Phase.busy run todo).nextEvent? = some due) : run.begun ≤ due := by
  cases todo with
  | nil => exact Option.some.inj hdue ▸ Span.le_latest _ _
  | cons call todo => exact Option.some.inj hdue ▸ Span.le_latest _ _

/-- A round of probes is under way: with the probes that are left, the course of the domain comes
to `course`, and the last of them ends at `fin`. -/
structure Run.Probing {σ : Type} (c : Collaborators σ) (course : List Entry) (fin now : Nat)
    (w : World σ) (run : Run) (todo : List Call)
    (later : List (EndpointCheck × Except Fault EndpointResult)) : Prop where
  domain_eq : run.domain = .endpoints
  todo_eq : todo = later.map fun p => .probe p.1
  gives : c.ProbesGive w.outside later
  course_eq : Entry.courseOf .endpoints w.entries ++
    Entry.ofProbes (later.map Prod.fst) (run.probesLeft c w.outside (later.map Prod.fst)) = course
  fin_eq : Span.latest run.begun
    (run.spans ++ run.probesLeft c w.outside (later.map Prod.fst)) = fin
  ahead : ∀ due, (Phase.busy run todo).nextEvent? = some due → now ≤ due

/-- How a round of probes stands in a phase of the cycle. -/
def Phase.Probing {σ : Type} (c : Collaborators σ) (course : List Entry) (fin now : Nat)
    (w : World σ) : Phase → Prop
  | .busy run todo => ∃ later, run.Probing c course fin now w todo later
  | .waiting => now = fin ∧
      ∃ count, Entry.courseOf .endpoints w.entries = course ++ [.finished .endpoints count fin]
  | .broken | .ended => False

namespace World

variable {σ : Type} {c : Collaborators σ} {course : List Entry} {fin now : Nat} {run : Run}
  {todo : List Call}

theorem perform_probe (w : World σ) (run : Run) {check : EndpointCheck}
    {outcome : Except Fault EndpointResult}
    (h : (c.probe w.outside check).2.outcome = some outcome) :
    w.perform c run (.probe check) =
      ({ w with outside := (c.probe w.outside check).1 }, (c.probe w.outside check).2.takes,
        some (.probed check outcome)) := by
  show (_, _, (c.probe w.outside check).2.outcome.map (Reply.probed check)) = _
  rw [h]
  rfl

theorem course_finish (w : World σ) (hrun : run.domain = .endpoints) (now : Nat) :
    ∃ count, Entry.courseOf .endpoints (w.finish run now).entries =
      Entry.courseOf .endpoints w.entries ++ [.finished .endpoints count now] := by
  obtain ⟨_, _, lines, hentries⟩ := w.finish_spec run now
  refine ⟨run.count w.monitor, ?_⟩
  rw [hentries, Entry.courseOf_append, Entry.courseOf_append, Entry.courseOf_logged, hrun]
  rfl

/-- **A round of probes goes on** as its schedule says. -/
theorem probing_pursue {later : List (EndpointCheck × Except Fault EndpointResult)} {w : World σ}
    (h : run.Probing c course fin now w todo later) :
    let r := w.pursue c now run todo
    r.2.Probing c course fin now r.1 := by
  induction later generalizing w run todo with
  | nil =>
    obtain rfl : todo = [] := h.todo_eq
    have hcourse : Entry.courseOf .endpoints w.entries = course :=
      (List.append_nil _).symm.trans h.course_eq
    have hfin : run.lastEnd = fin := by
      rw [← h.fin_eq, Run.probesLeft]
      exact congrArg _ (List.append_nil _).symm
    simp only [pursue]
    split
    · rename_i hover
      have hnow : now = fin :=
        (Nat.le_antisymm (h.ahead _ rfl) hover).trans hfin
      obtain ⟨count, hfinished⟩ := w.course_finish h.domain_eq now
      refine ⟨hnow, count, ?_⟩
      rw [hfinished, hcourse, hnow]
    · exact ⟨[], h⟩
  | cons p later ih =>
    obtain ⟨check, outcome⟩ := p
    obtain rfl : todo = _ := h.todo_eq
    by_cases hslot : run.slot ≤ now
    · obtain ⟨hfirst, hrest⟩ := h.gives
      have hnow : now = run.slot := Nat.le_antisymm (h.ahead _ rfl) hslot
      let takes := (c.probe w.outside check).2.takes
      let span : Span := ⟨now, now + takes⟩
      have hleft : run.probesLeft c w.outside (check :: later.map Prod.fst) =
          span :: (run.add span (.probed check outcome)).probesLeft c
            (c.probe w.outside check).1 (later.map Prod.fst) := by
        show Span.scheduleFrom _ _ _ (takes :: _) = _
        rw [Span.scheduleFrom, show Span.slot run.bound run.begun run.spans = now from hnow.symm]
        rfl
      rw [List.map_cons, pursue_answered hslot (w.perform_probe run hfirst)]
      refine ih ⟨h.domain_eq, rfl, hrest, ?_, ?_, ?_⟩
      · rw [← h.course_eq, entries_note, Entry.courseOf_append, List.map_cons, hleft, h.domain_eq,
          List.append_assoc]
        rfl
      · rw [← h.fin_eq, List.map_cons, hleft]
        exact congrArg (Span.latest run.begun) (List.append_assoc run.spans [span] _)
      · -- The next probe does not start before this one, and the round does not end before it.
        intro due hdue
        cases later with
        | nil =>
          rw [← Option.some.inj hdue]
          have hend : span.finish ≤ (run.add span (.probed check outcome)).lastEnd :=
            Span.finish_le_latest (List.mem_append_right _ List.mem_cons_self)
          exact Nat.le_trans (Nat.le_add_right _ _) hend
        | cons p later =>
          rw [← Option.some.inj hdue, hnow]
          exact Span.slot_le_slot_append _ _ _ _
    · rw [List.map_cons, pursue_early hslot]
      exact ⟨(check, outcome) :: later, h⟩

end World

/-- **The results of a round** go into the history and, one after the other, into the book, in the
order of the checks; what the book makes of them is queued and counted. -/
theorem Monitor.act_endpoints (m : Monitor)
    (outcomes : List (EndpointCheck × Except Fault EndpointResult)) :
    let results := Effect.results outcomes
    let found := m.book.observeAll (results.map EndpointResult.finding)
    (m.act (.cycle (.endpoints outcomes))).1 =
        { m with
          history := { m.history with endpoints := m.history.endpoints.extend results }
          book := found.1
          pending := m.pending.pushAll found.2 } ∧
      (m.act (.cycle (.endpoints outcomes))).2.returned = some found.2.length := by
  have hact : (m.act (.cycle (.endpoints outcomes))).1 =
        (m.applyAll [] (Effect.ofEndpoints outcomes)).1 ∧
      (m.act (.cycle (.endpoints outcomes))).2.returned =
        some (m.applyAll [] (Effect.ofEndpoints outcomes)).2.length := ⟨rfl, rfl⟩
  rw [hact.1, hact.2, Effect.ofEndpoints]
  cases Effect.results outcomes with
  | nil =>
    refine ⟨?_, rfl⟩
    rw [Window.extend_nil]
    show m = { m with pending := ⟨m.pending.toList ++ []⟩ }
    rw [List.append_nil]
  | cons r rs =>
    show (m.applyAll [] (Effect.ofBatch (.endpoints (r :: rs)) _)).1 = _ ∧
      some (m.applyAll [] (Effect.ofBatch (.endpoints (r :: rs)) _)).2.length = _
    rw [applyAll_ofBatch]
    exact ⟨rfl, rfl⟩

namespace Service

variable {σ : Type} {c : Collaborators σ} {s : Service σ}

/-- A round of probes is waited for in a service without tasks. -/
theorem awaitCycle_probing {course : List Entry} {fin : Nat} (fuel : Nat) :
    ∀ {a : Service σ} {phase : Phase}, a.tasks = [] → phase.Probing c course fin a.clock a.world →
      phase.remaining ≤ fuel →
      let last := (awaitCycle c fuel a phase).1
      last.clock = fin ∧ ∃ count, Entry.courseOf .endpoints last.world.entries =
        course ++ [.finished .endpoints count fin] := by
  induction fuel with
  | zero =>
    intro a phase _ h hfuel
    rw [awaitCycle_over (Nat.le_zero.1 hfuel)]
    cases phase with
    | busy run todo => exact absurd hfuel (Nat.not_succ_le_zero _)
    | waiting => exact h
    | ended => exact h.elim
    | broken => exact h.elim
  | succ fuel ih =>
    intro a phase hidle h hfuel
    cases phase with
    | waiting => exact h
    | ended => exact h.elim
    | broken => exact h.elim
    | busy run todo =>
      obtain ⟨later, hprobing⟩ := h
      obtain ⟨due, hdue⟩ := Phase.exists_nextEvent run todo
      have hclock : max a.clock due = due := Nat.max_eq_right (hprobing.ahead due hdue)
      have hnow : run.Probing c course fin due a.world todo later :=
        { hprobing with
          ahead := fun due' hdue' =>
            Nat.le_of_eq (Option.some.inj (hdue.symm.trans hdue')) }
      have hless := a.world.remaining_pursue_lt c due hdue (Nat.le_refl _)
      rw [awaitCycle_busy hidle hdue, hclock]
      exact ih (a := ⟨_, a.tasks, due⟩) hidle (World.probing_pursue hnow)
        (Nat.le_of_lt_succ (Nat.lt_of_lt_of_le hless hfuel))

/-- **A round of probes** makes every probe once, in the order of the checks and at the times that
the slots and the durations give. -/
theorem runCycle_probes (hidle : s.tasks = [])
    {outcomes : List (EndpointCheck × Except Fault EndpointResult)}
    (hchecks : s.world.monitor.config.endpoints.checks = outcomes.map Prod.fst)
    (hprobes : c.ProbesGive s.world.outside outcomes) :
    let endpoints := s.world.monitor.config.endpoints
    let spans := Span.schedule endpoints.probeBound s.clock
      (c.probeDelays s.world.outside endpoints.checks)
    let last := (s.runCycle c .endpoints).1
    last.clock = Span.latest s.clock spans ∧
      ∃ count, Entry.courseOf .endpoints last.world.entries =
        Entry.courseOf .endpoints s.world.entries ++ .began .endpoints s.clock ::
          Entry.ofProbes endpoints.checks spans ++ [.finished .endpoints count last.clock] := by
  intro endpoints spans last
  let b := s.world.begin c .endpoints s.clock
  let r := b.1.pursue c s.clock b.2.1 b.2.2
  let before := Entry.courseOf .endpoints s.world.entries
  have hbegan : Entry.courseOf .endpoints b.1.entries = before ++ [.began .endpoints s.clock] := by
    show Entry.courseOf .endpoints (s.world.note _).entries = _
    rw [World.entries_note, Entry.courseOf_append]
    rfl
  have hbegin : b.2.1.Probing c
      (before ++ .began .endpoints s.clock :: Entry.ofProbes endpoints.checks spans)
      (Span.latest s.clock spans) s.clock b.1 b.2.2 outcomes := by
    refine ⟨rfl, ?_, hprobes, ?_, ?_, ?_⟩
    · show List.map Call.probe endpoints.checks = _
      rw [hchecks, List.map_map]
      rfl
    · rw [hbegan, ← hchecks, List.append_assoc]
      rfl
    · rw [← hchecks]
      rfl
    · exact fun due hdue => Run.begun_le_nextEvent hdue
  obtain ⟨hclock, count, hcourse⟩ := awaitCycle_probing r.2.remaining
    (a := { s with world := r.1 }) hidle (World.probing_pursue hbegin) (Nat.le_refl _)
  refine ⟨hclock, count, ?_⟩
  rw [show last.clock = Span.latest s.clock spans from hclock]
  exact hcourse

/-- What an endpoint cycle comes to whose probes come out like this, in the order of the checks. -/
structure ProbesInOrder (c : Collaborators σ) (s : Service σ)
    (outcomes : List (EndpointCheck × Except Fault EndpointResult)) (bound : Nat)
    (checks : List EndpointCheck) (spans : List Span) (last : Service σ) (answer : Option Nat) :
    Prop where
  /-- Every check is probed exactly once, in the order of the checks, and then the cycle ends. -/
  course : ∃ count, Entry.courseOf .endpoints last.world.entries =
    Entry.courseOf .endpoints s.world.entries ++ .began .endpoints s.clock ::
      Entry.ofProbes checks spans ++ [.finished .endpoints count last.clock]
  length_eq : spans.length = checks.length
  ordered : ∀ (i j : Nat) (earlier later : Span), spans[i]? = some earlier →
    spans[j]? = some later → i ≤ j → earlier.start ≤ later.start
  /-- Never are more probes under way than may be. -/
  bounded : ∀ time, spans.countP (·.Underway time) ≤ bound
  /-- A probe does not start before those that many places before it are over. -/
  waits : ∀ (i j : Nat) (earlier later : Span), spans[i]? = some earlier →
    spans[j]? = some later → i + bound ≤ j → earlier.finish ≤ later.start
  /-- The results go into the history and the book in the order of the checks. -/
  monitor_eq :
    let m := s.world.monitor
    let results := outcomes.filterMap fun p => p.2.toOption
    let found := m.book.observeAll (results.map EndpointResult.finding)
    last.world.monitor =
        { m with
          history := { m.history with endpoints := m.history.endpoints.extend results }
          book := found.1
          pending := m.pending.pushAll found.2 } ∧
      answer = some found.2.length
  /-- With any other prober that gives these outcomes, however long that takes, the monitor and the
  answer are the same. -/
  alike : ∀ {τ : Type} (c' : Collaborators τ) (s' : Service τ), s'.tasks = [] →
    s'.world.monitor = s.world.monitor → c'.ProbesGive s'.world.outside outcomes →
      (s'.runCycle c' .endpoints).1.world.monitor = last.world.monitor ∧
        (s'.runCycle c' .endpoints).2 = answer
  /-- Probes that all take the same time take as many rounds of it as there are. -/
  rounds : ∀ time, (∀ delay ∈ c.probeDelays s.world.outside checks, delay = time) →
    last.clock = s.clock + (checks.length + bound - 1) / bound * time

/-- **An endpoint cycle** probes every check once, in the order of the checks and in a bounded
number of slots, and takes the results in this order, whichever probe is finished first. -/
theorem endpoint_cycle_ordered (c : Collaborators σ) (s : Service σ) (hidle : s.tasks = [])
    {outcomes : List (EndpointCheck × Except Fault EndpointResult)}
    (hchecks : s.world.monitor.config.endpoints.checks = outcomes.map Prod.fst)
    (hprobes : c.ProbesGive s.world.outside outcomes) :
    let endpoints := s.world.monitor.config.endpoints
    let bound := max endpoints.maxConcurrentProbes.toNat 1
    let spans := Span.schedule bound s.clock (c.probeDelays s.world.outside endpoints.checks)
    let r := s.runCycle c .endpoints
    ProbesInOrder c s outcomes bound endpoints.checks spans r.1 r.2 := by
  intro endpoints bound spans r
  have hbound : 0 < bound := Nat.le_max_right _ _
  have hgives : ∀ {τ : Type} (c' : Collaborators τ) (s' : Service τ),
      s'.world.monitor = s.world.monitor → c'.ProbesGive s'.world.outside outcomes →
        c'.Gives s'.world.outside s'.world.monitor.config (.endpoints outcomes) :=
    fun c' s' hmonitor hprobes' => ⟨hmonitor ▸ hchecks, hprobes'⟩
  obtain ⟨hclock, hcourse⟩ := runCycle_probes hidle hchecks hprobes
  obtain ⟨_, hmonitor, hanswer⟩ := runCycle_of_gives hidle (hgives c s rfl hprobes)
  obtain ⟨hact, hreturned⟩ := s.world.monitor.act_endpoints outcomes
  refine ⟨hcourse, ?_, ?_, Span.countP_underway_le hbound, ?_,
    ⟨hmonitor.trans hact, hanswer.trans hreturned⟩, ?_, ?_⟩
  · rw [Span.length_schedule, c.length_probeDelays]
  · exact fun i j _ _ hearlier hlater hij => Span.start_le_start hbound hij hearlier hlater
  · exact fun i j _ _ hearlier hlater hij => Span.finish_le_start hbound hij hearlier hlater
  · intro τ c' s' hidle' hsame hprobes'
    obtain ⟨_, hmonitor', hanswer'⟩ := runCycle_of_gives hidle' (hgives c' s' hsame hprobes')
    rw [hsame] at hmonitor' hanswer'
    exact ⟨hmonitor'.trans hmonitor.symm, hanswer'.trans hanswer.symm⟩
  · intro time hequal
    have hlast : r.1.clock = Span.latest s.clock spans := hclock
    rw [hlast, Span.latest_of_equal hbound hequal, c.length_probeDelays]

/-- Of three probes in two slots the second is finished first; the third still waits for the first
one, whose result has to be handed on before its own. -/
theorem endpoint_cycle_ordered_overtaking :
    let up : String → EndpointResult := fun name =>
      ⟨name, "http://x", some 200, 5, true, none, ⟨0, 0⟩⟩
    let c : Collaborators Unit :=
      { collect := fun o _ => (o, ⟨0, some (.error (.collection "no /proc"))⟩)
        probe := fun o check =>
          (o, ⟨if check.name = "a" then 30 else if check.name = "b" then 10 else 20,
            some (.ok (up check.name))⟩)
        hasRuntime := false
        ready := fun _ => .ok ()
        list := fun o _ => (o, ⟨0, some (.error (.containers "no runtime"))⟩)
        deliver := fun o _ => (o, ⟨0, fun _ => .given none⟩)
        wallClock := fun _ => ⟨0, 0⟩ }
    let checks : List EndpointCheck :=
      [.initial "a" "http://x", .initial "b" "http://x", .initial "c" "http://x"]
    let config : MonitorConfig := { MonitorConfig.initial with endpoints := ⟨30, 2, checks⟩ }
    let s : Service Unit := .new (.new config [] ⟨0, 0⟩) () 0
    let r := s.runCycle c .endpoints
    let outcomes := checks.map fun check => (check, .ok (up check.name))
    s.tasks = [] ∧ s.world.monitor.config.endpoints.checks = outcomes.map Prod.fst ∧
      c.ProbesGive s.world.outside outcomes ∧
        ProbesInOrder c s outcomes 2 checks [⟨0, 30⟩, ⟨0, 10⟩, ⟨30, 50⟩] r.1 r.2 := by
  intro up c checks config s r outcomes
  have hgives : c.ProbesGive s.world.outside outcomes := ⟨rfl, rfl, rfl, trivial⟩
  exact ⟨rfl, rfl, hgives, endpoint_cycle_ordered c s rfl rfl hgives⟩

end Service

end HostWatch
