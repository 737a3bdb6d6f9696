import HostWatch.Proofs.Config.Validation
import HostWatch.Proofs.Monitor.Keeping
set_option autoImplicit false

/-!
# Monitor: the first tick of a task

A task that is started is due for the first time one interval later.  An accepted configuration has
intervals that are not zero, but it may have intervals of any length, and the clock of the machine
does not show every time.  So a task ticks at its first deadline exactly when the clock can show the
deadline (`Service.started_ticks_iff`): then it waits for the deadline, and whatever happens to the
service, its first cycle begins there.  A task without a first deadline breaks at the start, and
nothing is heard of it any more.
-/

namespace HostWatch

/-- **The intervals** of an accepted configuration are positive. -/
theorem Service.pos_of_mem_timetable {config : MonitorConfig} {containers : Bool} {d : Domain}
    {secs : Nat} (haccepted : config.validate = .ok ())
    (hentry : (d, secs) ∈ timetable config containers) : 0 < secs := by
  simp only [MonitorConfig.validate, bind_eq_ok_iff, validateInterval_eq_ok_iff] at haccepted
  obtain ⟨_, _, _, hresources, hendpoints, hcontainers, hdispatch, _⟩ := haccepted
  cases containers with
  | false =>
    have hentries : ∀ entry ∈ timetable config false, 0 < entry.2 := by
      simp [timetable, hresources, hendpoints, hdispatch]
    exact hentries _ hentry
  | true =>
    have hentries : ∀ entry ∈ timetable config true, 0 < entry.2 := by
      simp [timetable, hresources, hendpoints, hcontainers, hdispatch]
    exact hentries _ hentry

namespace Task

variable {σ : Type} {first front now : Nat} {course : List Entry} {t : Task}

/-- The task waits for its first deadline, and no cycle has begun; or the first cycle began at the
deadline. -/
inductive MeetsFirst (first front : Nat) (course : List Entry) (t : Task) : Prop where
  | waits (hheld : t.standing = .held) (hphase : t.phase = .waiting)
      (hdue : t.ticker.due = first) (hsilent : Entry.starts course = []) (hahead : front ≤ first)
  | ticked (hstarts : (Entry.starts course).head? = some first) (hpast : first < front)

/-- A task that waits for its first deadline ticks at it, and what it does later adds to what was
said before. -/
theorem keeps_meetsFirst (c : Collaborators σ) (d : Domain) (first : Nat) :
    Task.Keeps c d (MeetsFirst first) where
  wait := by
    intro front front' course t hle hahead h
    cases h with
    | waits hheld hphase hdue hsilent hfront =>
      have hnext := nextEvent?_of_waiting hheld hphase
      rw [hdue] at hnext
      exact .waits hheld hphase hdue hsilent (hahead first hnext hfront)
    | ticked hstarts hpast => exact .ticked hstarts (Nat.lt_of_lt_of_le hpast hle)
  settle := by
    rintro front now course t w rfl hsound hheld hisdue hfront hnow h
    cases h with
    | waits _ hphase hdue hsilent hahead =>
      have hnext := nextEvent?_of_waiting hheld hphase
      rw [hdue] at hnext
      -- The stop is not after the deadline, and the task is due.
      obtain rfl : first = now := by
        obtain ⟨due, hdue', hle⟩ := isDue_eq_true_iff.1 hisdue
        obtain rfl : first = due := Option.some.inj (hnext.symm.trans hdue')
        have hreach := hnow first hnext
        omega
      have hsettle : w.settle c first t = w.wake c first t := by
        rw [World.settle, hphase]
      obtain ⟨more, hmore, hbegun⟩ := World.starts_wake_of_due hheld hphase (Nat.le_of_eq hdue) c w
      rw [hsettle]
      refine ⟨more, hmore, .ticked ?_ (Nat.lt_succ_self first)⟩
      rw [Entry.starts_append, hsilent, hbegun]
      rfl
    | ticked hstarts hpast =>
      obtain ⟨more, hmore⟩ := World.exists_course_settle hsound c now w
      refine ⟨more, hmore, .ticked ?_ (Nat.lt_of_lt_of_le hpast hfront)⟩
      rw [Entry.starts_append, List.head?_append, hstarts]
      rfl

theorem keeps_broken (c : Collaborators σ) (d : Domain) :
    Task.Keeps c d fun _ course t => course = [] ∧ t.phase = .broken where
  wait := fun _ _ h => h
  settle := by
    rintro front now course t w _ _ _ hisdue _ _ ⟨_, hphase⟩
    obtain ⟨due, hdue, _⟩ := isDue_eq_true_iff.1 hisdue
    rw [nextEvent?_of_ne_waiting (by rw [hphase]; nofun), hphase] at hdue
    cases hdue

end Task

namespace Service

variable {σ : Type} {c : Collaborators σ} {s₀ : Service σ} {d : Domain} {secs due : Nat}

/-- The task that is started for the domain waits for its first deadline and ticks at it: whatever
happens to the service, no cycle of the task begins before the deadline, and as soon as the time has
passed it, the first cycle has begun at it. -/
structure Ticks (c : Collaborators σ) (s₀ : Service σ) (d : Domain) (due : Nat) : Prop where
  waits : ∃ t ∈ (s₀.start c).1.tasks, t.domain = d ∧ t.phase = .waiting ∧ t.ticker.due = due
  silent : ∀ history : List (Happening σ), .cycle d ∉ history →
    let s := (s₀.start c).1.afterAll c history
    s.clock < due → Entry.starts (s₀.courseSince s d) = []
  ticked : ∀ history : List (Happening σ), .cycle d ∉ history →
    let s := (s₀.start c).1.afterAll c history
    due < s.clock → (Entry.starts (s₀.courseSince s d)).head? = some due

/-- The task that is started for the domain is broken from the start, and never does anything. -/
structure Breaks (c : Collaborators σ) (s₀ : Service σ) (d : Domain) : Prop where
  broken : ∃ t ∈ (s₀.start c).1.tasks, t.domain = d ∧ t.phase = .broken
  silent : ∀ history : List (Happening σ), .cycle d ∉ history →
    s₀.courseSince ((s₀.start c).1.afterAll c history) d = []

/-- **A deadline that the clock can show** is met. -/
theorem ticks_of_shown (hidle : s₀.tasks = []) (hsecs : 0 < secs)
    (hentry : (d, secs) ∈ timetable s₀.world.monitor.config (s₀.containersReady c).1)
    (hshown : s₀.clock + secs * 1000 < Ticker.clockLimit * 1000) :
    s₀.Ticks c d (s₀.clock + secs * 1000) := by
  have htask := startTask_of_shown (d := d) hsecs hshown
  have hstart : Task.MeetsFirst (s₀.clock + secs * 1000) s₀.clock []
      (startTask s₀.clock (d, secs)) := by
    rw [htask]
    exact .waits rfl rfl rfl rfl (Nat.le_add_right _ _)
  have hmeets : ∀ history : List (Happening σ), .cycle d ∉ history →
      let s := (s₀.start c).1.afterAll c history
      ∃ t ∈ s.tasks, t.domain = d ∧ ∃ front, s.clock ≤ front ∧ front ≤ s.clock + 1 ∧
        Task.MeetsFirst (s₀.clock + secs * 1000) front (s₀.courseSince s d) t :=
    fun _ hforeign => exists_task_afterAll
      (Task.keeps_meetsFirst c d (s₀.clock + secs * 1000)) hidle hentry hstart hforeign
  refine ⟨⟨_, mem_tasks_start c hentry, ?_⟩, ?_, ?_⟩
  · rw [htask]
    exact ⟨rfl, rfl, rfl⟩
  · intro history hforeign s hearly
    obtain ⟨t, _, _, front, hle, hacted, hmeets⟩ := hmeets history hforeign
    cases hmeets with
    | waits _ _ _ hsilent _ => exact hsilent
    | ticked _ hpast =>
      have hreached := Nat.le_of_lt_succ (Nat.lt_of_lt_of_le hpast hacted)
      exact absurd hearly (Nat.not_lt.2 hreached)
  · intro history hforeign s hlate
    obtain ⟨t, _, _, front, hle, hacted, hmeets⟩ := hmeets history hforeign
    cases hmeets with
    | waits _ _ _ _ hahead => exact absurd hlate (Nat.not_lt.2 (Nat.le_trans hle hahead))
    | ticked hstarts _ => exact hstarts

/-- **A deadline that the clock cannot show** breaks its task. -/
theorem breaks_of_late (hidle : s₀.tasks = [])
    (hentry : (d, secs) ∈ timetable s₀.world.monitor.config (s₀.containersReady c).1)
    (hlate : Ticker.clockLimit * 1000 ≤ s₀.clock + secs * 1000) : s₀.Breaks c d := by
  have htask := startTask_of_late (d := d) hlate
  have hstart : (startTask s₀.clock (d, secs)).phase = .broken := by
    rw [htask]
  refine ⟨⟨_, mem_tasks_start c hentry, ?_, hstart⟩, ?_⟩
  · rw [htask]
  · intro history hforeign
    obtain ⟨t, _, _, front, _, _, hnothing, _⟩ :=
      exists_task_afterAll (Task.keeps_broken c d) hidle hentry ⟨rfl, hstart⟩ hforeign
    exact hnothing

theorem Breaks.not_ticks (h : s₀.Breaks c d) (hidle : s₀.tasks = []) : ¬ s₀.Ticks c d due := by
  intro hticks
  obtain ⟨t, ht, hdomain, hbroken⟩ := h.broken
  obtain ⟨t', ht', hdomain', hwaiting, _⟩ := hticks.waits
  have hsame : t = t' := List.inj_on_of_nodup_map (running_start c hidle).orderly.nodup ht ht'
    (hdomain.trans hdomain'.symm)
  rw [← hsame, hbroken] at hwaiting
  cases hwaiting

/-- **Every task of an accepted configuration** ticks at its first deadline exactly when the clock
can show the deadline, and breaks otherwise: the rules for intervals bound them from below only. -/
theorem started_ticks_iff (c : Collaborators σ) (s₀ : Service σ) (hidle : s₀.tasks = [])
    (haccepted : s₀.world.monitor.config.validate = .ok ()) :
    ∀ entry ∈ timetable s₀.world.monitor.config (s₀.containersReady c).1,
      let due := s₀.clock + entry.2 * 1000
      (s₀.Ticks c entry.1 due ↔ due < Ticker.clockLimit * 1000) ∧
        (Ticker.clockLimit * 1000 ≤ due → s₀.Breaks c entry.1) := by
  rintro ⟨d, secs⟩ hentry due
  have hsecs := pos_of_mem_timetable haccepted hentry
  refine ⟨⟨fun hticks => ?_, ticks_of_shown hidle hsecs hentry⟩, breaks_of_late hidle hentry⟩
  by_contra hlate
  exact (breaks_of_late hidle hentry (Nat.le_of_not_lt hlate)).not_ticks hidle hticks

/-- A quarter of an hour after the machine was started: resources are due in the last second that the
clock shows, containers in a minute, and the dispatch at no time. -/
theorem started_ticks_iff_last_second :
    let c : Collaborators Nat :=
      { collect := fun o _ => (o, ⟨0, some (.error (.collection "no /proc"))⟩)
        probe := fun o _ => (o, ⟨0, some (.error (.probe "no route"))⟩)
        hasRuntime := true
        ready := fun _ => .ok ()
        list := fun o _ => (o, ⟨0, some (.ok [])⟩)
        deliver := fun o _ => (o, ⟨0, fun _ => .given none⟩)
        wallClock := fun _ => ⟨0, 0⟩ }
    let config : MonitorConfig :=
      { MonitorConfig.initial with
        resources := { ResourceChecks.initial with intervalSecs := 9223372036854774907 }
        containers := { ContainerChecks.initial with enabled := true }
        alerting := { AlertingConfig.initial with dispatchIntervalSecs := 18446744073709551615 } }
    let s₀ : Service Nat := .new (.new config [] ⟨0, 0⟩) 0 900000
    s₀.tasks = [] ∧ config.validate = .ok () ∧
      timetable config (s₀.containersReady c).1 = [(.resources, 9223372036854774907),
        (.endpoints, 30), (.containers, 60), (.dispatch, 18446744073709551615)] ∧
      s₀.Ticks c .resources (s₀.clock + 9223372036854774907 * 1000) ∧
      s₀.Ticks c .containers (s₀.clock + 60 * 1000) ∧ s₀.Breaks c .dispatch := by
  intro c config s₀
  have haccepted : config.validate = .ok () := by decide +kernel
  have htimetable : timetable config (s₀.containersReady c).1 = [(.resources, 9223372036854774907),
      (.endpoints, 30), (.containers, 60), (.dispatch, 18446744073709551615)] := by decide
  have hticks := started_ticks_iff c s₀ rfl haccepted
  have hmem : ∀ entry ∈ [(Domain.resources, 9223372036854774907), (.endpoints, 30),
      (.containers, 60), (.dispatch, 18446744073709551615)],
      entry ∈ timetable s₀.world.monitor.config (s₀.containersReady c).1 := by
    intro entry hentry
    rw [← htimetable] at hentry
    exact hentry
  refine ⟨rfl, haccepted, htimetable, ?_, ?_, ?_⟩
  · exact (hticks (.resources, 9223372036854774907) (hmem _ (by decide))).1.2 (by decide)
  · exact (hticks (.containers, 60) (hmem _ (by decide))).1.2 (by decide)
  · exact (hticks (.dispatch, 18446744073709551615) (hmem _ (by decide))).2 (by decide)

/-- An accepted interval that the clock cannot show: the task for resources is broken as soon as it
is started, and the others are not.  Only the shutdown says so. -/
theorem accepted_interval_breaks :
    let c : Collaborators Nat :=
      { collect := fun o _ => (o, ⟨0, some (.error (.collection "no /proc"))⟩)
        probe := fun o _ => (o, ⟨0, some (.error (.probe "no route"))⟩)
        hasRuntime := false
        ready := fun _ => .ok ()
        list := fun o _ => (o, ⟨0, some (.error (.containers "no runtime"))⟩)
        deliver := fun o _ => (o, ⟨0, fun _ => .given none⟩)
        wallClock := fun _ => ⟨0, 0⟩ }
    let config : MonitorConfig :=
      { MonitorConfig.initial with
        resources := { ResourceChecks.initial with intervalSecs := 18446744073709551615 } }
    let started : Service Nat := (Service.new (.new config [] ⟨0, 0⟩) 0 900000 |>.start c).1
    config.validate = .ok () ∧
      started.tasks.map (fun t => (t.domain, t.phase.isBroken)) =
        [(.resources, true), (.endpoints, false), (.dispatch, false)] ∧
      Entry.logs (started.shutdown c).world.entries =
        [⟨.info, "Monitoring service started",
            [("tasks", "[\"resources\", \"endpoints\", \"dispatch\"]")]⟩,
          .plain .info "Stopping monitoring service",
          ⟨.debug, "Monitoring task stopped", [("task", "endpoints")]⟩,
          ⟨.debug, "Monitoring task stopped", [("task", "dispatch")]⟩,
          ⟨.error, "Monitoring task ended abnormally: the task broke down",
            [("task", "resources")]⟩,
          .plain .info "All monitoring tasks stopped"] := by
  decide +kernel

end Service

end HostWatch
