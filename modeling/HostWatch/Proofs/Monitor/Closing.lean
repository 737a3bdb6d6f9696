import Mathlib.Algebra.Order.BigOperators.Group.List
import Mathlib.Algebra.Order.Ring.Nat
import HostWatch.Proofs.Monitor.Running
set_option autoImplicit false

/-!
# Monitor: shutdown, stop by stop

A shutdown asks the tasks to stop, and then goes on from stop to stop until none of them has a
cycle under way.  At each stop the cycles that are due go on, and nothing else happens: a task
that waits ends, and begins no cycle.  So what is kept by cycles that go on is kept by a shutdown
(`Service.Running.shutdown_keeps`), and a cycle under way can be watched to its end
(`Service.Watch.shutdown`).
-/

namespace HostWatch

/-! ## Tasks that are to end -/

theorem Task.nextEvent?_of_ne_waiting {t : Task} (h : t.phase ≠ .waiting) :
    t.nextEvent? = t.phase.nextEvent? := by
  unfold Task.nextEvent?
  cases hphase : t.phase with
  | waiting => exact absurd hphase h
  | busy run todo => rfl
  | ended => rfl
  | broken => rfl

theorem Task.isLeaving_of_stopping {t : Task} (h : t.standing = .stopping) :
    t.isLeaving = true := by
  rw [Task.isLeaving, h]
  rfl

theorem Task.isDue_eq_true_iff {t : Task} {now : Nat} :
    t.isDue now = true ↔ ∃ due, t.nextEvent? = some due ∧ due ≤ now := by
  unfold Task.isDue
  cases t.nextEvent? with
  | none => simp
  | some due => simp

namespace World

variable {σ : Type} {c : Collaborators σ} {now : Nat} {t : Task} {run : Run} {todo : List Call}

/-- A task that is to end carries its cycle on, and at most writes to the log. -/
theorem settle_leaving {Q : World σ → Prop}
    (hlog : ∀ (w : World σ) (lines : List LogLine), Q w → Q (w.log lines))
    (hleaving : t.isLeaving = true) (hphase : t.phase = .busy run todo) {w : World σ}
    (h : Q (w.pursue c now run todo).1) :
    Q (w.settle c now t).1 ∧ (w.settle c now t).2.Shows (w.pursue c now run todo).2 := by
  have hleaving' : ∀ phase, ({ t with phase } : Task).isLeaving = true := fun _ => hleaving
  unfold settle
  rw [hphase]
  simp only
  rcases w.pursue_phase c now run todo with
    hover | hover | ⟨run', todo', hbusy⟩
  · rw [hover]
    unfold wake
    simp only [hleaving', if_true]
    exact ⟨hlog _ _ h, .inr rfl⟩
  · rw [hover]
    exact ⟨h, .inl rfl⟩
  · rw [hbusy]
    exact ⟨h, rfl⟩

/-- What is kept by cycles that go on is kept by tasks that are to end. -/
theorem settle_keeps {Q : World σ → Prop}
    (hlog : ∀ (w : World σ) (lines : List LogLine), Q w → Q (w.log lines))
    (hpursue : ∀ (w : World σ) (run : Run) (todo : List Call), t.phase = .busy run todo → Q w →
      Q (w.pursue c now run todo).1)
    (hleaving : t.isLeaving = true) {w : World σ} (h : Q w) : Q (w.settle c now t).1 := by
  cases hphase : t.phase with
  | busy run todo => exact (settle_leaving hlog hleaving hphase (hpursue w run todo hphase h)).1
  | waiting =>
    unfold settle wake
    simp only [hphase, hleaving, if_true]
    exact hlog w _ h
  | ended =>
    unfold settle wake
    simp only [hphase]
    exact h
  | broken =>
    unfold settle wake
    simp only [hphase]
    exact h

theorem ofDomain_pending_settle {d : Domain} (hleaving : t.isLeaving = true) (ht : t.Sound)
    (hne : t.domain ≠ d) (w : World σ) :
    AlertEvent.ofDomain d (w.settle c now t).1.monitor.pending.toList =
      AlertEvent.ofDomain d w.monitor.pending.toList := by
  refine settle_keeps (Q := fun v => AlertEvent.ofDomain d v.monitor.pending.toList =
    AlertEvent.ofDomain d w.monitor.pending.toList) (fun _ _ h => h) ?_ hleaving rfl
  intro v run todo hphase hv
  obtain ⟨pushed, hpushed, hother⟩ := v.pending_pursue c now run todo
  rw [hpushed, AlertEvent.ofDomain_append, hother d ((ht.of_busy hphase).1 ▸ hne), List.append_nil]
  exact hv

theorem phase_settle_leaving (hleaving : t.isLeaving = true) (w : World σ) :
    (w.settle c now t).2.phase ≠ .waiting := by
  cases hphase : t.phase with
  | busy run todo =>
    exact (settle_leaving (Q := fun _ => True) (fun _ _ h => h) hleaving hphase
      (w := w) trivial).2.phase_ne_waiting
  | waiting =>
    unfold settle wake
    simp only [hphase, hleaving, if_true]
    exact Phase.noConfusion
  | ended =>
    unfold settle wake
    simp only [hphase]
    exact Phase.noConfusion
  | broken =>
    unfold settle wake
    simp only [hphase]
    exact Phase.noConfusion

theorem remaining_settle_lt (hleaving : t.isLeaving = true) {due : Nat}
    (hdue : t.phase.nextEvent? = some due) (hle : due ≤ now) (w : World σ) :
    (w.settle c now t).2.phase.remaining < t.phase.remaining := by
  cases hphase : t.phase with
  | busy run todo =>
    rw [hphase] at hdue
    rw [(settle_leaving (Q := fun _ => True) (fun _ _ h => h) hleaving hphase
      (w := w) trivial).2.remaining_eq]
    exact w.remaining_pursue_lt c now hdue hle
  | waiting =>
    rw [hphase] at hdue
    cases hdue
  | ended =>
    rw [hphase] at hdue
    cases hdue
  | broken =>
    rw [hphase] at hdue
    cases hdue

end World

/-! ## Stops of a shutdown -/

/-- How many steps the cycles under way have still to make. -/
def Task.remainingOf (ts : List Task) : Nat := (ts.map (·.phase.remaining)).sum

namespace World

variable {σ : Type} {c : Collaborators σ} {now : Nat} {ts : List Task}

/-- At a stop no cycle gets more to do, and one that goes on gets less. -/
theorem remainingOf_settleAll (c : Collaborators σ) (now : Nat)
    (hbegun : ∀ t ∈ ts, t.isLeaving = true ∧ t.phase ≠ .waiting) (w : World σ) :
    let r := w.settleAll c now ts
    let left := Task.remainingOf r.2.1 + Task.remainingOf r.2.2
    left ≤ Task.remainingOf ts ∧
      ((∃ t ∈ ts, t.isDue now = true) → left < Task.remainingOf ts) := by
  induction ts generalizing w with
  | nil => exact ⟨Nat.le_refl _, fun ⟨t, ht, _⟩ => absurd ht List.not_mem_nil⟩
  | cons t ts ih =>
    obtain ⟨⟨hleaving, hwaits⟩, hrest⟩ := List.forall_mem_cons.1 hbegun
    have hcons : ∀ (t : Task) (ts : List Task),
        Task.remainingOf (t :: ts) = t.phase.remaining + Task.remainingOf ts :=
      fun _ _ => List.sum_cons
    by_cases hdue : t.isDue now = true
    · obtain ⟨hle, _⟩ := ih hrest (w.settle c now t).1
      have hless : (w.settle c now t).2.phase.remaining < t.phase.remaining := by
        obtain ⟨due, hnext, hle⟩ := Task.isDue_eq_true_iff.1 hdue
        rw [Task.nextEvent?_of_ne_waiting hwaits] at hnext
        exact remaining_settle_lt hleaving hnext hle w
      rw [settleAll_cons_due hdue]
      simp only [hcons]
      refine ⟨by omega, fun _ => by omega⟩
    · obtain ⟨hle, hlt⟩ := ih hrest w
      rw [settleAll_cons_idle hdue]
      simp only [hcons]
      refine ⟨by omega, ?_⟩
      rintro ⟨t', ht', hdue'⟩
      rcases List.mem_cons.1 ht' with rfl | ht'
      · exact absurd hdue' hdue
      · have hless := hlt ⟨t', ht', hdue'⟩
        omega

end World

namespace Service

variable {σ : Type} {c : Collaborators σ} {s : Service σ}

/-- The tasks are in order, and they are all to end. -/
structure Leaving (s : Service σ) : Prop where
  orderly : s.Orderly
  stopping : ∀ t ∈ s.tasks, t.standing = .stopping

/-- The tasks are to end, and none of them waits: each has a cycle under way, or it is over. -/
structure Closing (s : Service σ) : Prop extends Leaving s where
  begun : ∀ t ∈ s.tasks, t.phase ≠ .waiting

/-- The clock is moved on, but no further than to where a cycle under way goes on. -/
structure StopsAt (s : Service σ) (now : Nat) : Prop where
  clock_le : s.clock ≤ now
  le_due : ∀ t ∈ s.tasks, ∀ due, t.phase.nextEvent? = some due → now ≤ max s.clock due

theorem Leaving.isLeaving (h : s.Leaving) {t : Task} (ht : t ∈ s.tasks) : t.isLeaving = true :=
  Task.isLeaving_of_stopping (h.stopping t ht)

/-- **A stop** leaves no task waiting. -/
theorem Leaving.settleAt (h : s.Leaving) (now : Nat) : (s.settleAt c now).Closing where
  orderly := h.orderly.settleAt now
  stopping := standing_settleAt (P := (· = .stopping)) h.stopping now
  begun := by
    intro t' ht'
    rcases World.mem_settleAll (List.mem_filter.1 ht').1 with ⟨ht, hidle⟩ | ⟨t, ht, _, w, rfl⟩
    · intro hwaiting
      refine hidle (Task.isDue_eq_true_iff.2 ⟨0, ?_, Nat.zero_le _⟩)
      simp [Task.nextEvent?, hwaiting, h.isLeaving ht]
    · exact World.phase_settle_leaving (h.isLeaving ht) w

theorem Leaving.stopping_eq (h : s.Leaving) : s.stopping = s.tasks := by
  refine List.filter_eq_self.2 fun t ht => ?_
  simp [h.stopping t ht]

namespace Closing

theorem remaining_eq (h : s.Closing) : s.remaining = Task.remainingOf s.tasks := by
  rw [remaining, h.stopping_eq, Task.remainingOf, List.sum_eq_foldl, List.foldl_map]

theorem remaining_settleAt_lt (h : s.Closing) {now : Nat}
    (hdue : ∃ t ∈ s.tasks, t.isDue now = true) :
    (s.settleAt c now).remaining < s.remaining := by
  have hless := (s.world.remainingOf_settleAll c now
    fun t ht => ⟨h.isLeaving ht, h.begun t ht⟩).2 hdue
  have hkept : Task.remainingOf (s.settleAt c now).tasks ≤
      Task.remainingOf (s.world.settleAll c now s.tasks).2.1 +
        Task.remainingOf (s.world.settleAll c now s.tasks).2.2 := by
    rw [Task.remainingOf, Task.remainingOf, Task.remainingOf, ← List.sum_append, ← List.map_append]
    exact (List.filter_sublist.map _).sum_le_sum fun _ _ => Nat.zero_le _
  rw [h.remaining_eq, (h.toLeaving.settleAt now).remaining_eq]
  exact Nat.lt_of_le_of_lt hkept hless

/-- Waiting for the tasks is over, or it goes on after a stop. -/
theorem awaitTasks_cases (h : s.Closing) (c : Collaborators σ) (fuel : Nat) :
    (s.awaitTasks c (fuel + 1) = s ∧ ∀ t ∈ s.tasks, t.phase.remaining = 0) ∨
      ∃ now, s.StopsAt now ∧ (∃ t ∈ s.tasks, t.isDue now = true) ∧
        s.awaitTasks c (fuel + 1) = (s.settleAt c now).awaitTasks c fuel := by
  have hevents : s.stopping.filterMap (·.phase.nextEvent?) = s.tasks.filterMap Task.nextEvent? := by
    rw [h.stopping_eq]
    exact List.filterMap_congr fun t ht => (Task.nextEvent?_of_ne_waiting (h.begun t ht)).symm
  cases hfirst : s.nextEvent? with
  | none =>
    refine .inl ⟨?_, ?_⟩
    · rw [awaitTasks, hevents, ← nextEvent?, hfirst]
    · intro t ht
      have hnone : t.nextEvent? = none := by
        rw [nextEvent?, List.min?_eq_none_iff, List.filterMap_eq_nil_iff] at hfirst
        exact hfirst t ht
      rw [Task.nextEvent?_of_ne_waiting (h.begun t ht)] at hnone
      exact Phase.nextEvent?_eq_none_iff.1 hnone
  | some first =>
    obtain ⟨hmem, hleast⟩ := List.min?_eq_some_iff.1 hfirst
    obtain ⟨t, ht, hnext⟩ := List.mem_filterMap.1 hmem
    refine .inr ⟨max first s.clock, ⟨Nat.le_max_right _ _, ?_⟩, ⟨t, ht, ?_⟩, ?_⟩
    · intro t' ht' due hdue
      rw [← Task.nextEvent?_of_ne_waiting (h.begun t' ht')] at hdue
      have hle : first ≤ due := hleast due (List.mem_filterMap.2 ⟨t', ht', hdue⟩)
      omega
    · exact Task.isDue_eq_true_iff.2 ⟨first, hnext, Nat.le_max_left _ _⟩
    · -- Nothing happens before the first of the cycles goes on.
      have hreach : s.advanceTo c (max first s.clock) =
          { s with clock := max s.clock (max first s.clock) } := by
        rw [advanceTo, advanceFrom, hfirst]
        simp
      rw [awaitTasks, hevents, ← nextEvent?, hfirst]
      simp only [hreach]
      rfl

/-- **Waiting for the tasks.**  What every stop keeps is kept until no cycle is under way any
more; as many stops as the cycles have steps to make are enough. -/
theorem awaitTasks_keeps {I : Service σ → Prop}
    (hI : ∀ (s : Service σ) (now : Nat), s.Leaving → s.StopsAt now → I s → I (s.settleAt c now))
    (fuel : Nat) :
    ∀ {s : Service σ}, s.Closing → s.remaining ≤ fuel → I s →
      let s' := s.awaitTasks c fuel
      I s' ∧ s'.Closing ∧ ∀ t ∈ s'.tasks, t.phase.remaining = 0 := by
  induction fuel with
  | zero =>
    intro s h hfuel hs
    rw [h.remaining_eq, Nat.le_zero, Task.remainingOf, List.sum_eq_zero_iff] at hfuel
    exact ⟨hs, h, fun t ht => hfuel _ (List.mem_map_of_mem ht)⟩
  | succ fuel ih =>
    intro s h hfuel hs
    rcases h.awaitTasks_cases c fuel with ⟨hover, hnone⟩ | ⟨now, hstop, hdue, hgoes⟩
    · rw [hover]
      exact ⟨hs, h, hnone⟩
    · rw [hgoes]
      have hless : (s.settleAt c now).remaining < s.remaining := h.remaining_settleAt_lt hdue
      exact ih (h.toLeaving.settleAt now) (by omega) (hI s now h.toLeaving hstop hs)

end Closing

/-! ## Shutdown -/

/-- The service whose tasks have been asked to stop. -/
def asked (s : Service σ) : Service σ :=
  ({ s with world := s.world.log [.plain .info "Stopping monitoring service"] }).letGo .stopping

/-- The service after the first stop of a shutdown, at which the tasks that wait end. -/
def firstStop (c : Collaborators σ) (s : Service σ) : Service σ :=
  if s.stopping.any (·.isAlive) then s.settleAt c s.clock else s

/-- The service from which the tasks that were waited for are gone. -/
def parted (s : Service σ) : Service σ :=
  { s with
    tasks := s.tasks.filter fun t => t.standing != .stopping
    world := s.world.log
      (s.stopping.filterMap brokenLog? ++ [.plain .info "All monitoring tasks stopped"]) }

/-- A shutdown asks the tasks to stop, waits for them, and parts from them. -/
theorem shutdown_of_held (c : Collaborators σ) (h : ∃ t ∈ s.tasks, t.standing = .held) :
    s.shutdown c =
      let s₁ := s.asked.firstStop c
      (s₁.awaitTasks c s₁.remaining).parted := by
  obtain ⟨t, ht, hheld⟩ := h
  rw [shutdown, if_pos (List.any_eq_true.2 ⟨t, ht, decide_eq_true hheld⟩)]
  rfl

theorem Running.tasks_asked (h : s.Running) :
    s.asked.tasks = s.tasks.map fun t => { t with standing := .stopping } := by
  refine List.map_congr_left fun t ht => ?_
  exact if_pos (h.held t ht)

theorem Running.leaving_asked (h : s.Running) : s.asked.Leaving := by
  refine ⟨⟨?_, ?_⟩, ?_⟩
  · rw [h.tasks_asked, List.map_map]
    exact h.orderly.nodup
  · intro t' ht'
    rw [h.tasks_asked] at ht'
    obtain ⟨t, ht, rfl⟩ := List.mem_map.1 ht'
    exact h.orderly.sound t ht
  · intro t ht
    rw [h.tasks_asked] at ht
    obtain ⟨t, _, rfl⟩ := List.mem_map.1 ht
    rfl

/-- After the first stop no task waits. -/
theorem Leaving.firstStop_keeps {I : Service σ → Prop} (h : s.Leaving)
    (hI : ∀ (s : Service σ) (now : Nat), s.Leaving → s.StopsAt now → I s → I (s.settleAt c now))
    (hs : I s) : (s.firstStop c).Closing ∧ I (s.firstStop c) := by
  have hstop : s.StopsAt s.clock := ⟨Nat.le_refl _, fun _ _ _ _ => Nat.le_max_left _ _⟩
  by_cases halive : s.stopping.any (·.isAlive) = true
  · rw [firstStop, if_pos halive]
    exact ⟨h.settleAt _, hI s _ h hstop hs⟩
  · rw [firstStop, if_neg halive]
    refine ⟨⟨h, fun t ht hwaiting => halive ?_⟩, hs⟩
    rw [h.stopping_eq, List.any_eq_true]
    exact ⟨t, ht, by rw [Task.isAlive, hwaiting]⟩

theorem Leaving.tasks_parted (h : s.Leaving) : s.parted.tasks = [] := by
  refine List.filter_eq_nil_iff.2 fun t ht => ?_
  simp [h.stopping t ht]

/-- **A shutdown** of a service that runs, stop by stop.  What the stops keep holds at the end,
when no cycle is under way any more; then the tasks are gone.  A service without tasks stays as
it is. -/
theorem Running.shutdown_keeps {I : Service σ → Prop} (h : s.Running)
    (hI : ∀ (s : Service σ) (now : Nat), s.Leaving → s.StopsAt now → I s → I (s.settleAt c now))
    (hasked : I s.asked) :
    s.tasks = [] ∧ s.shutdown c = s ∨
      ∃ last : Service σ, I last ∧ last.Leaving ∧ (∀ t ∈ last.tasks, t.phase.remaining = 0) ∧
        s.shutdown c = last.parted := by
  cases htasks : s.tasks with
  | nil =>
    refine .inl ⟨rfl, if_neg ?_⟩
    rw [htasks]
    exact Bool.false_ne_true
  | cons t ts =>
    have hheld : ∃ t ∈ s.tasks, t.standing = .held := by
      have ht : t ∈ s.tasks := htasks ▸ List.mem_cons_self
      exact ⟨t, ht, h.held t ht⟩
    obtain ⟨hclosing, hfirst⟩ := h.leaving_asked.firstStop_keeps hI hasked
    obtain ⟨hend, hlast, hover⟩ := hclosing.awaitTasks_keeps hI _ (Nat.le_refl _) hfirst
    exact .inr ⟨_, hend, hlast.toLeaving, hover, shutdown_of_held c hheld⟩

theorem Running.tasks_shutdown (h : s.Running) (c : Collaborators σ) :
    (s.shutdown c).tasks = [] := by
  rcases h.shutdown_keeps (c := c) (I := fun _ => True) (fun _ _ _ _ h => h) trivial with
    ⟨hnone, hsame⟩ | ⟨last, _, hlast, _, hparted⟩
  · rw [hsame]
    exact hnone
  · rw [hparted]
    exact hlast.tasks_parted

/-- What is kept by cycles that go on is kept by a shutdown. -/
theorem Running.world_shutdown_keeps {Q : World σ → Prop} (h : s.Running)
    (hlog : ∀ (w : World σ) (lines : List LogLine), Q w → Q (w.log lines))
    (hpursue : ∀ (now : Nat) (w : World σ) (run : Run) (todo : List Call), Q w →
      Q (w.pursue c now run todo).1)
    (hs : Q s.world) : Q (s.shutdown c).world := by
  have hstop : ∀ (s : Service σ) (now : Nat), s.Leaving → s.StopsAt now → Q s.world →
      Q (s.settleAt c now).world := by
    intro s now hleaving _ hs
    exact World.settleAll_keeps
      (fun t ht _ w hw => World.settle_keeps hlog (fun w run todo _ => hpursue now w run todo)
        (hleaving.isLeaving ht) hw) hs
  rcases h.shutdown_keeps (I := fun s => Q s.world) hstop (hlog _ _ hs) with
    ⟨_, hsame⟩ | ⟨last, hlast, _, _, hparted⟩
  · rw [hsame]
    exact hs
  · rw [hparted]
    exact hlog _ _ hlast

/-- What is watched is kept by the log, and by the cycle itself when it goes on. -/
structure Follows (c : Collaborators σ) (P : Nat → World σ → Phase → Prop) : Prop where
  log : ∀ (front : Nat) (w : World σ) (phase : Phase) (lines : List LogLine),
    P front w phase → P front (w.log lines) phase
  go : ∀ (front : Nat) (w : World σ) (run : Run) (todo : List Call) (due : Nat),
    P front w (.busy run todo) → (Phase.busy run todo).nextEvent? = some due →
      let r := w.pursue c (max front due) run todo
      P (max front due) r.1 r.2

namespace Watch

variable {d : Domain} {P : Nat → World σ → Phase → Prop} {run : Run} {todo : List Call}

theorem settleAt_leaving (hP : Watch c d (· = .stopping) P) (hfollows : Follows c P)
    (hs : s.Leaving) {now : Nat} (hstop : s.StopsAt now) {phase : Phase}
    (hstands : s.Stands d phase) (h : P s.clock s.world phase) :
    ∃ phase', (s.settleAt c now).Stands d phase' ∧ P now (s.settleAt c now).world phase' := by
  by_cases hover : phase.remaining = 0
  · obtain ⟨hlater, hstill⟩ := hP.settleAt_over hs.orderly hs.stopping hover hstands h
    exact ⟨phase, hstill, hlater⟩
  · obtain ⟨run, todo, rfl⟩ := Phase.exists_busy hover
    obtain ⟨due, hdue⟩ := Phase.exists_nextEvent run todo
    have hnow : now ≤ max s.clock due := by
      obtain ⟨t, ht, _, hphase⟩ := hstands
      exact hstop.le_due t ht due (hphase ▸ hdue)
    obtain ⟨phase, hafter, hstill, _⟩ :=
      hP.settleAt hs.orderly hs.stopping hdue hstop.clock_le hnow (by
        intro hexact w t hstanding hphase hw
        have hpursued := hfollows.go _ _ _ _ _ hw hdue
        rw [← hexact] at hpursued
        exact World.settle_leaving (Q := fun v => P now v (w.pursue c now run todo).2)
          (fun v lines => hfollows.log now v _ lines) (Task.isLeaving_of_stopping hstanding) hphase
          hpursued)
        hstands h
    exact ⟨phase, hstill, hafter⟩

/-- **A shutdown** carries a cycle that is watched on to its end. -/
theorem shutdown (hP : Watch c d (· = .stopping) P) (hfollows : Follows c P)
    (hs : s.Running) (hstands : s.Stands d (.busy run todo))
    (h : P s.clock s.world (.busy run todo)) :
    ∃ phase, phase.remaining = 0 ∧ P (s.shutdown c).clock (s.shutdown c).world phase := by
  have hasked : s.asked.Stands d (.busy run todo) := by
    obtain ⟨t, ht, hdomain, hphase⟩ := hstands
    refine ⟨{ t with standing := .stopping }, ?_, hdomain, hphase⟩
    rw [hs.tasks_asked]
    exact List.mem_map_of_mem ht
  rcases hs.shutdown_keeps (I := fun s => ∃ phase, s.Stands d phase ∧ P s.clock s.world phase)
      (by
        rintro s now hleaving hstop ⟨phase, hstands, hs⟩
        exact hP.settleAt_leaving hfollows hleaving hstop hstands hs)
      ⟨_, hasked, hfollows.log _ _ _ _ h⟩ with
    ⟨hnone, _⟩ | ⟨last, ⟨phase, hstill, hlast⟩, _, hover, hparted⟩
  · obtain ⟨t, ht, _⟩ := hstands
    rw [hnone] at ht
    cases ht
  · refine ⟨phase, ?_, ?_⟩
    · by_contra hbusy
      obtain ⟨run', todo', rfl⟩ := Phase.exists_busy hbusy
      obtain ⟨t, ht, _, hphase⟩ := hstill
      exact hbusy (hphase ▸ hover t ht)
    · rw [hparted]
      exact hfollows.log _ _ _ _ hlast

end Watch

end Service

end HostWatch
