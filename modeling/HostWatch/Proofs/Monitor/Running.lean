import HostWatch.Proofs.Monitor.Tasks
set_option autoImplicit false

/-!
# Monitor: services that run

A service that was started runs: its tasks are in order, and they are all held
(`Service.running_start`).  Whatever happens to it then leaves it running
(`Service.Running.afterAll`): time passes, tasks take their turns, single cycles are run beside
them, and the monitor and the outside are changed from elsewhere.
-/

namespace HostWatch

namespace World

variable {σ : Type} {ts : List Task} {t : Task}

/-! ## Tasks that act in their order -/

/-- The tasks of some domains act, one after the other. -/
def letAct (act : World σ → Task → World σ × Task) (chosen : Domain → Bool) (w : World σ) :
    List Task → World σ × List Task
  | [] => (w, [])
  | t :: ts =>
    let first := if chosen t.domain then act w t else (w, t)
    let rest := first.1.letAct act chosen ts
    (rest.1, first.2 :: rest.2)

variable {act : World σ → Task → World σ × Task} {chosen : Domain → Bool}

/-- What is kept by every task that acts is kept by all of them. -/
theorem letAct_keeps {P : World σ → Prop} (hP : ∀ t ∈ ts, ∀ w, P w → P (act w t).1) :
    ∀ {w : World σ}, P w → P (w.letAct act chosen ts).1 := by
  induction ts with
  | nil =>
    intro w h
    exact h
  | cons t ts ih =>
    intro w h
    obtain ⟨hfirst, hrest⟩ := List.forall_mem_cons.1 hP
    unfold letAct
    refine ih hrest ?_
    split
    · exact hfirst w h
    · exact h

theorem mem_letAct {t' : Task} {w : World σ} (h : t' ∈ (w.letAct act chosen ts).2) :
    ∃ t ∈ ts, t' = t ∨ ∃ w' : World σ, t' = (act w' t).2 := by
  induction ts generalizing w with
  | nil => cases h
  | cons t ts ih =>
    rcases List.mem_cons.1 h with rfl | h
    · refine ⟨t, List.mem_cons_self, ?_⟩
      split
      · exact .inr ⟨w, rfl⟩
      · exact .inl rfl
    · obtain ⟨t₁, ht₁, hacted⟩ := ih h
      exact ⟨t₁, List.mem_cons_of_mem _ ht₁, hacted⟩

theorem mem_letAct_of_still (ht : t ∈ ts) (hstill : ∀ w, (act w t).2 = t) (w : World σ) :
    t ∈ (w.letAct act chosen ts).2 := by
  induction ts generalizing w with
  | nil => cases ht
  | cons t₀ ts ih =>
    rcases List.mem_cons.1 ht with rfl | ht
    · refine List.mem_cons.2 (.inl ?_)
      split
      · exact (hstill w).symm
      · rfl
    · exact List.mem_cons_of_mem _ (ih ht _)

theorem map_domain_letAct (hsame : ∀ w t, (act w t).2.domain = t.domain) (w : World σ) :
    (w.letAct act chosen ts).2.map (·.domain) = ts.map (·.domain) := by
  induction ts generalizing w with
  | nil => rfl
  | cons t ts ih =>
    unfold letAct
    rw [List.map_cons, List.map_cons, ih]
    split
    · rw [hsame]
    · rfl

end World

namespace Service

variable {σ : Type} {c : Collaborators σ} {s : Service σ}

/-! ## Services that were started -/

/-- The tasks of the service are in order, and they are all held. -/
structure Running (s : Service σ) : Prop where
  orderly : s.Orderly
  held : ∀ t ∈ s.tasks, t.standing = .held

theorem Running.of_tasks_eq {s' : Service σ} (h : s.Running) (htasks : s'.tasks = s.tasks) :
    s'.Running :=
  ⟨⟨htasks ▸ h.orderly.nodup, htasks ▸ h.orderly.sound⟩, htasks ▸ h.held⟩

theorem Running.settleAt (h : s.Running) (now : Nat) : (s.settleAt c now).Running :=
  ⟨h.orderly.settleAt now, standing_settleAt (P := (· = .held)) h.held now⟩

/-- **Time passes** for a service that runs. -/
theorem Running.advanceTo (h : s.Running) (target : Nat) : (s.advanceTo c target).Running := by
  unfold Service.advanceTo
  generalize s.clock = front
  fun_induction Service.advanceFrom c target front s with
  | case1 front s hnone => exact h.of_tasks_eq rfl
  | case2 front s first hsome now hlt =>
    rename_i ih
    exact ih (h.settleAt now)
  | case3 front s first hsome hnot => exact h.of_tasks_eq rfl

/-- The tasks go on while a single cycle is waited for. -/
theorem Running.awaitCycle (fuel : Nat) :
    ∀ {s : Service σ} {phase : Phase}, s.Running → (s.awaitCycle c fuel phase).1.Running := by
  induction fuel with
  | zero =>
    intro s phase h
    exact h
  | succ fuel ih =>
    intro s phase h
    unfold Service.awaitCycle
    split
    · exact ih ((h.advanceTo _).of_tasks_eq rfl)
    · exact h

theorem nodup_timetable (config : MonitorConfig) (containers : Bool) :
    ((timetable config containers).map (·.1)).Nodup := by
  have hwithout : [Domain.resources, .endpoints, .dispatch].Nodup := by decide
  have hwith : [Domain.resources, .endpoints, .containers, .dispatch].Nodup := by decide
  cases containers with
  | false => exact hwithout
  | true => exact hwith

/-- **A service that is started** runs. -/
theorem running_start (c : Collaborators σ) (hidle : s.tasks = []) : (s.start c).1.Running := by
  have htasks : (s.start c).1.tasks =
      (timetable s.world.monitor.config (s.containersReady c).1).map (startTask s.clock) := by
    unfold Service.start release letGo
    rw [hidle]
    rfl
  have hstarted : ∀ entry : Domain × Nat, (startTask s.clock entry).domain = entry.1 ∧
      (startTask s.clock entry).Sound ∧ (startTask s.clock entry).standing = .held := by
    intro entry
    unfold startTask
    split
    · exact ⟨rfl, trivial, rfl⟩
    · exact ⟨rfl, trivial, rfl⟩
  have hdomains : ((timetable s.world.monitor.config (s.containersReady c).1).map
      (startTask s.clock)).map (·.domain) =
        (timetable s.world.monitor.config (s.containersReady c).1).map (·.1) := by
    rw [List.map_map]
    exact List.map_congr_left fun entry _ => (hstarted entry).1
  refine ⟨⟨?_, ?_⟩, ?_⟩
  · rw [htasks, hdomains]
    exact nodup_timetable _ _
  · intro t ht
    obtain ⟨entry, _, rfl⟩ := List.mem_map.1 (htasks ▸ ht)
    exact (hstarted entry).2.1
  · intro t ht
    obtain ⟨entry, _, rfl⟩ := List.mem_map.1 (htasks ▸ ht)
    exact (hstarted entry).2.2

/-- The tasks of some domains act, one after the other. -/
def letAct (s : Service σ) (act : World σ → Task → World σ × Task) (chosen : Domain → Bool) :
    Service σ :=
  let r := s.world.letAct act chosen s.tasks
  { s with world := r.1, tasks := r.2 }

theorem Running.letAct {act : World σ → Task → World σ × Task} (h : s.Running)
    (hsame : ∀ w t, (act w t).2.domain = t.domain ∧ (act w t).2.standing = t.standing)
    (hsound : ∀ w t, t.Sound → (act w t).2.Sound) (chosen : Domain → Bool) :
    (s.letAct act chosen).Running := by
  refine ⟨⟨?_, ?_⟩, ?_⟩
  · have hdomains : (s.letAct act chosen).tasks.map (·.domain) = s.tasks.map (·.domain) :=
      s.world.map_domain_letAct fun w t => (hsame w t).1
    rw [hdomains]
    exact h.orderly.nodup
  · intro t' ht'
    obtain ⟨t, ht, rfl | ⟨w, rfl⟩⟩ := World.mem_letAct ht'
    · exact h.orderly.sound t' ht
    · exact hsound w t (h.orderly.sound t ht)
  · intro t' ht'
    obtain ⟨t, ht, rfl | ⟨w, rfl⟩⟩ := World.mem_letAct ht'
    · exact h.held t' ht
    · exact (hsame w t).2.trans (h.held t ht)

/-- The task of a domain does what it has to do at this very moment. -/
def turn (c : Collaborators σ) (s : Service σ) (domain : Domain) : Service σ :=
  s.letAct (fun w t => w.settle c s.clock t) fun d => d = domain

end Service

/-- What can happen to a service that runs. -/
inductive Happening (σ : Type) where
  /-- time passes -/
  | advance (target : Nat)
  /-- one task takes its turn, and the time stays where it is -/
  | turn (domain : Domain)
  /-- somebody runs a single cycle and waits for it -/
  | cycle (domain : Domain)
  /-- somebody dispatches events -/
  | dispatch (events : List AlertEvent) (replies : Replies)
  /-- somebody changes the monitor -/
  | change (f : Monitor → Monitor)
  /-- the outside changes -/
  | outside (f : σ → σ)

namespace Service

variable {σ : Type} {s : Service σ}

/-- The service after something has happened. -/
def after (c : Collaborators σ) (s : Service σ) : Happening σ → Service σ
  | .advance target => s.advanceTo c target
  | .turn domain => s.turn c domain
  | .cycle domain => (s.runCycle c domain).1
  | .dispatch events replies => (s.dispatchNow c events replies).1
  | .change f => s.withMonitor f
  | .outside f => s.withOutside f

/-- The service after a history. -/
def afterAll (c : Collaborators σ) (s : Service σ) (history : List (Happening σ)) : Service σ :=
  history.foldl (after c) s

theorem Running.after (c : Collaborators σ) (h : s.Running) (happening : Happening σ) :
    (s.after c happening).Running := by
  cases happening with
  | advance target => exact h.advanceTo target
  | turn domain =>
    exact h.letAct (fun w t => w.settle_same s.clock t)
      (fun w t ht => World.sound_settle ht s.clock w) _
  | cycle domain => exact Running.awaitCycle _ (h.of_tasks_eq rfl)
  | dispatch events replies => exact h.of_tasks_eq rfl
  | change f => exact h.of_tasks_eq rfl
  | outside f => exact h.of_tasks_eq rfl

/-- **Any history** of a service that runs. -/
theorem Running.afterAll (c : Collaborators σ) (h : s.Running) (history : List (Happening σ)) :
    (s.afterAll c history).Running := by
  induction history generalizing s with
  | nil => exact h
  | cons happening history ih => exact ih (h.after c happening)

end Service

end HostWatch
