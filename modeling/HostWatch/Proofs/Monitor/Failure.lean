import HostWatch.Proofs.Monitor.Answers
set_option autoImplicit false

/-!
# Monitor: collaborators that fail

A cycle writes its history before it takes its findings into the book and queues the events,
so a failure that came to light on the way would leave half a cycle behind.  None does: all
the answers are there before the first effect.  A collection or a listing that fails is no cycle
at all, and a probe that could not be made is as if its check were not configured
(`Service.runCycle_of_failures`).
-/

namespace HostWatch

namespace Monitor

/-- The monitor with other endpoint checks in its configuration. -/
def withChecks (m : Monitor) (checks : List EndpointCheck) : Monitor :=
  { m with config := { m.config with endpoints := { m.config.endpoints with checks } } }

variable (m : Monitor) (checks : List EndpointCheck) (caused : List AlertEvent)

theorem apply_withChecks (e : Effect) :
    (m.withChecks checks).apply caused e =
      ((m.apply caused e).1.withChecks checks, (m.apply caused e).2) := by
  cases e with
  | record batch => cases batch <;> rfl
  | observe f => rfl
  | enqueue => rfl

/-- **Effects** do the same whatever is configured. -/
theorem applyAll_withChecks (effects : List Effect) :
    (m.withChecks checks).applyAll caused effects =
      ((m.applyAll caused effects).1.withChecks checks, (m.applyAll caused effects).2) := by
  induction effects generalizing m caused with
  | nil => rfl
  | cons e es ih => rw [applyAll, apply_withChecks, ih, applyAll]

end Monitor

namespace Effect

/-- The outcomes of probes that could be made. -/
def made (outcomes : List (EndpointCheck × Except Fault EndpointResult)) :
    List (EndpointCheck × Except Fault EndpointResult) :=
  outcomes.filter fun o => o.2.isOk

theorem results_made (outcomes : List (EndpointCheck × Except Fault EndpointResult)) :
    results (made outcomes) = results outcomes := by
  induction outcomes with
  | nil => rfl
  | cons o outcomes ih =>
    obtain ⟨check, outcome⟩ := o
    cases outcome with
    | error fault => exact ih
    | ok r => exact congrArg (r :: ·) ih

end Effect

namespace Service

variable {σ : Type}

/-- A cycle of the domain leaves everything that the monitor remembers as it is, and queues
nothing. -/
def Skips (c : Collaborators σ) (s : Service σ) (domain : Domain) : Prop :=
  (s.runCycle c domain).1.world.monitor = s.world.monitor ∧ (s.runCycle c domain).2 = some 0

theorem skips_of_gives {c : Collaborators σ} {s : Service σ} (hidle : s.tasks = []) {k : Cycle}
    (hgives : c.Gives s.world.outside s.world.monitor.config k)
    (hmonitor : (s.world.monitor.act (.cycle k)).1 = s.world.monitor)
    (hreturned : (s.world.monitor.act (.cycle k)).2.returned = some 0) : s.Skips c k.domain := by
  obtain ⟨_, hrun, hanswer⟩ := runCycle_of_gives hidle hgives
  exact ⟨hrun.trans hmonitor, hanswer.trans hreturned⟩

/-- A container cycle is skipped if its listing fails or cannot be asked for. -/
theorem skips_containers {c : Collaborators σ} {s : Service σ} (hidle : s.tasks = [])
    (h : c.hasRuntime = false ∨ ∃ fault,
      (c.list s.world.outside s.world.monitor.config.containers.names).2.outcome =
        some (.error fault)) :
    s.Skips c .containers := by
  cases hruntime : c.hasRuntime with
  | false => exact skips_of_gives (k := .noRuntime) hidle hruntime rfl rfl
  | true =>
    rcases h with h | ⟨fault, h⟩
    · rw [hruntime] at h
      cases h
    · exact skips_of_gives (k := .containers (.error fault)) hidle ⟨hruntime, h⟩ rfl rfl

/-- **Failures are atomic.**  In every state a collection that fails, a listing that fails and
a missing container runtime leave everything that the monitor remembers as it is, and the
cycle queues nothing; so does an endpoint cycle without a probe that could be made.  An
endpoint cycle leaves the same state, and queues the same number of events, as one of a
service that does not have the checks whose probes could not be made, whatever else
distinguishes the two outsides.  The services have no tasks, so that the cycle alone is at
work on the monitor. -/
theorem runCycle_of_failures (c : Collaborators σ) (s : Service σ) (hidle : s.tasks = []) :
    let m := s.world.monitor
    (∀ fault, (c.collect s.world.outside m.config.resources.diskPaths).2.outcome =
        some (.error fault) → s.Skips c .resources) ∧
      (∀ fault, (c.list s.world.outside m.config.containers.names).2.outcome =
        some (.error fault) → s.Skips c .containers) ∧
      (c.hasRuntime = false → s.Skips c .containers) ∧
      ∀ outcomes, m.config.endpoints.checks = outcomes.map Prod.fst →
        c.ProbesGive s.world.outside outcomes →
        let left := Effect.made outcomes
        (left = [] → s.Skips c .endpoints) ∧
          ∀ {σ' : Type} (c' : Collaborators σ') (s' : Service σ'), s'.tasks = [] →
            s'.world.monitor = m.withChecks (left.map Prod.fst) →
            c'.ProbesGive s'.world.outside left →
            (s'.runCycle c' .endpoints).1.world.monitor =
                (s.runCycle c .endpoints).1.world.monitor.withChecks (left.map Prod.fst) ∧
              (s'.runCycle c' .endpoints).2 = (s.runCycle c .endpoints).2 := by
  intro m
  refine ⟨?_, ?_, fun h => skips_containers hidle (.inl h), ?_⟩
  · intro fault h
    exact skips_of_gives (k := .resources (.error fault)) hidle h rfl rfl
  · intro fault h
    exact skips_containers hidle (.inr ⟨fault, h⟩)
  intro outcomes hchecks hprobes left
  have hgives : c.Gives s.world.outside m.config (.endpoints outcomes) := ⟨hchecks, hprobes⟩
  obtain ⟨_, hrun, hanswer⟩ := runCycle_of_gives hidle hgives
  have heffects : Effect.ofEndpoints left = Effect.ofEndpoints outcomes := by
    rw [Effect.ofEndpoints, Effect.results_made, Effect.ofEndpoints]
  constructor
  · intro hnone
    have hnothing : Effect.ofEndpoints outcomes = [] := by
      rw [← heffects, hnone]
      rfl
    refine skips_of_gives (k := .endpoints outcomes) hidle hgives ?_ ?_
    · show (m.applyAll [] (Effect.ofEndpoints outcomes)).1 = m
      rw [hnothing]
      rfl
    · show some (m.applyAll [] (Effect.ofEndpoints outcomes)).2.length = some 0
      rw [hnothing]
      rfl
  · intro σ' c' s' hidle' hmonitor' hprobes'
    have hgives' : c'.Gives s'.world.outside s'.world.monitor.config (.endpoints left) := by
      rw [hmonitor']
      exact ⟨rfl, hprobes'⟩
    obtain ⟨_, hrun', hanswer'⟩ := runCycle_of_gives hidle' hgives'
    have hsame := m.applyAll_withChecks (left.map Prod.fst) [] (Effect.ofEndpoints outcomes)
    constructor
    · refine hrun'.trans ?_
      show (s'.world.monitor.applyAll [] (Effect.ofEndpoints left)).1 = _
      rw [hmonitor', heffects, hsame, show (s.runCycle c .endpoints).1.world.monitor = _ from hrun]
      rfl
    · refine hanswer'.trans (Eq.trans ?_ hanswer.symm)
      show some (s'.world.monitor.applyAll [] (Effect.ofEndpoints left)).2.length = _
      rw [hmonitor', heffects, hsame]
      rfl

/-- Of two probes the first cannot be made, the collection fails, and there is no container
runtime: the state is that of a service which only makes the second probe. -/
theorem runCycle_of_failures_unreachable :
    let web : EndpointResult := ⟨"web", "http://web", some 500, 5, false, none, ⟨0, 0⟩⟩
    let c : Collaborators Unit :=
      { collect := fun o _ => (o, ⟨0, some (.error (.collection "no /proc"))⟩)
        probe := fun o check =>
          (o, ⟨5, some (if check.name = "db" then .error (.probe "no route") else .ok web)⟩)
        hasRuntime := false
        ready := fun _ => .ok ()
        list := fun o _ => (o, ⟨0, some (.error (.containers "no runtime"))⟩)
        deliver := fun o _ => (o, ⟨0, fun _ => .given none⟩)
        wallClock := fun _ => ⟨0, 0⟩ }
    let checks : List EndpointCheck := [.initial "db" "http://db", .initial "web" "http://web"]
    let m : Monitor := (Monitor.new .initial [] ⟨0, 0⟩).withChecks checks
    let s : Service Unit := .new m () 0
    let s' : Service Unit := .new (m.withChecks [.initial "web" "http://web"]) () 0
    s.Skips c .resources ∧ s.Skips c .containers ∧
      (s'.runCycle c .endpoints).1.world.monitor =
          (s.runCycle c .endpoints).1.world.monitor.withChecks [.initial "web" "http://web"] ∧
        (s'.runCycle c .endpoints).2 = (s.runCycle c .endpoints).2 := by
  intro web c checks m s s'
  obtain ⟨hresources, _, hruntime, hendpoints⟩ := runCycle_of_failures c s rfl
  obtain ⟨_, hsame⟩ := hendpoints
    [(.initial "db" "http://db", .error (.probe "no route")),
      (.initial "web" "http://web", .ok web)]
    rfl ⟨rfl, rfl, trivial⟩
  exact ⟨hresources _ rfl, hruntime rfl, hsame c s' rfl rfl ⟨rfl, trivial⟩⟩

end Service

end HostWatch
