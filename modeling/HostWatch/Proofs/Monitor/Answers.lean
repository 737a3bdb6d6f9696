import HostWatch.Proofs.Monitor.SingleCycle
set_option autoImplicit false

/-!
# Monitor: single cycles whose answers are known

What a cycle of a watched domain does is settled by what the collaborators answer to its
calls, and nothing else about the outside matters: not how long the answers take, not how
many probes may be under way at a time, and not what the collaborators remember.
`Collaborators.Gives` says that the answers are those of a `Cycle`, and then a single cycle of
the service is the act of that cycle (`Service.runCycle_of_gives`).
-/

namespace HostWatch

namespace Collaborators

variable {σ : Type}

/-- One question to a collaborator of a watched domain: the outside afterwards and what comes
back.  An event is no question. -/
def reply (c : Collaborators σ) (o : σ) : Call → σ × Option Reply
  | .collect paths => ((c.collect o paths).1, (c.collect o paths).2.outcome.map .sampled)
  | .probe check => ((c.probe o check).1, (c.probe o check).2.outcome.map (.probed check))
  | .list names => ((c.list o names).1, (c.list o names).2.outcome.map .listed)
  | .deliver _ => (o, none)

/-- The calls, made one after the other, bring these replies. -/
def CallsGive (c : Collaborators σ) : σ → List (Call × Reply) → Prop
  | _, [] => True
  | o, (call, reply) :: rest =>
    (c.reply o call).2 = some reply ∧ c.CallsGive (c.reply o call).1 rest

/-- The probes of these checks, made one after the other, come out like this. -/
def ProbesGive (c : Collaborators σ) : σ → List (EndpointCheck × Except Fault EndpointResult) → Prop
  | _, [] => True
  | o, (check, outcome) :: rest =>
    (c.probe o check).2.outcome = some outcome ∧ c.ProbesGive (c.probe o check).1 rest

/-- The answers to the calls of the next cycle are those of a cycle of a watched domain. -/
def Gives (c : Collaborators σ) (o : σ) (config : MonitorConfig) : Cycle → Prop
  | .resources outcome => (c.collect o config.resources.diskPaths).2.outcome = some outcome
  | .endpoints outcomes => config.endpoints.checks = outcomes.map Prod.fst ∧ c.ProbesGive o outcomes
  | .containers outcome =>
    c.hasRuntime = true ∧ (c.list o config.containers.names).2.outcome = some outcome
  | .noRuntime => c.hasRuntime = false
  | .dispatch _ _ | .broken _ => False

end Collaborators

namespace Cycle

/-- The calls of a cycle of a watched domain, with what comes back. -/
def exchange (config : MonitorConfig) : Cycle → List (Call × Reply)
  | resources outcome => [(.collect config.resources.diskPaths, .sampled outcome)]
  | endpoints outcomes => outcomes.map fun o => (.probe o.1, .probed o.1 o.2)
  | containers outcome => [(.list config.containers.names, .listed outcome)]
  | noRuntime | dispatch _ _ | broken _ => []

end Cycle

namespace Collaborators

variable {σ : Type} {c : Collaborators σ}

theorem ProbesGive.callsGive {outcomes : List (EndpointCheck × Except Fault EndpointResult)} :
    ∀ {o : σ}, c.ProbesGive o outcomes →
      c.CallsGive o (outcomes.map fun p => (.probe p.1, .probed p.1 p.2)) := by
  induction outcomes with
  | nil =>
    intro o _
    trivial
  | cons p outcomes ih =>
    intro o ⟨hfirst, hrest⟩
    refine ⟨?_, ih hrest⟩
    show (c.probe o p.1).2.outcome.map _ = _
    rw [hfirst]
    rfl

theorem Gives.callsGive {o : σ} {config : MonitorConfig} {k : Cycle} (h : c.Gives o config k) :
    c.CallsGive o (k.exchange config) := by
  cases k with
  | resources outcome =>
    refine ⟨?_, trivial⟩
    show (c.collect o _).2.outcome.map _ = _
    rw [h]
    rfl
  | endpoints outcomes => exact ProbesGive.callsGive h.2
  | containers outcome =>
    refine ⟨?_, trivial⟩
    show (c.list o _).2.outcome.map _ = _
    rw [h.2]
    rfl
  | noRuntime => trivial
  | dispatch now replies => exact h.elim
  | broken d => exact h.elim

end Collaborators

namespace World

variable {σ : Type}

/-- A cycle begins with the calls that the answers are for, and nothing has come back. -/
theorem begin_of_gives {c : Collaborators σ} {w : World σ} {k : Cycle}
    (hgives : c.Gives w.outside w.monitor.config k) (now : Nat) :
    (w.begin c k.domain now).1.monitor = w.monitor ∧
      (w.begin c k.domain now).1.outside = w.outside ∧
      (w.begin c k.domain now).2.1.domain = k.domain ∧
      (w.begin c k.domain now).2.1.replies = [] ∧
      (w.begin c k.domain now).2.2 = (k.exchange w.monitor.config).map Prod.fst := by
  cases k with
  | resources outcome => exact ⟨rfl, rfl, rfl, rfl, rfl⟩
  | endpoints outcomes =>
    refine ⟨rfl, rfl, rfl, rfl, ?_⟩
    show w.monitor.config.endpoints.checks.map Call.probe = _
    rw [hgives.1, Cycle.exchange, List.map_map, List.map_map]
    rfl
  | containers outcome => exact ⟨rfl, rfl, rfl, rfl, if_pos hgives.1⟩
  | noRuntime => exact ⟨rfl, rfl, rfl, rfl, if_neg (Bool.eq_false_iff.1 hgives)⟩
  | dispatch time replies => exact hgives.elim
  | broken d => exact hgives.elim

theorem perform_of_reply (c : Collaborators σ) (w : World σ) (run : Run) {call : Call}
    {reply : Reply} (h : (c.reply w.outside call).2 = some reply) :
    ∃ takes, w.perform c run call =
      ({ w with outside := (c.reply w.outside call).1 }, takes, some reply) := by
  cases call with
  | collect paths => exact ⟨(c.collect w.outside paths).2.takes, by rw [← h]; rfl⟩
  | probe check => exact ⟨(c.probe w.outside check).2.takes, by rw [← h]; rfl⟩
  | list names => exact ⟨(c.list w.outside names).2.takes, by rw [← h]; rfl⟩
  | deliver event => cases h

theorem finish_conclude (w : World σ) (domain : Domain) (now : Nat) (r : Monitor × CycleReport) :
    (w.conclude domain now r).monitor = r.1 ∧
      Entry.lastCount domain (w.conclude domain now r).entries = r.2.queued.length := by
  refine ⟨rfl, ?_⟩
  show Entry.lastCount _ (World.note _ _).entries = _
  rw [entries_note, Entry.lastCount_finished]

/-- When all the replies of a cycle are there, it does what the act does. -/
theorem finish_of_replies {c : Collaborators σ} {o : σ} {k : Cycle} {w : World σ} {run : Run}
    (hgives : c.Gives o w.monitor.config k) (hrun : run.domain = k.domain)
    (hreplies : run.replies = (k.exchange w.monitor.config).map Prod.snd) (now : Nat) :
    (w.finish run now).monitor = (w.monitor.act (.cycle k)).1 ∧
      some (Entry.lastCount k.domain (w.finish run now).entries) =
        (w.monitor.act (.cycle k)).2.returned := by
  unfold World.finish
  rw [hrun]
  cases k with
  | resources outcome =>
    have hsampled : run.sampled? = some outcome := by
      rw [Run.sampled?, hreplies]
      rfl
    simp only [Cycle.domain, hsampled]
    obtain ⟨hmonitor, hcount⟩ :=
      w.finish_conclude .resources now (w.monitor.resourceCycle outcome)
    exact ⟨hmonitor, congrArg some hcount⟩
  | endpoints outcomes =>
    have hprobed : run.probed = outcomes := by
      rw [Run.probed, hreplies, Cycle.exchange, List.map_map, List.filterMap_map]
      exact List.filterMap_some
    simp only [Cycle.domain, hprobed]
    obtain ⟨hmonitor, hcount⟩ :=
      w.finish_conclude .endpoints now (w.monitor.endpointCycle outcomes)
    exact ⟨hmonitor, congrArg some hcount⟩
  | containers outcome =>
    have hlisted : run.listed? = some outcome := by
      rw [Run.listed?, hreplies]
      rfl
    simp only [Cycle.domain, hlisted]
    obtain ⟨hmonitor, hcount⟩ :=
      w.finish_conclude .containers now (w.monitor.containerCycle outcome)
    exact ⟨hmonitor, congrArg some hcount⟩
  | noRuntime =>
    have hlisted : run.listed? = none := by
      rw [Run.listed?, hreplies]
      rfl
    simp only [Cycle.domain, hlisted]
    refine ⟨rfl, ?_⟩
    rw [entries_note, Entry.lastCount_finished]
    rfl
  | dispatch time replies => exact hgives.elim
  | broken d => exact hgives.elim

end World

namespace Plan

variable {σ : Type}

/-- A cycle with known answers: some of them have come back, the others are still to come,
and the monitor waits for the last of them. -/
def given (c : Collaborators σ) (o : σ) (m : Monitor) (k : Cycle) (hgives : c.Gives o m.config k) :
    Plan c k.domain where
  underway w run todo :=
    w.monitor = m ∧ run.domain = k.domain ∧
      ∃ later, todo = later.map Prod.fst ∧ c.CallsGive w.outside later ∧
        run.replies ++ later.map Prod.snd = (k.exchange m.config).map Prod.snd
  settled answer w :=
    w.monitor = (m.act (.cycle k)).1 ∧ answer = (m.act (.cycle k)).2.returned
  perform := by
    intro w run call todo span ⟨hmonitor, hrun, later, htodo, hcalls, hreplies⟩
    cases later with
    | nil => cases htodo
    | cons p later =>
      obtain ⟨rfl, rfl⟩ := List.cons.inj htodo
      obtain ⟨hfirst, hrest⟩ := hcalls
      obtain ⟨takes, hperform⟩ := w.perform_of_reply c run hfirst
      rw [hperform]
      refine ⟨hmonitor, hrun, later, rfl, hrest, ?_⟩
      rw [← hreplies, Run.add, List.append_assoc]
      rfl
  finish := by
    intro w run now ⟨hmonitor, hrun, later, htodo, _, hreplies⟩
    rw [List.map_eq_nil_iff.1 htodo.symm, List.map_nil, List.append_nil] at hreplies
    subst hmonitor
    exact World.finish_of_replies hgives hrun hreplies now

end Plan

namespace Service

variable {σ : Type}

/-- **A cycle with known answers** is the act of that cycle: it leaves the monitor as the act
does, and it answers what the act returns. -/
theorem runCycle_of_gives {c : Collaborators σ} {s : Service σ} (hidle : s.tasks = []) {k : Cycle}
    (hgives : c.Gives s.world.outside s.world.monitor.config k) :
    (s.runCycle c k.domain).1.tasks = [] ∧
      (s.runCycle c k.domain).1.world.monitor = (s.world.monitor.act (.cycle k)).1 ∧
      (s.runCycle c k.domain).2 = (s.world.monitor.act (.cycle k)).2.returned := by
  obtain ⟨hmonitor, houtside, hdomain, hreplies, htodo⟩ := World.begin_of_gives hgives s.clock
  refine runCycle_holds (.given c s.world.outside s.world.monitor k hgives) hidle
    ⟨hmonitor, hdomain, k.exchange s.world.monitor.config, htodo, ?_, ?_⟩
  · rw [houtside]
    exact hgives.callsGive
  · rw [hreplies, List.nil_append]

end Service

end HostWatch
