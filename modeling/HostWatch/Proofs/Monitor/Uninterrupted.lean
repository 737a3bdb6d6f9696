import HostWatch.Proofs.Monitor.Interleaving
set_option autoImplicit false

/-!
# Monitor: cycles that nobody interrupts

A worker that is given one turn after the other, until its cycle is over, does what the
monitor does in that cycle (`Crew.turns_cycle`).  So what the monitor does cycle by cycle is
one of the interleavings of these cycles (`Crew.exists_serial`), and by
`Crew.domains_independent` all others come to the same for the watched domains.
-/

namespace HostWatch

open HostWatch.Time (Instant)

namespace Crew

variable {c c' : Crew} {d : Domain} {m : Monitor} {kept drained : List AlertEvent}
  {rest : List Stage} {returned : List Nat}

/-- Some turns of one domain lead from a crew to another. -/
def Turns (d : Domain) (c c' : Crew) : Prop := ∃ n, c.run (List.replicate n d) = c'

theorem turns_nil {w : Worker} (h : c.worker d = w) :
    Turns d c (c.after d (c.monitor, w, [])) := by
  refine ⟨0, ?_⟩
  rw [after, ← h, Function.update_eq_self, List.append_nil]
  rfl

namespace Turns

theorem stage {s : Stage}
    (h : Turns d c (c'.after d (m, ⟨s :: rest, kept, returned⟩, drained))) :
    let r := s.perform m ⟨rest, kept, returned⟩
    Turns d c (c'.after d (r.1, r.2.1, drained ++ r.2.2)) := by
  intro r
  obtain ⟨n, hn⟩ := h
  refine ⟨n + 1, ?_⟩
  have htodo : ((c'.after d (m, ⟨s :: rest, kept, returned⟩, drained)).worker d).todo =
      s :: rest := by
    rw [worker_after_self]
  have hturn : (c'.after d (m, ⟨s :: rest, kept, returned⟩, drained)).turn d =
      c'.after d (r.1, r.2.1, drained ++ r.2.2) := by
    rw [turn_of_todo htodo, worker_after_self]
    simp only [after, Function.update_idem, List.append_assoc]
    rfl
  rw [List.replicate_add, run_append, hn]
  exact hturn

theorem effects (es : List Effect) :
    ∀ {m : Monitor} {kept : List AlertEvent},
      Turns d c (c'.after d (m, ⟨es.map .effect ++ rest, kept, returned⟩, drained)) →
      Turns d c (c'.after d
        ((m.applyAll kept es).1, ⟨rest, (m.applyAll kept es).2, returned⟩, drained)) := by
  induction es with
  | nil =>
    intro m kept h
    exact h
  | cons e es ih =>
    intro m kept h
    have hfirst := h.stage
    simp only [Stage.perform, List.append_nil] at hfirst
    exact ih hfirst

theorem handles (now : Instant) (replies : Replies) (events : List AlertEvent) :
    ∀ {m : Monitor} {position : Nat},
      Turns d c (c'.after d
        (m, ⟨Stage.handles now replies position events ++ rest, kept, returned⟩, drained)) →
      Turns d c (c'.after d
        ({ m with dispatcher := (m.dispatcher.handleAll now replies position events).1 },
          ⟨rest, kept, returned⟩, drained)) := by
  induction events with
  | nil =>
    intro m position h
    exact h
  | cons e events ih =>
    intro m position h
    have hfirst := h.stage
    simp only [Stage.perform, List.append_nil] at hfirst
    exact ih hfirst

theorem finish (h : Turns d c (c'.after d (m, ⟨.finish :: rest, kept, returned⟩, drained))) :
    Turns d c (c'.after d (m, ⟨rest, [], returned ++ [kept.length]⟩, drained)) := by
  have hlast := h.stage
  simp only [Stage.perform, List.append_nil] at hlast
  exact hlast

end Turns

theorem turns_ofEffects (es : List Effect)
    (h : c.worker d = ⟨Stage.ofEffects es ++ rest, [], returned⟩) :
    let r := c.monitor.applyAll [] es
    Turns d c (c.after d (r.1, ⟨rest, [], returned ++ [r.2.length]⟩, [])) := by
  rw [Stage.ofEffects, List.append_assoc] at h
  exact ((turns_nil h).effects es).finish

theorem turns_dispatch (now : Instant) (replies : Replies)
    (h : c.worker d =
      ⟨.drain :: .archive :: .dispatch now replies :: .finish :: rest, [], returned⟩) :
    let r := c.monitor.dispatchCycle now replies
    Turns d c (c.after d
      (r.1, ⟨rest, [], returned ++ [r.2.drained.length]⟩, r.2.drained)) := by
  intro r
  have hdispatch := (turns_nil h).stage.stage.stage
  simp only [Stage.perform, List.append_nil, List.nil_append] at hdispatch
  have hcycle : r.1 = { c.monitor.takePending.1 with
      dispatcher := (c.monitor.dispatcher.handleAll now replies 0
        (if c.monitor.dispatcher.enabled then c.monitor.pending.toList else [])).1 } := by
    show { c.monitor.takePending.1 with
      dispatcher := (c.monitor.dispatcher.dispatch c.monitor.pending.toList now replies).1 } = _
    rw [Dispatcher.dispatch]
    split
    · rfl
    · rfl
  rw [hcycle]
  exact (hdispatch.handles now replies _).finish

/-- **A whole cycle** of a worker is the cycle of the monitor. -/
theorem turns_cycle (k : Cycle)
    (h : c.worker k.domain =
      ⟨Stage.ofCycle c.monitor.config.resources k ++ rest, [], returned⟩) :
    let r := c.monitor.act (.cycle k)
    Turns k.domain c (c.after k.domain
      (r.1, ⟨rest, [], returned ++ r.2.returned.toList⟩, r.2.drained)) := by
  intro r
  cases k with
  | resources outcome => exact turns_ofEffects _ h
  | endpoints outcomes => exact turns_ofEffects _ h
  | containers outcome => exact turns_ofEffects _ h
  | noRuntime => exact turns_ofEffects [] h
  | dispatch now replies => exact turns_dispatch now replies h
  | broken d =>
    have hnothing := turns_nil h
    rw [show r = (c.monitor, ⟨[], [], [], none⟩) from rfl, Option.toList_none, List.append_nil]
    exact hnothing

/-- What the cycles of a domain returned, in their order. -/
def returnsOf (d : Domain) (cycles : List Cycle) (movements : List Movement) : List Nat :=
  (cycles.zip movements).flatMap fun p => if p.1.domain = d then p.2.returned.toList else []

/-- **Cycles one at a time** are one of their interleavings: some schedule ends with the
monitor, and with the returned numbers, that the whole cycles come to. -/
theorem exists_serial (m : Monitor) (cycles : List Cycle) :
    let played := m.play (cycles.map .cycle)
    ∃ schedule, (start m cycles).run schedule =
      ⟨played.1, fun d => ⟨[], [], returnsOf d cycles played.2⟩,
        played.2.flatMap (·.drained)⟩ := by
  -- In the induction the workers have already done some cycles.
  suffices hfrom : ∀ (c : Crew) (returned : Domain → List Nat),
      (∀ d, c.worker d = ⟨(cycles.filter fun k => k.domain = d).flatMap
        (Stage.ofCycle c.monitor.config.resources), [], returned d⟩) →
      ∃ schedule, c.run schedule =
        ⟨(c.monitor.play (cycles.map .cycle)).1,
          fun d => ⟨[], [], returned d ++
            returnsOf d cycles (c.monitor.play (cycles.map .cycle)).2⟩,
          c.drained ++ (c.monitor.play (cycles.map .cycle)).2.flatMap (·.drained)⟩ by
    exact hfrom (start m cycles) (fun _ => []) fun _ => rfl
  induction cycles with
  | nil =>
    intro c returned hworkers
    refine ⟨[], ?_⟩
    have hworker : c.worker = fun d => ⟨[], [], returned d ++ []⟩ := by
      funext d
      rw [hworkers d, List.append_nil]
      rfl
    show c = ⟨c.monitor, fun d => ⟨[], [], returned d ++ []⟩, c.drained ++ []⟩
    rw [← hworker, List.append_nil]
  | cons k cycles ih =>
    intro c returned hworkers
    let r := c.monitor.act (.cycle k)
    let returned' : Domain → List Nat :=
      fun d => returned d ++ if k.domain = d then r.2.returned.toList else []
    have hcycle : c.worker k.domain =
        ⟨Stage.ofCycle c.monitor.config.resources k ++
          (cycles.filter fun k' => k'.domain = k.domain).flatMap
            (Stage.ofCycle c.monitor.config.resources), [], returned k.domain⟩ := by
      rw [hworkers, List.filter_cons_of_pos (by simp), List.flatMap_cons]
    obtain ⟨n, hn⟩ := turns_cycle k hcycle
    have hconfig : r.1.config = c.monitor.config :=
      (Monitor.moves_act c.monitor (.cycle k)).config_eq
    have hrest : ∀ d, (c.run (List.replicate n k.domain)).worker d =
        ⟨(cycles.filter fun k => k.domain = d).flatMap (Stage.ofCycle r.1.config.resources),
          [], returned' d⟩ := by
      intro d
      rw [hn, hconfig]
      by_cases hd : k.domain = d
      · subst hd
        rw [worker_after_self]
        simp only [returned', if_true]
        rfl
      · rw [worker_after_of_ne c (Ne.symm hd), hworkers,
          List.filter_cons_of_neg (by simpa using hd)]
        simp only [returned', if_neg hd, List.append_nil]
    have hmonitor : (c.run (List.replicate n k.domain)).monitor = r.1 := by
      rw [hn]
      rfl
    obtain ⟨schedule, hschedule⟩ := ih (c.run (List.replicate n k.domain)) returned' <| by
      rw [hmonitor]
      exact hrest
    refine ⟨List.replicate n k.domain ++ schedule, ?_⟩
    rw [run_append, hschedule, hmonitor, hn]
    simp only [after, List.append_assoc, returned', r]
    rfl

end Crew

end HostWatch
