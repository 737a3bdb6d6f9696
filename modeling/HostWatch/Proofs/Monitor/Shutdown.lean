import HostWatch.Proofs.Monitor.Carrying
set_option autoImplicit false

/-!
# Monitor: what a shutdown lets happen

A shutdown may come at any moment, while any tasks wait or have cycles under way.  The cycles
under way are carried to their end: each makes all the calls that it still had to make, and has
the effects that it would have had without the shutdown, at the same times
(`Service.Running.endsAlike_shutdown`).  A task that waits begins a cycle only if its ticker was
due at that moment, and if it looked at the ticker before it looked at the signal.  After the
shutdown nothing happens any more.
-/

namespace HostWatch

/-! ## What the journal says about beginnings -/

namespace Entry

/-- The cycles that began, with their times. -/
def beginnings (journal : List Entry) : List (Domain × Nat) :=
  journal.filterMap fun
    | .began d time => some (d, time)
    | _ => none

theorem beginnings_append (earlier later : List Entry) :
    beginnings (earlier ++ later) = beginnings earlier ++ beginnings later :=
  List.filterMap_append

@[simp] theorem beginnings_logged (lines : List LogLine) :
    beginnings (lines.map .logged) = [] := by
  unfold beginnings
  rw [List.filterMap_map, List.filterMap_eq_nil_iff]
  intro _ _
  rfl

end Entry

namespace World

variable {σ : Type} {c : Collaborators σ} {now : Nat} {run : Run} {todo : List Call} {t : Task}

theorem beginnings_perform (c : Collaborators σ) (w : World σ) (run : Run) (call : Call) :
    Entry.beginnings (w.perform c run call).1.entries = Entry.beginnings w.entries := by
  rcases w.entries_perform c run call with hsame | ⟨h, lines, hmore⟩
  · rw [hsame]
  · have hnone : Entry.beginnings (.handled h :: List.map Entry.logged lines) = [] :=
      Entry.beginnings_logged lines
    rw [hmore, Entry.beginnings_append, hnone, List.append_nil]

theorem beginnings_log (w : World σ) (lines : List LogLine) :
    Entry.beginnings (w.log lines).entries = Entry.beginnings w.entries := by
  rw [log, entries_note, Entry.beginnings_append, Entry.beginnings_logged, List.append_nil]

theorem beginnings_pursue (now : Nat) (w : World σ) (run : Run) (todo : List Call) :
    Entry.beginnings (w.pursue c now run todo).1.entries = Entry.beginnings w.entries := by
  induction todo generalizing w run with
  | nil =>
    unfold pursue
    split
    · obtain ⟨_, _, lines, hentries⟩ := w.finish_spec run now
      rw [hentries, Entry.beginnings_append, Entry.beginnings_append, Entry.beginnings_logged]
      exact List.append_nil _
    · rfl
  | cons call todo ih =>
    by_cases hslot : run.slot ≤ now
    · have hworld := w.beginnings_perform c run call
      rcases hperform : w.perform c run call with ⟨w', takes, _ | reply⟩
      · rw [hperform] at hworld
        rw [pursue_broken hslot hperform, entries_note, Entry.beginnings_append, hworld]
        exact List.append_nil _
      · rw [hperform] at hworld
        rw [pursue_answered hslot hperform, ih, entries_note, Entry.beginnings_append, hworld]
        exact List.append_nil _
    · rw [pursue_early hslot]

theorem beginnings_begin (c : Collaborators σ) (w : World σ) (d : Domain) (now : Nat) :
    Entry.beginnings (w.begin c d now).1.entries = Entry.beginnings w.entries ++ [(d, now)] := by
  have hbegan : Entry.beginnings (w.note [.began d now]).entries =
      Entry.beginnings w.entries ++ [(d, now)] := by
    rw [entries_note, Entry.beginnings_append]
    rfl
  cases d with
  | resources => exact hbegan
  | endpoints => exact hbegan
  | containers => exact hbegan
  | dispatch => exact (beginnings_log _ _).trans hbegan

end World

/-! ## The moment of the signal -/

/-- The task waits, and its ticker is due. -/
def Task.isReady (now : Nat) (t : Task) : Bool :=
  match t.phase with
  | .waiting => t.ticker.due ≤ now
  | _ => false

namespace World

variable {σ : Type} {c : Collaborators σ} {now : Nat} {t : Task}

theorem beginnings_wake (c : Collaborators σ) (now : Nat) (hheld : t.standing = .held)
    (w : World σ) :
    Entry.beginnings (w.wake c now t).1.entries =
      Entry.beginnings w.entries ++ if t.isReady now then [(t.domain, now)] else [] := by
  have hstays : t.isLeaving = false := by
    rw [Task.isLeaving, hheld]
    rfl
  unfold wake Task.isReady
  cases hphase : t.phase with
  | waiting =>
    by_cases hdue : t.ticker.due ≤ now
    · simp only [hstays, hdue, Bool.false_eq_true, if_true, if_false, decide_true]
      rw [beginnings_pursue, beginnings_begin]
    · simp [hstays, hdue]
  | busy run todo => exact (List.append_nil _).symm
  | ended => exact (List.append_nil _).symm
  | broken => exact (List.append_nil _).symm

/-- Among the tasks that wake, those that are ready begin a cycle. -/
theorem beginnings_letAct_wake {ts : List Task} (hheld : ∀ t ∈ ts, t.standing = .held)
    (chosen : Domain → Bool) (w : World σ) :
    Entry.beginnings (w.letAct (fun w t => w.wake c now t) chosen ts).1.entries =
      Entry.beginnings w.entries ++
        (ts.filter fun t => chosen t.domain && t.isReady now).map fun t => (t.domain, now) := by
  induction ts generalizing w with
  | nil => exact (List.append_nil _).symm
  | cons t ts ih =>
    obtain ⟨hfirst, hrest⟩ := List.forall_mem_cons.1 hheld
    unfold letAct
    rw [ih hrest]
    cases hchosen : chosen t.domain with
    | false => simp [hchosen]
    | true =>
      have hwoken := w.beginnings_wake c now hfirst
      simp only [if_true, hwoken, List.append_assoc]
      cases hready : t.isReady now <;> simp [hchosen, hready]

end World

namespace Service

variable {σ : Type} {s : Service σ}

/-- The moment of the signal.  A task whose ticker is due may look at the ticker before it looks
at the signal; these are the tasks of the domains that win the race. -/
def race (c : Collaborators σ) (s : Service σ) (wins : Domain → Bool) : Service σ :=
  s.letAct (fun w t => w.wake c s.clock t) wins

theorem Running.race (h : s.Running) (c : Collaborators σ) (wins : Domain → Bool) :
    (s.race c wins).Running :=
  h.letAct (fun w t => w.wake_same s.clock t) (fun w _ ht => World.sound_wake ht s.clock w) wins

/-- **Cycles begin** in the race only, and only those of tasks that are ready. -/
theorem Running.beginnings_race (h : s.Running) (c : Collaborators σ) (wins : Domain → Bool) :
    Entry.beginnings (s.race c wins).world.entries = Entry.beginnings s.world.entries ++
      (s.tasks.filter fun t => wins t.domain && t.isReady s.clock).map
        fun t => (t.domain, s.clock) :=
  World.beginnings_letAct_wake h.held wins s.world

theorem stands_race {d : Domain} {run : Run} {todo : List Call} (c : Collaborators σ)
    (wins : Domain → Bool) (h : s.Stands d (.busy run todo)) :
    (s.race c wins).Stands d (.busy run todo) := by
  obtain ⟨t, ht, hdomain, hphase⟩ := h
  have hstill : ∀ w : World σ, (w.wake c s.clock t).2 = t := by
    intro w
    rw [World.wake, hphase]
  exact ⟨t, World.mem_letAct_of_still ht hstill _, hdomain, hphase⟩

theorem Running.alikeFor_race {τ : Type} {part : σ → τ} {d : Domain} {run : Run}
    {todo : List Call} {c : Collaborators σ} (hs : s.Running) (hc : c.Spares d part)
    (h : s.Stands d (.busy run todo)) (wins : Domain → Bool) :
    (s.race c wins).world.AlikeFor d part s.world := by
  obtain ⟨t, ht, rfl, hphase⟩ := h
  refine World.letAct_keeps (P := fun w => w.AlikeFor t.domain part s.world) ?_
    (s.world.alikeFor_refl _ _)
  intro t' ht' w hw
  by_cases hsame : t'.domain = t.domain
  · obtain rfl : t' = t := List.inj_on_of_nodup_map hs.orderly.nodup ht' ht hsame
    rw [World.wake, hphase]
    exact hw
  · exact (World.alikeFor_wake hc hsame s.clock w).trans hw

end Service

/-! ## The same cycle alone -/

namespace Service

variable {σ : Type} {c : Collaborators σ} {s : Service σ}

section Alone

variable {τ : Type} {d : Domain} {part : σ → τ} {a : Service σ} {fuel : Nat} {phase : Phase}
  {run : Run} {todo : List Call} {due : Nat}

/-- Waiting for a cycle alone: it goes on when it is due. -/
theorem awaitCycle_busy (hidle : a.tasks = [])
    (hdue : (Phase.busy run todo).nextEvent? = some due) :
    let r := a.world.pursue c (max a.clock due) run todo
    awaitCycle c (fuel + 1) a (.busy run todo) =
      awaitCycle c fuel ⟨r.1, a.tasks, max a.clock due⟩ r.2 := by
  simp only [awaitCycle, hdue, advanceTo_of_idle c hidle]

theorem awaitCycle_over (hover : phase.remaining = 0) :
    awaitCycle c fuel a phase = (a, phase) := by
  cases phase with
  | busy run todo => exact absurd hover (Nat.succ_ne_zero _)
  | waiting => cases fuel <;> rfl
  | ended => cases fuel <;> rfl
  | broken => cases fuel <;> rfl

theorem clock_le_awaitCycle (hidle : a.tasks = []) :
    a.clock ≤ (awaitCycle c fuel a phase).1.clock := by
  induction fuel generalizing a phase with
  | zero => exact Nat.le_refl _
  | succ fuel ih =>
    by_cases hover : phase.remaining = 0
    · rw [awaitCycle_over hover]
    · obtain ⟨run, todo, rfl⟩ := Phase.exists_busy hover
      obtain ⟨due, hdue⟩ := Phase.exists_nextEvent run todo
      rw [awaitCycle_busy hidle hdue]
      exact Nat.le_trans (Nat.le_max_left _ _)
        (ih (a := ⟨_, a.tasks, max a.clock due⟩) hidle)

/-- A cycle under way goes on as the same cycle does in a service without tasks, which comes to
`last` in the end. -/
structure Matches (c : Collaborators σ) (d : Domain) (part : σ → τ) (base : List AlertEvent)
    (last : Service σ × Phase) (fuel : Nat) (a : Service σ) (front : Nat) (w : World σ)
    (phase : Phase) : Prop where
  idle : a.tasks = []
  rest : awaitCycle c fuel a phase = last
  enough : phase.remaining ≤ fuel
  own : phase.Of d
  alike : w.AlikeFor d part a.world
  front_eq : ∀ due, phase.nextEvent? = some due → max front due = max a.clock due
  queue_eq : phase.remaining ≠ 0 → a.world.monitor.pending.toList = base

namespace Matches

variable {base : List AlertEvent} {last : Service σ × Phase} {front : Nat} {w w' : World σ}

theorem last_eq (h : Matches c d part base last fuel a front w phase)
    (hover : phase.remaining = 0) : last = (a, phase) :=
  h.rest.symm.trans (awaitCycle_over hover)

theorem clock_le (h : Matches c d part base last fuel a front w phase) :
    a.clock ≤ last.1.clock := by
  rw [← h.rest]
  exact clock_le_awaitCycle h.idle

/-- **The cycle goes on**, and so does the cycle alone, at the same time.  Both push the same
events. -/
theorem go (h : Matches c d part base last fuel a front w (.busy run todo))
    (hc : c.Separates d part) (hdue : (Phase.busy run todo).nextEvent? = some due) :
    let now := max front due
    let r := w.pursue c now run todo
    ∃ fuel' a' pushed, Matches c d part base last fuel' a' now r.1 r.2 ∧ a'.clock = now ∧
      r.1.monitor.pending.toList = w.monitor.pending.toList ++ pushed ∧
      a'.world.monitor.pending.toList = base ++ pushed := by
  intro now r
  have hnow : now = max a.clock due := h.front_eq due hdue
  obtain ⟨halike, hphase, pushed, hpushed, hpushed', hnone⟩ := h.alike.pursue hc h.own now
  have hless : r.2.remaining < todo.length + 1 :=
    w.remaining_pursue_lt c now hdue (Nat.le_max_right _ _)
  have henough : todo.length + 1 ≤ fuel := h.enough
  obtain ⟨fuel, rfl⟩ : ∃ fuel', fuel = fuel' + 1 := ⟨fuel - 1, by omega⟩
  have hrest := h.rest
  rw [awaitCycle_busy h.idle hdue, ← hnow, ← hphase] at hrest
  rw [h.queue_eq (Nat.succ_ne_zero _)] at hpushed'
  have hqueue : r.2.remaining ≠ 0 →
      (a.world.pursue c now run todo).1.monitor.pending.toList = base := by
    intro hbusy
    rw [hpushed', hnone hbusy, List.append_nil]
  exact ⟨fuel, ⟨(a.world.pursue c now run todo).1, a.tasks, now⟩, pushed,
    ⟨h.idle, hrest, Nat.le_of_lt_succ (Nat.lt_of_lt_of_le hless henough),
      World.of_pursue h.own now w, halike, fun _ _ => rfl, hqueue⟩, rfl, hpushed, hpushed'⟩

theorem lt_clock (h : Matches c d part base last fuel a front w phase)
    (hbusy : phase.remaining ≠ 0) {now : Nat}
    (hlater : ∀ due, phase.nextEvent? = some due → now < due) : now < last.1.clock := by
  obtain ⟨run, todo, rfl⟩ := Phase.exists_busy hbusy
  obtain ⟨due, hdue⟩ := Phase.exists_nextEvent run todo
  have hlt : now < due := hlater due hdue
  have henough : todo.length + 1 ≤ fuel := h.enough
  obtain ⟨fuel, rfl⟩ : ∃ fuel', fuel = fuel' + 1 := ⟨fuel - 1, by omega⟩
  have hrest := h.rest
  rw [awaitCycle_busy h.idle hdue] at hrest
  have hle : max a.clock due ≤ last.1.clock := by
    rw [← hrest]
    exact clock_le_awaitCycle (a := ⟨_, a.tasks, max a.clock due⟩) h.idle
  omega

/-- A step before the end of the cycle alone is not the last one. -/
theorem go_before (h : Matches c d part base last fuel a front w (.busy run todo))
    (hc : c.Separates d part) (hdue : (Phase.busy run todo).nextEvent? = some due)
    (hlt : max front due < last.1.clock) :
    let r := w.pursue c (max front due) run todo
    (∃ fuel' a', Matches c d part base last fuel' a' (max front due) r.1 r.2) ∧
      ∃ run' todo', r.2 = .busy run' todo' := by
  obtain ⟨fuel', a', _, h', hclock, _⟩ := h.go hc hdue
  refine ⟨⟨fuel', a', h'⟩, Phase.exists_busy fun hover => ?_⟩
  have hlast : last.1.clock = a'.clock := by
    rw [h'.last_eq hover]
  omega

/-- A step at the end of the cycle alone is the last one, since any other would be followed by a
later one. -/
theorem go_last (h : Matches c d part base last fuel a last.1.clock w (.busy run todo))
    (hc : c.Separates d part) :
    let r := w.pursue c last.1.clock run todo
    r.2.remaining = 0 ∧ r.1.AlikeFor d part last.1.world ∧
      ∃ pushed, r.1.monitor.pending.toList = w.monitor.pending.toList ++ pushed ∧
        last.1.world.monitor.pending.toList = base ++ pushed := by
  obtain ⟨due, hdue⟩ := Phase.exists_nextEvent run todo
  obtain ⟨fuel', a', pushed, h', hclock, hpushed, hqueue⟩ := h.go hc hdue
  have hle : a'.clock ≤ last.1.clock := h'.clock_le
  have hnow : max last.1.clock due = last.1.clock := by omega
  rw [hnow] at h' hpushed
  have hover : (w.pursue c last.1.clock run todo).2.remaining = 0 := by
    by_contra hbusy
    exact Nat.lt_irrefl _ (h'.lt_clock hbusy fun _ => w.lt_nextEvent_pursue)
  have hlast : last.1 = a' := congrArg Prod.fst (h'.last_eq hover)
  refine ⟨hover, ?_, pushed, hpushed, ?_⟩
  · rw [hlast] at h' ⊢
    exact h'.alike
  · rw [hlast]
    exact hqueue

theorem other {t : Task} (h : Matches c d part base last fuel a front w phase)
    (hc : c.Separates d part) (hsound : t.Sound) (hne : t.domain ≠ d) (now : Nat) :
    Matches c d part base last fuel a front (w.settle c now t).1 phase :=
  { h with alike := (World.alikeFor_settle hc.spares hsound hne now w).trans h.alike }

theorem wait {front' : Nat} (h : Matches c d part base last fuel a front w phase)
    (hwait : ∀ due, phase.nextEvent? = some due → max front' due = max front due) :
    Matches c d part base last fuel a front' w phase :=
  { h with front_eq := fun due hdue => (hwait due hdue).trans (h.front_eq due hdue) }

theorem log (h : Matches c d part base last fuel a front w phase) (lines : List LogLine) :
    Matches c d part base last fuel a front (w.log lines) phase :=
  { h with alike := (World.alikeFor_log lines w).trans h.alike }

end Matches

/-- The rest of a cycle under way in a service without other tasks. -/
def alone (c : Collaborators σ) (s : Service σ) (phase : Phase) : Service σ × Phase :=
  awaitCycle c phase.remaining { s with tasks := [] } phase

/-- In a world that looks the same to the domain, a cycle under way is at the start of its rest
alone. -/
theorem matches_start {t : Task} {w : World σ} (ht : t.Sound) (hphase : t.phase = .busy run todo)
    (hw : w.AlikeFor t.domain part s.world) :
    Matches c t.domain part s.world.monitor.pending.toList (s.alone c (.busy run todo))
      (Phase.busy run todo).remaining { s with tasks := [] } s.clock w (.busy run todo) where
  idle := rfl
  rest := rfl
  enough := Nat.le_refl _
  own := ht.of_busy hphase
  alike := hw
  front_eq _ _ := rfl
  queue_eq _ := rfl

/-- A cycle under way, with other tasks, goes on as it does alone. -/
theorem watch_matches (hc : c.Separates d part) (base : List AlertEvent)
    (last : Service σ × Phase) : Watch c d (fun _ => True) fun front w phase =>
      ∃ fuel a, Matches c d part base last fuel a front w phase where
  other := fun now hsound _ hne ⟨fuel, a, h⟩ => ⟨fuel, a, h.other hc hsound hne now⟩
  wait := fun hwait ⟨fuel, a, h⟩ => ⟨fuel, a, h.wait hwait⟩

/-- **Without a shutdown** a cycle under way comes to the end that it comes to alone. -/
theorem Running.alone_advanceTo (h : s.Running) {t : Task} (ht : t ∈ s.tasks)
    (hphase : t.phase = .busy run todo) (hc : c.Separates t.domain part) :
    let last := s.alone c (.busy run todo)
    let time := last.1.clock
    let u := s.advanceTo c time
    s.clock ≤ time ∧ ∃ run' todo' pushed, u.Stands t.domain (.busy run' todo') ∧
      let r := u.world.pursue c time run' todo'
      r.2.remaining = 0 ∧ r.1.AlikeFor t.domain part last.1.world ∧
        r.1.monitor.pending.toList = u.world.monitor.pending.toList ++ pushed ∧
        last.1.world.monitor.pending.toList = s.world.monitor.pending.toList ++ pushed := by
  intro last time u
  have hstart : Matches c t.domain part s.world.monitor.pending.toList last _ _ s.clock s.world
      (.busy run todo) :=
    matches_start (h.orderly.sound t ht) hphase (s.world.alikeFor_refl _ _)
  have hclock : s.clock ≤ time := hstart.clock_le
  obtain ⟨hreached, run', todo', hstands, fuel, a, hmatches⟩ :=
    (watch_matches hc _ last).advanceFrom time
      (fun ⟨_, _, h⟩ hdue hlt => h.go_before hc hdue hlt) h.orderly (fun _ _ => trivial)
      (Nat.le_refl _) (Nat.le_max_left _ _) ⟨t, ht, rfl, hphase⟩ ⟨_, _, hstart⟩
  have htime : u.clock = time := hreached.trans (Nat.max_eq_right hclock)
  obtain ⟨hover, halike, pushed, hpushed, hqueue⟩ := (htime ▸ hmatches).go_last hc
  exact ⟨hclock, run', todo', pushed, hstands, hover, halike, hpushed, hqueue⟩

/-- **With a shutdown** it comes to the same end, and queues the same events. -/
theorem Running.alone_shutdown (h : s.Running) (wins : Domain → Bool) {t : Task} (ht : t ∈ s.tasks)
    (hphase : t.phase = .busy run todo) (hc : c.Separates t.domain part) :
    let last := s.alone c (.busy run todo)
    let signalled := s.race c wins
    let stopped := signalled.shutdown c
    ∃ pushed, stopped.world.AlikeFor t.domain part last.1.world ∧
      last.1.world.monitor.pending.toList = s.world.monitor.pending.toList ++ pushed ∧
      AlertEvent.ofDomain t.domain stopped.world.monitor.pending.toList =
        AlertEvent.ofDomain t.domain (signalled.world.monitor.pending.toList ++ pushed) := by
  intro last signalled stopped
  let base := s.world.monitor.pending.toList
  let queue := signalled.world.monitor.pending.toList
  let P : Nat → World σ → Phase → Prop := fun front w phase => ∃ fuel a pushed,
    Matches c t.domain part base last fuel a front w phase ∧
      a.world.monitor.pending.toList = base ++ pushed ∧
      AlertEvent.ofDomain t.domain w.monitor.pending.toList =
        AlertEvent.ofDomain t.domain (queue ++ pushed)
  have hP : Watch c t.domain (· = .stopping) P := by
    refine ⟨?_, fun hwait ⟨fuel, a, pushed, hmatches, hqueue⟩ =>
      ⟨fuel, a, pushed, hmatches.wait hwait, hqueue⟩⟩
    rintro front w phase t' now hsound hstanding hne ⟨fuel, a, pushed, hmatches, halone, hqueue⟩
    refine ⟨fuel, a, pushed, hmatches.other hc hsound hne now, halone, ?_⟩
    rw [World.ofDomain_pending_settle (Task.isLeaving_of_stopping hstanding) hsound hne]
    exact hqueue
  have hfollows : Follows c P := by
    refine ⟨fun _ _ _ lines ⟨fuel, a, pushed, hmatches, hqueue⟩ =>
      ⟨fuel, a, pushed, hmatches.log lines, hqueue⟩, ?_⟩
    rintro front w run todo due ⟨fuel, a, pushed, hmatches, halone, hqueue⟩ hdue
    -- While the cycle is under way it has queued nothing.
    rw [hmatches.queue_eq (Nat.succ_ne_zero _)] at halone
    obtain rfl : pushed = [] := List.append_right_eq_self.1 halone.symm
    obtain ⟨fuel', a', pushed, hmatches', _, hpushed, halone'⟩ := hmatches.go hc hdue
    refine ⟨fuel', a', pushed, hmatches', halone', ?_⟩
    rw [hpushed, AlertEvent.ofDomain_append, hqueue, List.append_nil, AlertEvent.ofDomain_append]
  have hstands : s.Stands t.domain (.busy run todo) := ⟨t, ht, rfl, hphase⟩
  have hstart : P signalled.clock signalled.world (.busy run todo) := by
    refine ⟨_, _, [], matches_start (h.orderly.sound t ht) hphase
      (h.alikeFor_race hc.spares hstands wins), (List.append_nil _).symm, ?_⟩
    rw [List.append_nil]
  obtain ⟨ending, hover, fuel, a, pushed, hmatches, halone, hqueue⟩ :=
    hP.shutdown hfollows (h.race c wins) (stands_race c wins hstands) hstart
  have hlast : last.1 = a := congrArg Prod.fst (hmatches.last_eq hover)
  refine ⟨pushed, ?_, ?_, hqueue⟩
  · rw [hlast]
    exact hmatches.alike
  · rw [hlast]
    exact halone

/-- Without a shutdown the cycle under way of the domain comes to its end, in a world that the
domain cannot tell from `w`, and queues these events. -/
def EndsAlike (c : Collaborators σ) (s : Service σ) (d : Domain) (part : σ → τ) (w : World σ)
    (queued : List AlertEvent) : Prop :=
  ∃ time run todo,
    let u := s.advanceTo c time
    let r := u.world.pursue c time run todo
    s.clock ≤ time ∧ u.Stands d (.busy run todo) ∧ r.2.remaining = 0 ∧ w.AlikeFor d part r.1 ∧
      r.1.monitor.pending.toList = u.world.monitor.pending.toList ++ queued

/-- **A cycle under way** comes to the end that it would have come to without the shutdown. -/
theorem Running.endsAlike_shutdown (h : s.Running) (wins : Domain → Bool) {t : Task}
    (ht : t ∈ s.tasks) (hphase : t.phase = .busy run todo) (hc : c.Separates t.domain part) :
    let signalled := s.race c wins
    let stopped := signalled.shutdown c
    ∃ queued, s.EndsAlike c t.domain part stopped.world queued ∧
      AlertEvent.ofDomain t.domain stopped.world.monitor.pending.toList =
        AlertEvent.ofDomain t.domain (signalled.world.monitor.pending.toList ++ queued) := by
  intro signalled stopped
  obtain ⟨hclock, run', todo', queued, hstands, hover, halike, hpending, halone⟩ :=
    h.alone_advanceTo ht hphase hc
  obtain ⟨queued', halike', halone', hqueue⟩ := h.alone_shutdown wins ht hphase hc
  obtain rfl : queued = queued' := List.append_cancel_left (halone.symm.trans halone')
  exact ⟨queued, ⟨_, run', todo', hclock, hstands, hover, halike'.trans halike.symm, hpending⟩,
    hqueue⟩

end Alone

/-! ## A shutdown at any moment -/

/-- What a shutdown comes to when the tasks of these domains win the race against the signal. -/
structure ClosesCleanly (c : Collaborators σ) (s : Service σ) (wins : Domain → Bool) : Prop where
  /-- A cycle under way comes to the end that it would have come to without the shutdown: the
  same calls at the same times, the same history, verdicts and deliveries, and the same events in
  the queue.  The calls of other domains must not change what its collaborator answers. -/
  alike : ∀ t ∈ s.tasks, ∀ run todo, t.phase = .busy run todo →
    ∀ (τ : Type) (part : σ → τ), c.Separates t.domain part →
      ∃ queued, s.EndsAlike c t.domain part ((s.race c wins).shutdown c).world queued ∧
        AlertEvent.ofDomain t.domain ((s.race c wins).shutdown c).world.monitor.pending.toList =
          AlertEvent.ofDomain t.domain
            ((s.race c wins).world.monitor.pending.toList ++ queued)
  /-- Whatever the collaborators answer, a cycle under way makes all its calls and finishes with
  all its effects, unless a collaborator breaks down; so does a cycle that begins in the race. -/
  carried : ∀ t ∈ (s.race c wins).tasks, ∀ run todo, t.phase = .busy run todo →
    let w := (s.race c wins).world
    let w' := ((s.race c wins).shutdown c).world
    ∃ ending : Phase, ending.remaining = 0 ∧
      ending.Carried t.domain todo (Entry.courseOf t.domain w.entries)
        (Entry.courseOf t.domain w'.entries) ∧
      (t.domain ≠ .dispatch → ending.Effected c t.domain run todo w.monitor w'.monitor) ∧
      (t.domain = .dispatch → ending.Delivered run.time todo w w')
  /-- The cycles that begin are those of tasks that won the race and were ready for it. -/
  beginnings : Entry.beginnings ((s.race c wins).shutdown c).world.entries =
    Entry.beginnings s.world.entries ++
      (s.tasks.filter fun t => wins t.domain && t.isReady s.clock).map
        fun t => (t.domain, s.clock)
  /-- Events that are queued stay queued. -/
  queue : ∃ queued, ((s.race c wins).shutdown c).world.monitor.pending.toList =
    (s.race c wins).world.monitor.pending.toList ++ queued
  /-- Afterwards time passes, and nothing else happens. -/
  still : ∀ target, ((s.race c wins).shutdown c).advanceTo c target =
    { (s.race c wins).shutdown c with clock := max ((s.race c wins).shutdown c).clock target }

/-- **A shutdown of a service that was started**, whatever has happened to it since, and
whichever tasks win the race against the signal. -/
theorem started_closes_cleanly (c : Collaborators σ) {s₀ : Service σ} (hidle : s₀.tasks = [])
    (history : List (Happening σ)) (wins : Domain → Bool) :
    ((s₀.start c).1.afterAll c history).ClosesCleanly c wins := by
  have hs : ((s₀.start c).1.afterAll c history).Running :=
    (running_start c hidle).afterAll c history
  generalize (s₀.start c).1.afterAll c history = s at hs
  have hrace : (s.race c wins).Running := hs.race c wins
  refine ⟨?_, ?_, ?_, ?_, ?_⟩
  · intro t ht run todo hphase τ part hc
    exact hs.endsAlike_shutdown wins ht hphase hc
  · intro t ht run todo hphase
    exact hrace.carried_shutdown ht hphase c
  · have hkept : Entry.beginnings ((s.race c wins).shutdown c).world.entries =
        Entry.beginnings (s.race c wins).world.entries :=
      hrace.world_shutdown_keeps (Q := fun w => Entry.beginnings w.entries = _)
        (fun w lines hw => (w.beginnings_log lines).trans hw)
        (fun now w run todo hw => (w.beginnings_pursue now run todo).trans hw) rfl
    rw [hkept, hs.beginnings_race]
  · refine hrace.world_shutdown_keeps
      (Q := fun w => ∃ queued, w.monitor.pending.toList =
        (s.race c wins).world.monitor.pending.toList ++ queued)
      (fun _ _ hw => hw) ?_ ⟨[], (List.append_nil _).symm⟩
    rintro now w run todo ⟨queued, hw⟩
    obtain ⟨pushed, hpushed, _⟩ := w.pending_pursue c now run todo
    exact ⟨queued ++ pushed, by rw [hpushed, hw, List.append_assoc]⟩
  · exact advanceTo_of_idle c (hrace.tasks_shutdown c)

/-- Ten seconds after the start the resources are being collected, and the service is shut
down. -/
theorem started_closes_cleanly_collecting :
    let c : Collaborators Unit :=
      { collect := fun o _ => (o, ⟨20, some (.error (.collection "no /proc"))⟩)
        probe := fun o _ => (o, ⟨0, some (.error (.probe "no route"))⟩)
        hasRuntime := false
        ready := fun _ => .ok ()
        list := fun o _ => (o, ⟨0, some (.error (.containers "no runtime"))⟩)
        deliver := fun o _ => (o, ⟨0, fun _ => .given none⟩)
        wallClock := fun _ => ⟨0, 0⟩ }
    let checks : ResourceChecks := { ResourceChecks.initial with intervalSecs := 10 }
    let config : MonitorConfig := { MonitorConfig.initial with resources := checks }
    let s₀ : Service Unit := .new (.new config [] ⟨0, 0⟩) () 0
    let s := (s₀.start c).1.afterAll c [.advance 10005]
    s₀.tasks = [] ∧ (∃ t ∈ s.tasks, t.domain = .resources ∧ t.phase.remaining = 1) ∧
      c.Separates .resources (fun _ => ()) ∧ s.ClosesCleanly c fun _ => true := by
  intro c checks config s₀ s
  refine ⟨rfl, ?_, ⟨fun _ _ => ⟨rfl, rfl⟩, fun _ _ _ => rfl⟩, started_closes_cleanly c rfl _ _⟩
  have hfirst : (s₀.start c).1.nextEvent? = some 10000 := by decide +kernel
  have hnext : ((s₀.start c).1.settleAt c 10000).nextEvent? = some 10020 := by decide +kernel
  have htasks : s.tasks = ((s₀.start c).1.settleAt c 10000).tasks := by
    show ((s₀.start c).1.advanceFrom c 10005 0).tasks = _
    rw [advanceFrom, hfirst]
    simp only
    rw [dif_pos (by omega), Nat.max_eq_left (Nat.zero_le _), advanceFrom, hnext]
    simp only
    rw [dif_neg (by omega)]
  rw [htasks]
  decide +kernel

end Service

end HostWatch
