import HostWatch.Proofs.Monitor.Closing
set_option autoImplicit false

/-!
# Monitor: cycles that a shutdown carries to their end

A cycle that is under way when a shutdown begins makes all the calls that it still had to make,
in their order, and finishes (`Phase.Carried`).  A cycle of a watched domain then has the effects
of its answers on the history, the verdicts and the queue (`Phase.Effected`), and a dispatch has
handled all the events that it took (`Phase.Delivered`).  Nothing of this depends on what the
collaborators answer, except that one that breaks down ends the cycle: a watched domain then sees
no effects, and a dispatch has handled the events before the one that a channel broke down over.

Each of the three is kept by the cycle itself when it goes on, and nobody else touches what it is
about; `Service.Running.shutdown_carries` makes of this a statement about whole shutdowns.
-/

namespace HostWatch

open HostWatch.Time (Instant)

/-! ## From one step of a cycle to a whole shutdown -/

namespace Service

variable {σ : Type} {c : Collaborators σ} {s : Service σ}

/-- **A shutdown carries a cycle under way to its end**, and what is kept by the steps of the
cycle holds there, if it is about nothing but what the domain sees. -/
theorem Running.shutdown_carries {P : World σ → Phase → Prop} (h : s.Running) {t : Task}
    (ht : t ∈ s.tasks) {run : Run} {todo : List Call} (hphase : t.phase = .busy run todo)
    (hsame : ∀ (w w' : World σ) (phase : Phase), w'.AlikeFor t.domain (fun _ => ()) w →
      AlertEvent.ofDomain t.domain w'.monitor.pending.toList =
        AlertEvent.ofDomain t.domain w.monitor.pending.toList → P w phase → P w' phase)
    (hgo : ∀ (now : Nat) (w : World σ) (run : Run) (todo : List Call),
      (Phase.busy run todo).Of t.domain → P w (.busy run todo) →
        P (w.pursue c now run todo).1 (w.pursue c now run todo).2)
    (hstart : P s.world (.busy run todo)) :
    ∃ ending : Phase, ending.remaining = 0 ∧ P (s.shutdown c).world ending := by
  -- Nobody else changes what the domain sees, whatever the outside is like.
  have hspares : c.Spares t.domain fun _ => () := fun _ _ _ => rfl
  have hwatch : Watch c t.domain (· = .stopping) fun _ w phase =>
      phase.Of t.domain ∧ P w phase := by
    refine ⟨?_, fun _ h => h⟩
    rintro _ w phase t' now hsound hstanding hne ⟨hof, hw⟩
    exact ⟨hof, hsame _ _ _ (World.alikeFor_settle hspares hsound hne now w)
      (World.ofDomain_pending_settle (Task.isLeaving_of_stopping hstanding) hsound hne w) hw⟩
  have hfollows : Follows c fun _ w phase => phase.Of t.domain ∧ P w phase :=
    ⟨fun _ w _ lines hw => ⟨hw.1, hsame _ _ _ (World.alikeFor_log lines w) rfl hw.2⟩,
      fun _ w run todo _ hw _ => ⟨World.of_pursue hw.1 _ w, hgo _ w run todo hw.1 hw.2⟩⟩
  obtain ⟨ending, hover, _, hend⟩ :=
    hwatch.shutdown hfollows h ⟨t, ht, rfl, hphase⟩
      ⟨(h.orderly.sound t ht).of_busy hphase, hstart⟩
  exact ⟨ending, hover, hend⟩

end Service

/-! ## Calls -/

/-- The entry about a call. -/
def Entry.ofCall (d : Domain) (made : Call × Span) : Entry := .called d made.1 made.2

/-- How a cycle of a domain with calls still to be made goes on: what the journal said about the
cycles of the domain before, and what it says when the cycle has come this far. -/
def Phase.Carried (d : Domain) (todo : List Call) (before after : List Entry) : Phase → Prop
  | .busy _ later => ∃ made : List (Call × Span),
      todo = made.map (·.1) ++ later ∧ after = before ++ made.map (Entry.ofCall d)
  | .waiting => ∃ (made : List (Call × Span)) (count time : Nat),
      todo = made.map (·.1) ∧
        after = before ++ made.map (Entry.ofCall d) ++ [.finished d count time]
  | .broken => ∃ (made : List (Call × Span)) (later : List Call),
      made ≠ [] ∧ todo = made.map (·.1) ++ later ∧
        after = before ++ made.map (Entry.ofCall d) ++ [.broke d]
  | .ended => False

namespace World

variable {σ : Type} {c : Collaborators σ} {d : Domain} {run : Run} {todo calls : List Call}
  {before : List Entry}

/-- A call itself writes only about events that were handled. -/
theorem entries_perform (c : Collaborators σ) (w : World σ) (run : Run) (call : Call) :
    (w.perform c run call).1.entries = w.entries ∨
      ∃ h lines, (w.perform c run call).1.entries =
        w.entries ++ (.handled h :: List.map Entry.logged lines) := by
  cases call with
  | deliver event =>
    rcases w.perform_deliver_cases c run event with ⟨outside, reply, _, hworld⟩ | hworld
    · let h := (w.monitor.dispatcher.handle event run.time reply).2
      refine .inr ⟨h, h.logs, ?_⟩
      rw [hworld, handling, log, entries_note, entries_note, List.append_assoc]
      rfl
    · rw [hworld]
      exact .inl rfl
  | collect paths => exact .inl rfl
  | probe check => exact .inl rfl
  | list names => exact .inl rfl

theorem courseOf_perform (d : Domain) (c : Collaborators σ) (w : World σ) (run : Run)
    (call : Call) :
    Entry.courseOf d (w.perform c run call).1.entries = Entry.courseOf d w.entries := by
  rcases w.entries_perform c run call with hsame | ⟨h, lines, hmore⟩
  · rw [hsame]
  · have hnone : Entry.courseOf d (.handled h :: List.map Entry.logged lines) = [] :=
      Entry.courseOf_logged d lines
    rw [hmore, Entry.courseOf_append, hnone, List.append_nil]

/-- **A cycle that goes on** makes its calls in their order, and finishes after the last of them,
unless a collaborator breaks down. -/
theorem carried_pursue (now : Nat) {w : World σ} (hphase : (Phase.busy run todo).Of d)
    (h : (Phase.busy run todo).Carried d calls before (Entry.courseOf d w.entries)) :
    let r := w.pursue c now run todo
    r.2.Carried d calls before (Entry.courseOf d r.1.entries) := by
  induction todo generalizing w run with
  | nil =>
    unfold pursue
    split
    · obtain ⟨made, hcalls, hcourse⟩ := h
      obtain ⟨_, _, lines, hentries⟩ := w.finish_spec run now
      refine ⟨made, run.count w.monitor, now, hcalls.trans (List.append_nil _), ?_⟩
      have hfinished : Entry.courseOf d [.finished run.domain (run.count w.monitor) now] =
          [.finished d (run.count w.monitor) now] := by
        rw [hphase.1]
        simp [Entry.courseOf, Entry.isStepOf]
      simp only [hentries, Entry.courseOf_append, Entry.courseOf_logged, hcourse, hfinished,
        List.nil_append]
    · exact h
  | cons call todo ih =>
    obtain ⟨made, hcalls, hcourse⟩ := h
    obtain ⟨hrun, hown⟩ := hphase
    by_cases hslot : run.slot ≤ now
    · have hworld := w.courseOf_perform d c run call
      rcases hperform : w.perform c run call with ⟨w', takes, _ | reply⟩
      · rw [hperform] at hworld
        rw [pursue_broken hslot hperform]
        refine ⟨made ++ [(call, ⟨now, now + takes⟩)], todo, by simp, by simp [hcalls], ?_⟩
        have hbroke : Entry.courseOf d
            [.called run.domain call ⟨now, now + takes⟩, .broke run.domain] =
              [Entry.ofCall d (call, ⟨now, now + takes⟩), .broke d] := by
          rw [hrun]
          simp [Entry.courseOf, Entry.isStepOf, Entry.ofCall]
        rw [entries_note, Entry.courseOf_append, hworld, hcourse, hbroke]
        simp
      · rw [hperform] at hworld
        rw [pursue_answered hslot hperform]
        refine ih ⟨hrun, fun call' h => hown call' (List.mem_cons_of_mem _ h)⟩
          ⟨made ++ [(call, ⟨now, now + takes⟩)], by simp [hcalls], ?_⟩
        have hcall : Entry.courseOf d [.called run.domain call ⟨now, now + takes⟩] =
            [Entry.ofCall d (call, ⟨now, now + takes⟩)] := by
          rw [hrun]
          simp [Entry.courseOf, Entry.isStepOf, Entry.ofCall]
        rw [entries_note, Entry.courseOf_append, hworld, hcourse, hcall]
        simp
    · rw [pursue_early hslot]
      exact ⟨made, hcalls, hcourse⟩

end World

/-! ## Effects -/

/-- The collaborator may give this reply to the call. -/
def Collaborators.Answers {σ : Type} (c : Collaborators σ) (call : Call) (reply : Reply) : Prop :=
  ∃ o : σ, (c.answerTo o call).2.reply = some reply

/-- As far as the domain sees, the monitor has done the cycle, and nothing else. -/
structure Monitor.Did (d : Domain) (k : Cycle) (m m' : Monitor) : Prop where
  alike : m'.AlikeFor d (m.act (.cycle k)).1
  queue_eq : AlertEvent.ofDomain d m'.pending.toList =
    AlertEvent.ofDomain d (m.pending.toList ++ (m.act (.cycle k)).2.pushed)

/-- How a cycle of a watched domain affects the monitor: nothing happens until all calls are
answered, and then what the answers come to. -/
def Phase.Effected {σ : Type} (c : Collaborators σ) (d : Domain) (run : Run) (todo : List Call)
    (m m' : Monitor) : Phase → Prop
  | .busy run' later => ∃ made replies, todo = made ++ later ∧
      run'.replies = run.replies ++ replies ∧ List.Forall₂ c.Answers made replies ∧
      m.Did d (.broken d) m'
  | .waiting => ∃ (answered : Run) (replies : List Reply), answered.domain = d ∧
      answered.replies = run.replies ++ replies ∧ List.Forall₂ c.Answers todo replies ∧
      m.Did d answered.cycle m'
  | .broken => m.Did d (.broken d) m'
  | .ended => False

theorem Monitor.Did.of_alike {d : Domain} {k : Cycle} {m m' m'' : Monitor} (h : m.Did d k m')
    (halike : m''.AlikeFor d m') (hqueue : AlertEvent.ofDomain d m''.pending.toList =
      AlertEvent.ofDomain d m'.pending.toList) : m.Did d k m'' :=
  ⟨halike.trans h.alike, hqueue.trans h.queue_eq⟩

theorem Phase.Effected.of_alike {σ : Type} {c : Collaborators σ} {d : Domain} {run : Run}
    {todo : List Call} {m m' m'' : Monitor} {phase : Phase}
    (h : phase.Effected c d run todo m m') (halike : m''.AlikeFor d m')
    (hqueue : AlertEvent.ofDomain d m''.pending.toList =
      AlertEvent.ofDomain d m'.pending.toList) : phase.Effected c d run todo m m'' := by
  cases phase with
  | busy run' later =>
    obtain ⟨made, replies, hcalls, hreplies, hanswers, hnothing⟩ := h
    exact ⟨made, replies, hcalls, hreplies, hanswers, hnothing.of_alike halike hqueue⟩
  | waiting =>
    obtain ⟨answered, replies, hdomain, hreplies, hanswers, hdone⟩ := h
    exact ⟨answered, replies, hdomain, hreplies, hanswers, hdone.of_alike halike hqueue⟩
  | broken => exact Monitor.Did.of_alike h halike hqueue
  | ended => exact h

namespace World

variable {σ : Type} {c : Collaborators σ} {d : Domain} {run₀ run : Run} {calls todo : List Call}
  {m : Monitor}

/-- **The effects of a cycle** of a watched domain are those of its answers. -/
theorem effected_pursue (hd : d ≠ .dispatch) (now : Nat) {w : World σ}
    (hphase : (Phase.busy run todo).Of d)
    (h : (Phase.busy run todo).Effected c d run₀ calls m w.monitor) :
    let r := w.pursue c now run todo
    r.2.Effected c d run₀ calls m r.1.monitor := by
  induction todo generalizing w run with
  | nil =>
    unfold pursue
    split
    · obtain ⟨made, replies, hcalls, hreplies, hanswers, hnothing⟩ := h
      obtain rfl : calls = made := hcalls.trans (List.append_nil made)
      obtain ⟨rfl, _⟩ := hphase
      have hnone : (m.act (.cycle (.broken run.domain))).2.pushed = [] := rfl
      obtain ⟨halike, hpushed⟩ := Run.alikeFor_act_own hnothing.alike
      refine ⟨run, replies, rfl, hreplies, hanswers, ?_, ?_⟩
      · rw [(w.finish_spec run now).1]
        exact halike
      · rw [w.pending_finish run now, hpushed, AlertEvent.ofDomain_append, hnothing.queue_eq, hnone,
          List.append_nil, ← AlertEvent.ofDomain_append]
        rfl
    · exact h
  | cons call todo ih =>
    obtain ⟨made, replies, hcalls, hreplies, hanswers, hnothing⟩ := h
    obtain ⟨hrun, hown⟩ := hphase
    obtain ⟨hcall, hrest⟩ := List.forall_mem_cons.1 hown
    by_cases hslot : run.slot ≤ now
    · have hperform : w.perform c run call =
          ({ w with outside := (c.answerTo w.outside call).1 },
            (c.answerTo w.outside call).2.takes, (c.answerTo w.outside call).2.reply) :=
        w.perform_question (hcall ▸ hd)
      cases hreply : (c.answerTo w.outside call).2.reply with
      | none =>
        rw [hreply] at hperform
        rw [pursue_broken hslot hperform]
        exact hnothing
      | some reply =>
        rw [hreply] at hperform
        rw [pursue_answered hslot hperform]
        refine ih ⟨hrun, hrest⟩ ⟨made ++ [call], replies ++ [reply], by simp [hcalls], ?_, ?_,
          hnothing⟩
        · rw [Run.add, hreplies, List.append_assoc]
        · exact List.rel_append hanswers (.cons ⟨_, hreply⟩ .nil)
    · rw [pursue_early hslot]
      exact ⟨made, replies, hcalls, hreplies, hanswers, hnothing⟩

end World

/-! ## Deliveries -/

/-- How a dispatch handles the events that it took: one after the other, in their order, with what
the dispatcher remembers and what the journal says about handled events.  When a channel breaks
down over an event that goes out, the events before it are handled, and its cooldown has begun. -/
def Phase.Delivered {σ : Type} (time : Instant) (todo : List Call) (w w' : World σ) :
    Phase → Prop
  | .busy run later => ∃ done left replies, todo = List.map Call.deliver (done ++ left) ∧
      later = left.map .deliver ∧ run.time = time ∧
      w'.monitor.dispatcher = (w.monitor.dispatcher.handleAll time replies 0 done).1 ∧
      Entry.handlings w'.entries =
        Entry.handlings w.entries ++ (w.monitor.dispatcher.handleAll time replies 0 done).2
  | .waiting => ∃ events replies, todo = List.map Call.deliver events ∧
      w'.monitor.dispatcher = (w.monitor.dispatcher.handleAll time replies 0 events).1 ∧
      Entry.handlings w'.entries =
        Entry.handlings w.entries ++ (w.monitor.dispatcher.handleAll time replies 0 events).2
  | .broken => ∃ done event left replies, todo = List.map Call.deliver (done ++ event :: left) ∧
      (w.monitor.dispatcher.handleAll time replies 0 done).1.decideEvent event time = .passed ∧
      w'.monitor.dispatcher =
        ((w.monitor.dispatcher.handleAll time replies 0 done).1.admitEvent event time).1 ∧
      Entry.handlings w'.entries =
        Entry.handlings w.entries ++ (w.monitor.dispatcher.handleAll time replies 0 done).2
  | .ended => False

theorem Phase.Delivered.of_alike {σ τ : Type} {part : σ → τ} {time : Instant} {todo : List Call}
    {w w' w'' : World σ} {phase : Phase} (h : phase.Delivered time todo w w')
    (halike : w''.AlikeFor .dispatch part w') : phase.Delivered time todo w w'' := by
  have hdispatcher := halike.monitor_alike.dispatcher_eq rfl
  have hhandlings := halike.handlings_eq rfl
  cases phase with
  | busy run later =>
    obtain ⟨done, left, replies, hcalls, hleft, htime, hdone⟩ := h
    exact ⟨done, left, replies, hcalls, hleft, htime, hdispatcher.trans hdone.1,
      hhandlings.trans hdone.2⟩
  | waiting =>
    obtain ⟨events, replies, hcalls, hdone⟩ := h
    exact ⟨events, replies, hcalls, hdispatcher.trans hdone.1, hhandlings.trans hdone.2⟩
  | broken =>
    obtain ⟨done, event, left, replies, hcalls, hpassed, hdone⟩ := h
    exact ⟨done, event, left, replies, hcalls, hpassed, hdispatcher.trans hdone.1,
      hhandlings.trans hdone.2⟩
  | ended => exact h

theorem Call.exists_deliver {calls : List Call} (h : ∀ call ∈ calls, call.domain = .dispatch) :
    ∃ events, calls = List.map Call.deliver events := by
  induction calls with
  | nil => exact ⟨[], rfl⟩
  | cons call calls ih =>
    obtain ⟨hcall, hrest⟩ := List.forall_mem_cons.1 h
    obtain ⟨events, rfl⟩ := ih hrest
    cases call with
    | deliver event => exact ⟨event :: events, rfl⟩
    | collect paths => cases hcall
    | probe check => cases hcall
    | list names => cases hcall

namespace World

variable {σ : Type} {c : Collaborators σ} {run : Run} {calls todo : List Call} {w₀ : World σ}
  {time : Instant}

/-- **A dispatch that goes on** handles its events one after the other, until a channel breaks
down. -/
theorem delivered_pursue (now : Nat) {w : World σ} (hrun : run.domain = .dispatch)
    (h : (Phase.busy run todo).Delivered time calls w₀ w) :
    let r := w.pursue c now run todo
    r.2.Delivered time calls w₀ r.1 := by
  induction todo generalizing w run with
  | nil =>
    unfold pursue
    split
    · obtain ⟨done, left, replies, hcalls, hleft, _, hdispatcher, hhandlings⟩ := h
      obtain rfl : left = [] := List.map_eq_nil_iff.1 hleft.symm
      rw [List.append_nil] at hcalls
      obtain ⟨hmonitor, _, lines, hentries⟩ := w.finish_spec run now
      refine ⟨done, replies, hcalls, ?_, ?_⟩
      · rw [hmonitor, Run.cycle_of_dispatch hrun]
        exact hdispatcher
      · rw [hentries, Entry.handlings_append, Entry.handlings_append, Entry.handlings_logged]
        exact (List.append_nil _).trans hhandlings
    · exact h
  | cons call todo ih =>
    obtain ⟨done, left, replies, hcalls, hleft, htime, hdispatcher, hhandlings⟩ := h
    cases left with
    | nil => cases hleft
    | cons event left =>
      obtain ⟨rfl, rfl⟩ := List.cons.inj hleft
      by_cases hslot : run.slot ≤ now
      · rcases w.perform_deliver c run event with
          ⟨reply, w', takes, hperform, hmonitor, hmore⟩ |
            ⟨w', takes, hperform, hpassed, hmonitor, hmore⟩
        · obtain ⟨replies', hreplies'⟩ :=
            w₀.monitor.dispatcher.handleAll_extend time replies done event reply
          rw [pursue_answered hslot hperform]
          refine ih hrun ⟨done ++ [event], left, replies', ?_, rfl, htime, ?_, ?_⟩
          · rw [hcalls, List.append_assoc]
            rfl
          · rw [hreplies']
            show w'.monitor.dispatcher = _
            rw [hmonitor, hdispatcher, htime]
          · have hnone : Entry.handlings
                [.called run.domain (.deliver event) ⟨now, now + takes⟩] = [] := rfl
            rw [hreplies', entries_note, Entry.handlings_append, hmore, hhandlings, hdispatcher,
              htime, hnone, List.append_nil, List.append_assoc]
        · rw [pursue_broken hslot hperform]
          rw [hdispatcher, htime] at hpassed
          refine ⟨done, event, left, replies, hcalls, hpassed, ?_, ?_⟩
          · show w'.monitor.dispatcher = _
            rw [hmonitor, hdispatcher, htime]
          · have hnone : Entry.handlings [.called run.domain (.deliver event) ⟨now, now + takes⟩,
                .broke run.domain] = [] := rfl
            rw [entries_note, Entry.handlings_append, hmore, hhandlings, hnone, List.append_nil]
      · rw [pursue_early hslot]
        exact ⟨done, event :: left, replies, hcalls, rfl, htime, hdispatcher, hhandlings⟩

end World

/-! ## Whole shutdowns -/

namespace Service

variable {σ : Type} {c : Collaborators σ} {s : Service σ} {t : Task} {run : Run}
  {todo : List Call}

/-- **A shutdown** lets every cycle under way make its calls and finish, with all its effects. -/
theorem Running.carried_shutdown (h : s.Running) (ht : t ∈ s.tasks)
    (hphase : t.phase = .busy run todo) (c : Collaborators σ) :
    let stopped := s.shutdown c
    ∃ ending : Phase, ending.remaining = 0 ∧
      ending.Carried t.domain todo (Entry.courseOf t.domain s.world.entries)
        (Entry.courseOf t.domain stopped.world.entries) ∧
      (t.domain ≠ .dispatch →
        ending.Effected c t.domain run todo s.world.monitor stopped.world.monitor) ∧
      (t.domain = .dispatch → ending.Delivered run.time todo s.world stopped.world) := by
  intro stopped
  refine h.shutdown_carries (P := fun w phase =>
    phase.Carried t.domain todo (Entry.courseOf t.domain s.world.entries)
        (Entry.courseOf t.domain w.entries) ∧
      (t.domain ≠ .dispatch → phase.Effected c t.domain run todo s.world.monitor w.monitor) ∧
      (t.domain = .dispatch → phase.Delivered run.time todo s.world w)) ht hphase ?_ ?_ ?_
  · rintro w w' phase halike hqueue ⟨hcarried, heffected, hdelivered⟩
    refine ⟨?_, fun hd => (heffected hd).of_alike halike.monitor_alike hqueue, fun hd => ?_⟩
    · rw [halike.course_eq]
      exact hcarried
    · exact (hdelivered hd).of_alike (hd ▸ halike)
  · rintro now w run' later hof ⟨hcarried, heffected, hdelivered⟩
    exact ⟨World.carried_pursue now hof hcarried,
      fun hd => World.effected_pursue hd now hof (heffected hd),
      fun hd => World.delivered_pursue now (hof.1.trans hd) (hdelivered hd)⟩
  · have hof : (Phase.busy run todo).Of t.domain := (h.orderly.sound t ht).of_busy hphase
    refine ⟨⟨[], rfl, (List.append_nil _).symm⟩, fun _ => ?_, fun hd => ?_⟩
    · refine ⟨[], [], rfl, (List.append_nil _).symm, .nil, s.world.monitor.alikeFor_refl _, ?_⟩
      exact congrArg _ (List.append_nil _).symm
    · obtain ⟨events, hevents⟩ := Call.exists_deliver (hd ▸ hof.2)
      exact ⟨[], events, fun _ _ => none, hevents, hevents, rfl, rfl, (List.append_nil _).symm⟩

end Service

end HostWatch
