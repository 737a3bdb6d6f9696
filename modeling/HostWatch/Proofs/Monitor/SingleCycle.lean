import HostWatch.Monitor.Service
import HostWatch.Proofs.Monitor.Conservation
set_option autoImplicit false

/-!
# Monitor: single cycles of a service

A service without tasks runs one cycle at a time.  It makes the calls of the cycle as far
as time allows, waits, and goes on, until the last call has come back; the effects on the
monitor follow at the end, except for those of a dispatch, which handles its events one
after the other and breaks off when a channel breaks down.

Nothing of this waiting can be seen from the monitor: a single cycle of a service is an
act of its monitor, with the answers that the collaborators gave, and any sequence of
single cycles and pushes is a run of acts (`Service.answerAll_play`).  What is proved
about runs of acts therefore holds for the service.
-/

namespace HostWatch

open HostWatch.Time (Instant)

/-! ## What a journal shows -/

namespace Entry

@[simp] theorem handlings_append (earlier later : List Entry) :
    handlings (earlier ++ later) = handlings earlier ++ handlings later := by
  unfold handlings
  rw [List.filterMap_append]

@[simp] theorem handlings_logged (lines : List LogLine) : handlings (lines.map .logged) = [] := by
  unfold handlings
  rw [List.filterMap_map, List.filterMap_eq_nil_iff]
  intro _ _
  rfl

theorem lastCount_finished (domain : Domain) (journal : List Entry) (count time : Nat) :
    lastCount domain (journal ++ [.finished domain count time]) = count := by
  unfold lastCount
  rw [List.filterMap_append]
  simp

end Entry

/-! ## Plans -/

/-- A plan for a cycle of a domain: what holds while it is under way, and what its answer
means when it is over.  The answer is the count in the journal; there is none when a
collaborator broke down. -/
structure Plan {σ : Type} (c : Collaborators σ) (domain : Domain) where
  underway : World σ → Run → List Call → Prop
  settled : Option Nat → World σ → Prop
  perform : ∀ {w : World σ} {run : Run} {call : Call} {todo : List Call} (span : Span),
    underway w run (call :: todo) →
      match w.perform c run call with
      | (w', _, some reply) =>
        underway (w'.note [.called run.domain call span]) (run.add span reply) todo
      | (w', _, none) => settled none (w'.note [.called run.domain call span, .broke run.domain])
  finish : ∀ {w : World σ} {run : Run} (now : Nat), underway w run [] →
    settled (some (Entry.lastCount domain (w.finish run now).entries)) (w.finish run now)

namespace Plan

variable {σ : Type} {c : Collaborators σ} {domain : Domain}

/-- What holds in a phase of the cycle. -/
def Holds (p : Plan c domain) (w : World σ) : Phase → Prop
  | .busy run todo => p.underway w run todo
  | .waiting => p.settled (some (Entry.lastCount domain w.entries)) w
  | .broken => p.settled none w
  | .ended => False

/-- Carrying a cycle on keeps to the plan. -/
theorem holds_pursue (p : Plan c domain) (now : Nat) (todo : List Call) :
    ∀ {w : World σ} {run : Run}, p.underway w run todo →
      p.Holds (w.pursue c now run todo).1 (w.pursue c now run todo).2 := by
  induction todo with
  | nil =>
    intro w run h
    unfold World.pursue
    split
    · exact p.finish now h
    · exact h
  | cons call todo ih =>
    intro w run h
    unfold World.pursue
    split
    · rcases hperform : w.perform c run call with ⟨w', takes, reply⟩
      have hstep := p.perform ⟨now, now + takes⟩ h
      rw [hperform] at hstep
      cases reply with
      | some reply => exact ih hstep
      | none => exact hstep
    · exact h

end Plan

namespace World

variable {σ : Type}

theorem remaining_pursue_le (c : Collaborators σ) (now : Nat) (todo : List Call) :
    ∀ (w : World σ) (run : Run), (w.pursue c now run todo).2.remaining ≤ todo.length + 1 := by
  induction todo with
  | nil =>
    intro w run
    unfold pursue
    split <;> simp [Phase.remaining]
  | cons call todo ih =>
    intro w run
    unfold pursue
    split
    · obtain ⟨w', takes, reply⟩ := w.perform c run call
      cases reply with
      | some reply => exact Nat.le_succ_of_le (ih _ _)
      | none => simp [Phase.remaining]
    · exact Nat.le_refl _

theorem remaining_pursue_lt (c : Collaborators σ) (now : Nat) (w : World σ) {run : Run}
    {todo : List Call} {due : Nat} (hnext : (Phase.busy run todo).nextEvent? = some due)
    (hdue : due ≤ now) :
    (w.pursue c now run todo).2.remaining < todo.length + 1 := by
  cases todo with
  | nil =>
    have hend : run.lastEnd ≤ now := by
      rw [Option.some.inj hnext]
      exact hdue
    rw [pursue, if_pos hend]
    exact Nat.zero_lt_one
  | cons call todo =>
    have hslot : run.slot ≤ now := by
      rw [Option.some.inj hnext]
      exact hdue
    rw [pursue, if_pos hslot]
    obtain ⟨w', takes, reply⟩ := w.perform c run call
    cases reply with
    | some reply => exact Nat.lt_succ_of_le (remaining_pursue_le c now todo _ _)
    | none => exact Nat.succ_pos _

end World

namespace Service

variable {σ : Type}

theorem advanceTo_of_idle (c : Collaborators σ) {s : Service σ} (hidle : s.tasks = [])
    (target : Nat) : s.advanceTo c target = { s with clock := max s.clock target } := by
  have hnext : s.nextEvent? = none := by
    rw [nextEvent?, hidle]
    rfl
  rw [advanceTo, advanceFrom, hnext]

/-- Waiting for a cycle keeps to its plan, and as many steps as the cycle has still to make
are enough for it to end. -/
theorem awaitCycle_holds {c : Collaborators σ} {domain : Domain} (p : Plan c domain) (fuel : Nat) :
    ∀ {s : Service σ} {phase : Phase}, s.tasks = [] → p.Holds s.world phase →
      phase.remaining ≤ fuel →
      (awaitCycle c fuel s phase).1.tasks = [] ∧
        p.Holds (awaitCycle c fuel s phase).1.world (awaitCycle c fuel s phase).2 ∧
        (awaitCycle c fuel s phase).2.remaining = 0 := by
  induction fuel with
  | zero =>
    intro s phase hidle hholds hfuel
    exact ⟨hidle, hholds, Nat.le_zero.1 hfuel⟩
  | succ fuel ih =>
    intro s phase hidle hholds hfuel
    cases phase with
    | waiting => exact ⟨hidle, hholds, rfl⟩
    | broken => exact ⟨hidle, hholds, rfl⟩
    | ended => exact hholds.elim
    | busy run todo =>
      obtain ⟨due, hnext⟩ : ∃ due, (Phase.busy run todo).nextEvent? = some due := by
        cases todo with
        | nil => exact ⟨_, rfl⟩
        | cons call todo => exact ⟨_, rfl⟩
      have hless := World.remaining_pursue_lt c (max s.clock due) s.world hnext
        (Nat.le_max_right _ _)
      simp only [awaitCycle, hnext, advanceTo_of_idle c hidle]
      refine ih hidle (p.holds_pursue _ todo hholds) ?_
      exact Nat.le_of_lt_succ (Nat.lt_of_lt_of_le hless hfuel)

/-- A single cycle of a service without tasks ends as planned. -/
theorem runCycle_holds {c : Collaborators σ} {domain : Domain} (p : Plan c domain)
    {s : Service σ} (hidle : s.tasks = [])
    (hbegin : p.underway (s.world.begin c domain s.clock).1 (s.world.begin c domain s.clock).2.1
      (s.world.begin c domain s.clock).2.2) :
    (s.runCycle c domain).1.tasks = [] ∧
      p.settled (s.runCycle c domain).2 (s.runCycle c domain).1.world := by
  unfold runCycle
  generalize s.world.begin c domain s.clock = b at hbegin ⊢
  obtain ⟨world, run, todo⟩ := b
  have hpursued := p.holds_pursue s.clock todo hbegin
  simp only at hpursued ⊢
  generalize world.pursue c s.clock run todo = r at hpursued ⊢
  obtain ⟨world', phase⟩ := r
  have hidle₀ : ({ s with world := world' } : Service σ).tasks = [] := hidle
  obtain ⟨hidle', hholds, hdone⟩ :=
    awaitCycle_holds p phase.remaining hidle₀ hpursued (Nat.le_refl _)
  simp only
  generalize awaitCycle c phase.remaining { s with world := world' } phase = after
    at hidle' hholds hdone ⊢
  obtain ⟨s', phase'⟩ := after
  refine ⟨hidle', ?_⟩
  cases phase' with
  | waiting => exact hholds
  | broken => exact hholds
  | ended => exact hholds.elim
  | busy run todo =>
    rw [Phase.remaining] at hdone
    omega

end Service

/-! ## The cycles of the domains -/

/-- The domain whose cycle an act is. -/
def Act.domain? : Act → Option Domain
  | cycle k => some k.domain
  | brokenDispatch _ _ _ => some .dispatch
  | push _ => none

/-- What a call is made for. -/
def Call.domain : Call → Domain
  | collect _ => .resources
  | probe _ => .endpoints
  | list _ => .containers
  | deliver _ => .dispatch

namespace World

variable {σ : Type}

/-- The monitor has come this far, and these events were handled. -/
def At (m : Monitor) (handled : List Handling) (w : World σ) : Prop :=
  w.monitor = m ∧ Entry.handlings w.entries = handled

theorem At.note {m : Monitor} {handled : List Handling} {w : World σ} (h : w.At m handled)
    {entries : List Entry} (hentries : Entry.handlings entries = []) :
    (w.note entries).At m handled := by
  refine ⟨h.1, ?_⟩
  rw [entries_note, Entry.handlings_append, hentries, List.append_nil]
  exact h.2

theorem At.perform {m : Monitor} {handled : List Handling} {w : World σ} (h : w.At m handled)
    (c : Collaborators σ) (run : Run) {call : Call} (hcall : call.domain ≠ .dispatch) :
    (w.perform c run call).1.At m handled := by
  cases call with
  | collect paths => exact h
  | probe check => exact h
  | list names => exact h
  | deliver event => exact absurd rfl hcall

theorem perform_collect {c : Collaborators σ} {w : World σ} {run : Run} {call : Call}
    (hcall : call.domain = .resources) {reply : Reply}
    (hreply : (w.perform c run call).2.2 = some reply) : ∃ o, reply = .sampled o := by
  cases call with
  | collect paths =>
    unfold World.perform ask at hreply
    obtain ⟨o, _, rfl⟩ := Option.map_eq_some_iff.1 hreply
    exact ⟨o, rfl⟩
  | probe check => cases hcall
  | list names => cases hcall
  | deliver event => cases hcall

/-- **An event** is handled by the dispatcher, whatever the channels answer to it.  If a channel
breaks down over it, it went out, and its cooldown has begun, and that is all. -/
theorem perform_deliver (c : Collaborators σ) (w : World σ) (run : Run) (event : AlertEvent) :
    let d := w.monitor.dispatcher
    (∃ reply w' takes, w.perform c run (.deliver event) =
        (w', takes, some (.handled (d.handle event run.time reply).2)) ∧
      w'.At { w.monitor with dispatcher := (d.handle event run.time reply).1 }
        (Entry.handlings w.entries ++ [(d.handle event run.time reply).2])) ∨
    ∃ w' takes, w.perform c run (.deliver event) = (w', takes, none) ∧
      d.decideEvent event run.time = .passed ∧
      w'.At { w.monitor with dispatcher := (d.admitEvent event run.time).1 }
        (Entry.handlings w.entries) := by
  intro d
  have hat : ∀ (w' : World σ) (h : Handling),
      Entry.handlings (((w'.note [.handled h]).log h.logs).entries) =
        Entry.handlings w'.entries ++ [h] := by
    intro w' h
    unfold World.log
    rw [entries_note, entries_note, Entry.handlings_append, Entry.handlings_append,
      Entry.handlings_logged, List.append_nil]
    rfl
  unfold World.perform
  simp only
  split
  · rename_i hpassed
    split
    · exact .inl ⟨_, _, _, rfl, rfl, hat _ _⟩
    · exact .inr ⟨_, _, rfl, hpassed, rfl, rfl⟩
  · exact .inl ⟨_, _, _, rfl, rfl, hat _ _⟩

end World

theorem Run.sampled?_add_sampled (run : Run) (span : Span) (o : Except Fault ResourceSample) :
    (run.add span (.sampled o)).sampled? ≠ none := by
  unfold Run.sampled? Run.add
  rw [List.findSome?_append]
  simp

namespace World

variable {σ : Type}

/-- A cycle of the domain came to an act of the monitor, with this answer. -/
def Shows (m : Monitor) (handled : List Handling) (domain : Domain) (answer : Option Nat)
    (w : World σ) : Prop :=
  ∃ a : Act, a.domain? = some domain ∧ w.At (m.act a).1 (handled ++ (m.act a).2.handled) ∧
    answer = (m.act a).2.returned

theorem At.shows_broken {m : Monitor} {handled : List Handling} {w : World σ}
    (h : w.At m handled) (domain : Domain) : w.Shows m handled domain none := by
  refine ⟨.cycle (.broken domain), rfl, ?_, rfl⟩
  show w.At m (handled ++ [])
  rw [List.append_nil]
  exact h

/-- The effects of a cycle and its report are an act of the monitor. -/
theorem At.shows_conclude {m : Monitor} {handled : List Handling} {w : World σ}
    (h : w.At m handled) (now : Nat) (k : Cycle) {r : Monitor × CycleReport}
    (hmonitor : (m.act (.cycle k)).1 = r.1) (hhandled : (m.act (.cycle k)).2.handled = [])
    (hreturned : (m.act (.cycle k)).2.returned = some r.2.queued.length) :
    let w' := w.conclude k.domain now r
    w'.Shows m handled k.domain (some (Entry.lastCount k.domain w'.entries)) := by
  intro w'
  refine ⟨.cycle k, rfl, ⟨hmonitor.symm, ?_⟩, ?_⟩
  · rw [hhandled, List.append_nil]
    show Entry.handlings (World.note _ _).entries = handled
    unfold World.log
    rw [entries_note, entries_note, Entry.handlings_append, Entry.handlings_append,
      Entry.handlings_logged, List.append_nil]
    show Entry.handlings w.entries ++ [] = handled
    rw [List.append_nil]
    exact h.2
  · rw [hreturned]
    show some (Entry.lastCount _ (World.note _ _).entries) = _
    rw [entries_note, Entry.lastCount_finished]

theorem At.shows_noRuntime {m : Monitor} {handled : List Handling} {w : World σ}
    (h : w.At m handled) (now : Nat) :
    let w' := w.note [.finished .containers 0 now]
    w'.Shows m handled .containers (some (Entry.lastCount .containers w'.entries)) := by
  intro w'
  refine ⟨.cycle .noRuntime, rfl, ?_, ?_⟩
  · show w'.At m (handled ++ [])
    rw [List.append_nil]
    exact h.note rfl
  · rw [entries_note, Entry.lastCount_finished]
    rfl

end World

namespace Plan

variable {σ : Type}

/-- A cycle of a watched domain leaves the monitor alone until all its calls have come
back. -/
def watched (c : Collaborators σ) (m : Monitor) (handled : List Handling) (domain : Domain)
    (hwatched : domain ≠ .dispatch) : Plan c domain where
  underway w run todo :=
    w.At m handled ∧ run.domain = domain ∧ (∀ call ∈ todo, call.domain = domain) ∧
      (domain = .resources → run.sampled? = none → todo ≠ [])
  settled answer w := w.Shows m handled domain answer
  perform := by
    intro w run call todo span ⟨hat, hrun, hcalls, _⟩
    have hcall := hcalls call List.mem_cons_self
    have hat' := hat.perform c run (hcall ▸ hwatched)
    rcases hperform : w.perform c run call with ⟨w', takes, reply⟩
    rw [hperform] at hat'
    cases reply with
    | none => exact (hat'.note rfl).shows_broken domain
    | some reply =>
      refine ⟨hat'.note rfl, hrun, ?_, ?_⟩
      · intro other hother
        exact hcalls other (List.mem_cons_of_mem _ hother)
      · intro hresources hnone
        have hreply : (w.perform c run call).2.2 = some reply := by rw [hperform]
        obtain ⟨o, rfl⟩ := World.perform_collect (hcall.trans hresources) hreply
        exact absurd hnone (run.sampled?_add_sampled span o)
  finish := by
    intro w run now ⟨hat, hrun, _, hsampled⟩
    unfold World.finish
    rw [hrun]
    cases domain with
    | resources =>
      cases ho : run.sampled? with
      | none => exact absurd rfl (hsampled rfl ho)
      | some o =>
        rw [hat.1]
        exact hat.shows_conclude now (.resources o) rfl rfl rfl
    | endpoints =>
      rw [hat.1]
      exact hat.shows_conclude now (.endpoints run.probed) rfl rfl rfl
    | containers =>
      cases ho : run.listed? with
      | none => exact hat.shows_noRuntime now
      | some o =>
        rw [hat.1]
        exact hat.shows_conclude now (.containers o) rfl rfl rfl
    | dispatch => exact absurd rfl hwatched

end Plan

/-! ## Dispatch, event by event -/

namespace Dispatcher

theorem dispatch_eq_handleAll (d : Dispatcher) (events : List AlertEvent) (now : Instant)
    (replies : Replies) :
    d.dispatch events now replies =
      d.handleAll now replies 0 (if d.enabled then events else []) := by
  unfold dispatch
  split <;> rfl

/-- Only the replies to the events themselves matter. -/
theorem handleAll_congr (now : Instant) {replies replies' : Replies} (events : List AlertEvent) :
    ∀ (d : Dispatcher) (position : Nat),
      (∀ i, position ≤ i → i < position + events.length → replies i = replies' i) →
      d.handleAll now replies position events = d.handleAll now replies' position events := by
  induction events with
  | nil =>
    intro d position _
    rfl
  | cons e es ih =>
    intro d position h
    rw [List.length_cons] at h
    rw [handleAll, handleAll, h position (Nat.le_refl _) (by omega)]
    rw [ih _ (position + 1) fun i hle hlt => h i (by omega) (by omega)]

theorem handleAll_append_singleton (now : Instant) (replies : Replies) (events : List AlertEvent)
    (e : AlertEvent) :
    ∀ (d : Dispatcher) (position : Nat),
      let r := d.handleAll now replies position events
      let last := r.1.handle e now (replies (position + events.length))
      d.handleAll now replies position (events ++ [e]) = (last.1, r.2 ++ [last.2]) := by
  induction events with
  | nil =>
    intro d position
    rfl
  | cons first es ih =>
    intro d position
    simp only [List.cons_append, handleAll, ih, List.length_cons]
    rw [show position + 1 + es.length = position + (es.length + 1) by omega]

/-- One more event can be given any reply. -/
theorem handleAll_extend (d : Dispatcher) (now : Instant) (replies : Replies)
    (events : List AlertEvent) (e : AlertEvent) (reply : Nat → Option String) :
    let r := d.handleAll now replies 0 events
    let last := r.1.handle e now reply
    ∃ replies', d.handleAll now replies' 0 (events ++ [e]) = (last.1, r.2 ++ [last.2]) := by
  intro r last
  let replies' : Replies := fun i => if i = events.length then reply else replies i
  refine ⟨replies', ?_⟩
  have hbefore : d.handleAll now replies' 0 events = r := by
    apply handleAll_congr
    intro i _ hlt
    exact if_neg (by omega)
  have hlast : replies' (0 + events.length) = reply := if_pos (Nat.zero_add _)
  rw [handleAll_append_singleton, hbefore, hlast]

end Dispatcher

/-- **A dispatch that is broken off** has handled the events before the one that it gave out
last. -/
theorem Monitor.act_brokenDispatch (m : Monitor) (now : Instant) (replies : Replies)
    {done later : List AlertEvent} {e : AlertEvent}
    (hsplit : (if m.dispatcher.enabled then m.pending.toList else []) = done ++ e :: later) :
    let handled := m.dispatcher.handleAll now replies 0 done
    let r := m.act (.brokenDispatch now replies done.length)
    r.1 = { m.takePending.1 with dispatcher := (handled.1.admitEvent e now).1 } ∧
      r.2.handled = handled.2 := by
  intro handled r
  have henabled : m.dispatcher.enabled = true := by
    by_contra hdisabled
    rw [if_neg hdisabled] at hsplit
    cases List.append_ne_nil_of_right_ne_nil done (List.cons_ne_nil e later) hsplit.symm
  rw [if_pos henabled] at hsplit
  have hbefore : m.pending.toList.take done.length = done := by
    rw [hsplit, List.take_left]
  have hlast : m.pending.toList.take (done.length + 1) = done ++ [e] := by
    rw [hsplit, List.take_length_add_append]
    rfl
  have hdispatch : ∀ events : List AlertEvent, m.dispatcher.dispatch events now replies =
      m.dispatcher.handleAll now replies 0 events := fun _ => if_pos henabled
  have hstate : r.1 = { m.takePending.1 with
      dispatcher := (m.dispatcher.dispatch (m.pending.toList.take (done.length + 1)) now
        replies).1 } := rfl
  have hhandled : r.2.handled =
      (m.dispatcher.dispatch (m.pending.toList.take done.length) now replies).2 := rfl
  rw [hstate, hhandled, hdispatch, hdispatch, hbefore, hlast,
    Dispatcher.handleAll_append_singleton]
  exact ⟨rfl, rfl⟩

namespace Plan

variable {σ : Type}

/-- A dispatch takes its events at once and handles them one after the other, unless the
dispatcher is disabled, until a channel breaks down. -/
def dispatching (c : Collaborators σ) (m : Monitor) (handled : List Handling) (time : Instant) :
    Plan c .dispatch where
  underway w run todo :=
    run.domain = .dispatch ∧ run.time = time ∧ run.taken = m.pending.toList.length ∧
      ∃ done later replies,
        (if m.dispatcher.enabled then m.pending.toList else []) = done ++ later ∧
          todo = later.map .deliver ∧
          w.At { m.takePending.1 with
              dispatcher := (m.dispatcher.handleAll time replies 0 done).1 }
            (handled ++ (m.dispatcher.handleAll time replies 0 done).2)
  settled answer w := w.Shows m handled .dispatch answer
  perform := by
    intro w run call todo span ⟨hrun, htime, htaken, done, later, replies, hsplit, htodo, hat⟩
    cases later with
    | nil => cases htodo
    | cons e later =>
      obtain ⟨rfl, rfl⟩ := List.cons.inj htodo
      rcases w.perform_deliver c run e with
        ⟨reply, w', takes, hperform, hat'⟩ | ⟨w', takes, hperform, _, hat'⟩
      · rw [hperform]
        obtain ⟨replies', hreplies'⟩ := m.dispatcher.handleAll_extend time replies done e reply
        refine ⟨hrun, htime, htaken, done ++ [e], later, replies', ?_, rfl, ?_⟩
        · rw [hsplit, List.append_assoc]
          rfl
        · rw [hreplies']
          rw [hat.1, hat.2, htime, List.append_assoc] at hat'
          exact hat'.note rfl
      · rw [hperform]
        rw [hat.1, hat.2, htime] at hat'
        refine ⟨.brokenDispatch time replies done.length, rfl, ?_, rfl⟩
        obtain ⟨hstate, hhandled⟩ := m.act_brokenDispatch time replies hsplit
        rw [hstate, hhandled]
        exact hat'.note rfl
  finish := by
    intro w run now ⟨hrun, _, htaken, done, later, replies, hsplit, htodo, hat⟩
    have hlater : later = [] := List.map_eq_nil_iff.1 htodo.symm
    rw [hlater, List.append_nil] at hsplit
    unfold World.finish
    rw [hrun]
    refine ⟨.cycle (.dispatch time replies), rfl, ?_, ?_⟩
    · have hdispatch := m.dispatcher.dispatch_eq_handleAll m.pending.toList time replies
      rw [hsplit] at hdispatch
      have hwhole : (m.act (.cycle (.dispatch time replies))).1 =
          { m.takePending.1 with
            dispatcher := (m.dispatcher.dispatch m.pending.toList time replies).1 } := rfl
      have hhandled : (m.act (.cycle (.dispatch time replies))).2.handled =
          (m.dispatcher.dispatch m.pending.toList time replies).2 := rfl
      rw [hwhole, hhandled, hdispatch]
      exact (hat.note (Entry.handlings_logged _)).note rfl
    · show some (Entry.lastCount _ (World.note _ _).entries) = _
      rw [World.entries_note, Entry.lastCount_finished, htaken]
      rfl

end Plan

/-! ## Calls to a service -/

/-- What can be asked of a service without tasks. -/
inductive ServiceCall where
  /-- runs one cycle of a domain -/
  | cycle (domain : Domain)
  /-- queues events by hand -/
  | push (events : List AlertEvent)
  deriving DecidableEq, Inhabited

/-- The act is one that the call can come to. -/
def ServiceCall.Allows : ServiceCall → Act → Prop
  | cycle domain, a => a.domain? = some domain
  | push events, .push events' => events' = events
  | push _, _ => False

namespace Service

variable {σ : Type}

/-- The service after a call, and what it answers. -/
def answer (c : Collaborators σ) (s : Service σ) : ServiceCall → Service σ × Option Nat
  | .cycle domain => s.runCycle c domain
  | .push events =>
    (s.withMonitor fun m => { m with pending := m.pending.pushAll events }, none)

/-- The service after calls in their order, and what it answers to each of them. -/
def answerAll (c : Collaborators σ) (s : Service σ) :
    List ServiceCall → Service σ × List (Option Nat)
  | [] => (s, [])
  | call :: calls =>
    let r := s.answer c call
    let rest := r.1.answerAll c calls
    (rest.1, r.2 :: rest.2)

/-- **A single cycle** of a service without tasks is an act of its monitor, and it answers
what the act returns. -/
theorem runCycle_shows (c : Collaborators σ) {s : Service σ} (hidle : s.tasks = [])
    (domain : Domain) :
    (s.runCycle c domain).1.tasks = [] ∧
      (s.runCycle c domain).1.world.Shows s.world.monitor (Entry.handlings s.world.entries) domain
        (s.runCycle c domain).2 := by
  have hstart : s.world.At s.world.monitor (Entry.handlings s.world.entries) := ⟨rfl, rfl⟩
  cases domain with
  | resources =>
    refine runCycle_holds (.watched c _ _ .resources (by decide)) hidle
      ⟨hstart.note rfl, rfl, ?_, ?_⟩
    · intro call hcall
      rw [List.mem_singleton.1 hcall]
      rfl
    · intro _ _ hnil
      cases hnil
  | endpoints =>
    refine runCycle_holds (.watched c _ _ .endpoints (by decide)) hidle
      ⟨hstart.note rfl, rfl, ?_, ?_⟩
    · intro call hcall
      obtain ⟨check, _, rfl⟩ := List.mem_map.1 hcall
      rfl
    · intro hresources
      cases hresources
  | containers =>
    refine runCycle_holds (.watched c _ _ .containers (by decide)) hidle
      ⟨hstart.note rfl, rfl, ?_, ?_⟩
    · intro call hcall
      change call ∈ (if c.hasRuntime then [_] else []) at hcall
      split at hcall
      · rw [List.mem_singleton.1 hcall]
        rfl
      · cases hcall
    · intro hresources
      cases hresources
  | dispatch =>
    refine runCycle_holds (.dispatching c _ _ (c.wallClock s.world.outside)) hidle
      ⟨rfl, rfl, rfl, [], _, fun _ _ => none, (List.nil_append _).symm, ?_, ?_⟩
    · show (if s.world.monitor.dispatcher.enabled then _ else []) = List.map _ (ite _ _ _)
      split <;> rfl
    · have htaken : ({ s.world.note [.began .dispatch s.clock] with
          monitor := s.world.monitor.takePending.1 } : World σ).At s.world.monitor.takePending.1
            (Entry.handlings s.world.entries) := ⟨rfl, (hstart.note rfl).2⟩
      rw [Dispatcher.handleAll, List.append_nil]
      exact htaken.note (Entry.handlings_logged _)

/-- **Calls to a service** without tasks are a run of acts of its monitor: they leave the
monitor as the run does, the events that were handled are those of the run, and the answers
are what the acts return. -/
theorem answerAll_play (c : Collaborators σ) (calls : List ServiceCall) :
    ∀ {s : Service σ}, s.tasks = [] →
      ∃ acts, List.Forall₂ ServiceCall.Allows calls acts ∧
        (s.answerAll c calls).1.world.At (s.world.monitor.play acts).1
          (Entry.handlings s.world.entries ++
            (s.world.monitor.play acts).2.flatMap (·.handled)) ∧
        (s.answerAll c calls).2 = (s.world.monitor.play acts).2.map (·.returned) := by
  induction calls with
  | nil =>
    intro s _
    exact ⟨[], .nil, ⟨rfl, (List.append_nil _).symm⟩, rfl⟩
  | cons call calls ih =>
    intro s hidle
    have hcall : (s.answer c call).1.tasks = [] ∧
        ∃ a, call.Allows a ∧
          (s.answer c call).1.world.At (s.world.monitor.act a).1
            (Entry.handlings s.world.entries ++ (s.world.monitor.act a).2.handled) ∧
          (s.answer c call).2 = (s.world.monitor.act a).2.returned := by
      cases call with
      | cycle domain =>
        exact runCycle_shows c hidle domain
      | push events => exact ⟨hidle, .push events, rfl, ⟨rfl, (List.append_nil _).symm⟩, rfl⟩
    obtain ⟨hidle', a, hallows, hat, hanswer⟩ := hcall
    obtain ⟨acts, hacts, hrest, hanswers⟩ := ih hidle'
    rw [hat.1, hat.2, List.append_assoc] at hrest
    rw [hat.1] at hanswers
    refine ⟨a :: acts, .cons hallows hacts, hrest, ?_⟩
    rw [answerAll, hanswers, hanswer]
    rfl

end Service

end HostWatch
