import Mathlib.Data.List.Enum
import HostWatch.Proofs.Alert.Cooldown
set_option autoImplicit false

/-!
# Alerts: deliveries that fail

Which events of a batch go out is decided without the channels (`Dispatcher.passing`).  Every
channel is asked to send exactly these events, in their order, and what the channels answer
is written down and goes nowhere else (`Dispatcher.filter_passed_handleAll`).  So a channel
that fails takes nothing away from the others, neither in this call nor in any later one, and
the report of a call names the deliveries that failed and no others.
-/

namespace HostWatch

open HostWatch.Time (Instant)

theorem flatMap_filter_of_eq_nil {α β : Type} {p : α → Bool} {f : α → List β} {xs : List α}
    (h : ∀ x ∈ xs, p x = false → f x = []) : (xs.filter p).flatMap f = xs.flatMap f := by
  induction xs with
  | nil => rfl
  | cons x xs ih =>
    obtain ⟨hfirst, hrest⟩ := List.forall_mem_cons.1 h
    cases hp : p x with
    | true => rw [List.filter_cons_of_pos hp, List.flatMap_cons, List.flatMap_cons, ih hrest]
    | false =>
      rw [List.filter_cons_of_neg (by rw [hp]; decide), List.flatMap_cons, hfirst hp,
        List.nil_append, ih hrest]

namespace Handling

/-- The channel at a place of the list is asked to send the event. -/
def asks (channel : Nat) (h : Handling) : Bool := h.deliveries[channel]?.isSome

/-- The events of a transcript that a channel is asked to send, in their order. -/
def askedOf (channel : Nat) (hs : List Handling) : List AlertEvent :=
  (hs.filter (asks channel)).map (·.event)

/-- A call reports how many events went out if no delivery failed, and otherwise every one
that did. -/
theorem outcome_eq (hs : List Handling) :
    outcome hs =
      if hs.flatMap failures = [] then .ok (sent hs).length
      else .error (.dispatch (hs.flatMap failures)) := by
  unfold outcome
  split
  · rename_i hnone
    rw [if_pos hnone]
  · rename_i hsome
    rw [if_neg hsome]

end Handling

namespace Dispatcher

/-! ## The events that go out -/

/-- The events of a batch that go out, each with its place; `position` is the place of the
first event of the batch. -/
def passing (d : Dispatcher) (now : Instant) (position : Nat) :
    List AlertEvent → List (AlertEvent × Nat)
  | [] => []
  | e :: es =>
    let rest := (d.admitEvent e now).1.passing now (position + 1) es
    if d.decideEvent e now = .passed then (e, position) :: rest else rest

/-- The deliveries to some channels that failed: event by event, and for each event in the
order of the channels. -/
def failedOf (channels : List String) (replies : Replies) (passed : List (AlertEvent × Nat)) :
    List DeliveryFailure :=
  passed.flatMap fun p => channels.zipIdx.filterMap fun c =>
    (replies p.2 c.2).map fun reason => ⟨c.1, p.1.kind, reason⟩

theorem failedOf_eq_nil_iff {channels : List String} {replies : Replies}
    {passed : List (AlertEvent × Nat)} :
    failedOf channels replies passed = [] ↔
      ∀ p ∈ passed, ∀ channel < channels.length, replies p.2 channel = none := by
  simp only [failedOf, List.flatMap_eq_nil_iff, List.filterMap_eq_nil_iff, Option.map_eq_none_iff,
    List.forall_mem_zipIdx, Nat.zero_add]

theorem deliveries_admitEvent (d : Dispatcher) (e : AlertEvent) (now : Instant)
    (reply : Nat → Option String) :
    (d.admitEvent e now).1.deliveries reply = d.deliveries reply := by
  have hchannels : (d.admitEvent e now).1.channels = d.channels :=
    (sameSettings_admitEvent d e now).2.2.2
  rw [deliveries, hchannels, deliveries]

theorem handle_of_passed {d : Dispatcher} {e : AlertEvent} {now : Instant}
    (h : d.decideEvent e now = .passed) (reply : Nat → Option String) :
    (d.handle e now reply).2 = ⟨e, .passed, d.deliveries reply⟩ := by
  simp only [handle, admitEvent_snd, h, if_true]

theorem handle_of_not_passed {d : Dispatcher} {e : AlertEvent} {now : Instant}
    (h : d.decideEvent e now ≠ .passed) (reply : Nat → Option String) :
    (d.handle e now reply).2 = ⟨e, d.decideEvent e now, []⟩ := by
  simp only [handle, admitEvent_snd, if_neg h]

/-- **The events that go out** are delivered with the replies to their places. -/
theorem filter_passed_handleAll (d : Dispatcher) (now : Instant) (replies : Replies)
    (position : Nat) (events : List AlertEvent) :
    (d.handleAll now replies position events).2.filter (·.verdict = .passed) =
      (d.passing now position events).map fun p =>
        ⟨p.1, .passed, d.deliveries (replies p.2)⟩ := by
  induction events generalizing d position with
  | nil => rfl
  | cons e es ih =>
    have hrest := ih (d.admitEvent e now).1 (position + 1)
    simp only [deliveries_admitEvent] at hrest
    rw [handleAll, passing]
    by_cases hpassed : d.decideEvent e now = .passed
    · rw [handle_of_passed hpassed, List.filter_cons_of_pos (by simp), if_pos hpassed,
        List.map_cons]
      exact congrArg _ hrest
    · rw [handle_of_not_passed hpassed, List.filter_cons_of_neg (by simpa using hpassed),
        if_neg hpassed]
      exact hrest

theorem deliveries_of_mem_handleAll {d : Dispatcher} {now : Instant} {replies : Replies}
    {position : Nat} {events : List AlertEvent} {h : Handling}
    (hmem : h ∈ (d.handleAll now replies position events).2) (hheld : h.verdict ≠ .passed) :
    h.deliveries = [] := by
  induction events generalizing d position with
  | nil => cases hmem
  | cons e es ih =>
    rcases List.mem_cons.1 hmem with rfl | hmem
    · simp only [handle] at hheld ⊢
      exact if_neg hheld
    · exact ih hmem

/-! ## One call -/

/-- The events of a call that go out; a disabled dispatcher lets none out. -/
def passed (d : Dispatcher) (events : List AlertEvent) (now : Instant) :
    List (AlertEvent × Nat) :=
  if d.enabled then d.passing now 0 events else []

variable {d : Dispatcher} {events : List AlertEvent} {now : Instant} {replies : Replies}

theorem filter_passed_dispatch :
    (d.dispatch events now replies).2.filter (·.verdict = .passed) =
      (d.passed events now).map fun p => ⟨p.1, .passed, d.deliveries (replies p.2)⟩ := by
  unfold dispatch passed
  cases d.enabled with
  | true => exact d.filter_passed_handleAll now replies 0 events
  | false => rfl

theorem deliveries_of_mem_dispatch {h : Handling} (hmem : h ∈ (d.dispatch events now replies).2)
    (hheld : h.verdict ≠ .passed) : h.deliveries = [] := by
  unfold dispatch at hmem
  split at hmem
  · exact deliveries_of_mem_handleAll hmem hheld
  · cases hmem

/-- **A channel** is asked to send the events that go out, whichever it is. -/
theorem askedOf_dispatch {channel : Nat} (hchannel : channel < d.channels.length) :
    Handling.askedOf channel (d.dispatch events now replies).2 =
      (d.passed events now).map (·.1) := by
  have hasks : (d.dispatch events now replies).2.filter (Handling.asks channel) =
      (d.dispatch events now replies).2.filter (·.verdict = .passed) := by
    refine List.filter_congr fun h hmem => ?_
    by_cases hpassed : h.verdict = .passed
    · have hout : h ∈ (d.dispatch events now replies).2.filter (·.verdict = .passed) :=
        List.mem_filter.2 ⟨hmem, by simpa using hpassed⟩
      rw [filter_passed_dispatch] at hout
      obtain ⟨p, _, rfl⟩ := List.mem_map.1 hout
      simp [Handling.asks, deliveries, hchannel]
    · simp [Handling.asks, deliveries_of_mem_dispatch hmem hpassed, hpassed]
  rw [Handling.askedOf, hasks, filter_passed_dispatch, List.map_map]
  rfl

theorem failures_of_passed (d : Dispatcher) (e : AlertEvent) (reply : Nat → Option String) :
    Handling.failures ⟨e, .passed, d.deliveries reply⟩ =
      d.channels.zipIdx.filterMap fun c =>
        (reply c.2).map fun reason => ⟨c.1, e.kind, reason⟩ := by
  rw [Handling.failures, deliveries, List.filterMap_map]
  rfl

/-- **The deliveries that failed** are those of the events that went out. -/
theorem failures_dispatch :
    (d.dispatch events now replies).2.flatMap Handling.failures =
      failedOf d.channels replies (d.passed events now) := by
  have hheld : ∀ h ∈ (d.dispatch events now replies).2,
      decide (h.verdict = .passed) = false → h.failures = [] := by
    intro h hmem hverdict
    rw [Handling.failures, deliveries_of_mem_dispatch hmem (of_decide_eq_false hverdict)]
    rfl
  rw [← flatMap_filter_of_eq_nil hheld, filter_passed_dispatch, List.flatMap_map, failedOf]
  exact List.flatMap_congr fun p _ => d.failures_of_passed p.1 (replies p.2)

theorem sent_dispatch :
    Handling.sent (d.dispatch events now replies).2 = (d.passed events now).map (·.1) := by
  rw [Handling.sent, filter_passed_dispatch, List.map_map]
  rfl

theorem outcome_dispatch :
    Handling.outcome (d.dispatch events now replies).2 =
      if failedOf d.channels replies (d.passed events now) = [] then
        .ok (d.passed events now).length
      else .error (.dispatch (failedOf d.channels replies (d.passed events now))) := by
  rw [Handling.outcome_eq, failures_dispatch, sent_dispatch, List.length_map]

theorem sameSettings_handleAll (d : Dispatcher) (now : Instant) (replies : Replies)
    (position : Nat) (events : List AlertEvent) :
    (d.handleAll now replies position events).1.SameSettings d := by
  induction events generalizing d position with
  | nil => exact ⟨rfl, rfl, rfl, rfl⟩
  | cons e es ih =>
    obtain ⟨henabled, hlevels, hcooldown, hchannels⟩ := ih (d.admitEvent e now).1 (position + 1)
    obtain ⟨henabled', hlevels', hcooldown', hchannels'⟩ := sameSettings_admitEvent d e now
    exact ⟨henabled.trans henabled', hlevels.trans hlevels', hcooldown.trans hcooldown',
      hchannels.trans hchannels'⟩

theorem channels_dispatch (d : Dispatcher) (events : List AlertEvent) (now : Instant)
    (replies : Replies) : (d.dispatch events now replies).1.channels = d.channels := by
  unfold dispatch
  split
  · exact (sameSettings_handleAll d now replies 0 events).2.2.2
  · rfl

end Dispatcher

/-! ## Calls one after the other -/

/-- A batch of events that a dispatcher is called with. -/
structure DispatchBatch where
  events : List AlertEvent
  now : Instant
  deriving DecidableEq, Repr, Inhabited

/-- What came of one call. -/
structure DispatchResult where
  /-- the dispatcher that was called -/
  before : Dispatcher
  /-- the dispatcher afterwards -/
  after : Dispatcher
  transcript : List Handling

namespace DispatchResult

/-- The events that a channel is asked to send. -/
def asked (channel : Nat) (r : DispatchResult) : List AlertEvent :=
  Handling.askedOf channel r.transcript

/-- What the call returns. -/
def outcome (r : DispatchResult) : Except Fault Nat := Handling.outcome r.transcript

end DispatchResult

namespace Dispatcher

/-- Calls a dispatcher with one batch after the other; the replies to each call are those for
its place, and `place` is the place of the first call. -/
def dispatchAll (d : Dispatcher) (replies : Nat → Replies) (place : Nat) :
    List DispatchBatch → List DispatchResult
  | [] => []
  | batch :: batches =>
    let r := d.dispatch batch.events batch.now (replies place)
    ⟨d, r.1, r.2⟩ :: r.1.dispatchAll replies (place + 1) batches

/-- What is remembered after each call does not depend on the replies. -/
theorem after_dispatchAll_eq (d : Dispatcher) (replies replies' : Nat → Replies) (place : Nat)
    (batches : List DispatchBatch) :
    (d.dispatchAll replies place batches).map (·.after) =
      (d.dispatchAll replies' place batches).map (·.after) := by
  induction batches generalizing d place with
  | nil => rfl
  | cons batch batches ih =>
    have hafter := d.dispatch_fst_eq batch.events batch.now (replies place) (replies' place)
    simp only [dispatchAll, List.map_cons, hafter]
    rw [ih]

/-- What a channel is asked to send in each call depends neither on the channel nor on the
replies. -/
theorem asked_dispatchAll_eq {d : Dispatcher} {channel channel' : Nat}
    (hchannel : channel < d.channels.length) (hchannel' : channel' < d.channels.length)
    (replies replies' : Nat → Replies) (place : Nat) (batches : List DispatchBatch) :
    (d.dispatchAll replies place batches).map (·.asked channel) =
      (d.dispatchAll replies' place batches).map (·.asked channel') := by
  induction batches generalizing d place with
  | nil => rfl
  | cons batch batches ih =>
    have hafter := d.dispatch_fst_eq batch.events batch.now (replies place) (replies' place)
    have hchannels := d.channels_dispatch batch.events batch.now (replies' place)
    simp only [dispatchAll, List.map_cons, DispatchResult.asked, askedOf_dispatch hchannel,
      askedOf_dispatch hchannel', hafter]
    rw [← hchannels] at hchannel hchannel'
    exact congrArg _ (ih hchannel hchannel' (place + 1))

/-- **Every call** of a run comes to what its own replies make of the events that go out. -/
theorem exists_result (d : Dispatcher) (replies : Nat → Replies) (first : Nat)
    {batches : List DispatchBatch} {place : Nat} {batch : DispatchBatch}
    (h : batches[place]? = some batch) :
    ∃ r, (d.dispatchAll replies first batches)[place]? = some r ∧
      r.before.channels = d.channels ∧
      r.transcript = (r.before.dispatch batch.events batch.now (replies (first + place))).2 := by
  induction batches generalizing d first place with
  | nil => cases h
  | cons b batches ih =>
    cases place with
    | zero =>
      obtain rfl : b = batch := Option.some.inj h
      exact ⟨_, rfl, rfl, rfl⟩
    | succ place =>
      obtain ⟨r, hr, hchannels, htranscript⟩ :=
        ih (d.dispatch b.events b.now (replies first)).1 (first + 1) h
      refine ⟨r, hr, hchannels.trans (d.channels_dispatch _ _ _), ?_⟩
      rw [htranscript, Nat.add_assoc, Nat.add_comm 1 place]

/-- **Failures are isolated.**  Take any dispatcher, any calls to it one after the other, and
any two ways in which the channels answer.  What every channel is asked to send in each call,
and what the dispatcher remembers after it, is the same both ways, and the same for all
channels: the events that go out, in their order.  A call returns their number if no channel
failed to send any of them, and otherwise every delivery that failed, event by event and for
each event in the order of the channels. -/
theorem dispatchAll_isolates_failures (d : Dispatcher) (batches : List DispatchBatch)
    (replies replies' : Nat → Replies) :
    let run := d.dispatchAll replies 0 batches
    let run' := d.dispatchAll replies' 0 batches
    run.map (·.after.lastSent) = run'.map (·.after.lastSent) ∧
      (∀ channel < d.channels.length, run.map (·.asked channel) = run'.map (·.asked channel)) ∧
      (∀ channel < d.channels.length, ∀ channel' < d.channels.length,
        run.map (·.asked channel) = run.map (·.asked channel')) ∧
      ∀ place batch, batches[place]? = some batch →
        ∃ r, run[place]? = some r ∧
          let passed := r.before.passed batch.events batch.now
          let failed := failedOf d.channels (replies place) passed
          (∀ channel < d.channels.length, r.asked channel = passed.map (·.1)) ∧
            (failed = [] ↔
              ∀ p ∈ passed, ∀ channel < d.channels.length, replies place p.2 channel = none) ∧
            r.outcome = if failed = [] then .ok passed.length else .error (.dispatch failed) := by
  intro run run'
  refine ⟨?_, ?_, ?_, ?_⟩
  · have hafter := congrArg (List.map (·.lastSent))
      (d.after_dispatchAll_eq replies replies' 0 batches)
    rw [List.map_map, List.map_map] at hafter
    exact hafter
  · intro channel hchannel
    exact asked_dispatchAll_eq hchannel hchannel replies replies' 0 batches
  · intro channel hchannel channel' hchannel'
    exact asked_dispatchAll_eq hchannel hchannel' replies replies 0 batches
  · intro place batch hbatch
    obtain ⟨r, hr, hchannels, htranscript⟩ := d.exists_result replies 0 hbatch
    rw [Nat.zero_add] at htranscript
    refine ⟨r, hr, ?_, failedOf_eq_nil_iff, ?_⟩
    · intro channel hchannel
      rw [← hchannels] at hchannel
      rw [DispatchResult.asked, htranscript, askedOf_dispatch hchannel]
    · rw [DispatchResult.outcome, htranscript, outcome_dispatch, hchannels]

/-- The second of two channels does not take the first of two events.  Both channels are asked
to send both events, and the call reports the one delivery that failed. -/
theorem dispatchAll_isolates_failures_second_channel :
    let d : Dispatcher := ⟨true, [], 300, ["mail", "chat"], .empty⟩
    let cpu : AlertEvent := ⟨"cpu", "high", .critical, ⟨0, 0⟩⟩
    let memory : AlertEvent := ⟨"memory", "high", .critical, ⟨0, 0⟩⟩
    let batch : DispatchBatch := ⟨[cpu, memory], ⟨0, 0⟩⟩
    let replies : Nat → Replies := fun _ position channel =>
      if position = 0 ∧ channel = 1 then some "down" else none
    let run := d.dispatchAll replies 0 [batch, batch]
    0 < d.channels.length ∧ 1 < d.channels.length ∧ [batch, batch][0]? = some batch ∧
      run.map (·.asked 0) = run.map (·.asked 1) ∧
      ∃ r, run[0]? = some r ∧ r.asked 0 = [cpu, memory] ∧
        r.outcome = .error (.dispatch [⟨"chat", "cpu", "down"⟩]) := by
  intro d cpu memory batch replies run
  have hmail : 0 < d.channels.length := by decide
  have hchat : 1 < d.channels.length := by decide
  obtain ⟨_, _, hsame, hcalls⟩ :=
    dispatchAll_isolates_failures d [batch, batch] replies fun _ _ _ => none
  obtain ⟨r, hr, hasked, _, houtcome⟩ := hcalls 0 batch rfl
  have hpassed : r.before.passed batch.events batch.now = [(cpu, 0), (memory, 1)] := by
    rw [← Option.some.inj hr]
    decide +kernel
  rw [hpassed] at hasked houtcome
  exact ⟨hmail, hchat, rfl, hsame 0 hmail 1 hchat, r, hr, hasked 0 hmail,
    houtcome.trans (by decide +kernel)⟩

end Dispatcher

end HostWatch
