import HostWatch.Proofs.Alert.Delivery
import HostWatch.Proofs.Alert.Episode
import HostWatch.Proofs.Monitor.Conservation
set_option autoImplicit false

/-!
# Monitor: what a channel is asked to send

In a run of cycles alone all events come from the book, so that the events of a key are
the notices of its episodes, and they take turns.  On their way to a channel events only
get lost: the queue keeps them in their order, a dispatch hands each of the drained events
to a channel at most once, and those that it holds back never come again.

What a channel is asked to send is therefore a part of what was emitted, in its order,
whatever the settings of the dispatcher are, and whatever the outside answers.
-/

namespace HostWatch

open HostWatch.Time (Instant)

/-- The events that a channel is asked to send. -/
def Movement.asked (channel : Nat) (mv : Movement) : List AlertEvent :=
  (mv.handled.filter (Handling.asks channel)).map (·.event)

namespace Dispatcher

theorem map_event_handleAll (d : Dispatcher) (now : Instant) (replies : Replies) (position : Nat)
    (events : List AlertEvent) :
    (d.handleAll now replies position events).2.map (·.event) = events := by
  induction events generalizing d position with
  | nil => rfl
  | cons e es ih =>
    rw [handleAll, List.map_cons, ih]
    rfl

theorem map_event_dispatch_sublist (d : Dispatcher) (events : List AlertEvent) (now : Instant)
    (replies : Replies) :
    ((d.dispatch events now replies).2.map (·.event)).Sublist events := by
  unfold dispatch
  split
  · rw [map_event_handleAll]
  · exact List.nil_sublist _

end Dispatcher

namespace Monitor

/-! ## From the queue to a channel -/

/-- **One act** asks a channel to send a part of what it drained. -/
theorem asked_act_sublist (m : Monitor) (a : Act) (channel : Nat) :
    ((m.act a).2.asked channel).Sublist (m.act a).2.drained := by
  have hhandled : ((m.act a).2.handled.map (·.event)).Sublist (m.act a).2.drained := by
    cases a with
    | brokenDispatch now replies before =>
      exact (m.dispatcher.map_event_dispatch_sublist _ now replies).trans (List.take_sublist _ _)
    | push events => exact List.Sublist.refl _
    | cycle c =>
      cases c with
      | dispatch now replies =>
        exact m.dispatcher.map_event_dispatch_sublist m.pending.toList now replies
      | resources _ => exact List.Sublist.refl _
      | endpoints _ => exact List.Sublist.refl _
      | containers _ => exact List.Sublist.refl _
      | noRuntime => exact List.Sublist.refl _
      | broken _ => exact List.Sublist.refl _
  refine List.Sublist.trans ?_ hhandled
  exact List.filter_sublist.map _

/-- **A run** asks a channel to send a part of what it drained. -/
theorem asked_play_sublist (m : Monitor) (acts : List Act) (channel : Nat) :
    ((m.play acts).2.flatMap (Movement.asked channel)).Sublist
      ((m.play acts).2.flatMap (·.drained)) := by
  induction acts generalizing m with
  | nil => exact List.Sublist.refl _
  | cons a acts ih =>
    rw [play, List.flatMap_cons, List.flatMap_cons]
    exact (asked_act_sublist m a channel).append (ih _)

/-! ## From the book to the queue -/

theorem pushed_act_cycle (m : Monitor) (c : Cycle) :
    (m.act (.cycle c)).2.pushed = (m.book.observeAll (c.findings m.config.resources)).2 := by
  cases c <;> rfl

/-- **A run of cycles** pushes what the book emits over all their findings. -/
theorem pushed_play_cycles (m : Monitor) (cycles : List Cycle) :
    (m.play (cycles.map .cycle)).2.flatMap (·.pushed) =
      (m.book.observeAll (cycles.flatMap (Cycle.findings m.config.resources))).2 := by
  induction cycles generalizing m with
  | nil => rfl
  | cons c cycles ih =>
    have hact := moves_act m (.cycle c)
    have hrest := ih (m.act (.cycle c)).1
    rw [hact.config_eq, hact.book_eq] at hrest
    rw [List.map_cons, play, List.flatMap_cons, hrest, pushed_act_cycle, List.flatMap_cons,
      AlertBook.observeAll_append]
    rfl

/-! ## From the book to a channel -/

/-- **Alerts of a key take turns.**  Over any run of cycles of a new monitor, what a channel
is asked to send about a key is a part of what the book emitted about it, in its order.
What the book emitted takes turns, critical first, and is the notices of the episodes of
the key.  So what the channel is asked to send falls into groups, one for each episode,
and about an episode it is asked to send at most one critical event, at most one warning,
and no warning unless the episode is over and had reached the threshold. -/
theorem asked_of_episodes (config : MonitorConfig) (channels : List String) (startedAt : Instant)
    (cycles : List Cycle) (key : String) (channel : Nat) :
    let run := (new config channels startedAt).play (cycles.map .cycle)
    let emitted := AlertEvent.ofKind key (run.2.flatMap (·.pushed))
    let asked := AlertEvent.ofKind key (run.2.flatMap (Movement.asked channel))
    let episodes :=
      Episode.split (Finding.ofKey key (cycles.flatMap (Cycle.findings config.resources)))
    let threshold := AlertBook.defaultThreshold.toNat
    asked.Sublist emitted ∧
      emitted.map (·.level) = Episode.turns emitted.length ∧
      emitted = episodes.flatMap (Episode.notices threshold) ∧
      ∃ groups, groups.flatten = asked ∧
        List.Forall₂ (Episode.Allows threshold) episodes groups := by
  intro run emitted asked episodes threshold
  have hpos : 1 ≤ threshold := by decide
  have hemitted : emitted = episodes.flatMap (Episode.notices threshold) := by
    show AlertEvent.ofKind key (run.2.flatMap (·.pushed)) = _
    rw [pushed_play_cycles]
    exact AlertBook.ofKind_observeAll AlertBook.defaultThreshold key _
  have hasked : asked.Sublist emitted := by
    have hqueue := (moves_play (new config channels startedAt) (cycles.map .cycle)).queue_eq
    have hdrained : (run.2.flatMap (·.drained)).Sublist (run.2.flatMap (·.pushed)) := by
      refine List.Sublist.trans (List.sublist_append_left _ run.1.pending.toList) ?_
      rw [hqueue]
      exact List.Sublist.refl _
    exact ((asked_play_sublist _ _ channel).trans hdrained).filter _
  refine ⟨hasked, ?_, hemitted, ?_⟩
  · obtain ⟨n, hn⟩ := Episode.exists_turns hpos []
      (Finding.ofKey key (cycles.flatMap (Cycle.findings config.resources)))
    have hlevels : emitted.map (·.level) = Episode.turns n := by
      rw [hemitted]
      exact hn
    have hlength : emitted.length = n := by
      rw [← Episode.length_turns n, ← hlevels, List.length_map]
    rw [hlevels, hlength]
  · apply Episode.exists_groups hpos
    rw [← hemitted]
    exact hasked

end Monitor

end HostWatch
