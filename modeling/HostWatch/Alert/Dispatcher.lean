import HostWatch.Alert.Queue
import HostWatch.Config.Basic
import HostWatch.Fault
import HostWatch.KeyMap
import HostWatch.Log
set_option autoImplicit false

/-!
# Alerts: dispatch

The dispatcher decides for each event whether it goes out: its level has to be
allowed, and the cooldown of its kind has to be over.  An event that goes out starts
the cooldown of its kind, whatever becomes of its deliveries; an event that is held
back changes nothing.

A dispatch is described by its transcript, one `Handling` for each event in their
order.  What was delivered, what failed and what is logged are read off the
transcript.  The replies of the channels enter as a function of the position of the
event and of the channel; they appear in the transcript and nowhere else
(`dispatch_fst_eq`).
-/

namespace HostWatch

open HostWatch.Time (Instant)

/-- Decides which events go out, and to which channels. -/
structure Dispatcher where
  enabled : Bool
  /-- the allowed levels; none stand for all -/
  levels : List AlertLevel
  cooldownSecs : Nat
  /-- the names of the channels -/
  channels : List String
  /-- when the last event of a kind went out -/
  lastSent : KeyMap Instant
  deriving Inhabited

/-- What is decided about an event. -/
inductive Verdict where
  /-- its level is not allowed -/
  | filtered
  /-- its kind is in its cooldown -/
  | suppressed
  /-- it goes out -/
  | passed
  deriving DecidableEq, Repr, Inhabited

/-- What became of one event at one channel. -/
structure Delivery where
  channel : String
  /-- why it failed, if it did -/
  failure : Option String
  deriving DecidableEq, Repr, Inhabited

/-- What became of one event of a dispatch. -/
structure Handling where
  event : AlertEvent
  verdict : Verdict
  /-- the deliveries of an event that went out, in the order of the channels -/
  deliveries : List Delivery
  deriving DecidableEq, Repr, Inhabited

/-- The reply of each channel to each event: why the delivery failed, if it did. -/
abbrev Replies := Nat → Nat → Option String

namespace Dispatcher

/-- A dispatcher that has sent nothing. -/
def new (config : AlertingConfig) (channels : List String) : Dispatcher where
  enabled := config.enabled
  levels := config.levels
  cooldownSecs := config.cooldownSecs
  channels := channels
  lastSent := .empty

/-- The level may go out. -/
def allows (d : Dispatcher) (level : AlertLevel) : Bool :=
  d.levels.isEmpty || d.levels.contains level

/-- The last event of a kind went out less than one cooldown before `now`, or after it. -/
def isCooling (d : Dispatcher) (kind : String) (now : Instant) : Bool :=
  d.cooldownSecs != 0 &&
    match d.lastSent.find? kind with
    | none => false
    | some previous => previous.elapsed now < d.cooldownSecs * 1000000000

/-- What is decided about an event. -/
def decideEvent (d : Dispatcher) (e : AlertEvent) (now : Instant) : Verdict :=
  if !d.allows e.level then .filtered
  else if d.isCooling e.kind now then .suppressed
  else .passed

/-- Decides about an event and, when it goes out, starts the cooldown of its kind. -/
def admitEvent (d : Dispatcher) (e : AlertEvent) (now : Instant) : Dispatcher × Verdict :=
  match d.decideEvent e now with
  | .passed => ({ d with lastSent := d.lastSent.insert e.kind now }, .passed)
  | v => (d, v)

/-- The deliveries of an event that goes out. -/
def deliveries (d : Dispatcher) (reply : Nat → Option String) : List Delivery :=
  d.channels.zipIdx.map fun c => ⟨c.1, reply c.2⟩

/-- Handles one event: decides about it and, when it goes out, delivers it; `reply` is
what the channels answer. -/
def handle (d : Dispatcher) (e : AlertEvent) (now : Instant) (reply : Nat → Option String) :
    Dispatcher × Handling :=
  let r := d.admitEvent e now
  (r.1, ⟨e, r.2, if r.2 = .passed then d.deliveries reply else []⟩)

/-- Handles events in their order; `position` is the place of the first one. -/
def handleAll (d : Dispatcher) (now : Instant) (replies : Replies) (position : Nat) :
    List AlertEvent → Dispatcher × List Handling
  | [] => (d, [])
  | e :: es =>
    let r := d.handle e now (replies position)
    let rest := r.1.handleAll now replies (position + 1) es
    (rest.1, r.2 :: rest.2)

/-- Dispatches events in their order; a disabled dispatcher does nothing. -/
def dispatch (d : Dispatcher) (events : List AlertEvent) (now : Instant) (replies : Replies) :
    Dispatcher × List Handling :=
  if d.enabled then d.handleAll now replies 0 events else (d, [])

/-- What the channels answer to an event does not change the dispatcher. -/
theorem handle_fst_eq (d : Dispatcher) (e : AlertEvent) (now : Instant)
    (reply reply' : Nat → Option String) :
    (d.handle e now reply).1 = (d.handle e now reply').1 := rfl

theorem handleAll_fst_eq (d : Dispatcher) (now : Instant) (replies replies' : Replies)
    (position : Nat) (events : List AlertEvent) :
    (d.handleAll now replies position events).1 = (d.handleAll now replies' position events).1 := by
  induction events generalizing d position with
  | nil => rfl
  | cons e es ih =>
    simp only [handleAll, handle_fst_eq d e now (replies position) (replies' position)]
    exact ih _ _

theorem dispatch_fst_eq (d : Dispatcher) (events : List AlertEvent) (now : Instant)
    (replies replies' : Replies) :
    (d.dispatch events now replies).1 = (d.dispatch events now replies').1 := by
  simp only [dispatch]
  split
  · exact handleAll_fst_eq d now replies replies' 0 events
  · rfl

/-- When the last event of a kind went out. -/
def lastSent? (d : Dispatcher) (kind : String) : Option Instant := d.lastSent.find? kind

end Dispatcher

/-! ## The transcript of a dispatch -/

namespace Handling

/-- The failed deliveries of an event. -/
def failures (h : Handling) : List DeliveryFailure :=
  h.deliveries.filterMap fun d => d.failure.map fun reason => ⟨d.channel, h.event.kind, reason⟩

/-- The log line of a delivery. -/
def deliveryLog (e : AlertEvent) (d : Delivery) : LogLine :=
  match d.failure with
  | none => ⟨.info, "Alert sent",
      [("channel", d.channel), ("alert_type", e.kind), ("level", e.level.text)]⟩
  | some reason => ⟨.warn, "Alert delivery failed: " ++ reason,
      [("channel", d.channel), ("alert_type", e.kind)]⟩

/-- The log lines of an event. -/
def logs (h : Handling) : List LogLine :=
  match h.verdict with
  | .filtered => [⟨.debug, "Alert level filtered out",
      [("alert_type", h.event.kind), ("level", h.event.level.text)]⟩]
  | .suppressed => [⟨.debug, "Alert suppressed by cooldown", [("alert_type", h.event.kind)]⟩]
  | .passed => h.deliveries.map (deliveryLog h.event)

/-- The events of a transcript that went out; every channel is asked to send them. -/
def sent (hs : List Handling) : List AlertEvent :=
  (hs.filter (·.verdict = .passed)).map (·.event)

/-- How many events went out, or every delivery that failed. -/
def outcome (hs : List Handling) : Except Fault Nat :=
  match hs.flatMap failures with
  | [] => .ok (sent hs).length
  | fs => .error (.dispatch fs)

end Handling

end HostWatch
