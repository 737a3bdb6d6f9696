import HostWatch.Alert.Event
import HostWatch.KeyMap
set_option autoImplicit false

/-!
# Alerts: the book of unhealthy episodes

Everything that is watched has a key, and the book keeps for each key whether its
last reading was good, how many readings in a row were so, and whether an alert
went out for the running episode.

A critical event goes out once in an episode, with the reading that makes the run
of bad readings as long as the book's threshold.  A warning goes out with the good
reading that ends an episode that had alerted, and with no other.  The counter of a
run stops at the largest number of 32 bits, which no rule here can tell from the
true length, because the threshold is itself such a number.
-/

namespace HostWatch

open HostWatch.Time (Instant)

/-- The verdict on one reading. -/
inductive Health where
  | ok
  | critical
  deriving DecidableEq, Repr, Inhabited

namespace Health

/-- Bad readings are critical. -/
def ofFailure (failed : Bool) : Health := if failed then .critical else .ok

/-- The verdict in small letters. -/
def text : Health → String
  | ok => "ok"
  | critical => "critical"

end Health

/-- The state of one key. -/
structure KeyState where
  key : String
  /-- the verdict on the last reading -/
  health : Health
  /-- how many readings in a row had this verdict -/
  streak : Nat
  /-- when the last event went out -/
  lastAlert : Option Instant
  /-- when the run of readings with this verdict began -/
  since : Instant
  /-- a critical event went out in the running episode -/
  alerted : Bool
  deriving DecidableEq, Repr, Inhabited

namespace KeyState

/-- The state before the first reading. -/
def fresh (key : String) (now : Instant) : KeyState :=
  ⟨key, .ok, 0, none, now, false⟩

/-- The longest run that is counted. -/
def streakLimit : Nat := UInt32.size - 1

/-- The state with one more reading counted, before any alert. -/
def count (s : KeyState) (verdict : Health) (now : Instant) : KeyState :=
  if s.health = verdict then { s with streak := min (s.streak + 1) streakLimit }
  else { s with health := verdict, streak := 1, since := now, alerted := false }

/-- The level of the event that a reading causes: `before` is the state it met. -/
def level? (threshold : Nat) (before : KeyState) (verdict : Health) (now : Instant) :
    Option AlertLevel :=
  let s := before.count verdict now
  match verdict with
  | .critical => if threshold ≤ s.streak && !s.alerted then some .critical else none
  | .ok => if before.health = .critical && before.alerted then some .warning else none

/-- The state after a reading and the level of the event it causes. -/
def step (threshold : Nat) (s : KeyState) (verdict : Health) (now : Instant) :
    KeyState × Option AlertLevel :=
  let counted := s.count verdict now
  match s.level? threshold verdict now with
  | some .critical => ({ counted with alerted := true, lastAlert := some now }, some .critical)
  | some .warning => ({ counted with lastAlert := some now }, some .warning)
  | none => (counted, none)

/-- A state as an object. -/
def toJson (s : KeyState) : Json :=
  .obj [("key", .str s.key), ("current_state", .str s.health.text),
    ("consecutive_checks", .ofNat s.streak), ("last_alert_sent", .ofOption Instant.toJson s.lastAlert),
    ("last_state_change", s.since.toJson), ("episode_alerted", .bool s.alerted)]

end KeyState

/-- The states of all keys, and how many bad readings in a row make an alert. -/
structure AlertBook where
  states : KeyMap KeyState
  threshold : Nat
  deriving Inhabited

namespace AlertBook

/-- How many bad readings in a row make an alert, unless something else is said. -/
def defaultThreshold : UInt32 := 3

/-- A book without states.  At least one bad reading is needed for an alert. -/
def new (checks : UInt32) : AlertBook := ⟨.empty, max checks.toNat 1⟩

/-- The state of a key. -/
def get? (b : AlertBook) (key : String) : Option KeyState := b.states.find? key

/-- The number of keys. -/
def size (b : AlertBook) : Nat := b.states.size

/-- All states in the order of their keys. -/
def snapshot (b : AlertBook) : List KeyState := b.states.values

/-- Forgets a key. -/
def reset (b : AlertBook) (key : String) : AlertBook := { b with states := b.states.erase key }

/-- Forgets every key. -/
def resetAll (b : AlertBook) : AlertBook := { b with states := .empty }

/-- The state that a reading of `key` meets. -/
def met (b : AlertBook) (key : String) (now : Instant) : KeyState :=
  (b.get? key).getD (.fresh key now)

/-- Takes in one reading: the book afterwards and the event it causes. -/
def observe (b : AlertBook) (key : String) (verdict : Health) (message : String) (now : Instant) :
    AlertBook × Option AlertEvent :=
  let r := (b.met key now).step b.threshold verdict now
  ({ b with states := b.states.insert key r.1 },
    r.2.map fun level => { kind := key, message, level, time := now })

@[simp] theorem threshold_observe (b : AlertBook) (key : String) (verdict : Health)
    (message : String) (now : Instant) :
    (b.observe key verdict message now).1.threshold = b.threshold := rfl

theorem get?_observe_of_ne (b : AlertBook) {key other : String} (verdict : Health)
    (message : String) (now : Instant) (h : key ≠ other) :
    (b.observe key verdict message now).1.get? other = b.get? other :=
  b.states.find?_insert_of_ne _ h

theorem get?_observe_self (b : AlertBook) (key : String) (verdict : Health)
    (message : String) (now : Instant) :
    (b.observe key verdict message now).1.get? key =
      some ((b.met key now).step b.threshold verdict now).1 :=
  b.states.find?_insert_self key _

/-- The threshold of a new book is a positive number of 32 bits. -/
theorem threshold_new (checks : UInt32) :
    1 ≤ (new checks).threshold ∧ (new checks).threshold ≤ KeyState.streakLimit := by
  have := checks.toNat_lt
  simp only [new, KeyState.streakLimit, UInt32.size]
  omega

end AlertBook

end HostWatch
