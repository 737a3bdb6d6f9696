import HostWatch.Alert.Event
set_option autoImplicit false

/-!
# Alerts: the queue of pending events

Events wait in the order in which they came.  Draining takes all of them, so that
what was drained and what still waits are together what was pushed.
-/

namespace HostWatch

/-- Events that wait for dispatch, the oldest first. -/
structure AlertQueue where
  toList : List AlertEvent
  deriving DecidableEq, Repr, Inhabited

namespace AlertQueue

/-- The queue without events. -/
def empty : AlertQueue := ⟨[]⟩

/-- One more event waits. -/
def push (q : AlertQueue) (e : AlertEvent) : AlertQueue := ⟨q.toList ++ [e]⟩

/-- More events wait, in their order. -/
def pushAll (q : AlertQueue) (es : List AlertEvent) : AlertQueue := ⟨q.toList ++ es⟩

/-- Takes every event; the queue is empty afterwards. -/
def drain (q : AlertQueue) : AlertQueue × List AlertEvent := (empty, q.toList)

/-- How many events wait. -/
def size (q : AlertQueue) : Nat := q.toList.length

@[simp] theorem toList_empty : empty.toList = [] := rfl

@[simp] theorem toList_push (q : AlertQueue) (e : AlertEvent) :
    (q.push e).toList = q.toList ++ [e] := rfl

@[simp] theorem toList_pushAll (q : AlertQueue) (es : List AlertEvent) :
    (q.pushAll es).toList = q.toList ++ es := rfl

end AlertQueue

end HostWatch
