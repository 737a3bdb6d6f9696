set_option autoImplicit false

/-!
# Monitor: the beat of a task

A task is due one period after its start and then again and again.  A task that comes
late, because its last cycle took too long, starts at once and is due again one whole
period after that; being late by no more than five milliseconds counts as being on
time.  All times are milliseconds since the machine was started.
-/

namespace HostWatch

/-- When a task is due. -/
structure Ticker where
  period : Nat
  due : Nat
  deriving DecidableEq, Repr, Inhabited

namespace Ticker

/-- How late a cycle may start and still count as on time. -/
def tolerance : Nat := 5

/-- The seconds that the machine's clock can show. -/
def clockLimit : Nat := Nat.pow 2 63

/-- A ticker that starts at `now`; `none` when the period is zero or the clock cannot
show the time at which the task is due. -/
def start? (now periodSecs : Nat) : Option Ticker :=
  let due := now + periodSecs * 1000
  if periodSecs = 0 || clockLimit * 1000 ≤ due then none
  else some ⟨periodSecs * 1000, due⟩

/-- The ticker after a cycle that started at `now`. -/
def next (t : Ticker) (now : Nat) : Ticker :=
  { t with due := if t.due + tolerance < now then now + t.period else t.due + t.period }

/-- A cycle that starts on time does not shift the beat. -/
theorem next_of_onTime {t : Ticker} {now : Nat} (h : now ≤ t.due + tolerance) :
    t.next now = ⟨t.period, t.due + t.period⟩ := by
  rw [next, if_neg (Nat.not_lt.2 h)]

/-- A cycle that starts late is followed by a whole period. -/
theorem next_of_late {t : Ticker} {now : Nat} (h : t.due + tolerance < now) :
    t.next now = ⟨t.period, now + t.period⟩ := by
  rw [next, if_pos h]

end Ticker

end HostWatch
