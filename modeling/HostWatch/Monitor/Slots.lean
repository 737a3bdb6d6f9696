set_option autoImplicit false

/-!
# Monitor: calls in a bounded number of slots

A cycle makes its calls in order, with at most `bound` of them unfinished or not yet
handed on.  Results are handed on in the order of the calls: the result of a call waits
for those of all earlier ones.  So the call at position `i` starts as soon as the
results up to position `i - bound` are all there.
-/

namespace HostWatch

/-- The time a call takes: when it starts and when it ends. -/
structure Span where
  start : Nat
  finish : Nat
  deriving DecidableEq, Repr, Inhabited

namespace Span

/-- The latest end among spans, and `begun` when there are none. -/
def latest (begun : Nat) (spans : List Span) : Nat :=
  spans.foldl (fun t s => max t s.finish) begun

/-- When the next call may start, after the calls made so far. -/
def slot (bound begun : Nat) (spans : List Span) : Nat :=
  latest begun (spans.take (spans.length + 1 - bound))

/-- How many calls are under way when the last one of a list starts. -/
def underway (earlier : List Span) (s : Span) : Nat :=
  1 + earlier.countP fun e => s.start < e.finish

/-- The largest number of calls under way at a time; `earlier` are the calls before. -/
def peak (earlier : List Span) : List Span → Nat
  | [] => 0
  | s :: rest => max (underway earlier s) (peak (s :: earlier) rest)

theorem le_latest (begun : Nat) (spans : List Span) : begun ≤ latest begun spans := by
  induction spans generalizing begun with
  | nil => exact Nat.le_refl _
  | cons s rest ih => exact Nat.le_trans (Nat.le_max_left _ _) (ih _)

theorem finish_le_latest {begun : Nat} {spans : List Span} {s : Span} (h : s ∈ spans) :
    s.finish ≤ latest begun spans := by
  induction spans generalizing begun with
  | nil => cases h
  | cons r rest ih =>
    rcases List.mem_cons.1 h with rfl | h
    · exact Nat.le_trans (Nat.le_max_right _ _) (le_latest _ rest)
    · exact ih h

end Span

end HostWatch
