import HostWatch.Monitor.Slots
import Mathlib.Data.List.Basic
import Mathlib.Tactic.Ring
set_option autoImplicit false

/-!
# Monitor: the times of calls in slots

Calls that are made in a bounded number of slots start one after the other, each as soon as the
results up to `bound` places before it are there.  How long they take settles when they run
(`Span.schedule`), and in which order they are finished.  Whatever that order is, they start in
their own (`Span.start_le_start`), and no more than `bound` of them are under way at any moment
(`Span.countP_underway_le`).  If all of them take the same time, they run in full rounds
(`Span.latest_take_of_equal`).
-/

namespace HostWatch.Span

/-- The times of calls that take these times, after the calls made so far. -/
def scheduleFrom (bound begun : Nat) (earlier : List Span) : List Nat → List Span
  | [] => []
  | delay :: delays =>
    let span : Span := ⟨slot bound begun earlier, slot bound begun earlier + delay⟩
    span :: scheduleFrom bound begun (earlier ++ [span]) delays

/-- The times of calls that take these times. -/
def schedule (bound begun : Nat) (delays : List Nat) : List Span :=
  scheduleFrom bound begun [] delays

variable {bound begun : Nat} {spans : List Span} {delays : List Nat}

/-! ## The latest end -/

theorem latest_append (begun : Nat) (earlier later : List Span) :
    latest begun (earlier ++ later) = latest (latest begun earlier) later :=
  List.foldl_append

theorem latest_le_of_prefix {earlier all : List Span} (h : earlier <+: all) :
    latest begun earlier ≤ latest begun all := by
  obtain ⟨later, rfl⟩ := h
  rw [latest_append]
  exact le_latest _ later

theorem latest_take_le {m n : Nat} (h : m ≤ n) :
    latest begun (spans.take m) ≤ latest begun (spans.take n) :=
  latest_le_of_prefix (List.take_prefix_take_left h)

theorem slot_le_slot_append (bound begun : Nat) (earlier : List Span) (span : Span) :
    slot bound begun earlier ≤ slot bound begun (earlier ++ [span]) := by
  refine latest_le_of_prefix (List.prefix_of_prefix_length_le
    ((List.take_prefix _ _).trans (List.prefix_append _ _)) (List.take_prefix _ _) ?_)
  rw [List.length_take, List.length_take, List.length_append, List.length_singleton]
  omega

/-! ## The schedule -/

theorem length_scheduleFrom (earlier : List Span) :
    (scheduleFrom bound begun earlier delays).length = delays.length := by
  induction delays generalizing earlier with
  | nil => rfl
  | cons delay delays ih => rw [scheduleFrom, List.length_cons, List.length_cons, ih]

theorem length_schedule : (schedule bound begun delays).length = delays.length :=
  length_scheduleFrom []

/-- Calls after earlier ones start at the latest end up to `bound` places before, and take their
times. -/
theorem getElem?_append_scheduleFrom (hbound : 0 < bound) (earlier : List Span) {i : Nat}
    {span : Span} (hi : earlier.length ≤ i) :
    let all := earlier ++ scheduleFrom bound begun earlier delays
    all[i]? = some span →
      span.start = latest begun (all.take (i + 1 - bound)) ∧
        ∃ delay, delays[i - earlier.length]? = some delay ∧ span.finish = span.start + delay := by
  induction delays generalizing earlier with
  | nil =>
    intro all hspan
    rw [show all = earlier from List.append_nil _, List.getElem?_eq_none hi] at hspan
    cases hspan
  | cons delay delays ih =>
    let first : Span := ⟨slot bound begun earlier, slot bound begun earlier + delay⟩
    have hall : earlier ++ scheduleFrom bound begun earlier (delay :: delays) =
        (earlier ++ [first]) ++ scheduleFrom bound begun (earlier ++ [first]) delays := by
      rw [List.append_assoc]
      rfl
    intro all hspan
    rcases Nat.eq_or_lt_of_le hi with rfl | hlater
    · have hfirst : all[earlier.length]? = some first := by
        rw [List.getElem?_append_right (Nat.le_refl _), Nat.sub_self]
        rfl
      obtain rfl : first = span := Option.some.inj (hfirst.symm.trans hspan)
      refine ⟨?_, delay, by rw [Nat.sub_self]; rfl, rfl⟩
      rw [List.take_append_of_le_length (by omega)]
      rfl
    · have hmore := ih (earlier ++ [first]) (by simp; omega)
      rw [← hall] at hmore
      obtain ⟨hstart, delay', hdelay, hfinish⟩ := hmore hspan
      refine ⟨hstart, delay', ?_, hfinish⟩
      obtain ⟨k, rfl⟩ : ∃ k, i = earlier.length + 1 + k := ⟨i - earlier.length - 1, by omega⟩
      rw [List.length_append, List.length_singleton, Nat.add_sub_cancel_left] at hdelay
      rw [Nat.add_assoc, Nat.add_sub_cancel_left, Nat.add_comm 1 k]
      exact hdelay

/-- **A call starts** when the results up to `bound` places before it are there, and takes its
time. -/
theorem getElem?_schedule (hbound : 0 < bound) {i : Nat} {span : Span}
    (hspan : (schedule bound begun delays)[i]? = some span) :
    span.start = latest begun ((schedule bound begun delays).take (i + 1 - bound)) ∧
      ∃ delay, delays[i]? = some delay ∧ span.finish = span.start + delay :=
  getElem?_append_scheduleFrom hbound [] (Nat.zero_le i) hspan

section

variable {i j : Nat} {s s' : Span}

/-- **Calls start in their order**, in whichever they are finished. -/
theorem start_le_start (hbound : 0 < bound) (hij : i ≤ j)
    (hs : (schedule bound begun delays)[i]? = some s)
    (hs' : (schedule bound begun delays)[j]? = some s') : s.start ≤ s'.start := by
  rw [(getElem?_schedule hbound hs).1, (getElem?_schedule hbound hs').1]
  exact latest_take_le (by omega)

/-- **A call waits** for those that are `bound` places or more before it. -/
theorem finish_le_start (hbound : 0 < bound) (hij : i + bound ≤ j)
    (hs : (schedule bound begun delays)[i]? = some s)
    (hs' : (schedule bound begun delays)[j]? = some s') : s.finish ≤ s'.start := by
  rw [(getElem?_schedule hbound hs').1]
  refine finish_le_latest (List.mem_iff_getElem?.2 ⟨i, ?_⟩)
  rw [List.getElem?_take_of_lt (by omega)]
  exact hs

end

theorem countP_le_of_lt {α : Type} {p : α → Bool} {xs : List α} {k : Nat}
    (h : ∀ i x, xs[i]? = some x → p x = true → i < k) : xs.countP p ≤ k := by
  have hlater : (xs.drop k).countP p = 0 := by
    rw [List.countP_eq_zero]
    intro x hx hpx
    obtain ⟨i, hi⟩ := List.mem_iff_getElem?.1 hx
    rw [List.getElem?_drop] at hi
    have hlt := h _ x hi hpx
    omega
  calc xs.countP p
      = (xs.take k).countP p + (xs.drop k).countP p := by
        rw [← List.countP_append, List.take_append_drop]
    _ ≤ k := by
        rw [hlater]
        exact Nat.le_trans List.countP_le_length (List.length_take_le k xs)

/-- What is found within `k` entries of where it is found first is found `k` times at most. -/
theorem countP_le_of_window {α : Type} {p : α → Bool} {xs : List α} {k : Nat}
    (h : ∀ i j x y, xs[i]? = some x → xs[j]? = some y → p x = true → p y = true → j < i + k) :
    xs.countP p ≤ k := by
  induction xs with
  | nil => exact Nat.zero_le k
  | cons x xs ih =>
    by_cases hx : p x = true
    · exact countP_le_of_lt fun j y hy hpy => Nat.zero_add k ▸ h 0 j x y rfl hy hx hpy
    · rw [List.countP_cons_of_neg hx]
      refine ih fun i j x' y hx' hy hpx hpy => ?_
      have hlt := h (i + 1) (j + 1) x' y hx' hy hpx hpy
      omega

/-- The call is under way at this moment. -/
def Underway (time : Nat) (s : Span) : Prop := s.start ≤ time ∧ time < s.finish

instance (time : Nat) (s : Span) : Decidable (s.Underway time) :=
  inferInstanceAs (Decidable (_ ∧ _))

/-- **No more than `bound` calls are under way** at any moment. -/
theorem countP_underway_le (hbound : 0 < bound) (time : Nat) :
    (schedule bound begun delays).countP (·.Underway time) ≤ bound := by
  refine countP_le_of_window fun i j s s' hs hs' hnow hnow' => ?_
  by_contra hfar
  have hwait := finish_le_start hbound (Nat.le_of_not_lt hfar) hs hs'
  have hearlier : time < s.finish := (of_decide_eq_true hnow).2
  have hlater : s'.start ≤ time := (of_decide_eq_true hnow').1
  omega

/-! ## Calls that take the same time -/

/-- **Calls that take the same time** run in full rounds of `bound` of them. -/
theorem latest_take_of_equal (hbound : 0 < bound) {time : Nat}
    (hequal : ∀ delay ∈ delays, delay = time) {n : Nat} (hn : n ≤ delays.length) :
    latest begun ((schedule bound begun delays).take n) =
      begun + (n + bound - 1) / bound * time := by
  induction n using Nat.strong_induction_on with
  | _ n ih =>
    cases n with
    | zero =>
      rw [Nat.zero_add, Nat.div_eq_of_lt (Nat.sub_lt hbound Nat.one_pos), Nat.zero_mul]
      rfl
    | succ n =>
      have hlength : n < (schedule bound begun delays).length := by
        rw [length_schedule]
        exact hn
      obtain ⟨hstart, delay, hdelay, hfinish⟩ :=
        getElem?_schedule hbound (List.getElem?_eq_getElem hlength)
      have htime : delay = time := hequal delay (List.mem_iff_getElem?.2 ⟨n, hdelay⟩)
      have hround : (n + 1 - bound + bound - 1) / bound = n / bound := by
        by_cases hfirst : n < bound
        · rw [Nat.div_eq_of_lt hfirst, Nat.div_eq_of_lt (by omega)]
        · rw [Nat.sub_add_cancel (by omega), Nat.add_sub_cancel]
      have hnext : (n + 1 + bound - 1) / bound = n / bound + 1 := by
        rw [Nat.add_right_comm, Nat.add_sub_cancel, Nat.add_div_right n hbound]
      have hmore : (n + bound - 1) / bound ≤ n / bound + 1 := by
        rw [← hnext]
        exact Nat.div_le_div_right (by omega)
      have hend : begun + n / bound * time + time = begun + (n / bound + 1) * time := by ring
      rw [ih (n + 1 - bound) (by omega) (by omega), hround] at hstart
      rw [List.take_succ_eq_append_getElem hlength, latest_append, ih n (by omega) (by omega),
        hnext]
      show max _ (schedule bound begun delays)[n].finish = _
      rw [hfinish, hstart, htime, hend]
      exact Nat.max_eq_right (Nat.add_le_add_left (Nat.mul_le_mul_right time hmore) begun)

/-- Together they take as many rounds as there are, the last one perhaps not full. -/
theorem latest_of_equal (hbound : 0 < bound) {time : Nat}
    (hequal : ∀ delay ∈ delays, delay = time) :
    latest begun (schedule bound begun delays) =
      begun + (delays.length + bound - 1) / bound * time := by
  have hlength : (schedule bound begun delays).length = delays.length := length_schedule
  calc latest begun (schedule bound begun delays)
      = latest begun ((schedule bound begun delays).take delays.length) := by
        rw [← hlength, List.take_length]
    _ = begun + (delays.length + bound - 1) / bound * time :=
        latest_take_of_equal hbound hequal (Nat.le_refl _)

end HostWatch.Span
