import HostWatch.Proofs.Monitor.Carrying
set_option autoImplicit false

/-!
# Monitor: when the cycles of a task begin

The cycles of a task begin in a beat (`beat`): the first one a period after the start, and each
later one when a period has passed since the one before it began and that one is over too.  A
cycle that is too long for the period but ends within the tolerance of the ticker would shift the
beat without being noticed; for all others (`Ticker.Clear`) the ticker keeps to the beat, since it
is due again one period after the last beginning whether that was on time or late.

What the journal says about a task is followed from one step of the task to the next: as long as
its cycles take the times that are assumed (`Entry.Agrees`), they begin at the beat
(`Task.OnBeat`), and a step of the task keeps this (`World.onBeat_settle`).
-/

namespace HostWatch

/-! ## The beat -/

/-- When the cycles of a task begin that take these times: the first one at `first`, and the next
one a period after the one before, or when that one ends if it takes longer. -/
def beat (first period : Nat) (takes : Nat → Nat) : Nat → Nat
  | 0 => first
  | k + 1 => beat first period takes k + max period (takes k)

section

variable {first period : Nat} {takes : Nat → Nat}

theorem beat_le_beat {k n : Nat} (h : k ≤ n) :
    beat first period takes k ≤ beat first period takes n := by
  induction h with
  | refl => exact Nat.le_refl _
  | step _ ih => exact Nat.le_trans ih (Nat.le_add_right _ _)

/-- **Cycles that fit in the period** do not shift the beat. -/
theorem beat_of_fits {n : Nat} (h : ∀ k < n, takes k ≤ period) :
    beat first period takes n = first + n * period := by
  induction n with
  | zero => rw [Nat.zero_mul]; rfl
  | succ n ih =>
    rw [beat, ih fun k hk => h k (Nat.lt_succ_of_lt hk), Nat.max_eq_left (h n (Nat.lt_succ_self n)),
      Nat.succ_mul, Nat.add_assoc]

/-- The beats before a time are found among any number of them that reaches so far. -/
theorem filter_beats_eq {time n n' : Nat} (hn : ∀ k, beat first period takes k < time → k < n)
    (hn' : ∀ k, beat first period takes k < time → k < n') :
    ((List.range n).map (beat first period takes)).filter (· < time) =
      ((List.range n').map (beat first period takes)).filter (· < time) := by
  wlog hle : n ≤ n' generalizing n n'
  · exact (this hn' hn (Nat.le_of_not_le hle)).symm
  obtain ⟨more, rfl⟩ := Nat.exists_eq_add_of_le hle
  have hlater : (((List.range more).map (n + ·)).map (beat first period takes)).filter (· < time) =
      [] := by
    rw [List.filter_eq_nil_iff]
    intro due hdue hbefore
    obtain ⟨i, hi, rfl⟩ := List.mem_map.1 hdue
    obtain ⟨k, _, rfl⟩ := List.mem_map.1 hi
    have hk := hn _ (of_decide_eq_true hbefore)
    omega
  rw [List.range_add, List.map_append, List.filter_append, hlater, List.append_nil]

end

namespace Ticker

/-- A cycle that takes this long fits in the period, or it makes the next one late. -/
def Clear (period took : Nat) : Prop := took ≤ period ∨ period + tolerance < took

theorem next_of_due {t : Ticker} {now : Nat} (h : t.due = now) :
    t.next now = ⟨t.period, now + t.period⟩ := by
  subst h
  exact next_of_onTime (Nat.le_add_right _ _)

/-- **The next due time** after a cycle that was followed by another at once is one period after
that, whether it filled its period or made the next one late. -/
theorem next_of_clear {period begun took : Nat} (hclear : Clear period took)
    (hlong : period ≤ took) :
    next ⟨period, begun + period⟩ (begun + took) = ⟨period, begun + took + period⟩ := by
  rcases hclear with hfits | hlate
  · obtain rfl := Nat.le_antisymm hlong hfits
    exact next_of_due rfl
  · exact next_of_late (by
      show begun + period + tolerance < begun + took
      omega)

end Ticker

/-! ## What the journal says about a task -/

namespace Entry

/-- When the cycles of a course began. -/
def starts (course : List Entry) : List Nat :=
  course.filterMap fun
    | .began _ time => some time
    | _ => none

/-- When the cycles of a course were finished. -/
def ends (course : List Entry) : List Nat :=
  course.filterMap fun
    | .finished _ _ time => some time
    | _ => none

theorem starts_append (earlier later : List Entry) :
    starts (earlier ++ later) = starts earlier ++ starts later :=
  List.filterMap_append

theorem ends_append (earlier later : List Entry) :
    ends (earlier ++ later) = ends earlier ++ ends later :=
  List.filterMap_append

/-- The cycles of a course that are finished took these times. -/
def Agrees (takes : Nat → Nat) (course : List Entry) : Prop :=
  ∀ k begun ended, (starts course)[k]? = some begun → (ends course)[k]? = some ended →
    ended = begun + takes k

variable {first period : Nat} {takes : Nat → Nat} {course : List Entry}

theorem Agrees.of_append {more : List Entry} (h : Agrees takes (course ++ more)) :
    Agrees takes course := by
  have hkept : ∀ {xs ys : List Nat} {k x : Nat}, xs[k]? = some x → (xs ++ ys)[k]? = some x := by
    intro xs ys k x hx
    rw [List.getElem?_append_left (List.getElem?_eq_some_iff.1 hx).1]
    exact hx
  intro k begun ended hbegun hended
  refine h k begun ended ?_ ?_
  · rw [starts_append]
    exact hkept hbegun
  · rw [ends_append]
    exact hkept hended

/-- So many cycles have begun, at the beat, and so many are finished. -/
structure Tells (first period : Nat) (takes : Nat → Nat) (course : List Entry)
    (begun finished : Nat) : Prop where
  starts_eq : starts course = (List.range begun).map (beat first period takes)
  ends_length : (ends course).length = finished

theorem Tells.getElem?_starts_iff {n m k time : Nat} (h : Tells first period takes course n m) :
    (starts course)[k]? = some time ↔ k < n ∧ beat first period takes k = time := by
  rw [h.starts_eq, List.getElem?_map, Option.map_eq_some_iff]
  constructor
  · rintro ⟨i, hi, rfl⟩
    obtain ⟨hk, rfl⟩ := List.getElem?_eq_some_iff.1 hi
    rw [List.length_range] at hk
    rw [List.getElem_range]
    exact ⟨hk, rfl⟩
  · rintro ⟨hk, rfl⟩
    exact ⟨k, List.getElem?_range hk, rfl⟩

theorem Tells.began {n m : Nat} (h : Tells first period takes course n m) {d : Domain} {now : Nat}
    (hnow : beat first period takes n = now) :
    Tells first period takes (course ++ [.began d now]) (n + 1) m where
  starts_eq := by
    rw [starts_append, h.starts_eq, List.range_succ, List.map_append, ← hnow]
    rfl
  ends_length := by
    rw [ends_append, List.length_append, h.ends_length]
    rfl

end Entry

/-- The steps of a cycle begin no other, and finish it or not. -/
theorem Entry.Tells.more {first period : Nat} {takes : Nat → Nat} {course more : List Entry}
    {n m : Nat} (h : Tells first period takes course n m) (hstarts : starts more = []) :
    Tells first period takes (course ++ more) n (m + (ends more).length) where
  starts_eq := by rw [starts_append, hstarts, List.append_nil, h.starts_eq]
  ends_length := by rw [ends_append, List.length_append, h.ends_length]

/-- The end of a cycle that is over at `now`. -/
def Phase.ends (now : Nat) : Phase → List Nat
  | .waiting => [now]
  | _ => []

namespace World

variable {σ : Type} {d : Domain} {run : Run}

theorem course_log (w : World σ) (d : Domain) (lines : List LogLine) :
    Entry.courseOf d (w.log lines).entries = Entry.courseOf d w.entries := by
  rw [log, entries_note, Entry.courseOf_append, Entry.courseOf_logged, List.append_nil]

theorem course_begin (c : Collaborators σ) (w : World σ) (d : Domain) (now : Nat) :
    Entry.courseOf d (w.begin c d now).1.entries =
      Entry.courseOf d w.entries ++ [.began d now] := by
  have hbegan : Entry.courseOf d (w.note [.began d now]).entries =
      Entry.courseOf d w.entries ++ [.began d now] := by
    rw [entries_note, Entry.courseOf_append]
    simp [Entry.courseOf, Entry.isStepOf]
  cases d with
  | resources => exact hbegan
  | endpoints => exact hbegan
  | containers => exact hbegan
  | dispatch => exact (course_log _ .dispatch _).trans hbegan

/-- **A cycle that goes on** begins no other, and the journal says when it is finished. -/
theorem course_pursue (hrun : run.domain = d) (c : Collaborators σ) (now : Nat) (w : World σ)
    (todo : List Call) :
    let r := w.pursue c now run todo
    ∃ more, Entry.courseOf d r.1.entries = Entry.courseOf d w.entries ++ more ∧
      Entry.starts more = [] ∧ Entry.ends more = r.2.ends now := by
  induction todo generalizing w run with
  | nil =>
    simp only [pursue]
    split
    · obtain ⟨_, _, lines, hentries⟩ := w.finish_spec run now
      refine ⟨[.finished d (run.count w.monitor) now], ?_, rfl, rfl⟩
      rw [hentries, Entry.courseOf_append, Entry.courseOf_append, Entry.courseOf_logged]
      simp [Entry.courseOf, Entry.isStepOf, hrun]
    · exact ⟨[], (List.append_nil _).symm, rfl, rfl⟩
  | cons call todo ih =>
    by_cases hslot : run.slot ≤ now
    · have hworld := w.courseOf_perform d c run call
      rcases hperform : w.perform c run call with ⟨w', takes, _ | reply⟩
      · rw [hperform] at hworld
        rw [pursue_broken hslot hperform]
        refine ⟨[.called d call ⟨now, now + takes⟩, .broke d], ?_, rfl, rfl⟩
        rw [entries_note, Entry.courseOf_append, hworld]
        simp [Entry.courseOf, Entry.isStepOf, hrun]
      · rw [hperform] at hworld
        rw [pursue_answered hslot hperform]
        have hrun' : (run.add ⟨now, now + takes⟩ reply).domain = d := hrun
        obtain ⟨more, hcourse, hstarts, hends⟩ :=
          ih hrun' (w'.note [.called run.domain call ⟨now, now + takes⟩])
        refine ⟨.called d call ⟨now, now + takes⟩ :: more, ?_, hstarts, hends⟩
        rw [hcourse, entries_note, Entry.courseOf_append, hworld]
        simp [Entry.courseOf, Entry.isStepOf, hrun]
    · rw [pursue_early hslot]
      exact ⟨[], (List.append_nil _).symm, rfl, rfl⟩

end World

/-! ## One step of a task -/

/-- How the beat stands in a phase of a task, after what its course tells. -/
def Phase.Paced (first period : Nat) (takes : Nat → Nat) (course : List Entry) (ticker : Ticker) :
    Phase → Prop
  | .waiting => ∃ n, Entry.Tells first period takes course n n ∧
      ticker = ⟨period, beat first period takes n⟩
  | .busy _ _ => ∃ n, Entry.Tells first period takes course (n + 1) n ∧
      ticker = ⟨period, beat first period takes n + period⟩
  | .broken => Entry.Tells first period takes course 0 0 ∧ Ticker.clockLimit * 1000 ≤ first ∨
      ∃ n, Entry.Tells first period takes course (n + 1) n
  | .ended => False

/-- The cycles of a task have begun at the beat, and from `front` on it goes on. -/
structure Task.OnBeat (first period : Nat) (takes : Nat → Nat) (front : Nat) (course : List Entry)
    (t : Task) : Prop where
  past : ∀ time ∈ Entry.starts course, time < front
  ahead : ∀ due, t.nextEvent? = some due → front ≤ due
  paced : t.phase.Paced first period takes course t.ticker

/-- The time that passes before a task goes on does not matter. -/
theorem Task.OnBeat.wait {first period : Nat} {takes : Nat → Nat} {front front' : Nat}
    {course : List Entry} {t : Task} (h : t.OnBeat first period takes front course)
    (hle : front ≤ front') (hahead : ∀ due, t.nextEvent? = some due → front' ≤ due) :
    t.OnBeat first period takes front' course :=
  ⟨fun time htime => Nat.lt_of_lt_of_le (h.past time htime) hle, hahead, h.paced⟩

theorem Task.nextEvent?_of_waiting {t : Task} (hheld : t.standing = .held)
    (hphase : t.phase = .waiting) : t.nextEvent? = some t.ticker.due := by
  simp [nextEvent?, hphase, isLeaving, hheld]

theorem Task.lt_of_nextEvent {t : Task} {now due : Nat} (hheld : t.standing = .held)
    (hcycle : ∀ due, t.phase.nextEvent? = some due → now < due)
    (hticker : t.phase = .waiting → now < t.ticker.due) (hdue : t.nextEvent? = some due) :
    now < due := by
  by_cases hphase : t.phase = .waiting
  · rw [nextEvent?_of_waiting hheld hphase] at hdue
    exact Option.some.inj hdue ▸ hticker hphase
  · rw [nextEvent?_of_ne_waiting hphase] at hdue
    exact hcycle due hdue

namespace World

variable {σ : Type} {t : Task} {run : Run}

/-- A cycle that was under way is finished in time, or it is not finished. -/
theorem paced_pursue (first period : Nat) (takes : Nat → Nat) (hrun : run.domain = t.domain)
    (c : Collaborators σ) (now : Nat) (w : World σ) (todo : List Call) :
    let r := w.pursue c now run todo
    ∃ more, Entry.courseOf t.domain r.1.entries = Entry.courseOf t.domain w.entries ++ more ∧
      Entry.starts more = [] ∧
      ∀ course n, Entry.Agrees takes (course ++ more) →
        Entry.Tells first period takes course (n + 1) n →
        (r.2 = .waiting → Entry.Tells first period takes (course ++ more) (n + 1) (n + 1) ∧
            now = beat first period takes n + takes n) ∧
          (r.2 ≠ .waiting → Entry.Tells first period takes (course ++ more) (n + 1) n) := by
  intro r
  obtain ⟨more, hcourse, hstarts, hends⟩ := course_pursue hrun c now w todo
  refine ⟨more, hcourse, hstarts, fun course n hagrees htells =>
    ⟨fun hphase => ?_, fun hphase => ?_⟩⟩
  · rw [show (w.pursue c now run todo).2 = .waiting from hphase] at hends
    have hmore := htells.more hstarts
    rw [hends] at hmore
    have hbegun := hmore.getElem?_starts_iff.2 ⟨Nat.lt_succ_self n, rfl⟩
    refine ⟨hmore, hagrees n _ now hbegun ?_⟩
    rw [Entry.ends_append, List.getElem?_append_right (Nat.le_of_eq htells.ends_length), hends,
      htells.ends_length, Nat.sub_self]
    rfl
  · have hnone : (w.pursue c now run todo).2.ends now = [] := by
      rcases w.pursue_phase c now run todo with h | h | ⟨run', todo', h⟩
      · exact absurd h hphase
      · rw [h]
        rfl
      · rw [h]
        rfl
    have hmore := htells.more hstarts
    rw [hends, hnone] at hmore
    exact hmore

theorem wake_of_due {now : Nat} (hheld : t.standing = .held) (hphase : t.phase = .waiting)
    (hdue : t.ticker.due ≤ now) (c : Collaborators σ) (w : World σ) :
    w.wake c now t =
      let b := w.begin c t.domain now
      let r := b.1.pursue c now b.2.1 b.2.2
      (r.1, { t with ticker := t.ticker.next now, phase := r.2 }) := by
  simp [wake, hphase, Task.isLeaving, hheld, hdue]

theorem wake_of_early {now : Nat} (hheld : t.standing = .held) (hphase : t.phase = .waiting)
    (hearly : ¬ t.ticker.due ≤ now) (c : Collaborators σ) (w : World σ) :
    w.wake c now t = (w, t) := by
  simp [wake, hphase, Task.isLeaving, hheld, hearly]

theorem wake_of_ne_waiting {now : Nat} (hphase : t.phase ≠ .waiting) (c : Collaborators σ)
    (w : World σ) : w.wake c now t = (w, t) := by
  unfold wake
  cases h : t.phase with
  | waiting => exact absurd h hphase
  | busy run todo => rfl
  | ended => rfl
  | broken => rfl

/-- **A cycle that begins at the beat**, and goes on as far as it comes at once. -/
theorem onBeat_begin (first : Nat) {period : Nat} (takes : Nat → Nat) (hperiod : 0 < period)
    (hheld : t.standing = .held) (c : Collaborators σ) (now : Nat) (w : World σ) :
    let b := w.begin c t.domain now
    let r := b.1.pursue c now b.2.1 b.2.2
    ∃ more, Entry.courseOf t.domain r.1.entries = Entry.courseOf t.domain w.entries ++ more ∧
      ∀ course n, Entry.Agrees takes (course ++ more) →
        Entry.Tells first period takes course n n → beat first period takes n = now →
        t.ticker.next now = ⟨period, now + period⟩ → (∀ time ∈ Entry.starts course, time ≤ now) →
        ({ t with ticker := t.ticker.next now, phase := r.2 } : Task).OnBeat first period takes
          (now + 1) (course ++ more) := by
  intro b r
  obtain ⟨more, hcourse, hstarts, hpaced⟩ :=
    paced_pursue first period takes (w.of_begin c t.domain now).1 c now b.1 b.2.2
  rw [w.course_begin c t.domain now, List.append_assoc] at hcourse
  refine ⟨_, hcourse, fun course n hagrees htells hnow hticker hpast => ?_⟩
  rw [← List.append_assoc] at hagrees ⊢
  have hbegun := htells.began (d := t.domain) hnow
  let t' : Task := { t with ticker := t.ticker.next now, phase := r.2 }
  refine ⟨?_, ?_, ?_⟩
  · intro time htime
    rw [Entry.starts_append, Entry.starts_append, hstarts, List.append_nil] at htime
    rcases List.mem_append.1 htime with hbefore | hlast
    · exact Nat.lt_succ_of_le (hpast time hbefore)
    · exact Nat.lt_succ_of_le (Nat.le_of_eq (List.mem_singleton.1 hlast))
  · exact fun due => Task.lt_of_nextEvent (t := t') hheld (fun _ => b.1.lt_nextEvent_pursue)
      fun _ => by rw [show t'.ticker = _ from hticker]; exact Nat.lt_add_of_pos_right hperiod
  · show Phase.Paced first period takes _ (t.ticker.next now) r.2
    obtain ⟨hover, hbusy⟩ := hpaced (course ++ [.began t.domain now]) n hagrees hbegun
    rw [hticker]
    rcases b.1.pursue_phase c now b.2.1 b.2.2 with hphase | hphase | ⟨run', todo', hphase⟩
    · obtain ⟨htells', hended⟩ := hover hphase
      rw [show r.2 = .waiting from hphase]
      -- A cycle that is over at once took no time.
      have hnone : takes n = 0 := by omega
      refine ⟨n + 1, htells', ?_⟩
      rw [beat, hnow, hnone, Nat.max_eq_left (Nat.zero_le _)]
    · have htells' := hbusy (by rw [hphase]; nofun)
      rw [show r.2 = .broken from hphase]
      exact .inr ⟨n, htells'⟩
    · have htells' := hbusy (by rw [hphase]; nofun)
      rw [show r.2 = .busy run' todo' from hphase]
      exact ⟨n, htells', by rw [hnow]⟩

/-- **A cycle that goes on**, and the next one if it begins at once. -/
theorem onBeat_goOn (first : Nat) {period : Nat} {takes : Nat → Nat} (hperiod : 0 < period)
    (hclear : ∀ k, Ticker.Clear period (takes k)) (hheld : t.standing = .held)
    (hrun : run.domain = t.domain) (c : Collaborators σ) (now : Nat) (w : World σ)
    (todo : List Call) :
    let r := w.pursue c now run todo
    let r' := r.1.wake c now { t with phase := r.2 }
    ∃ more, Entry.courseOf t.domain r'.1.entries = Entry.courseOf t.domain w.entries ++ more ∧
      ∀ course n, Entry.Agrees takes (course ++ more) →
        Entry.Tells first period takes course (n + 1) n →
        t.ticker = ⟨period, beat first period takes n + period⟩ →
        (∀ time ∈ Entry.starts course, time ≤ now) →
        r'.2.OnBeat first period takes (now + 1) (course ++ more) := by
  intro r r'
  obtain ⟨more, hcourse, hstarts, hpaced⟩ :=
    paced_pursue first period takes hrun c now w todo
  have hpast : ∀ {course : List Entry}, (∀ time ∈ Entry.starts course, time ≤ now) →
      ∀ time ∈ Entry.starts (course ++ more), time ≤ now := by
    intro course h
    rw [Entry.starts_append, hstarts, List.append_nil]
    exact h
  have hlater : ∀ due, r.2.nextEvent? = some due → now < due := fun _ => w.lt_nextEvent_pursue
  by_cases hwaiting : r.2 = .waiting
  · by_cases hdue : t.ticker.due ≤ now
    · -- The cycle took the whole period or more, and the next one begins.
      obtain ⟨more', hcourse', hbegin⟩ :=
        onBeat_begin (t := { t with phase := r.2 }) first takes hperiod hheld c now r.1
      simp only [r', wake_of_due (t := { t with phase := r.2 }) hheld hwaiting hdue]
      refine ⟨more ++ more', by rw [hcourse', hcourse, List.append_assoc], ?_⟩
      intro course n hagrees htells hticker hbefore
      rw [← List.append_assoc] at hagrees ⊢
      obtain ⟨htells', hended⟩ := (hpaced course n hagrees.of_append htells).1 hwaiting
      rw [hticker] at hdue
      have hlong : period ≤ takes n := by
        have hdue' : beat first period takes n + period ≤ now := hdue
        omega
      refine hbegin _ (n + 1) hagrees htells' ?_ ?_ (hpast hbefore)
      · rw [beat, Nat.max_eq_right hlong, hended]
      · show t.ticker.next now = _
        rw [hticker, hended, Ticker.next_of_clear (hclear n) hlong]
    · -- The cycle fits in the period, and the task waits for the next beat.
      simp only [r', wake_of_early (t := { t with phase := r.2 }) hheld hwaiting hdue]
      refine ⟨more, hcourse, fun course n hagrees htells hticker hbefore => ⟨?_, ?_, ?_⟩⟩
      · exact fun time htime => Nat.lt_succ_of_le (hpast hbefore time htime)
      · exact fun due => Task.lt_of_nextEvent (t := { t with phase := r.2 }) hheld hlater
          fun _ => Nat.lt_of_not_le hdue
      · obtain ⟨htells', hended⟩ := (hpaced course n hagrees htells).1 hwaiting
        rw [hticker] at hdue
        have hfits : takes n ≤ period := by
          have hdue' : ¬ beat first period takes n + period ≤ now := hdue
          omega
        show Phase.Paced first period takes _ t.ticker r.2
        rw [hwaiting]
        exact ⟨n + 1, htells', by rw [hticker, beat, Nat.max_eq_left hfits]⟩
  · simp only [r', wake_of_ne_waiting (t := { t with phase := r.2 }) hwaiting]
    refine ⟨more, hcourse, fun course n hagrees htells hticker hbefore => ⟨?_, ?_, ?_⟩⟩
    · exact fun time htime => Nat.lt_succ_of_le (hpast hbefore time htime)
    · exact fun due => Task.lt_of_nextEvent (t := { t with phase := r.2 }) hheld hlater
        fun h => absurd h hwaiting
    · show Phase.Paced first period takes _ t.ticker r.2
      have htells' := (hpaced course n hagrees htells).2 hwaiting
      rcases w.pursue_phase c now run todo with hphase | hphase | ⟨run', todo', hphase⟩
      · exact absurd hphase hwaiting
      · rw [show r.2 = .broken from hphase]
        exact .inr ⟨n, htells'⟩
      · rw [show r.2 = .busy run' todo' from hphase]
        exact ⟨n, htells', hticker⟩

/-- **One step of a task** at the moment when it goes on: its cycles begin at the beat. -/
theorem onBeat_settle (first : Nat) {period : Nat} {takes : Nat → Nat} (hperiod : 0 < period)
    (hclear : ∀ k, Ticker.Clear period (takes k)) (hheld : t.standing = .held) (hsound : t.Sound)
    (c : Collaborators σ) (now : Nat) (w : World σ) :
    let r := w.settle c now t
    ∃ more, Entry.courseOf t.domain r.1.entries = Entry.courseOf t.domain w.entries ++ more ∧
      ∀ course front, Entry.Agrees takes (course ++ more) →
        t.OnBeat first period takes front course → t.nextEvent? = some now →
        r.2.OnBeat first period takes (now + 1) (course ++ more) := by
  have hnone : w.settle c now t = (w, t) → t.nextEvent? ≠ some now →
      let r := w.settle c now t
      ∃ more, Entry.courseOf t.domain r.1.entries = Entry.courseOf t.domain w.entries ++ more ∧
        ∀ course front, Entry.Agrees takes (course ++ more) →
          t.OnBeat first period takes front course → t.nextEvent? = some now →
          r.2.OnBeat first period takes (now + 1) (course ++ more) := by
    intro hsettle hlater
    rw [hsettle]
    exact ⟨[], (List.append_nil _).symm, fun _ _ _ _ hnow => absurd hnow hlater⟩
  cases hphase : t.phase with
  | waiting =>
    have hsettle : w.settle c now t = w.wake c now t := by
      rw [settle, hphase]
    by_cases hdue : t.ticker.due ≤ now
    · rw [hsettle, wake_of_due hheld hphase hdue]
      obtain ⟨more, hcourse, hbegin⟩ := onBeat_begin first takes hperiod hheld c now w
      refine ⟨more, hcourse, fun course front hagrees hbeat hnow => ?_⟩
      rw [Task.nextEvent?_of_waiting hheld hphase, Option.some.injEq] at hnow
      have hpaced := hbeat.paced
      rw [hphase] at hpaced
      obtain ⟨n, htells, hticker⟩ := hpaced
      have hfront : front ≤ now :=
        hbeat.ahead now (by rw [Task.nextEvent?_of_waiting hheld hphase, hnow])
      refine hbegin course n hagrees htells ?_ ?_ fun time htime =>
        Nat.le_of_lt (Nat.lt_of_lt_of_le (hbeat.past time htime) hfront)
      · rw [← hnow, hticker]
      · rw [Ticker.next_of_due hnow, hticker]
    · refine hnone (hsettle.trans (wake_of_early hheld hphase hdue c w)) ?_
      rw [Task.nextEvent?_of_waiting hheld hphase]
      intro hnow
      exact hdue (Nat.le_of_eq (Option.some.inj hnow))
  | busy run todo =>
    have hsettle : w.settle c now t =
        let r := w.pursue c now run todo
        r.1.wake c now { t with phase := r.2 } := by
      rw [settle, hphase]
    rw [hsettle]
    obtain ⟨more, hcourse, hgoes⟩ :=
      onBeat_goOn first hperiod hclear hheld (hsound.of_busy hphase).1 c now w todo
    refine ⟨more, hcourse, fun course front hagrees hbeat hnow => ?_⟩
    have hpaced := hbeat.paced
    rw [hphase] at hpaced
    obtain ⟨n, htells, hticker⟩ := hpaced
    exact hgoes course n hagrees htells hticker fun time htime =>
      Nat.le_of_lt (Nat.lt_of_lt_of_le (hbeat.past time htime) (hbeat.ahead now hnow))
  | ended =>
    exact hnone (by rw [settle, hphase]; exact wake_of_ne_waiting (by simp [hphase]) c w)
      (by simp [Task.nextEvent?, hphase, Phase.nextEvent?])
  | broken =>
    exact hnone (by rw [settle, hphase]; exact wake_of_ne_waiting (by simp [hphase]) c w)
      (by simp [Task.nextEvent?, hphase, Phase.nextEvent?])

end World

end HostWatch
