import HostWatch.Proofs.Monitor.Keeping
set_option autoImplicit false

/-!
# Monitor: the schedule of a service

Each task of a service that was started keeps to the beat of its own cycles
(`Service.started_keeps_beat`), whatever happens beside it: the beat is something that the task
keeps alone (`Task.keeps_onBeat`), and so any history keeps it.  When the cycles of a task begin is
a matter of the start, of its period and of the times that its own cycles take, and of nothing else.
-/

namespace HostWatch

theorem Task.keeps_onBeat {σ : Type} (c : Collaborators σ) (d : Domain) (first : Nat) {period : Nat}
    {takes : Nat → Nat} (hperiod : 0 < period) (hclear : ∀ k, Ticker.Clear period (takes k)) :
    Task.Keeps c d fun front course t =>
      Entry.Agrees takes course → t.OnBeat first period takes front course where
  wait := by
    intro front front' course t hle hahead hbeat hagrees
    exact (hbeat hagrees).wait hle fun due hdue => hahead due hdue ((hbeat hagrees).ahead due hdue)
  settle := by
    rintro front now course t w rfl hsound hheld hdue _ hnow hbeat
    obtain ⟨more, hmore, hstep⟩ := w.onBeat_settle first hperiod hclear hheld hsound c now
    refine ⟨more, hmore, fun hagrees => ?_⟩
    have hon := hbeat hagrees.of_append
    obtain ⟨due, hnext, hle⟩ := Task.isDue_eq_true_iff.1 hdue
    have hexact : due = now := by
      have hahead := hon.ahead due hnext
      have hfirst := hnow due hnext
      omega
    exact hstep course front hagrees hon (hexact ▸ hnext)

namespace Service

variable {σ : Type} {c : Collaborators σ} {s : Service σ} {front : Nat}

/-- **A task that was started** is on its beat: no cycle has begun, and the first beat is one
period ahead, if the machine's clock can show it. -/
theorem onBeat_start (now : Nat) {secs : Nat} (hsecs : 0 < secs) (d : Domain) (takes : Nat → Nat) :
    (startTask now (d, secs)).OnBeat (now + secs * 1000) (secs * 1000) takes now [] := by
  have hnone : ∀ {first period : Nat}, Entry.Tells first period takes [] 0 0 := ⟨rfl, rfl⟩
  by_cases hshown : now + secs * 1000 < Ticker.clockLimit * 1000
  · rw [startTask_of_shown hsecs hshown]
    refine ⟨nofun, fun due hdue => ?_, ⟨0, hnone, rfl⟩⟩
    rw [Task.nextEvent?_of_waiting rfl rfl, Option.some.injEq] at hdue
    exact hdue ▸ Nat.le_add_right _ _
  · have hlate := Nat.le_of_not_lt hshown
    rw [startTask_of_late hlate]
    exact ⟨nofun, nofun, .inl ⟨hnone, hlate⟩⟩

theorem advanceFrom_stop {target next now : Nat} (hnext : s.nextEvent? = some next)
    (hnow : max next front = now) (hlt : now < target) :
    s.advanceFrom c target front = (s.settleAt c now).advanceFrom c target (now + 1) := by
  subst hnow
  rw [advanceFrom, hnext]
  exact dif_pos hlt

theorem advanceFrom_rest {target next : Nat} (hnext : s.nextEvent? = some next)
    (hnot : target ≤ max next front) :
    s.advanceFrom c target front = { s with clock := max s.clock target } := by
  rw [advanceFrom, hnext]
  exact dif_neg (Nat.not_lt.2 hnot)

end Service

/-! ## The schedule -/

/-- When the cycles of a course began that did so before this time. -/
def Entry.startsBefore (time : Nat) (course : List Entry) : List Nat :=
  (starts course).filter (· < time)

/-- The cycles of a course take these times: each that is finished took its time, and one that is
not has not had it by `now`. -/
structure Entry.Lasts (takes : Nat → Nat) (now : Nat) (course : List Entry) : Prop where
  finished : Entry.Agrees takes course
  unfinished : ∀ k begun, (starts course)[k]? = some begun → (ends course)[k]? = none →
    now ≤ begun + takes k

/-- **The cycles that have begun** are those of the beats that have passed, and all but the last
one are finished. -/
theorem Task.OnBeat.exists_tells {first period front now : Nat} {takes : Nat → Nat}
    {course : List Entry} {t : Task} (h : t.OnBeat first period takes front course)
    (hheld : t.standing = .held) (hlasts : Entry.Lasts takes now course) (hfront : now ≤ front)
    (hacted : front ≤ now + 1) (hshown : now ≤ Ticker.clockLimit * 1000) :
    ∃ n m, Entry.Tells first period takes course n m ∧ n ≤ m + 1 ∧
      (∀ k < n, beat first period takes k ≤ now) ∧ now ≤ beat first period takes n := by
  have hbegun : ∀ {n m : Nat}, Entry.Tells first period takes course n m →
      ∀ k < n, beat first period takes k ≤ now := by
    intro n m htells k hk
    have hmem : beat first period takes k ∈ Entry.starts course := by
      rw [htells.starts_eq]
      exact List.mem_map_of_mem (List.mem_range.2 hk)
    exact Nat.le_of_lt_succ (Nat.lt_of_lt_of_le (h.past _ hmem) hacted)
  -- While a cycle is not finished the next one is not due.
  have hopen : ∀ {n : Nat}, Entry.Tells first period takes course (n + 1) n →
      now ≤ beat first period takes (n + 1) := by
    intro n htells
    have hnone : (Entry.ends course)[n]? = none :=
      List.getElem?_eq_none (Nat.le_of_eq htells.ends_length)
    have hlast := htells.getElem?_starts_iff.2 ⟨Nat.lt_succ_self n, rfl⟩
    have hlate := hlasts.unfinished n _ hlast hnone
    exact Nat.le_trans hlate (Nat.add_le_add_left (Nat.le_max_right _ _) _)
  have hpaced := h.paced
  cases hphase : t.phase with
  | waiting =>
    rw [hphase] at hpaced
    obtain ⟨n, htells, hticker⟩ := hpaced
    have hnext : now ≤ beat first period takes n := by
      have hahead := h.ahead _ (t.nextEvent?_of_waiting hheld hphase)
      rw [hticker] at hahead
      exact Nat.le_trans hfront hahead
    exact ⟨n, n, htells, Nat.le_succ n, hbegun htells, hnext⟩
  | busy run todo =>
    rw [hphase] at hpaced
    obtain ⟨n, htells, _⟩ := hpaced
    exact ⟨n + 1, n, htells, Nat.le_refl _, hbegun htells, hopen htells⟩
  | broken =>
    rw [hphase] at hpaced
    rcases hpaced with ⟨htells, hlate⟩ | ⟨n, htells⟩
    · exact ⟨0, 0, htells, Nat.zero_le _, hbegun htells, Nat.le_trans hshown hlate⟩
    · exact ⟨n + 1, n, htells, Nat.le_refl _, hbegun htells, hopen htells⟩
  | ended =>
    rw [hphase] at hpaced
    exact hpaced.elim

namespace Service

/-- What a service comes to that is started with a task for the domain: the cycles of the task take
certain times, none of them so little more than the period that it goes unnoticed. -/
structure Episode {σ : Type} (c : Collaborators σ) (s₀ : Service σ) (history : List (Happening σ))
    (d : Domain) (secs : Nat) (takes : Nat → Nat) (s : Service σ) : Prop where
  idle : s₀.tasks = []
  entry : (d, secs) ∈ timetable s₀.world.monitor.config (s₀.containersReady c).1
  period_pos : 0 < secs
  /-- only the task runs cycles of the domain -/
  foreign : .cycle d ∉ history
  reached : s = (s₀.start c).1.afterAll c history
  /-- the machine can show the time -/
  shown : s.clock ≤ Ticker.clockLimit * 1000
  clear : ∀ k, Ticker.Clear (secs * 1000) (takes k)
  lasts : Entry.Lasts takes s.clock (s₀.courseSince s d)

/-- The cycles of a course keep to the beat until `now`. -/
structure KeepsBeat (first period : Nat) (takes : Nat → Nat) (now : Nat) (course : List Entry) :
    Prop where
  /-- The cycles that have begun did so at the beat. -/
  on_beat : ∀ k begun, (Entry.starts course)[k]? = some begun →
    begun = beat first period takes k ∧ begun ≤ now
  /-- A cycle has begun for every beat that has passed. -/
  complete : ∀ k, beat first period takes k < now →
    (Entry.starts course)[k]? = some (beat first period takes k)
  /-- A cycle begins a period or more after the one before, and when that one is over. -/
  apart : ∀ k begun next, (Entry.starts course)[k]? = some begun →
    (Entry.starts course)[k + 1]? = some next →
      begun + period ≤ next ∧ ∃ ended, (Entry.ends course)[k]? = some ended ∧ ended ≤ next
  /-- Cycles that fit in the period do not shift the beat. -/
  steady : (∀ k, takes k ≤ period) → ∀ k begun, (Entry.starts course)[k]? = some begun →
    begun = first + k * period

variable {σ : Type} {c : Collaborators σ} {s₀ s : Service σ} {history : List (Happening σ)}
  {d : Domain} {secs first period : Nat} {takes : Nat → Nat}

/-- What the journal tells of the task: its cycles began at the beat, no beat that has passed was
left out, and all cycles but the last one are finished. -/
theorem Episode.exists_tells (h : Episode c s₀ history d secs takes s) :
    let first := s₀.clock + secs * 1000
    let period := secs * 1000
    ∃ n m, Entry.Tells first period takes (s₀.courseSince s d) n m ∧ n ≤ m + 1 ∧
      (∀ k < n, beat first period takes k ≤ s.clock) ∧ s.clock ≤ beat first period takes n := by
  intro first period
  have hbeats := Task.keeps_onBeat c d first (Nat.mul_pos h.period_pos (by decide)) h.clear
  have hstart := onBeat_start s₀.clock h.period_pos d takes
  obtain ⟨t, ht, rfl, front, hfront, hacted, hbeat⟩ :=
    exists_task_afterAll hbeats h.idle h.entry (fun _ => hstart) h.foreign
  have hheld := ((running_start c h.idle).afterAll c history).held t ht
  rw [← h.reached] at hfront hacted hbeat
  exact (hbeat h.lasts.finished).exists_tells hheld h.lasts hfront hacted h.shown

/-- **The cycles of a task keep to the beat.** -/
theorem Episode.keepsBeat (h : Episode c s₀ history d secs takes s) :
    KeepsBeat (s₀.clock + secs * 1000) (secs * 1000) takes s.clock (s₀.courseSince s d) := by
  obtain ⟨n, m, htells, hopen, hbegun, hnext⟩ := h.exists_tells
  refine ⟨?_, ?_, ?_, ?_⟩
  · intro k begun hstarts
    obtain ⟨hk, rfl⟩ := htells.getElem?_starts_iff.1 hstarts
    exact ⟨rfl, hbegun k hk⟩
  · intro k hpast
    have hk : k < n := by
      by_contra hk
      exact Nat.not_lt.2 (Nat.le_trans hnext (beat_le_beat (Nat.le_of_not_lt hk))) hpast
    exact htells.getElem?_starts_iff.2 ⟨hk, rfl⟩
  · intro k begun next hbegun hnext
    obtain ⟨_, rfl⟩ := htells.getElem?_starts_iff.1 hbegun
    obtain ⟨hk, rfl⟩ := htells.getElem?_starts_iff.1 hnext
    have hended : k < (Entry.ends (s₀.courseSince s d)).length := by
      rw [htells.ends_length]
      omega
    have htook := h.lasts.finished k _ _ hbegun (List.getElem?_eq_getElem hended)
    rw [beat]
    refine ⟨Nat.add_le_add_left (Nat.le_max_left _ _) _, _, List.getElem?_eq_getElem hended, ?_⟩
    rw [htook]
    exact Nat.add_le_add_left (Nat.le_max_right _ _) _
  · intro hfits k begun hbegun
    obtain ⟨_, rfl⟩ := htells.getElem?_starts_iff.1 hbegun
    exact beat_of_fits fun k _ => hfits k

/-- **Cycles that keep to the same beat** begin at the same times. -/
theorem KeepsBeat.startsBefore_eq {now now' time : Nat} {course course' : List Entry}
    (h : KeepsBeat first period takes now course) (h' : KeepsBeat first period takes now' course')
    (htime : time ≤ now) (htime' : time ≤ now') :
    Entry.startsBefore time course = Entry.startsBefore time course' := by
  have hcount : ∀ {now : Nat} {course : List Entry}, KeepsBeat first period takes now course →
      time ≤ now → Entry.starts course =
          (List.range (Entry.starts course).length).map (beat first period takes) ∧
        ∀ k, beat first period takes k < time → k < (Entry.starts course).length := by
    intro now course h htime
    refine ⟨List.ext_getElem (by simp) fun k hk _ => ?_, fun k hk => ?_⟩
    · rw [List.getElem_map, List.getElem_range]
      exact (h.on_beat k _ (List.getElem?_eq_getElem hk)).1
    · exact (List.getElem?_eq_some_iff.1 (h.complete k (Nat.lt_of_lt_of_le hk htime))).1
  obtain ⟨hstarts, hreach⟩ := hcount h htime
  obtain ⟨hstarts', hreach'⟩ := hcount h' htime'
  rw [Entry.startsBefore, Entry.startsBefore, hstarts, hstarts']
  exact filter_beats_eq hreach hreach'

/-- **The cycles of a task** of a service that was started begin a period after the start, and then
whenever the period and the last cycle are both over.  For another service that was started at the
same time, with a task of the same period whose cycles take the same times, they begin at the same
times, whatever the collaborators, the other tasks and the steps of time are. -/
theorem started_keeps_beat (h : Episode c s₀ history d secs takes s) :
    KeepsBeat (s₀.clock + secs * 1000) (secs * 1000) takes s.clock (s₀.courseSince s d) ∧
      ∀ {τ : Type} {c' : Collaborators τ} {s₀' s' : Service τ} {history' : List (Happening τ)}
        {d' : Domain}, Episode c' s₀' history' d' secs takes s' → s₀'.clock = s₀.clock →
          ∀ time ≤ s.clock, time ≤ s'.clock →
            Entry.startsBefore time (s₀'.courseSince s' d') =
              Entry.startsBefore time (s₀.courseSince s d) := by
  refine ⟨h.keepsBeat, ?_⟩
  intro τ c' s₀' s' history' d' h' hclock time htime htime'
  have hkeeps' := h'.keepsBeat
  rw [hclock] at hkeeps'
  exact hkeeps'.startsBefore_eq h.keepsBeat htime' htime

/-- The first collection of resources takes twenty-five seconds, and the others are quick.  Of the
beats that it misses none is made up for. -/
theorem started_keeps_beat_overrun :
    let c : Collaborators Nat :=
      { collect := fun o _ =>
          (o + 1, ⟨if o = 0 then 25000 else 20, some (.error (.collection "no /proc"))⟩)
        probe := fun o _ => (o, ⟨0, some (.error (.probe "no route"))⟩)
        hasRuntime := false
        ready := fun _ => .ok ()
        list := fun o _ => (o, ⟨0, some (.error (.containers "no runtime"))⟩)
        deliver := fun o _ => (o, ⟨0, fun _ => .given none⟩)
        wallClock := fun _ => ⟨0, 0⟩ }
    let checks : ResourceChecks := { ResourceChecks.initial with intervalSecs := 10 }
    let config : MonitorConfig := { MonitorConfig.initial with resources := checks }
    let s₀ : Service Nat := .new (.new config [] ⟨0, 0⟩) 0 0
    let s := (s₀.start c).1.afterAll c [.advance 36000]
    let takes : Nat → Nat := fun k => if k = 0 then 25000 else 20
    Episode c s₀ [.advance 36000] .resources 10 takes s ∧
      KeepsBeat (s₀.clock + 10 * 1000) (10 * 1000) takes s.clock (s₀.courseSince s .resources) ∧
        Entry.starts (s₀.courseSince s .resources) = [10000, 35000] := by
  intro c checks config s₀ s takes
  let s₁ := (s₀.start c).1.settleAt c 10000
  let s₂ := s₁.settleAt c 30000
  let s₃ := s₂.settleAt c 35000
  let s₄ := s₃.settleAt c 35020
  have hstops : (s₀.start c).1.nextEvent? = some 10000 ∧ s₁.nextEvent? = some 30000 ∧
      s₂.nextEvent? = some 35000 ∧ s₃.nextEvent? = some 35020 ∧ s₄.nextEvent? = some 45000 := by
    decide +kernel
  obtain ⟨h₀, h₁, h₂, h₃, h₄⟩ := hstops
  have hs : s = { s₄ with clock := max s₄.clock 36000 } :=
    calc (s₀.start c).1.advanceFrom c 36000 0
        = s₁.advanceFrom c 36000 10001 := advanceFrom_stop h₀ (by decide) (by decide)
      _ = s₂.advanceFrom c 36000 30001 := advanceFrom_stop h₁ (by decide) (by decide)
      _ = s₃.advanceFrom c 36000 35001 := advanceFrom_stop h₂ (by decide) (by decide)
      _ = s₄.advanceFrom c 36000 35021 := advanceFrom_stop h₃ (by decide) (by decide)
      _ = { s₄ with clock := max s₄.clock 36000 } := advanceFrom_rest h₄ (by decide)
  have hcourse : Entry.starts (s₀.courseSince s .resources) = [10000, 35000] ∧
      Entry.ends (s₀.courseSince s .resources) = [35000, 35020] := by
    rw [hs]
    decide +kernel
  have hepisode : Episode c s₀ [.advance 36000] .resources 10 takes s := by
    refine ⟨rfl, by decide, by decide, by simp, rfl, by rw [hs]; decide +kernel, ?_, ?_⟩
    · intro k
      cases k with
      | zero => exact .inr (by decide)
      | succ k => exact .inl (by simp [takes])
    · refine ⟨?_, ?_⟩
      · intro k begun ended hbegun hended
        rw [hcourse.1] at hbegun
        rw [hcourse.2] at hended
        match k with
        | 0 => cases hbegun; cases hended; simp [takes]
        | 1 => cases hbegun; cases hended; simp [takes]
        | k + 2 => cases hbegun
      · intro k begun hbegun hended
        rw [hcourse.1] at hbegun
        rw [hcourse.2] at hended
        match k with
        | 0 => cases hended
        | 1 => cases hended
        | k + 2 => cases hbegun
  exact ⟨hepisode, (started_keeps_beat hepisode).1, hcourse.1⟩

end Service

end HostWatch
