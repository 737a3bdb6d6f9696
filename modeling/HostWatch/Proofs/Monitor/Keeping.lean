import HostWatch.Proofs.Monitor.Beat
set_option autoImplicit false

/-!
# Monitor: what one task keeps

Something that is said about the task of a domain, about the time from which on it goes on and about
what the journal has said of the domain since the task was started, is kept by the task alone
(`Task.Keeps`) when the time may pass until the task goes on, and when what the task does at the
moment at which it is due keeps it.  Whatever happens beside the task then keeps it too
(`Service.Retains.afterAll`): the time may be moved on in any steps, tasks that are due at one
moment may act in any order, other tasks may come late, be refused an answer or break down, and
single cycles of other domains may be run from elsewhere.

What carries this through a history is that a service never stops after the moment at which the task
goes on (`Service.RetainsFrom.settleAt`).
-/

namespace HostWatch

theorem Collaborators.spares_nothing {σ : Type} (c : Collaborators σ) (d : Domain) :
    c.Spares d (fun _ => ()) :=
  fun _ _ _ => rfl

/-! ## Tasks that act in their order -/

namespace World

variable {σ : Type} {t : Task} {ts : List Task} {chosen : Domain → Bool}
  {act : World σ → Task → World σ × Task}

theorem letAct_keeps_of_chosen {P : World σ → Prop}
    (hP : ∀ t ∈ ts, chosen t.domain = true → ∀ w, P w → P (act w t).1) :
    ∀ {w : World σ}, P w → P (w.letAct act chosen ts).1 := by
  induction ts with
  | nil =>
    intro w h
    exact h
  | cons t ts ih =>
    intro w h
    obtain ⟨hfirst, hrest⟩ := List.forall_mem_cons.1 hP
    unfold letAct
    refine ih hrest ?_
    split
    · rename_i hchosen
      exact hfirst hchosen w h
    · exact h

theorem mem_letAct_of_not_chosen (ht : t ∈ ts) (hchosen : chosen t.domain = false) (w : World σ) :
    t ∈ (w.letAct act chosen ts).2 := by
  induction ts generalizing w with
  | nil => cases ht
  | cons t₀ ts ih =>
    rcases List.mem_cons.1 ht with rfl | ht
    · refine List.mem_cons.2 (.inl ?_)
      rw [hchosen]
      rfl
    · exact List.mem_cons_of_mem _ (ih ht _)

theorem letAct_of_only_chosen (ht : t ∈ ts) (hnodup : (ts.map (·.domain)).Nodup)
    (act : World σ → Task → World σ × Task) (w : World σ) :
    let r := w.letAct act (fun d => d = t.domain) ts
    r.1 = (act w t).1 ∧ (act w t).2 ∈ r.2 := by
  induction ts with
  | nil => cases ht
  | cons t₀ ts ih =>
    rw [List.map_cons, List.nodup_cons] at hnodup
    obtain ⟨hfresh, hdistinct⟩ := hnodup
    unfold letAct
    rcases List.mem_cons.1 ht with rfl | ht
    · rw [if_pos (decide_eq_true rfl)]
      refine ⟨?_, List.mem_cons_self⟩
      refine letAct_keeps_of_chosen (P := (· = (act w t).1)) ?_ rfl
      intro t' ht' hchosen
      exact absurd (of_decide_eq_true hchosen ▸ List.mem_map_of_mem ht') hfresh
    · have hidle : ¬ decide (t₀.domain = t.domain) = true := fun hchosen =>
        hfresh (of_decide_eq_true hchosen ▸ List.mem_map_of_mem ht)
      rw [if_neg hidle]
      obtain ⟨hworld, hmem⟩ := ih ht hdistinct
      exact ⟨hworld, List.mem_cons_of_mem _ hmem⟩

theorem course_settle_other {d : Domain} (ht : t.Sound) (hne : t.domain ≠ d) (c : Collaborators σ)
    (now : Nat) (w : World σ) :
    Entry.courseOf d (w.settle c now t).1.entries = Entry.courseOf d w.entries :=
  (w.alikeFor_settle (c.spares_nothing d) ht hne now).course_eq

theorem phase_pursue_ne_ended (c : Collaborators σ) (now : Nat) (w : World σ) (run : Run)
    (todo : List Call) : (w.pursue c now run todo).2 ≠ .ended := by
  rcases w.pursue_phase c now run todo with h | h | ⟨run', todo', h⟩ <;> simp [h]

theorem phase_wake_ne_ended (hheld : t.standing = .held) (hphase : t.phase ≠ .ended)
    (c : Collaborators σ) (now : Nat) (w : World σ) : (w.wake c now t).2.phase ≠ .ended := by
  by_cases hwaiting : t.phase = .waiting
  · by_cases hdue : t.ticker.due ≤ now
    · rw [wake_of_due hheld hwaiting hdue]
      exact phase_pursue_ne_ended c now _ _ _
    · rw [wake_of_early hheld hwaiting hdue]
      exact hphase
  · rw [wake_of_ne_waiting hwaiting]
    exact hphase

theorem phase_settle_ne_ended (hheld : t.standing = .held) (hphase : t.phase ≠ .ended)
    (c : Collaborators σ) (now : Nat) (w : World σ) : (w.settle c now t).2.phase ≠ .ended := by
  unfold settle
  split
  · rename_i run todo _
    exact phase_wake_ne_ended (t := { t with phase := (w.pursue c now run todo).2 }) hheld
      (phase_pursue_ne_ended c now w run todo) c now _
  · exact phase_wake_ne_ended hheld hphase c now w

theorem settle_of_not_due {now : Nat} (hheld : t.standing = .held) (hidle : ¬ t.isDue now = true)
    (c : Collaborators σ) (w : World σ) : w.settle c now t = (w, t) := by
  have hlater : ∀ due, t.nextEvent? = some due → ¬ due ≤ now := fun due hdue hle =>
    hidle (Task.isDue_eq_true_iff.2 ⟨due, hdue, hle⟩)
  cases hphase : t.phase with
  | waiting =>
    rw [settle, hphase]
    exact wake_of_early hheld hphase (hlater _ (Task.nextEvent?_of_waiting hheld hphase)) c w
  | busy run todo =>
    have hstill : w.pursue c now run todo = (w, .busy run todo) := by
      have hnext := Task.nextEvent?_of_ne_waiting (t := t) (by simp [hphase])
      rw [hphase] at hnext
      cases todo with
      | nil => rw [pursue, if_neg (hlater _ hnext)]
      | cons call todo => exact pursue_early (hlater _ hnext)
    rw [settle_busy hphase (congrArg Prod.snd hstill), hstill, ← hphase]
  | ended =>
    rw [settle, hphase]
    exact wake_of_ne_waiting (by simp [hphase]) c w
  | broken =>
    rw [settle, hphase]
    exact wake_of_ne_waiting (by simp [hphase]) c w

/-- **A task that is due** begins one cycle, at this moment, and goes on with it. -/
theorem starts_wake_of_due {now : Nat} (hheld : t.standing = .held) (hphase : t.phase = .waiting)
    (hdue : t.ticker.due ≤ now) (c : Collaborators σ) (w : World σ) :
    ∃ more, Entry.courseOf t.domain (w.wake c now t).1.entries =
      Entry.courseOf t.domain w.entries ++ more ∧ Entry.starts more = [now] := by
  obtain ⟨more, hmore, hnone, _⟩ := course_pursue (w.of_begin c t.domain now).1 c now
    (w.begin c t.domain now).1 (w.begin c t.domain now).2.2
  rw [course_begin, List.append_assoc] at hmore
  rw [wake_of_due hheld hphase hdue]
  refine ⟨_, hmore, ?_⟩
  rw [Entry.starts_append, hnone]
  rfl

theorem exists_course_wake (c : Collaborators σ) (now : Nat) (w : World σ) (t : Task) :
    ∃ more, Entry.courseOf t.domain (w.wake c now t).1.entries =
      Entry.courseOf t.domain w.entries ++ more := by
  by_cases hwaiting : t.phase = .waiting
  · by_cases hleaving : t.isLeaving = true
    · refine ⟨[], ?_⟩
      simp only [wake, hwaiting, hleaving, if_true]
      exact (course_log _ _ _).trans (List.append_nil _).symm
    · have hheld : t.standing = .held := by
        simpa [Task.isLeaving] using hleaving
      by_cases hdue : t.ticker.due ≤ now
      · obtain ⟨more, hmore, _⟩ := starts_wake_of_due hheld hwaiting hdue c w
        exact ⟨more, hmore⟩
      · rw [wake_of_early hheld hwaiting hdue]
        exact ⟨[], (List.append_nil _).symm⟩
  · rw [wake_of_ne_waiting hwaiting]
    exact ⟨[], (List.append_nil _).symm⟩

/-- **What a task does** adds to the course of its domain. -/
theorem exists_course_settle (hsound : t.Sound) (c : Collaborators σ) (now : Nat) (w : World σ) :
    ∃ more, Entry.courseOf t.domain (w.settle c now t).1.entries =
      Entry.courseOf t.domain w.entries ++ more := by
  cases hphase : t.phase with
  | busy run todo =>
    have hsettle : w.settle c now t =
        (w.pursue c now run todo).1.wake c now
          { t with phase := (w.pursue c now run todo).2 } := by
      rw [settle, hphase]
    obtain ⟨more, hmore, _⟩ := course_pursue (hsound.of_busy hphase).1 c now w todo
    obtain ⟨more', hmore'⟩ := exists_course_wake c now (w.pursue c now run todo).1
      { t with phase := (w.pursue c now run todo).2 }
    refine ⟨more ++ more', ?_⟩
    rw [hsettle, hmore', hmore, List.append_assoc]
  | waiting =>
    rw [settle, hphase]
    exact exists_course_wake c now w t
  | ended =>
    rw [settle, hphase]
    exact exists_course_wake c now w t
  | broken =>
    rw [settle, hphase]
    exact exists_course_wake c now w t

end World

/-! ## What one task keeps -/

/-- Something about the task of a domain: about the time from which on the task goes on, what the
journal says about the domain since some time, and the task.  It is kept by the time that passes
before the task goes on, and by what the task does when it is due. -/
structure Task.Keeps {σ : Type} (c : Collaborators σ) (d : Domain)
    (P : Nat → List Entry → Task → Prop) : Prop where
  wait : ∀ {front front' : Nat} {course : List Entry} {t : Task}, front ≤ front' →
    (∀ due, t.nextEvent? = some due → front ≤ due → front' ≤ due) →
      P front course t → P front' course t
  settle : ∀ {front now : Nat} {course : List Entry} {t : Task} (w : World σ), t.domain = d →
    t.Sound → t.standing = .held → t.isDue now = true → front ≤ now + 1 →
      (∀ due, t.nextEvent? = some due → now ≤ max front due) → P front course t →
        let r := w.settle c now t
        ∃ more, Entry.courseOf d r.1.entries = Entry.courseOf d w.entries ++ more ∧
          P (now + 1) (course ++ more) r.2

namespace Service

variable {σ : Type} {c : Collaborators σ} {s : Service σ} {d : Domain}
  {P : Nat → List Entry → Task → Prop} {before : List Entry} {front : Nat}

/-- This holds of the task of the domain, which goes on from `front` on; `before` is what the
journal said about the domain when the task was started. -/
def RetainsFrom (d : Domain) (P : Nat → List Entry → Task → Prop) (before : List Entry)
    (s : Service σ) (front : Nat) : Prop :=
  ∃ t ∈ s.tasks, t.domain = d ∧ t.phase ≠ .ended ∧
    ∃ course, Entry.courseOf d s.world.entries = before ++ course ∧ P front course t

/-- This holds of the task of the domain, whether or not it has acted at this very moment. -/
def Retains (d : Domain) (P : Nat → List Entry → Task → Prop) (before : List Entry)
    (s : Service σ) : Prop :=
  ∃ front, s.clock ≤ front ∧ front ≤ s.clock + 1 ∧ s.RetainsFrom d P before front

theorem mem_tasks_settleAt {now : Nat} {t : Task}
    (ht : t ∈ (s.world.settleAll c now s.tasks).2.1 ++ (s.world.settleAll c now s.tasks).2.2)
    (hphase : t.phase ≠ .ended) : t ∈ (s.settleAt c now).tasks := by
  have hstays : t.hasEnded = false := by
    cases h : t.phase with
    | ended => exact absurd h hphase
    | _ => simp [Task.hasEnded, h]
  exact List.mem_filter.2 ⟨ht, by rw [hstays]; rfl⟩

namespace RetainsFrom

theorem of_same {s' : Service σ} (h : s.RetainsFrom d P before front)
    (htasks : s'.tasks = s.tasks)
    (hcourse : Entry.courseOf d s'.world.entries = Entry.courseOf d s.world.entries) :
    s'.RetainsFrom d P before front := by
  rw [RetainsFrom, htasks, hcourse]
  exact h

theorem wait (hP : Task.Keeps c d P) {front' : Nat} (h : s.RetainsFrom d P before front)
    (hle : front ≤ front')
    (hahead : ∀ t ∈ s.tasks, ∀ due, t.nextEvent? = some due → front ≤ due → front' ≤ due) :
    s.RetainsFrom d P before front' := by
  obtain ⟨t, ht, hdomain, hphase, course, hcourse, hkept⟩ := h
  exact ⟨t, ht, hdomain, hphase, course, hcourse, hP.wait hle (hahead t ht) hkept⟩

/-- **A stop of the service**, which is not after the moment at which the task goes on. -/
theorem settleAt (hP : Task.Keeps c d P) (h : s.RetainsFrom d P before front) (hs : s.Running)
    {now : Nat} (hfront : front ≤ now + 1)
    (hnow : ∀ t ∈ s.tasks, ∀ due, t.nextEvent? = some due → now ≤ max front due) :
    (s.settleAt c now).RetainsFrom d P before (now + 1) := by
  obtain ⟨t, ht, rfl, hphase, course, hcourse, hheld⟩ := h
  have hothers : ∀ {course : List Entry}, ∀ t' ∈ s.tasks, t'.domain ≠ t.domain → ∀ w : World σ,
      Entry.courseOf t.domain w.entries = before ++ course →
        Entry.courseOf t.domain (w.settle c now t').1.entries = before ++ course :=
    fun t' ht' hne w hw => (w.course_settle_other (hs.orderly.sound t' ht') hne c now).trans hw
  by_cases hdue : t.isDue now = true
  · obtain ⟨t₁, ht₁, hdomain, hphase₁, course₁, hcourse₁, hheld₁⟩ :=
      World.settleAll_of_due
        (P := fun w => Entry.courseOf t.domain w.entries = before ++ course)
        (Q := fun t₁ w => t₁.domain = t.domain ∧ t₁.phase ≠ .ended ∧
          ∃ course, Entry.courseOf t.domain w.entries = before ++ course ∧ P (now + 1) course t₁)
        ht hdue hs.orderly.nodup hothers
        (by
          rintro t' ht' hne t₁ w ⟨hdomain, hphase₁, course₁, hcourse₁, hheld₁⟩
          exact ⟨hdomain, hphase₁, course₁, hothers t' ht' hne w hcourse₁, hheld₁⟩)
        (by
          intro w hw
          obtain ⟨more, hmore, hheld'⟩ := hP.settle w rfl (hs.orderly.sound t ht) (hs.held t ht)
            hdue hfront (hnow t ht) hheld
          exact ⟨(w.settle_same now t).1, World.phase_settle_ne_ended (hs.held t ht) hphase c now w,
            course ++ more, by rw [hmore, hw, List.append_assoc], hheld'⟩)
        hcourse
    have hmem := mem_tasks_settleAt (List.mem_append_right _ ht₁) hphase₁
    exact ⟨t₁, hmem, hdomain, hphase₁, course₁, hcourse₁, hheld₁⟩
  · -- The task is passed over, and what the others do does not concern it.
    have hmem : t ∈ (s.settleAt c now).tasks :=
      mem_tasks_settleAt (List.mem_append_left _ (World.mem_idle ht hdue _)) hphase
    refine ⟨t, hmem, rfl, hphase, course, ?_, hP.wait hfront ?_ hheld⟩
    · refine World.settleAll_keeps
        (P := fun w => Entry.courseOf t.domain w.entries = before ++ course) ?_ hcourse
      intro t' ht' hdue' w hw
      refine hothers t' ht' ?_ w hw
      intro hsame
      have ht't : t' = t := List.inj_on_of_nodup_map hs.orderly.nodup ht' ht hsame
      exact hdue (ht't ▸ hdue')
    · intro due hnext _
      by_contra hle
      exact hdue (Task.isDue_eq_true_iff.2 ⟨due, hnext, by omega⟩)

/-- While the clock is moved on, the task goes on whenever it is due.  The stops are looked for from
`start` on, where the task may have acted already. -/
theorem advanceFrom (hP : Task.Keeps c d P) (target : Nat) {start : Nat} (hs : s.Running)
    (hclock : s.clock ≤ start) (hreach : start ≤ max s.clock target) (hstart : start ≤ front)
    (hacted : front ≤ start + 1) (h : s.RetainsFrom d P before front) :
    (s.advanceFrom c target start).Retains d P before := by
  fun_induction Service.advanceFrom c target start s generalizing front with
  | case1 start s hnone =>
    refine ⟨max front (max s.clock target), Nat.le_max_right _ _, ?_,
      (h.wait hP (Nat.le_max_left _ _) fun t ht due hdue _ => ?_).of_same rfl rfl⟩
    · show max front (max s.clock target) ≤ max s.clock target + 1
      omega
    · obtain ⟨_, hsome, _⟩ := s.exists_nextEvent_le ht hdue
      rw [hnone] at hsome
      cases hsome
  | case2 start s next hsome now hlt =>
    rename_i ih
    have hnow : ∀ t ∈ s.tasks, ∀ due, t.nextEvent? = some due → now ≤ max front due := by
      intro t ht due hdue
      obtain ⟨next', hsome', hle⟩ := s.exists_nextEvent_le ht hdue
      obtain rfl : next = next' := Option.some.inj (hsome.symm.trans hsome')
      omega
    have hreached : (s.settleAt c now).clock = now := rfl
    exact ih (hs.settleAt now) (by omega) (by omega) (Nat.le_refl _) (Nat.le_succ _)
      (h.settleAt hP hs (by omega) hnow)
  | case3 start s next hsome hnot =>
    refine ⟨max front (max s.clock target), Nat.le_max_right _ _, ?_,
      (h.wait hP (Nat.le_max_left _ _) fun t ht due hdue hahead => ?_).of_same rfl rfl⟩
    · show max front (max s.clock target) ≤ max s.clock target + 1
      omega
    · obtain ⟨next', hsome', hle⟩ := s.exists_nextEvent_le ht hdue
      obtain rfl : next = next' := Option.some.inj (hsome.symm.trans hsome')
      omega

end RetainsFrom

namespace Retains

theorem of_same {s' : Service σ} (h : s.Retains d P before) (htasks : s'.tasks = s.tasks)
    (hclock : s'.clock = s.clock)
    (hcourse : Entry.courseOf d s'.world.entries = Entry.courseOf d s.world.entries) :
    s'.Retains d P before := by
  obtain ⟨front, hle, hacted, hretains⟩ := h
  rw [← hclock] at hle hacted
  exact ⟨front, hle, hacted, hretains.of_same htasks hcourse⟩

/-- **Time passes**, in one step or in many. -/
theorem advanceTo (hP : Task.Keeps c d P) (target : Nat) (hs : s.Running)
    (h : s.Retains d P before) : (s.advanceTo c target).Retains d P before := by
  obtain ⟨front, hle, hacted, hretains⟩ := h
  exact hretains.advanceFrom hP target hs (Nat.le_refl _) (Nat.le_max_left _ _) hle hacted

/-- **The task takes its turn**: what it does at this very moment is done before the time passes. -/
theorem turn (hP : Task.Keeps c d P) (hs : s.Running) (h : s.Retains d P before) :
    (s.turn c d).Retains d P before := by
  obtain ⟨front, hle, hacted, t, ht, rfl, hphase, course, hcourse, hheld⟩ := h
  obtain ⟨hworld, hmem⟩ :=
    World.letAct_of_only_chosen ht hs.orderly.nodup (fun w t => w.settle c s.clock t) s.world
  have hentries : Entry.courseOf t.domain (s.turn c t.domain).world.entries =
      Entry.courseOf t.domain (s.world.settle c s.clock t).1.entries :=
    congrArg (fun w : World σ => Entry.courseOf t.domain w.entries) hworld
  by_cases hdue : t.isDue s.clock = true
  · obtain ⟨more, hmore, hheld'⟩ := hP.settle s.world rfl (hs.orderly.sound t ht) (hs.held t ht)
      hdue hacted (fun due _ => by omega) hheld
    exact ⟨s.clock + 1, Nat.le_succ _, Nat.le_refl _, _, hmem, (s.world.settle_same s.clock t).1,
      World.phase_settle_ne_ended (hs.held t ht) hphase c s.clock s.world, course ++ more,
      by rw [hentries, hmore, hcourse, List.append_assoc], hheld'⟩
  · rw [World.settle_of_not_due (hs.held t ht) hdue] at hmem hentries
    exact ⟨front, hle, hacted, t, hmem, rfl, hphase, course, hentries.trans hcourse, hheld⟩

theorem turn_other {e : Domain} (hne : e ≠ d) (hs : s.Running) (h : s.Retains d P before) :
    (s.turn c e).Retains d P before := by
  obtain ⟨front, hle, hacted, t, ht, rfl, hphase, course, hcourse, hheld⟩ := h
  refine ⟨front, hle, hacted, t, World.mem_letAct_of_not_chosen ht
    (decide_eq_false (Ne.symm hne)) _, rfl, hphase, course, ?_, hheld⟩
  refine World.letAct_keeps_of_chosen
    (P := fun w => Entry.courseOf t.domain w.entries = before ++ course) ?_ hcourse
  intro t' ht' hchosen w hw
  have hother : t'.domain ≠ t.domain := fun hsame =>
    hne ((of_decide_eq_true hchosen).symm.trans hsame)
  exact (w.course_settle_other (hs.orderly.sound t' ht') hother c s.clock).trans hw

theorem awaitCycle (hP : Task.Keeps c d P) {e : Domain} (hne : e ≠ d) (fuel : Nat) :
    ∀ {s : Service σ} {phase : Phase}, phase.Of e → s.Running → s.Retains d P before →
      (s.awaitCycle c fuel phase).1.Retains d P before := by
  induction fuel with
  | zero =>
    intro s phase _ _ h
    exact h
  | succ fuel ih =>
    intro s phase hphase hs h
    unfold Service.awaitCycle
    split
    · rename_i run todo time _
      have hcourse := World.alikeFor_pursue (c.spares_nothing d) hphase hne
        (s.advanceTo c time).clock (s.advanceTo c time).world
      exact ih (World.of_pursue hphase _ _) ((hs.advanceTo time).of_tasks_eq rfl)
        ((h.advanceTo hP time hs).of_same rfl rfl hcourse.course_eq)
    · exact h

/-- **Whatever happens** to a service that runs, but for a cycle of the domain from elsewhere, its
task keeps what it keeps alone. -/
theorem after (hP : Task.Keeps c d P) (hs : s.Running) (h : s.Retains d P before)
    {happening : Happening σ} (hforeign : happening ≠ .cycle d) :
    (s.after c happening).Retains d P before := by
  cases happening with
  | advance target => exact h.advanceTo hP target hs
  | turn e =>
    by_cases hown : e = d
    · subst hown
      exact h.turn hP hs
    · exact h.turn_other hown hs
  | cycle e =>
    have hne : e ≠ d := fun hsame => hforeign (by rw [hsame])
    have hbegun := s.world.of_begin c e s.clock
    have hcourse := (World.alikeFor_pursue (c.spares_nothing d) hbegun hne s.clock _).trans
      (s.world.alikeFor_begin c hne s.clock)
    exact awaitCycle hP hne _ (World.of_pursue hbegun _ _) (hs.of_tasks_eq rfl)
      (h.of_same rfl rfl hcourse.course_eq)
  | dispatch events replies =>
    have hnone : ∀ handlings : List Handling,
        Entry.courseOf d (handlings.map .handled) = [] := by
      intro handlings
      apply Entry.courseOf_eq_nil
      intro entry hentry
      obtain ⟨handling, _, rfl⟩ := List.mem_map.1 hentry
      rfl
    refine h.of_same rfl rfl ((World.course_log _ _ _).trans ?_)
    rw [World.entries_note, Entry.courseOf_append, hnone, List.append_nil]
    rfl
  | change f => exact h.of_same rfl rfl rfl
  | outside f => exact h.of_same rfl rfl rfl

/-- **Any history** of a service that runs, in which only the task runs cycles of the domain. -/
theorem afterAll (hP : Task.Keeps c d P) (hs : s.Running) (h : s.Retains d P before)
    {history : List (Happening σ)} (hforeign : .cycle d ∉ history) :
    (s.afterAll c history).Retains d P before := by
  induction history generalizing s with
  | nil => exact h
  | cons happening history ih =>
    rw [List.mem_cons, not_or] at hforeign
    obtain ⟨hfirst, hrest⟩ := hforeign
    exact ih (hs.after c happening) (h.after hP hs (Ne.symm hfirst)) hrest

end Retains

/-! ## Tasks that were started -/

theorem mem_tasks_start (c : Collaborators σ) {entry : Domain × Nat}
    (hentry : entry ∈ timetable s.world.monitor.config (s.containersReady c).1) :
    startTask s.clock entry ∈ (s.start c).1.tasks :=
  List.mem_append_right _ (List.mem_map_of_mem hentry)

theorem startTask_of_shown {now secs : Nat} (hsecs : 0 < secs)
    (hshown : now + secs * 1000 < Ticker.clockLimit * 1000) :
    startTask now (d, secs) = ⟨d, ⟨secs * 1000, now + secs * 1000⟩, .waiting, .held⟩ := by
  simp [startTask, Ticker.start?, Nat.not_le.2 hshown, Nat.pos_iff_ne_zero.1 hsecs]

theorem startTask_of_late {now secs : Nat}
    (hlate : Ticker.clockLimit * 1000 ≤ now + secs * 1000) :
    startTask now (d, secs) = ⟨d, ⟨0, now⟩, .broken, .held⟩ := by
  simp [startTask, Ticker.start?, hlate]

/-- **A task that was started** has what holds of it at the start. -/
theorem retains_start (c : Collaborators σ) {secs : Nat}
    (hentry : (d, secs) ∈ timetable s.world.monitor.config (s.containersReady c).1)
    (hP : P s.clock [] (startTask s.clock (d, secs))) :
    (s.start c).1.Retains d P (Entry.courseOf d s.world.entries) := by
  have hcourse : Entry.courseOf d (s.start c).1.world.entries =
      Entry.courseOf d s.world.entries ++ [] := by
    rw [List.append_nil]
    exact World.course_log _ _ _
  have hbegins : (startTask s.clock (d, secs)).domain = d ∧
      (startTask s.clock (d, secs)).phase ≠ .ended := by
    unfold startTask
    split
    · exact ⟨rfl, nofun⟩
    · exact ⟨rfl, nofun⟩
  exact ⟨s.clock, Nat.le_refl _, Nat.le_succ _, _, mem_tasks_start c hentry, hbegins.1, hbegins.2,
    [], hcourse, hP⟩

/-- What the journal says about the cycles of a domain since an earlier time. -/
def courseSince (s₀ s : Service σ) (d : Domain) : List Entry :=
  (Entry.courseOf d s.world.entries).drop (Entry.courseOf d s₀.world.entries).length

/-- **What a task keeps alone** holds of it after any history in which only the task runs cycles of
its domain. -/
theorem exists_task_afterAll (hP : Task.Keeps c d P) (hidle : s.tasks = []) {secs : Nat}
    (hentry : (d, secs) ∈ timetable s.world.monitor.config (s.containersReady c).1)
    (hstart : P s.clock [] (startTask s.clock (d, secs))) {history : List (Happening σ)}
    (hforeign : .cycle d ∉ history) :
    let later := (s.start c).1.afterAll c history
    ∃ t ∈ later.tasks, t.domain = d ∧ ∃ front, later.clock ≤ front ∧ front ≤ later.clock + 1 ∧
      P front (s.courseSince later d) t := by
  intro later
  obtain ⟨front, hle, hacted, t, ht, hdomain, _, course, hcourse, hkept⟩ :=
    (retains_start c hentry hstart).afterAll hP (running_start c hidle) hforeign
  refine ⟨t, ht, hdomain, front, hle, hacted, ?_⟩
  rw [courseSince, hcourse, List.drop_left]
  exact hkept

end Service

end HostWatch
