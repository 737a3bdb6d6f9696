import Mathlib.Data.List.Nodup
import HostWatch.Proofs.Monitor.Sight
set_option autoImplicit false

/-!
# Monitor: the tasks of a service

A service is orderly when no two of its tasks have the same domain and each of them runs the
cycles of its own (`Service.Orderly`).

A cycle under way is followed by watching its task.  What is watched is kept by the other tasks
and by the time that passes, and the task itself goes on exactly when it is due, however the
other tasks are (`Service.Watch.settleAt`).  So what holds of a cycle can be carried through time
(`Service.Watch.advanceFrom`).
-/

namespace HostWatch

/-! ## Tasks that settle one after the other -/

namespace World

variable {σ : Type} {c : Collaborators σ} {now : Nat} {t : Task} {ts : List Task}

theorem settleAll_cons_due (h : t.isDue now = true) (w : World σ) :
    w.settleAll c now (t :: ts) =
      let r := w.settle c now t
      let rest := r.1.settleAll c now ts
      (rest.1, rest.2.1, r.2 :: rest.2.2) := by
  rw [settleAll, if_pos h]

theorem settleAll_cons_idle (h : ¬ t.isDue now = true) (w : World σ) :
    w.settleAll c now (t :: ts) =
      let rest := w.settleAll c now ts
      (rest.1, t :: rest.2.1, rest.2.2) := by
  rw [settleAll, if_neg h]

/-- What is kept by every task that settles is kept by all of them. -/
theorem settleAll_keeps {P : World σ → Prop}
    (hP : ∀ t ∈ ts, t.isDue now = true → ∀ w, P w → P (w.settle c now t).1) :
    ∀ {w : World σ}, P w → P (w.settleAll c now ts).1 := by
  induction ts with
  | nil =>
    intro w h
    exact h
  | cons t ts ih =>
    intro w h
    obtain ⟨hfirst, hrest⟩ := List.forall_mem_cons.1 hP
    by_cases hdue : t.isDue now = true
    · rw [settleAll_cons_due hdue]
      exact ih hrest (hfirst hdue w h)
    · rw [settleAll_cons_idle hdue]
      exact ih hrest h

theorem map_domain_settleAll (w : World σ) :
    let r := w.settleAll c now ts
    ((r.2.1 ++ r.2.2).map (·.domain)).Perm (ts.map (·.domain)) := by
  induction ts generalizing w with
  | nil => exact .nil
  | cons t ts ih =>
    by_cases hdue : t.isDue now = true
    · rw [settleAll_cons_due hdue]
      refine (List.perm_middle.map _).trans ?_
      rw [List.map_cons, List.map_cons, (w.settle_same now t).1]
      exact (ih _).cons _
    · rw [settleAll_cons_idle hdue]
      exact (ih w).cons _

/-- A task afterwards was not due, or it comes from one that was. -/
theorem mem_settleAll {t' : Task} {w : World σ}
    (h : t' ∈ (w.settleAll c now ts).2.1 ++ (w.settleAll c now ts).2.2) :
    (t' ∈ ts ∧ ¬ t'.isDue now = true) ∨
      ∃ t ∈ ts, t.isDue now = true ∧ ∃ w' : World σ, t' = (w'.settle c now t).2 := by
  induction ts generalizing w with
  | nil => cases h
  | cons t ts ih =>
    have hlater : ((t' ∈ ts ∧ ¬ t'.isDue now = true) ∨
        ∃ t ∈ ts, t.isDue now = true ∧ ∃ w' : World σ, t' = (w'.settle c now t).2) →
        (t' ∈ t :: ts ∧ ¬ t'.isDue now = true) ∨
          ∃ t₁ ∈ t :: ts, t₁.isDue now = true ∧ ∃ w' : World σ, t' = (w'.settle c now t₁).2 := by
      rintro (⟨hmem, hidle⟩ | ⟨t₁, hmem, hrest⟩)
      · exact .inl ⟨List.mem_cons_of_mem _ hmem, hidle⟩
      · exact .inr ⟨t₁, List.mem_cons_of_mem _ hmem, hrest⟩
    by_cases hdue : t.isDue now = true
    · rw [settleAll_cons_due hdue] at h
      rcases List.mem_append.1 h with hidle | hsettled
      · exact hlater (ih (List.mem_append_left _ hidle))
      · rcases List.mem_cons.1 hsettled with rfl | hsettled
        · exact .inr ⟨t, List.mem_cons_self, hdue, w, rfl⟩
        · exact hlater (ih (List.mem_append_right _ hsettled))
    · rw [settleAll_cons_idle hdue] at h
      rcases List.mem_cons.1 h with rfl | h
      · exact .inl ⟨List.mem_cons_self, hdue⟩
      · exact hlater (ih h)

theorem mem_idle (ht : t ∈ ts) (hidle : ¬ t.isDue now = true) (w : World σ) :
    t ∈ (w.settleAll c now ts).2.1 := by
  induction ts generalizing w with
  | nil => cases ht
  | cons t₀ ts ih =>
    by_cases hdue : t₀.isDue now = true
    · rw [settleAll_cons_due hdue]
      rcases List.mem_cons.1 ht with rfl | ht
      · exact absurd hdue hidle
      · exact ih ht _
    · rw [settleAll_cons_idle hdue]
      rcases List.mem_cons.1 ht with rfl | ht
      · exact List.mem_cons_self
      · exact List.mem_cons_of_mem _ (ih ht w)

/-- **A task that is due** settles once, after some of the other tasks and before the rest. -/
theorem settleAll_of_due {P : World σ → Prop} {Q : Task → World σ → Prop} (ht : t ∈ ts)
    (hdue : t.isDue now = true) (hnodup : (ts.map (·.domain)).Nodup)
    (hP : ∀ t' ∈ ts, t'.domain ≠ t.domain → ∀ w, P w → P (w.settle c now t').1)
    (hQ : ∀ t' ∈ ts, t'.domain ≠ t.domain → ∀ t₁ w, Q t₁ w → Q t₁ (w.settle c now t').1)
    (hown : ∀ w, P w → Q (w.settle c now t).2 (w.settle c now t).1) {w : World σ} (h : P w) :
    ∃ t₁ ∈ (w.settleAll c now ts).2.2, Q t₁ (w.settleAll c now ts).1 := by
  induction ts generalizing w with
  | nil => cases ht
  | cons t₀ ts ih =>
    obtain ⟨hfirst, hrest⟩ := List.forall_mem_cons.1 hP
    obtain ⟨_, hrest'⟩ := List.forall_mem_cons.1 hQ
    rw [List.map_cons, List.nodup_cons] at hnodup
    obtain ⟨hfresh, hdistinct⟩ := hnodup
    rcases List.mem_cons.1 ht with rfl | ht
    · rw [settleAll_cons_due hdue]
      refine ⟨_, List.mem_cons_self, ?_⟩
      refine settleAll_keeps (P := Q _) ?_ (hown w h)
      intro t' ht' _ w' hw'
      refine hrest' t' ht' ?_ _ w' hw'
      intro hsame
      exact hfresh (hsame ▸ List.mem_map_of_mem ht')
    · have hne : t₀.domain ≠ t.domain := by
        intro hsame
        exact hfresh (hsame ▸ List.mem_map_of_mem ht)
      by_cases hdue₀ : t₀.isDue now = true
      · rw [settleAll_cons_due hdue₀]
        obtain ⟨t₁, ht₁, hq⟩ := ih ht hdistinct hrest hrest' (hfirst hne w h)
        exact ⟨t₁, List.mem_cons_of_mem _ ht₁, hq⟩
      · rw [settleAll_cons_idle hdue₀]
        exact ih ht hdistinct hrest hrest' h

/-! ## A cycle that is carried on -/

variable {run : Run} {todo : List Call}

theorem lt_nextEvent_pursue (w : World σ) {due : Nat}
    (h : (w.pursue c now run todo).2.nextEvent? = some due) : now < due := by
  induction todo generalizing w run with
  | nil =>
    unfold pursue at h
    split at h
    · cases h
    · rename_i hlate
      rw [← Option.some.inj h]
      exact Nat.lt_of_not_le hlate
  | cons call todo ih =>
    by_cases hslot : run.slot ≤ now
    · rcases hperform : w.perform c run call with ⟨w', takes, _ | reply⟩
      · rw [pursue_broken hslot hperform] at h
        cases h
      · rw [pursue_answered hslot hperform] at h
        exact ih _ h
    · rw [pursue_early hslot] at h
      rw [← Option.some.inj h]
      exact Nat.lt_of_not_le hslot

/-- A cycle that is carried on waits, has ended, or broke down. -/
theorem pursue_phase (c : Collaborators σ) (now : Nat) (w : World σ) (run : Run)
    (todo : List Call) :
    (w.pursue c now run todo).2 = .waiting ∨ (w.pursue c now run todo).2 = .broken ∨
      ∃ run' todo', (w.pursue c now run todo).2 = .busy run' todo' := by
  induction todo generalizing w run with
  | nil =>
    unfold pursue
    split
    · exact .inl rfl
    · exact .inr (.inr ⟨run, [], rfl⟩)
  | cons call todo ih =>
    by_cases hslot : run.slot ≤ now
    · rcases hperform : w.perform c run call with ⟨w', takes, _ | reply⟩
      · rw [pursue_broken hslot hperform]
        exact .inr (.inl rfl)
      · rw [pursue_answered hslot hperform]
        exact ih _ _
    · rw [pursue_early hslot]
      exact .inr (.inr ⟨run, call :: todo, rfl⟩)

theorem settle_busy {w : World σ} {run' : Run} {todo' : List Call}
    (hphase : t.phase = .busy run todo)
    (hbusy : (w.pursue c now run todo).2 = .busy run' todo') :
    w.settle c now t =
      ((w.pursue c now run todo).1, { t with phase := .busy run' todo' }) := by
  unfold settle
  rw [hphase]
  simp only [hbusy]
  rfl

end World

namespace Phase

theorem exists_nextEvent (run : Run) (todo : List Call) :
    ∃ due, (busy run todo).nextEvent? = some due := by
  cases todo with
  | nil => exact ⟨_, rfl⟩
  | cons call todo => exact ⟨_, rfl⟩

theorem exists_busy {phase : Phase} (h : phase.remaining ≠ 0) :
    ∃ run todo, phase = .busy run todo := by
  cases phase with
  | busy run todo => exact ⟨run, todo, rfl⟩
  | waiting => exact absurd rfl h
  | ended => exact absurd rfl h
  | broken => exact absurd rfl h

theorem nextEvent?_eq_none_iff {phase : Phase} :
    phase.nextEvent? = none ↔ phase.remaining = 0 := by
  constructor
  · intro hnone
    by_contra hbusy
    obtain ⟨run, todo, rfl⟩ := exists_busy hbusy
    obtain ⟨due, hdue⟩ := exists_nextEvent run todo
    rw [hnone] at hdue
    cases hdue
  · intro hover
    cases phase with
    | busy run todo => exact absurd hover (Nat.succ_ne_zero _)
    | waiting => rfl
    | ended => rfl
    | broken => rfl

end Phase

/-- The task shows what is watched: its cycle is under way as far as this, or it is over. -/
def Task.Shows (t : Task) : Phase → Prop
  | .busy run todo => t.phase = .busy run todo
  | _ => t.phase = .broken ∨ t.phase = .ended

namespace Task.Shows

variable {t : Task} {phase : Phase}

theorem phase_ne_waiting (h : t.Shows phase) : t.phase ≠ .waiting := by
  have hover : t.phase = .broken ∨ t.phase = .ended → t.phase ≠ .waiting := by
    rintro (h | h) <;> simp [h]
  cases phase with
  | busy run todo =>
    have hbusy : t.phase = .busy run todo := h
    simp [hbusy]
  | waiting => exact hover h
  | ended => exact hover h
  | broken => exact hover h

theorem remaining_eq (h : t.Shows phase) : t.phase.remaining = phase.remaining := by
  have hover : t.phase = .broken ∨ t.phase = .ended → t.phase.remaining = 0 := by
    rintro (h | h) <;> simp [h, Phase.remaining]
  cases phase with
  | busy run todo => exact congrArg Phase.remaining h
  | waiting => exact hover h
  | ended => exact hover h
  | broken => exact hover h

end Task.Shows

/-! ## Orderly services -/

namespace Service

variable {σ : Type} {c : Collaborators σ} {s : Service σ}

/-- The tasks have different domains, and each of them runs the cycles of its own. -/
structure Orderly (s : Service σ) : Prop where
  nodup : (s.tasks.map (·.domain)).Nodup
  sound : ∀ t ∈ s.tasks, t.Sound

theorem exists_mem_of_mem_settleAt {now : Nat} {t' : Task} (h : t' ∈ (s.settleAt c now).tasks) :
    ∃ t ∈ s.tasks, t' = t ∨ ∃ w : World σ, t' = (w.settle c now t).2 := by
  rcases World.mem_settleAll (List.mem_filter.1 h).1 with ⟨hmem, _⟩ | ⟨t, ht, _, w, hw⟩
  · exact ⟨t', hmem, .inl rfl⟩
  · exact ⟨t, ht, .inr ⟨w, hw⟩⟩

/-- **Settling** leaves a service orderly. -/
theorem Orderly.settleAt (h : s.Orderly) (now : Nat) : (s.settleAt c now).Orderly where
  nodup := by
    have hperm : (((s.world.settleAll c now s.tasks).2.1 ++
        (s.world.settleAll c now s.tasks).2.2).map (·.domain)).Perm
          (s.tasks.map (·.domain)) := s.world.map_domain_settleAll
    exact (hperm.nodup_iff.2 h.nodup).sublist (List.filter_sublist.map _)
  sound := by
    intro t' ht'
    obtain ⟨t, ht, rfl | ⟨w, rfl⟩⟩ := exists_mem_of_mem_settleAt ht'
    · exact h.sound t' ht
    · exact World.sound_settle (h.sound t ht) now w

theorem standing_settleAt {P : Standing → Prop} (h : ∀ t ∈ s.tasks, P t.standing) (now : Nat) :
    ∀ t ∈ (s.settleAt c now).tasks, P t.standing := by
  intro t' ht'
  obtain ⟨t, ht, rfl | ⟨w, rfl⟩⟩ := exists_mem_of_mem_settleAt ht'
  · exact h t' ht
  · rw [(w.settle_same now t).2]
    exact h t ht

theorem exists_nextEvent_le {t : Task} (ht : t ∈ s.tasks) {due : Nat}
    (hdue : t.nextEvent? = some due) : ∃ first, s.nextEvent? = some first ∧ first ≤ due := by
  have hmem : due ∈ s.tasks.filterMap Task.nextEvent? := List.mem_filterMap.2 ⟨t, ht, hdue⟩
  obtain ⟨first, hfirst⟩ := Option.isSome_iff_exists.1 (List.isSome_min?_of_mem hmem)
  exact ⟨first, hfirst, (List.min?_eq_some_iff.1 hfirst).2 due hmem⟩

/-! ## Watching a cycle -/

/-- The cycle of the domain is under way as far as this, or no cycle of it is under way and none
will begin. -/
def Stands (s : Service σ) (d : Domain) : Phase → Prop
  | .busy run todo => ∃ t ∈ s.tasks, t.domain = d ∧ t.phase = .busy run todo
  | _ => ∀ t ∈ s.tasks, t.domain = d → t.phase = .broken

theorem stands_of_over {d : Domain} {phase : Phase} (hover : phase.remaining = 0) :
    s.Stands d phase ↔ ∀ t ∈ s.tasks, t.domain = d → t.phase = .broken := by
  cases phase with
  | busy run todo => exact absurd hover (Nat.succ_ne_zero _)
  | waiting => exact Iff.rfl
  | ended => exact Iff.rfl
  | broken => exact Iff.rfl

/-- The service stops at the latest when a cycle under way goes on. -/
theorem Stands.exists_nextEvent_le {d : Domain} {run : Run} {todo : List Call}
    (h : s.Stands d (.busy run todo)) :
    ∃ due first, (Phase.busy run todo).nextEvent? = some due ∧ s.nextEvent? = some first ∧
      first ≤ due := by
  obtain ⟨t, ht, _, hphase⟩ := h
  obtain ⟨due, hdue⟩ := Phase.exists_nextEvent run todo
  have hnext : t.nextEvent? = some due := by
    rw [Task.nextEvent?, hphase]
    exact hdue
  obtain ⟨first, hfirst, hle⟩ := s.exists_nextEvent_le ht hnext
  exact ⟨due, first, hdue, hfirst, hle⟩

/-- What the task of a domain shows after all have settled is how far its cycle has come. -/
theorem stands_settleAt (hs : s.Orderly) (now : Nat) {d : Domain} {t : Task} {phase : Phase}
    (ht : t ∈ (s.world.settleAll c now s.tasks).2.1 ++ (s.world.settleAll c now s.tasks).2.2)
    (hdomain : t.domain = d) (hshows : t.Shows phase) : (s.settleAt c now).Stands d phase := by
  have hperm : (((s.world.settleAll c now s.tasks).2.1 ++
      (s.world.settleAll c now s.tasks).2.2).map (·.domain)).Perm (s.tasks.map (·.domain)) :=
    s.world.map_domain_settleAll
  -- Tasks that have ended are left out, and no other task has the domain.
  have hover : t.phase = .broken ∨ t.phase = .ended →
      ∀ t' ∈ (s.settleAt c now).tasks, t'.domain = d → t'.phase = .broken := by
    intro hphase t' ht' hdomain'
    obtain ⟨hmem, hkept⟩ := List.mem_filter.1 ht'
    obtain rfl : t' = t :=
      List.inj_on_of_nodup_map (hperm.nodup_iff.2 hs.nodup) hmem ht (hdomain'.trans hdomain.symm)
    rcases hphase with hbroken | hended
    · exact hbroken
    · simp [Task.hasEnded, hended] at hkept
  cases phase with
  | busy run todo =>
    have hbusy : t.phase = .busy run todo := hshows
    exact ⟨t, List.mem_filter.2 ⟨ht, by simp [Task.hasEnded, hbusy]⟩, hdomain, hbusy⟩
  | waiting => exact hover hshows
  | ended => exact hover hshows
  | broken => exact hover hshows

/-- Something about a cycle of a domain: about the time from which on it goes on, the world, and
how far the cycle has come.  Tasks of other domains keep it, as far as their standing allows
this, and so does the time that passes before the cycle goes on. -/
structure Watch (c : Collaborators σ) (d : Domain) (allowed : Standing → Prop)
    (P : Nat → World σ → Phase → Prop) : Prop where
  other : ∀ {front : Nat} {w : World σ} {phase : Phase} {t : Task} (now : Nat), t.Sound →
    allowed t.standing → t.domain ≠ d → P front w phase → P front (w.settle c now t).1 phase
  wait : ∀ {front front' : Nat} {w : World σ} {phase : Phase},
    (∀ due, phase.nextEvent? = some due → max front' due = max front due) →
      P front w phase → P front' w phase

namespace Watch

variable {d : Domain} {allowed : Standing → Prop} {P : Nat → World σ → Phase → Prop}
  {run : Run} {todo : List Call} {front now due : Nat}

/-- **A stop of the service.**  The cycle that is watched goes on at the very moment at which it
is due, and what is watched holds afterwards. -/
theorem settleAt (hP : Watch c d allowed P) (hs : s.Orderly)
    (hallowed : ∀ t ∈ s.tasks, allowed t.standing)
    (hdue : (Phase.busy run todo).nextEvent? = some due)
    (hfront : front ≤ now) (hnow : now ≤ max front due)
    (hown : now = max front due → ∀ w t, allowed t.standing → t.phase = .busy run todo →
      P front w (.busy run todo) →
      P now (w.settle c now t).1 (w.pursue c now run todo).2 ∧
        (w.settle c now t).2.Shows (w.pursue c now run todo).2)
    (hstands : s.Stands d (.busy run todo)) (h : P front s.world (.busy run todo)) :
    ∃ phase, P now (s.settleAt c now).world phase ∧ (s.settleAt c now).Stands d phase ∧
      ∀ due', phase.nextEvent? = some due' → now < due' := by
  obtain ⟨t, ht, rfl, hphase⟩ := hstands
  have hothers : ∀ phase front, ∀ t' ∈ s.tasks, t'.domain ≠ t.domain → ∀ w,
      P front w phase → P front (w.settle c now t').1 phase :=
    fun phase front t' ht' hne w hw => hP.other now (hs.sound t' ht') (hallowed t' ht') hne hw
  have hnext : t.nextEvent? = some due := by
    rw [Task.nextEvent?, hphase]
    exact hdue
  by_cases hisdue : t.isDue now = true
  · have hle : due ≤ now := by
      simpa [Task.isDue, hnext] using hisdue
    have hexact : now = max front due := by omega
    obtain ⟨t₁, ht₁, hdomain, phase, hphase₁, hshows, hlater⟩ :=
      World.settleAll_of_due (P := fun w => P front w (.busy run todo))
        (Q := fun t₁ w => t₁.domain = t.domain ∧ ∃ phase, P now w phase ∧ t₁.Shows phase ∧
          ∀ due', phase.nextEvent? = some due' → now < due')
        ht hisdue hs.nodup (hothers _ _)
        (by
          rintro t' ht' hne t₁ w ⟨hdomain, phase, hw, hrest⟩
          exact ⟨hdomain, phase, hothers phase now t' ht' hne w hw, hrest⟩)
        (by
          intro w hw
          obtain ⟨hpursued, hshows⟩ := hown hexact w t (hallowed t ht) hphase hw
          exact ⟨(w.settle_same now t).1, _, hpursued, hshows, fun _ => w.lt_nextEvent_pursue⟩)
        h
    exact ⟨phase, hphase₁, stands_settleAt hs now (List.mem_append_right _ ht₁) hdomain hshows,
      hlater⟩
  · have hlt : now < due := by
      simpa [Task.isDue, hnext] using hisdue
    have hsame : ∀ due', (Phase.busy run todo).nextEvent? = some due' → due' = due :=
      fun due' hdue' => Option.some.inj (hdue'.symm.trans hdue)
    refine ⟨.busy run todo, ?_, ?_, fun due' hdue' => hsame due' hdue' ▸ hlt⟩
    · refine hP.wait ?_ (World.settleAll_keeps (P := fun w => P front w (.busy run todo)) ?_ h)
      · intro due' hdue'
        rw [hsame due' hdue']
        omega
      · intro t' ht' hdue' w hw
        refine hothers _ _ t' ht' ?_ w hw
        intro hdomain
        have ht't : t' = t := List.inj_on_of_nodup_map hs.nodup ht' ht hdomain
        exact hisdue (ht't ▸ hdue')
    · exact stands_settleAt hs now (List.mem_append_left _ (World.mem_idle ht hisdue _)) rfl hphase

/-- A stop of the service after the end of the cycle that is watched. -/
theorem settleAt_over (hP : Watch c d allowed P) (hs : s.Orderly)
    (hallowed : ∀ t ∈ s.tasks, allowed t.standing) {phase : Phase} (hover : phase.remaining = 0)
    (hstands : s.Stands d phase) (h : P front s.world phase) :
    P now (s.settleAt c now).world phase ∧ (s.settleAt c now).Stands d phase := by
  have hnone : phase.nextEvent? = none := Phase.nextEvent?_eq_none_iff.2 hover
  rw [stands_of_over hover] at hstands
  have hidle : ∀ t ∈ s.tasks, t.isDue now = true → t.domain ≠ d := by
    intro t ht hdue hdomain
    rw [Task.isDue, Task.nextEvent?, hstands t ht hdomain] at hdue
    cases hdue
  have hothers : P front (s.settleAt c now).world phase :=
    World.settleAll_keeps (P := fun w => P front w phase)
      (fun t ht hdue w hw => hP.other now (hs.sound t ht) (hallowed t ht) (hidle t ht hdue) hw) h
  refine ⟨hP.wait (fun due hdue => ?_) hothers,
    (stands_of_over hover).2 fun t' ht' hdomain => ?_⟩
  · rw [hnone] at hdue
    cases hdue
  · rcases World.mem_settleAll (List.mem_filter.1 ht').1 with ⟨ht, _⟩ | ⟨t, ht, hdue, w, rfl⟩
    · exact hstands t' ht hdomain
    · exact absurd ((w.settle_same now t).1.symm.trans hdomain) (hidle t ht hdue)

/-- **Time passes.**  While the clock is moved to a target the cycle that is watched goes on as
if it were alone, if it is not over before. -/
theorem advanceFrom (hP : Watch c d allowed P) (target : Nat)
    (hown : ∀ {front w run todo due}, P front w (.busy run todo) →
      (Phase.busy run todo).nextEvent? = some due → max front due < target →
      let r := w.pursue c (max front due) run todo
      P (max front due) r.1 r.2 ∧ ∃ run' todo', r.2 = .busy run' todo')
    {s : Service σ} {front : Nat} :
    ∀ {run : Run} {todo : List Call}, s.Orderly → (∀ t ∈ s.tasks, allowed t.standing) →
      s.clock ≤ front → front ≤ max s.clock target → s.Stands d (.busy run todo) →
      P front s.world (.busy run todo) →
      let s' := s.advanceFrom c target front
      s'.clock = max s.clock target ∧
        ∃ run' todo', s'.Stands d (.busy run' todo') ∧ P s'.clock s'.world (.busy run' todo') := by
  -- Until the target the cycle is not over.
  have hbusy : Watch c d allowed fun front w phase =>
      P front w phase ∧ ∃ run todo, phase = .busy run todo :=
    ⟨fun now hsound hstanding hne h => ⟨hP.other now hsound hstanding hne h.1, h.2⟩,
      fun hwait h => ⟨hP.wait hwait h.1, h.2⟩⟩
  fun_induction Service.advanceFrom c target front s with
  | case1 front s hnone =>
    intro run todo _ _ _ _ hstands _
    obtain ⟨due, first, _, hsome, _⟩ := hstands.exists_nextEvent_le
    rw [hnone] at hsome
    cases hsome
  | case2 front s first hsome now hlt =>
    rename_i ih
    intro run todo hs hallowed hclock _ hstands h
    obtain ⟨due, first', hdue, hsome', hle⟩ := hstands.exists_nextEvent_le
    obtain rfl : first = first' := Option.some.inj (hsome.symm.trans hsome')
    have hfront : front ≤ now := Nat.le_max_right _ _
    have hnow : now ≤ max front due := by omega
    obtain ⟨_, ⟨hafter, run', todo', rfl⟩, hstands', hlater⟩ :=
      hbusy.settleAt hs hallowed hdue hfront hnow (by
        intro hexact w t _ hphase hw
        obtain ⟨hpursued, run', todo', hstill⟩ := hown hw.1 hdue (hexact ▸ hlt)
        rw [← hexact] at hpursued hstill
        rw [World.settle_busy hphase hstill, hstill]
        rw [hstill] at hpursued
        exact ⟨⟨hpursued, run', todo', rfl⟩, rfl⟩)
        hstands ⟨h, run, todo, rfl⟩
    have hclock' : (s.settleAt c now).clock = now := rfl
    have hwaited : P (now + 1) (s.settleAt c now).world (.busy run' todo') := by
      refine hP.wait ?_ hafter
      intro due' hdue'
      have hlt' : now < due' := hlater due' hdue'
      omega
    obtain ⟨hreached, hrest⟩ := ih (hs.settleAt now) (standing_settleAt hallowed now)
      (by omega) (by omega) hstands' hwaited
    refine ⟨?_, hrest⟩
    rw [hreached, hclock']
    omega
  | case3 front s first hsome hnot =>
    intro run todo _ _ hclock hfront hstands h
    obtain ⟨due, first', hdue, hsome', hle⟩ := hstands.exists_nextEvent_le
    obtain rfl : first = first' := Option.some.inj (hsome.symm.trans hsome')
    refine ⟨rfl, run, todo, hstands, hP.wait ?_ h⟩
    intro due' hdue'
    obtain rfl : due' = due := Option.some.inj (hdue'.symm.trans hdue)
    show max (max s.clock target) due' = max front due'
    omega

end Watch

end Service

end HostWatch
