import Mathlib.Data.List.DropRight
import HostWatch.Alert.Book
set_option autoImplicit false

/-!
# Alerts: when the book speaks

A key of the book is judged by its history alone: the verdicts on its readings since it
was last forgotten.  The state that the book keeps for the key is a summary of that
history (`KeyState.Summarizes`), and every reading turns a summary of the history into
one of the history with that reading (`KeyState.Summarizes.step`).  The counter of the
book stops at the largest number of 32 bits; the summary says so, and the threshold lies
below that number, so that the rule for events can speak of the true length of a run.

The main statement, `AlertBook.answerAll_event_iff`, is about any sequence of calls to a
new book, over any keys and with any times.
-/

namespace HostWatch

open HostWatch.Time (Instant)

/-! ## Runs in a history of verdicts -/

namespace Health

/-- How many readings in a row with the verdict `v` a history ends with. -/
def runOf (v : Health) (past : List Health) : Nat :=
  (past.rtakeWhile fun w => decide (w = v)).length

@[simp] theorem runOf_nil (v : Health) : runOf v [] = 0 := by
  simp [runOf]

/-- A reading with the same verdict makes the run longer, any other one ends it. -/
theorem runOf_append_singleton (v w : Health) (past : List Health) :
    runOf v (past ++ [w]) = if w = v then runOf v past + 1 else 0 := by
  unfold runOf
  rw [List.rtakeWhile_concat]
  by_cases h : w = v
  · simp [h]
  · simp [h]

theorem runOf_map {α : Type} (verdict : α → Health) (v : Health) (xs : List α) :
    runOf v (xs.map verdict) = (xs.rtakeWhile fun x => decide (verdict x = v)).length := by
  induction xs using List.reverseRecOn with
  | nil => simp
  | append_singleton xs x ih =>
    rw [List.map_append, List.map_singleton, runOf_append_singleton, ih, List.rtakeWhile_concat]
    by_cases hx : verdict x = v
    · simp [hx]
    · simp [hx]

theorem getLast?_eq_of_runOf_pos {v : Health} {past : List Health} (h : 0 < runOf v past) :
    past.getLast? = some v := by
  induction past using List.reverseRecOn with
  | nil => simp at h
  | append_singleton past w _ =>
    rw [runOf_append_singleton] at h
    split at h
    · rename_i hw
      simp [hw]
    · omega

end Health

/-- The level of the event that a reading causes after a history: critical when it makes
the run of bad readings as long as the threshold, and a warning when it ends a run that
was at least as long. -/
def AlertLevel.due? (threshold : Nat) (past : List Health) : Health → Option AlertLevel
  | .critical =>
    if Health.runOf .critical (past ++ [.critical]) = threshold then some .critical else none
  | .ok =>
    if past.getLast? = some .critical ∧ threshold ≤ Health.runOf .critical past then some .warning
    else none

/-! ## The state of a key as a summary -/

namespace KeyState

/-- The state says what there is to know about a history: the last verdict, the length of
its run as far as the counter goes, and whether that is a bad run which has reached the
threshold. -/
structure Summarizes (threshold : Nat) (past : List Health) (s : KeyState) : Prop where
  health_eq : s.health = past.getLast?.getD .ok
  streak_eq : s.streak = min (Health.runOf s.health past) streakLimit
  alerted_iff : s.alerted = true ↔ threshold ≤ Health.runOf .critical past

theorem summarizes_fresh {threshold : Nat} (hpos : 1 ≤ threshold) (key : String) (now : Instant) :
    (fresh key now).Summarizes threshold [] where
  health_eq := rfl
  streak_eq := by simp [fresh]
  alerted_iff := by
    rw [Health.runOf_nil]
    constructor
    · intro h
      cases h
    · omega

@[simp] theorem step_health (threshold : Nat) (s : KeyState) (v : Health) (now : Instant) :
    (s.step threshold v now).1.health = (s.count v now).health := by
  unfold step
  split <;> rfl

@[simp] theorem step_streak (threshold : Nat) (s : KeyState) (v : Health) (now : Instant) :
    (s.step threshold v now).1.streak = (s.count v now).streak := by
  unfold step
  split <;> rfl

@[simp] theorem step_level (threshold : Nat) (s : KeyState) (v : Health) (now : Instant) :
    (s.step threshold v now).2 = s.level? threshold v now := by
  unfold step
  split <;> simp_all

theorem step_alerted_iff (threshold : Nat) (s : KeyState) (v : Health) (now : Instant) :
    (s.step threshold v now).1.alerted = true ↔
      s.level? threshold v now = some .critical ∨ (s.count v now).alerted = true := by
  unfold step
  split <;> simp_all

namespace Summarizes

variable {threshold : Nat} {past : List Health} {s : KeyState}

theorem runOf_eq_zero (h : s.Summarizes threshold past) {v : Health} (hv : s.health ≠ v) :
    Health.runOf v past = 0 := by
  by_contra hne
  have hlast := Health.getLast?_eq_of_runOf_pos (Nat.pos_of_ne_zero hne)
  apply hv
  rw [h.health_eq, hlast]
  rfl

theorem health_eq_critical_iff (h : s.Summarizes threshold past) :
    s.health = .critical ↔ past.getLast? = some .critical := by
  rw [h.health_eq]
  cases past.getLast? with
  | none => simp
  | some v => simp

theorem count_health (s : KeyState) (v : Health) (now : Instant) : (s.count v now).health = v := by
  unfold count
  split
  · assumption
  · rfl

theorem count_streak (h : s.Summarizes threshold past) (v : Health) (now : Instant) :
    (s.count v now).streak = min (Health.runOf v (past ++ [v])) streakLimit := by
  rw [Health.runOf_append_singleton, if_pos rfl]
  unfold count
  by_cases hv : s.health = v
  · have hstreak := h.streak_eq
    rw [hv] at hstreak
    rw [if_pos hv]
    simp only [hstreak]
    omega
  · rw [if_neg hv, h.runOf_eq_zero hv]
    rfl

/-- While a reading is counted, the mark stands for a bad run that had reached the
threshold before and goes on. -/
theorem count_alerted_iff (h : s.Summarizes threshold past) (hpos : 1 ≤ threshold) (v : Health)
    (now : Instant) :
    (s.count v now).alerted = true ↔ v = .critical ∧ threshold ≤ Health.runOf .critical past := by
  unfold count
  by_cases hv : s.health = v
  · rw [if_pos hv, h.alerted_iff]
    constructor
    · intro hle
      refine ⟨?_, hle⟩
      by_contra hne
      have hzero := h.runOf_eq_zero (hv ▸ hne)
      omega
    · exact And.right
  · rw [if_neg hv]
    constructor
    · intro hfalse
      cases hfalse
    · rintro ⟨rfl, hle⟩
      have hzero := h.runOf_eq_zero hv
      omega

/-- The level that the state gives is the one that is due after the history. -/
theorem level?_eq (h : s.Summarizes threshold past) (hpos : 1 ≤ threshold)
    (hlimit : threshold ≤ streakLimit) (v : Health) (now : Instant) :
    s.level? threshold v now = AlertLevel.due? threshold past v := by
  cases v with
  | critical =>
    have hrun := Health.runOf_append_singleton .critical .critical past
    rw [if_pos rfl] at hrun
    have hcond : (decide (threshold ≤ (s.count .critical now).streak) &&
        !(s.count .critical now).alerted) = true ↔
          Health.runOf .critical (past ++ [.critical]) = threshold := by
      rw [Bool.and_eq_true, decide_eq_true_eq, Bool.not_eq_true', ← Bool.not_eq_true,
        h.count_alerted_iff hpos, h.count_streak, hrun]
      simp only [true_and]
      omega
    simp only [level?, AlertLevel.due?, hcond]
  | ok =>
    have hcond : (decide (s.health = .critical) && s.alerted) = true ↔
        past.getLast? = some .critical ∧ threshold ≤ Health.runOf .critical past := by
      rw [Bool.and_eq_true, decide_eq_true_eq, h.health_eq_critical_iff, h.alerted_iff]
    simp only [level?, AlertLevel.due?, hcond]

/-- A reading turns a summary of a history into a summary of the longer history. -/
theorem step (h : s.Summarizes threshold past) (hpos : 1 ≤ threshold)
    (hlimit : threshold ≤ streakLimit) (v : Health) (now : Instant) :
    (s.step threshold v now).1.Summarizes threshold (past ++ [v]) where
  health_eq := by
    rw [step_health, count_health]
    simp
  streak_eq := by
    rw [step_streak, step_health, count_health, h.count_streak]
  alerted_iff := by
    rw [step_alerted_iff, h.level?_eq hpos hlimit, h.count_alerted_iff hpos,
      Health.runOf_append_singleton]
    cases v with
    | critical =>
      simp only [AlertLevel.due?, Health.runOf_append_singleton]
      -- The threshold is reached with this reading or was reached before it.
      by_cases hdue : Health.runOf .critical past + 1 = threshold
      · simp [hdue]
      · simp [hdue]
        omega
    | ok =>
      simp [AlertLevel.due?]
      omega

end Summarizes

end KeyState

/-! ## Calls to a book -/

/-- One call to a book. -/
inductive BookCall where
  /-- a reading of a key -/
  | observe (key : String) (verdict : Health) (message : String) (now : Instant)
  /-- forgets a key -/
  | reset (key : String)
  /-- forgets every key -/
  | resetAll
  deriving DecidableEq, Repr, Inhabited

namespace BookCall

/-- The call makes the book forget the key. -/
def forgets (key : String) : BookCall → Bool
  | observe _ _ _ _ => false
  | reset other => other = key
  | resetAll => true

/-- The verdict and the time of a reading of the key. -/
def reading? (key : String) : BookCall → Option (Health × Instant)
  | observe other verdict _ now => if other = key then some (verdict, now) else none
  | _ => none

/-- The readings of a key since it was last forgotten. -/
def readings (key : String) (calls : List BookCall) : List (Health × Instant) :=
  (calls.rtakeWhile fun call => !call.forgets key).filterMap (reading? key)

/-- The verdicts on a key since it was last forgotten. -/
def verdicts (key : String) (calls : List BookCall) : List Health :=
  (readings key calls).map (·.1)

@[simp] theorem verdicts_nil (key : String) : verdicts key [] = [] := by
  simp [verdicts, readings]

theorem readings_append_singleton (key : String) (calls : List BookCall) (call : BookCall) :
    readings key (calls ++ [call]) =
      if call.forgets key then [] else readings key calls ++ (call.reading? key).toList := by
  unfold readings
  rw [List.rtakeWhile_concat]
  cases hf : call.forgets key with
  | true => simp
  | false =>
    cases hr : call.reading? key with
    | none => simp [hr]
    | some r => simp [hr]

theorem verdicts_observe_self (key : String) (calls : List BookCall) (verdict : Health)
    (message : String) (now : Instant) :
    verdicts key (calls ++ [observe key verdict message now]) =
      verdicts key calls ++ [verdict] := by
  simp [verdicts, readings_append_singleton, forgets, reading?]

theorem verdicts_observe_of_ne {key other : String} (h : other ≠ key) (calls : List BookCall)
    (verdict : Health) (message : String) (now : Instant) :
    verdicts key (calls ++ [observe other verdict message now]) = verdicts key calls := by
  simp [verdicts, readings_append_singleton, forgets, reading?, h]

theorem verdicts_reset (key other : String) (calls : List BookCall) :
    verdicts key (calls ++ [reset other]) = if other = key then [] else verdicts key calls := by
  by_cases h : other = key
  · simp [verdicts, readings_append_singleton, forgets, h]
  · simp [verdicts, readings_append_singleton, forgets, reading?, h]

theorem verdicts_resetAll (key : String) (calls : List BookCall) :
    verdicts key (calls ++ [resetAll]) = [] := by
  simp [verdicts, readings_append_singleton, forgets]

end BookCall

namespace AlertBook

/-- The book after a call, and the event that the call returns. -/
def answer (b : AlertBook) : BookCall → AlertBook × Option AlertEvent
  | .observe key verdict message now => b.observe key verdict message now
  | .reset key => (b.reset key, none)
  | .resetAll => (b.resetAll, none)

/-- The book after calls in their order, and what each of them returns. -/
def answerAll (b : AlertBook) : List BookCall → AlertBook × List (Option AlertEvent)
  | [] => (b, [])
  | call :: calls =>
    let r := b.answer call
    let rest := r.1.answerAll calls
    (rest.1, r.2 :: rest.2)

theorem answerAll_append (b : AlertBook) (earlier later : List BookCall) :
    b.answerAll (earlier ++ later) =
      (((b.answerAll earlier).1.answerAll later).1,
        (b.answerAll earlier).2 ++ ((b.answerAll earlier).1.answerAll later).2) := by
  induction earlier generalizing b with
  | nil => rfl
  | cons call earlier ih => simp [answerAll, ih]

@[simp] theorem length_answerAll (b : AlertBook) (calls : List BookCall) :
    (b.answerAll calls).2.length = calls.length := by
  induction calls generalizing b with
  | nil => rfl
  | cons call calls ih => simp [answerAll, ih]

@[simp] theorem threshold_answer (b : AlertBook) (call : BookCall) :
    (b.answer call).1.threshold = b.threshold := by
  cases call <;> rfl

@[simp] theorem threshold_answerAll (b : AlertBook) (calls : List BookCall) :
    (b.answerAll calls).1.threshold = b.threshold := by
  induction calls generalizing b with
  | nil => rfl
  | cons call calls ih =>
    rw [answerAll, ih, threshold_answer]

/-! ### What a reading meets -/

theorem met_observe_self (b : AlertBook) (key : String) (verdict : Health) (message : String)
    (now later : Instant) :
    (b.observe key verdict message now).1.met key later =
      ((b.met key now).step b.threshold verdict now).1 := by
  rw [met, get?_observe_self]
  rfl

theorem met_observe_of_ne (b : AlertBook) {key other : String} (h : key ≠ other)
    (verdict : Health) (message : String) (now later : Instant) :
    (b.observe key verdict message now).1.met other later = b.met other later := by
  rw [met, get?_observe_of_ne b verdict message now h]
  rfl

theorem met_reset (b : AlertBook) (key other : String) (later : Instant) :
    (b.reset key).met other later =
      if key = other then .fresh other later else b.met other later := by
  unfold met get? reset
  rw [KeyMap.find?_erase]
  split <;> rfl

/-- For every key, the state that a reading meets summarizes the verdicts on the key. -/
def Summarizes (b : AlertBook) (calls : List BookCall) : Prop :=
  ∀ key later, (b.met key later).Summarizes b.threshold (BookCall.verdicts key calls)

/-- The threshold is one that the counter of a run can reach. -/
def HasThreshold (b : AlertBook) : Prop := 1 ≤ b.threshold ∧ b.threshold ≤ KeyState.streakLimit

theorem HasThreshold.answerAll {b : AlertBook} (hb : b.HasThreshold) (calls : List BookCall) :
    (b.answerAll calls).1.HasThreshold := by
  rw [HasThreshold, threshold_answerAll]
  exact hb

/-- **One call** keeps the summaries of all keys, also of those that it is not about. -/
theorem summarizes_answer {b : AlertBook} {calls : List BookCall} (hb : b.HasThreshold)
    (h : b.Summarizes calls) (call : BookCall) :
    (b.answer call).1.Summarizes (calls ++ [call]) := by
  intro key later
  rw [threshold_answer]
  cases call with
  | observe other verdict message now =>
    simp only [answer]
    by_cases hk : other = key
    · subst hk
      rw [met_observe_self, BookCall.verdicts_observe_self]
      exact (h other now).step hb.1 hb.2 verdict now
    · rw [met_observe_of_ne b hk, BookCall.verdicts_observe_of_ne hk]
      exact h key later
  | reset other =>
    simp only [answer]
    rw [met_reset, BookCall.verdicts_reset]
    split
    · exact KeyState.summarizes_fresh hb.1 key later
    · exact h key later
  | resetAll =>
    rw [BookCall.verdicts_resetAll]
    exact KeyState.summarizes_fresh hb.1 key later

/-- **Any run of calls** leaves summaries of all keys. -/
theorem summarizes_answerAll {b : AlertBook} (hb : b.HasThreshold) (hnew : b.Summarizes [])
    (calls : List BookCall) : (b.answerAll calls).1.Summarizes calls := by
  induction calls using List.reverseRecOn with
  | nil => exact hnew
  | append_singleton calls call ih =>
    have hlast : (b.answerAll (calls ++ [call])).1 = ((b.answerAll calls).1.answer call).1 := by
      rw [answerAll_append]
      rfl
    rw [hlast]
    exact summarizes_answer (hb.answerAll calls) ih call

theorem summarizes_new (checks : UInt32) : (new checks).Summarizes [] := by
  intro key later
  rw [BookCall.verdicts_nil]
  exact KeyState.summarizes_fresh (threshold_new checks).1 key later

/-- The event of a reading has the level that is due and is about the reading. -/
theorem observe_event {b : AlertBook} {past : List Health} (hb : b.HasThreshold) {key : String}
    {now : Instant} (h : (b.met key now).Summarizes b.threshold past) (verdict : Health)
    (message : String) :
    (b.observe key verdict message now).2 =
      (AlertLevel.due? b.threshold past verdict).map fun level =>
        { kind := key, message, level, time := now } := by
  have hlevel := h.level?_eq hb.1 hb.2 verdict now
  rw [← hlevel, ← KeyState.step_level]
  rfl

/-- **Debounce.**  In any sequence of calls to a new book, a reading of a key returns an
event in two cases only: a bad reading with which the run of bad readings of the key is
exactly as long as the threshold, and a good one that ends a run of at least that length.
The event is critical in the first case and a warning in the second, and it is about the
reading.  What was read of other keys, what was read before the key was last forgotten,
and all times do not matter. -/
theorem answerAll_event_iff (checks : UInt32) (earlier later : List BookCall) (key : String)
    (verdict : Health) (message : String) (now : Instant) (event : AlertEvent) :
    ((new checks).answerAll
        (earlier ++ .observe key verdict message now :: later)).2[earlier.length]? =
          some (some event) ↔
      (verdict = .critical ∧
          Health.runOf .critical (BookCall.verdicts key earlier ++ [verdict]) =
            max checks.toNat 1 ∧
          event = ⟨key, message, .critical, now⟩) ∨
        (verdict = .ok ∧
          (BookCall.verdicts key earlier).getLast? = some .critical ∧
          max checks.toNat 1 ≤ Health.runOf .critical (BookCall.verdicts key earlier) ∧
          event = ⟨key, message, .warning, now⟩) := by
  have hb : (new checks).HasThreshold := threshold_new checks
  have hsum := summarizes_answerAll hb (summarizes_new checks) earlier key now
  have hb' := hb.answerAll earlier
  -- The answer to the call in question is the event that is due after the earlier calls.
  have hanswer : ((new checks).answerAll
      (earlier ++ .observe key verdict message now :: later)).2[earlier.length]? =
        some (((new checks).answerAll earlier).1.observe key verdict message now).2 := by
    rw [answerAll_append]
    simp [answerAll, answer]
  rw [hanswer, observe_event hb' hsum, threshold_answerAll, Option.some.injEq,
    Option.map_eq_some_iff]
  show (∃ level, AlertLevel.due? (max checks.toNat 1) _ _ = some level ∧ _) ↔ _
  cases verdict with
  | critical =>
    simp only [AlertLevel.due?]
    split
    · rename_i hrun
      simp [hrun, eq_comm]
    · rename_i hrun
      simp [hrun]
  | ok =>
    simp only [AlertLevel.due?]
    split
    · rename_i hrun
      simp [hrun, eq_comm]
    · rename_i hrun
      constructor
      · rintro ⟨level, hnone, _⟩
        cases hnone
      · rintro (⟨hbad, _⟩ | ⟨_, hlast, hle, _⟩)
        · cases hbad
        · exact absurd ⟨hlast, hle⟩ hrun

end AlertBook

end HostWatch
