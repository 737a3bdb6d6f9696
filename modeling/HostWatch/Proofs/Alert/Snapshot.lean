import HostWatch.Proofs.Alert.Debounce
set_option autoImplicit false

/-!
# Alerts: what the book keeps

The book keeps one state for each key that was read since it was last forgotten, and the
state can be told from these readings and from what they were answered.  How far they decide
the verdict, the counter and the mark of an episode is said by `KeyState.Summarizes`; here it
is said for the times (`KeyState.Dates`).  A state that is not there yet counts as one that
begins with the next reading, and so both facts hold for every key at any time.

The main statement, `AlertBook.snapshot_answerAll`, lists every field of every state after any
sequence of calls to a new book.
-/

namespace HostWatch

open HostWatch.Time (Instant)

namespace Health

theorem runOf_pos_of_getLast?_eq {v : Health} {past : List Health}
    (h : past.getLast? = some v) : 0 < runOf v past := by
  obtain ⟨before, rfl⟩ := List.getLast?_eq_some_iff.1 h
  rw [runOf_append_singleton, if_pos rfl]
  exact Nat.succ_pos _

end Health

namespace BookCall

/-- The times of the readings of a key that were answered with an event, since the key was
last forgotten. -/
def alertTimes (key : String) (answered : List (BookCall × Option AlertEvent)) : List Instant :=
  (answered.rtakeWhile fun a => !a.1.forgets key).filterMap fun a =>
    if a.2.isSome then (a.1.reading? key).map (·.2) else none

theorem alertTimes_append_singleton (key : String)
    (answered : List (BookCall × Option AlertEvent)) (a : BookCall × Option AlertEvent) :
    alertTimes key (answered ++ [a]) =
      if a.1.forgets key then []
      else alertTimes key answered ++
        (if a.2.isSome then (a.1.reading? key).map (·.2) else none).toList := by
  unfold alertTimes
  rw [List.rtakeWhile_concat]
  cases hforgets : a.1.forgets key with
  | true => simp
  | false =>
    cases htime : (if a.2.isSome then (a.1.reading? key).map (·.2) else none) with
    | none => simp [htime]
    | some now => simp [htime]

end BookCall

/-! ## The times of a state -/

namespace KeyState

/-- The state has the name of its key, the time at which the run of its verdict began, and
the time of the last event.  Where there is no run, it begins at `now`. -/
structure Dates (key : String) (readings : List (Health × Instant)) (alerts : List Instant)
    (now : Instant) (s : KeyState) : Prop where
  key_eq : s.key = key
  since_eq : s.since =
    ((readings.rtakeWhile fun r => decide (r.1 = s.health)).head?.map (·.2)).getD now
  lastAlert_eq : s.lastAlert = alerts.getLast?

theorem dates_fresh (key : String) (now : Instant) : (fresh key now).Dates key [] [] now where
  key_eq := rfl
  since_eq := by simp [fresh]
  lastAlert_eq := rfl

@[simp] theorem step_key (threshold : Nat) (s : KeyState) (v : Health) (now : Instant) :
    (s.step threshold v now).1.key = s.key := by
  have hcount : (s.count v now).key = s.key := by
    unfold count
    split <;> rfl
  unfold step
  split <;> exact hcount

@[simp] theorem step_since (threshold : Nat) (s : KeyState) (v : Health) (now : Instant) :
    (s.step threshold v now).1.since = (s.count v now).since := by
  unfold step
  split <;> rfl

/-- Every event is dated, and nothing else is. -/
theorem step_lastAlert (threshold : Nat) (s : KeyState) (v : Health) (now : Instant) :
    (s.step threshold v now).1.lastAlert =
      if (s.step threshold v now).2.isSome then some now else s.lastAlert := by
  have hcount : (s.count v now).lastAlert = s.lastAlert := by
    unfold count
    split <;> rfl
  unfold step
  split
  · rfl
  · rfl
  · exact hcount

/-- **A reading** is one more of the run, or begins a new one. -/
theorem Dates.step {threshold : Nat} {key : String} {readings : List (Health × Instant)}
    {alerts : List Instant} {now : Instant} {s : KeyState} (h : s.Dates key readings alerts now)
    (hsum : s.Summarizes threshold (readings.map (·.1))) (v : Health) (later : Instant) :
    (s.step threshold v now).1.Dates key (readings ++ [(v, now)])
      (alerts ++ if (s.step threshold v now).2.isSome then [now] else []) later where
  key_eq := by rw [step_key, h.key_eq]
  since_eq := by
    rw [step_since, step_health, Summarizes.count_health, List.rtakeWhile_concat,
      if_pos (by simp)]
    by_cases hv : s.health = v
    · have hsince := h.since_eq
      rw [hv] at hsince
      rw [count, if_pos hv]
      show s.since = _
      rw [hsince]
      cases readings.rtakeWhile fun r => decide (r.1 = v) <;> rfl
    · -- The verdict is another one than before, so that no run of it was under way.
      have hnone : (readings.rtakeWhile fun r => decide (r.1 = v)) = [] := by
        have hzero := hsum.runOf_eq_zero hv
        rw [Health.runOf_map] at hzero
        exact List.eq_nil_of_length_eq_zero hzero
      rw [count, if_neg hv, hnone]
      rfl
  lastAlert_eq := by
    rw [step_lastAlert, h.lastAlert_eq]
    cases (s.step threshold v now).2.isSome <;> simp

/-- **The fields of a state** of a key that was read, told from its readings. -/
theorem fields_eq {threshold : Nat} (hpos : 1 ≤ threshold) {key : String}
    {readings : List (Health × Instant)} (hread : readings ≠ []) {alerts : List Instant}
    {now : Instant} {s : KeyState} (hsum : s.Summarizes threshold (readings.map (·.1)))
    (hdates : s.Dates key readings alerts now) :
    let streak := readings.rtakeWhile fun r => decide (r.1 = s.health)
    readings.getLast?.map (·.1) = some s.health ∧
      s.streak = min streak.length streakLimit ∧ 0 < s.streak ∧
      streak.head?.map (·.2) = some s.since ∧
      (s.alerted = true ↔ s.health = .critical ∧ threshold ≤ streak.length) := by
  intro streak
  -- The last verdict is that of the state, so that its run is not empty.
  have hlast : (readings.map (·.1)).getLast? = some s.health := by
    obtain ⟨before, r, hsplit⟩ := readings.eq_nil_or_concat'.resolve_left hread
    rw [hsum.health_eq, hsplit]
    simp
  have hrun : Health.runOf s.health (readings.map (·.1)) = streak.length :=
    Health.runOf_map (·.1) s.health readings
  have hlength : 0 < streak.length := by
    rw [← hrun]
    exact Health.runOf_pos_of_getLast?_eq hlast
  have hstreak : s.streak = min streak.length streakLimit := by
    rw [hsum.streak_eq, hrun]
  refine ⟨?_, hstreak, ?_, ?_, ?_⟩
  · rw [← List.getLast?_map]
    exact hlast
  · rw [hstreak, streakLimit, UInt32.size]
    omega
  · obtain ⟨first, rest, hfirst⟩ := List.exists_cons_of_length_pos hlength
    have hsince : s.since = (streak.head?.map (·.2)).getD now := hdates.since_eq
    rw [hsince, hfirst]
    rfl
  · rw [hsum.alerted_iff]
    cases hhealth : s.health with
    | critical =>
      rw [hhealth] at hrun
      rw [hrun]
      simp
    | ok =>
      have hzero : Health.runOf .critical (readings.map (·.1)) = 0 :=
        hsum.runOf_eq_zero (by rw [hhealth]; decide)
      rw [hzero]
      constructor
      · omega
      · rintro ⟨hbad, _⟩
        cases hbad

end KeyState

/-! ## The states of a book -/

namespace AlertBook

theorem get?_answer (b : AlertBook) (call : BookCall) (key : String) :
    (b.answer call).1.get? key =
      if call.forgets key then none
      else
        match call.reading? key with
        | some (v, now) => some ((b.met key now).step b.threshold v now).1
        | none => b.get? key := by
  cases call with
  | observe other verdict message now =>
    by_cases hkey : other = key
    · subst hkey
      simpa [answer, BookCall.forgets, BookCall.reading?] using
        get?_observe_self b other verdict message now
    · simpa [answer, BookCall.forgets, BookCall.reading?, hkey] using
        get?_observe_of_ne b verdict message now hkey
  | reset other =>
    show (b.states.erase other).find? key = _
    rw [KeyMap.find?_erase]
    by_cases hkey : other = key
    · simp [BookCall.forgets, hkey]
    · simp [BookCall.forgets, BookCall.reading?, hkey, get?]
  | resetAll => rfl

theorem isSome_answer {b : AlertBook} {call : BookCall} {key : String} {v : Health}
    {now : Instant} (h : call.reading? key = some (v, now)) :
    (b.answer call).2.isSome = ((b.met key now).step b.threshold v now).2.isSome := by
  cases call with
  | observe other verdict message time =>
    rw [BookCall.reading?] at h
    split at h
    · rename_i hkey
      obtain ⟨rfl, rfl⟩ := Prod.mk.inj (Option.some.inj h)
      rw [answer, observe, hkey, Option.isSome_map]
    · cases h
  | reset other => cases h
  | resetAll => cases h

theorem map_fst_zip_answers (b : AlertBook) (calls : List BookCall) :
    (calls.zip (b.answerAll calls).2).map (·.1) = calls :=
  List.map_fst_zip (by rw [length_answerAll])

/-- The states are those of the keys that were read, and they are dated. -/
structure Recounts (b : AlertBook) (answered : List (BookCall × Option AlertEvent)) : Prop where
  get?_isSome_iff : ∀ key,
    (b.get? key).isSome = true ↔ BookCall.readings key (answered.map (·.1)) ≠ []
  dates : ∀ key now, (b.met key now).Dates key (BookCall.readings key (answered.map (·.1)))
    (BookCall.alertTimes key answered) now

theorem recounts_new (checks : UInt32) : (new checks).Recounts [] where
  get?_isSome_iff := by
    intro key
    simp [get?, new, BookCall.readings]
  dates := by
    intro key now
    exact KeyState.dates_fresh key now

/-- **One call** keeps the states of all keys recounted. -/
theorem recounts_answer {b : AlertBook} {answered : List (BookCall × Option AlertEvent)}
    (h : b.Recounts answered) (hsum : b.Summarizes (answered.map (·.1))) (call : BookCall) :
    (b.answer call).1.Recounts (answered ++ [(call, (b.answer call).2)]) where
  get?_isSome_iff := by
    intro key
    rw [get?_answer, List.map_append, List.map_singleton, BookCall.readings_append_singleton]
    split
    · simp
    · cases hreading : call.reading? key with
      | none => simpa using h.get?_isSome_iff key
      | some r => simp
  dates := by
    intro key later
    rw [met, get?_answer, List.map_append, List.map_singleton,
      BookCall.readings_append_singleton, BookCall.alertTimes_append_singleton]
    split
    · exact KeyState.dates_fresh key later
    · cases hreading : call.reading? key with
      | none => simpa [met] using h.dates key later
      | some r =>
        obtain ⟨v, now⟩ := r
        have hstep := (h.dates key now).step (hsum key now) v later
        rw [← isSome_answer hreading] at hstep
        cases hevent : (b.answer call).2.isSome with
        | true => simpa [hevent] using hstep
        | false => simpa [hevent] using hstep

/-- **Any run of calls** leaves the states of all keys recounted. -/
theorem recounts_answerAll (checks : UInt32) (calls : List BookCall) :
    let run := (new checks).answerAll calls
    run.1.Recounts (calls.zip run.2) := by
  induction calls using List.reverseRecOn with
  | nil => exact recounts_new checks
  | append_singleton calls call ih =>
    have hsum : ((new checks).answerAll calls).1.Summarizes
        ((calls.zip ((new checks).answerAll calls).2).map (·.1)) := by
      rw [map_fst_zip_answers]
      exact summarizes_answerAll (threshold_new checks) (summarizes_new checks) calls
    have hnext := recounts_answer ih hsum call
    simp only [answerAll_append, answerAll]
    rw [List.zip_append (by rw [length_answerAll])]
    exact hnext

/-- The states of a book in which every state has the name of its key: they are listed in the
order of their keys. -/
theorem snapshot_of_named {b : AlertBook} (h : ∀ key s, b.get? key = some s → s.key = key) :
    b.snapshot.map (·.key) = b.states.keys ∧ ∀ s, s ∈ b.snapshot ↔ b.get? s.key = some s := by
  refine ⟨?_, ?_⟩
  · rw [snapshot, KeyMap.values, KeyMap.keys, List.map_map]
    refine List.map_congr_left fun e he => ?_
    exact h e.1 e.2 (KeyMap.mem_entries_iff.1 he)
  · intro s
    constructor
    · intro hs
      obtain ⟨⟨key, s'⟩, he, rfl⟩ := List.mem_map.1 hs
      have hget : b.get? key = some s' := KeyMap.mem_entries_iff.1 he
      rw [h key s' hget]
      exact hget
    · intro hget
      exact List.mem_map.2 ⟨(s.key, s), KeyMap.mem_entries_iff.2 hget, rfl⟩

/-- **What the book keeps.**  After any sequence of calls to a new book, the snapshot lists the
states of exactly the keys that were read since they were last forgotten, each under its own
key and in the strict order of the keys.  The state of a key has the verdict on its last
reading; the length of the run of readings with this verdict, as far as 32 bits count, which
is never zero; the time of the first reading of this run; the time of the last reading that
was answered with an event, if any was; and the mark of an alerted episode exactly if the run
is bad and at least as long as the threshold. -/
theorem snapshot_answerAll (checks : UInt32) (calls : List BookCall) :
    let run := (new checks).answerAll calls
    let snapshot := run.1.snapshot
    (snapshot.map (·.key)).Pairwise (· < ·) ∧
      (∀ key, key ∈ snapshot.map (·.key) ↔ BookCall.readings key calls ≠ []) ∧
      run.1.size = snapshot.length ∧
      (∀ s, s ∈ snapshot ↔ run.1.get? s.key = some s) ∧
      ∀ key s, run.1.get? key = some s →
        let readings := BookCall.readings key calls
        let streak := readings.rtakeWhile fun r => decide (r.1 = s.health)
        s.key = key ∧
          readings.getLast?.map (·.1) = some s.health ∧
          s.streak = min streak.length 4294967295 ∧ 0 < s.streak ∧
          streak.head?.map (·.2) = some s.since ∧
          s.lastAlert = (BookCall.alertTimes key (calls.zip run.2)).getLast? ∧
          (s.alerted = true ↔ s.health = .critical ∧ max checks.toNat 1 ≤ streak.length) := by
  intro run snapshot
  have hrecounts : run.1.Recounts (calls.zip run.2) := recounts_answerAll checks calls
  have hcalls : (calls.zip run.2).map (·.1) = calls := map_fst_zip_answers _ calls
  have hthreshold : run.1.threshold = max checks.toNat 1 := threshold_answerAll _ calls
  have hsum := summarizes_answerAll (threshold_new checks) (summarizes_new checks) calls
  have hmet : ∀ key s, run.1.get? key = some s → ∀ now, run.1.met key now = s := by
    intro key s hs now
    rw [met, hs, Option.getD_some]
  have hnamed : ∀ key s, run.1.get? key = some s → s.key = key := by
    intro key s hs
    have hdates := hrecounts.dates key s.since
    rw [hmet key s hs] at hdates
    exact hdates.key_eq
  obtain ⟨hkeys, hmem⟩ := snapshot_of_named hnamed
  refine ⟨?_, ?_, ?_, hmem, ?_⟩
  · rw [hkeys]
    exact run.1.states.keys_sorted
  · intro key
    have hread := hrecounts.get?_isSome_iff key
    rw [hcalls] at hread
    rw [hkeys, KeyMap.mem_keys_iff]
    exact hread
  · exact (List.length_map _).symm
  · intro key s hs readings streak
    have hdates := hrecounts.dates key s.since
    have hstate : s.Summarizes (max checks.toNat 1) (readings.map (·.1)) := by
      rw [← hmet key s hs s.since, ← hthreshold]
      exact hsum key s.since
    rw [hmet key s hs, hcalls] at hdates
    have hread : readings ≠ [] := by
      have hsome := (hrecounts.get?_isSome_iff key).1 (by rw [hs]; rfl)
      rwa [hcalls] at hsome
    obtain ⟨hlast, hstreak, hpos, hsince, halerted⟩ :=
      KeyState.fields_eq (Nat.le_max_right _ _) hread hstate hdates
    exact ⟨hdates.key_eq, hlast, hstreak, hpos, hsince, hdates.lastAlert_eq, halerted⟩

/-- A book with a threshold of two: the processor was bad twice and is good again, and the
memory was forgotten.  One state is left, with the times of the recovery. -/
theorem snapshot_answerAll_recovered :
    let calls : List BookCall :=
      [.observe "cpu" .critical "high" ⟨10, 0⟩, .observe "memory" .ok "low" ⟨20, 0⟩,
        .observe "cpu" .critical "high" ⟨30, 0⟩, .reset "memory",
        .observe "cpu" .ok "low" ⟨40, 0⟩, .observe "cpu" .ok "low" ⟨50, 0⟩]
    let run := (new 2).answerAll calls
    let s : KeyState := ⟨"cpu", .ok, 2, some ⟨40, 0⟩, ⟨40, 0⟩, false⟩
    let streak := (BookCall.readings "cpu" calls).rtakeWhile fun r => decide (r.1 = s.health)
    run.1.snapshot = [s] ∧ run.1.get? "cpu" = some s ∧ s.streak = min streak.length 4294967295 ∧
      streak.head?.map (·.2) = some s.since ∧
      s.lastAlert = (BookCall.alertTimes "cpu" (calls.zip run.2)).getLast? := by
  intro calls run s streak
  have hsnapshot : run.1.snapshot = [s] := by decide +kernel
  have hget : run.1.get? "cpu" = some s := by decide +kernel
  obtain ⟨_, _, _, _, hfields⟩ := snapshot_answerAll 2 calls
  obtain ⟨_, _, hstreak, _, hsince, hlastAlert, _⟩ := hfields "cpu" s hget
  exact ⟨hsnapshot, hget, hstreak, hsince, hlastAlert⟩

end AlertBook

end HostWatch
