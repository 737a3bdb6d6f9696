import HostWatch.Proofs.Monitor.Channels
import HostWatch.Proofs.Monitor.Subject
set_option autoImplicit false

/-!
# Monitor: which events a cycle queues

A cycle queues about a key the events that are due with its readings of the key, after
what earlier cycles read of it (`Monitor.ofKind_pushed`); nothing else that happened
matters.  For a key that every cycle reads at most once there is at most one such event,
and whether there is one is a matter of the verdicts on the earlier readings and on this
one (`Monitor.queues_iff`).  The book counts readings and not cycles, so the second
statement needs that "at most once".
-/

namespace HostWatch

open HostWatch.Time (Instant)

theorem filter_eq_toList_find? {α : Type} {p : α → Bool} {xs : List α}
    (h : (xs.filter p).length ≤ 1) : xs.filter p = (xs.find? p).toList := by
  rw [← List.head?_filter]
  match hpassed : xs.filter p with
  | [] => rfl
  | [x] => rfl
  | x :: y :: rest =>
    rw [hpassed, List.length_cons, List.length_cons] at h
    omega

theorem length_filter_eq_count_map {α β : Type} [DecidableEq β] (feature : α → β) (b : β)
    (xs : List α) : (xs.filter fun x => feature x = b).length = (xs.map feature).count b := by
  rw [← List.countP_eq_length_filter, List.count_eq_countP, List.countP_map]
  rfl

namespace Health

theorem ofFailure_eq_critical_iff {failed : Bool} :
    ofFailure failed = .critical ↔ failed = true := by
  cases failed <;> simp [ofFailure]

theorem ofFailure_eq_ok_iff {failed : Bool} : ofFailure failed = .ok ↔ failed = false := by
  cases failed <;> simp [ofFailure]

theorem exists_append_replicate {v : Health} {past : List Health} {n : Nat}
    (h : n ≤ runOf v past) : ∃ before, past = before ++ List.replicate n v := by
  induction past using List.reverseRecOn generalizing n with
  | nil =>
    rw [runOf_nil, Nat.le_zero] at h
    exact ⟨[], by rw [h]; rfl⟩
  | append_singleton past w ih =>
    cases n with
    | zero => exact ⟨past ++ [w], (List.append_nil _).symm⟩
    | succ n =>
      rw [runOf_append_singleton] at h
      split at h
      · rename_i hw
        obtain ⟨before, rfl⟩ := ih (Nat.le_of_succ_le_succ h)
        exact ⟨before, by rw [hw, List.replicate_succ', List.append_assoc]⟩
      · omega

end Health

namespace AlertLevel

variable {threshold : Nat} {past : List Health} {v : Health}

theorem due?_eq_critical_iff :
    due? threshold past v = some .critical ↔
      v = .critical ∧ Health.runOf .critical (past ++ [.critical]) = threshold := by
  cases v <;> simp [due?]

theorem due?_eq_warning_iff :
    due? threshold past v = some .warning ↔
      v = .ok ∧ past.getLast? = some .critical ∧ threshold ≤ Health.runOf .critical past := by
  cases v <;> simp [due?]

end AlertLevel

namespace Finding

/-- The verdicts on a key, among readings of any keys. -/
def verdictsOf (key : String) (fs : List Finding) : List Health := (ofKey key fs).map (·.health)

/-- The events that are due with the readings of one key after a history of verdicts. -/
def dueAfter (threshold : Nat) (past : List Health) : List Finding → List AlertEvent
  | [] => []
  | f :: fs =>
    ((AlertLevel.due? threshold past f.health).map f.event).toList ++
      dueAfter threshold (past ++ [f.health]) fs

theorem verdictsOf_append (key : String) (fs gs : List Finding) :
    verdictsOf key (fs ++ gs) = verdictsOf key fs ++ verdictsOf key gs := by
  rw [verdictsOf, ofKey, List.filter_append, List.map_append]
  rfl

theorem length_dueAfter (threshold : Nat) (past : List Health) (fs : List Finding) :
    (dueAfter threshold past fs).length ≤ fs.length := by
  induction fs generalizing past with
  | nil => exact Nat.le_refl _
  | cons f fs ih =>
    have hfirst := Option.length_toList_le
      (o := (AlertLevel.due? threshold past f.health).map f.event)
    have hrest := ih (past ++ [f.health])
    rw [dueAfter, List.length_append, List.length_cons]
    omega

/-- **A batch reads a key at most once**, if at most one of the things in it has the key. -/
theorem ofKey_filterMap_of_once {α : Type} {key : String} {read : α → Option Finding}
    {p : α → Bool} {xs : List α}
    (hkey : ∀ x ∈ xs, ∀ f, read x = some f → (f.key = key ↔ p x = true))
    (honce : (xs.filter p).length ≤ 1) :
    ofKey key (xs.filterMap read) = ((xs.find? p).bind read).toList := by
  have hread : ofKey key (xs.filterMap read) = (xs.filter p).filterMap read := by
    rw [ofKey, List.filter_filterMap, List.filterMap_filter]
    refine List.filterMap_congr fun x hx => ?_
    cases hx' : read x with
    | none => simp
    | some f =>
      have hsame := hkey x hx f hx'
      by_cases hp : p x = true
      · simp [hp, hsame.2 hp]
      · simp [hp, mt hsame.1 hp]
  rw [hread, filter_eq_toList_find? honce]
  cases xs.find? p with
  | none => rfl
  | some x =>
    cases hx : read x with
    | none => simp [hx]
    | some f => simp [hx]

/-- The verdicts on a key that each of several batches reads at most once. -/
theorem verdictsOf_flatMap {α : Type} {key : String} {batch : α → List Finding}
    {reading : α → Option Finding} {xs : List α}
    (h : ∀ x ∈ xs, ofKey key (batch x) = (reading x).toList) :
    verdictsOf key (xs.flatMap batch) = (xs.filterMap reading).map (·.health) := by
  induction xs with
  | nil => rfl
  | cons x xs ih =>
    obtain ⟨hfirst, hrest⟩ := List.forall_mem_cons.1 h
    rw [List.flatMap_cons, verdictsOf_append, ih hrest, verdictsOf, hfirst]
    cases hx : reading x with
    | none => rw [List.filterMap_cons_none hx]; rfl
    | some f => rw [List.filterMap_cons_some hx]; rfl

end Finding

theorem Cycle.ofKey_findings_of_domain_ne {x : Subject} {k : Cycle} (h : k.domain ≠ x.domain)
    (checks : ResourceChecks) : Finding.ofKey x.key (k.findings checks) = [] := by
  rw [Finding.ofKey, List.filter_eq_nil_iff]
  intro f hf hkey
  have hdomain := Cycle.ofKey?_of_mem_findings hf
  rw [of_decide_eq_true hkey, Domain.ofKey?_key] at hdomain
  exact h (Option.some.inj hdomain).symm

namespace AlertBook

@[simp] theorem threshold_observeAll (b : AlertBook) (fs : List Finding) :
    (b.observeAll fs).1.threshold = b.threshold := by
  induction fs generalizing b with
  | nil => rfl
  | cons f fs ih =>
    rw [observeAll, ih]
    rfl

theorem get?_observeAll_of_ofKey_eq_nil {key : String} {fs : List Finding}
    (b : AlertBook) (h : Finding.ofKey key fs = []) :
    (b.observeAll fs).1.get? key = b.get? key := by
  induction fs generalizing b with
  | nil => rfl
  | cons f fs ih =>
    by_cases hkey : f.key = key
    · rw [← hkey, Finding.ofKey_cons_self] at h
      cases h
    · rw [Finding.ofKey_cons_of_ne hkey] at h
      rw [observeAll, ih _ h]
      exact b.get?_observe_of_ne f.health f.message f.time hkey

/-- **Readings of any keys.**  The book remembers the verdicts on the key among them, and
the events about the key are those that are due with them. -/
theorem Remembers.observeAll {key : String} (fs : List Finding) :
    ∀ {b : AlertBook} {past : List Health}, b.Remembers key past →
      (b.observeAll fs).1.Remembers key (past ++ Finding.verdictsOf key fs) ∧
        AlertEvent.ofKind key (b.observeAll fs).2 =
          Finding.dueAfter b.threshold past (Finding.ofKey key fs) := by
  induction fs with
  | nil =>
    intro b past h
    rw [show Finding.verdictsOf key [] = [] from rfl, List.append_nil]
    exact ⟨h, rfl⟩
  | cons f fs ih =>
    intro b past h
    rw [ofKind_observeAll_cons, Finding.verdictsOf]
    by_cases hkey : f.key = key
    · subst hkey
      obtain ⟨hlater, hdue⟩ := ih h.self
      rw [List.append_assoc] at hlater
      rw [Finding.ofKey_cons_self, ofKind_observeFinding_self h.1 (h.2 f.time), hdue]
      exact ⟨hlater, rfl⟩
    · obtain ⟨hlater, hdue⟩ := ih (h.other hkey)
      rw [Finding.ofKey_cons_of_ne hkey, ofKind_observeFinding_of_ne b hkey, hdue]
      exact ⟨hlater, rfl⟩

/-- Events come from readings, in their order, at most one from each. -/
theorem map_kind_observeAll_sublist (b : AlertBook) (fs : List Finding) :
    ((b.observeAll fs).2.map (·.kind)).Sublist (fs.map (·.key)) := by
  induction fs generalizing b with
  | nil => exact List.Sublist.refl _
  | cons f fs ih =>
    have hfirst : ((b.observeFinding f).2.toList.map (·.kind)).Sublist [f.key] := by
      show ((((b.met f.key f.time).step b.threshold f.health f.time).2.map
        f.event).toList.map (·.kind)).Sublist [f.key]
      cases ((b.met f.key f.time).step b.threshold f.health f.time).2 with
      | none => exact List.nil_sublist _
      | some level => exact List.Sublist.refl _
    rw [observeAll, List.map_append]
    exact hfirst.append (ih _)

end AlertBook

namespace Monitor

/-- The cycle queues an event of this kind and level. -/
def Queues (m : Monitor) (k : Cycle) (kind : String) (level : AlertLevel) : Prop :=
  ∃ e ∈ (m.act (.cycle k)).2.pushed, e.kind = kind ∧ e.level = level

instance (m : Monitor) (k : Cycle) (kind : String) (level : AlertLevel) :
    Decidable (m.Queues k kind level) := by
  unfold Queues
  infer_instance

/-- What the cycle pushes is what it adds to the events that are pending, unless it is a
dispatch. -/
theorem pending_act (m : Monitor) {k : Cycle} (hk : k.domain ≠ .dispatch) :
    (m.act (.cycle k)).1.pending.toList =
      m.pending.toList ++ (m.act (.cycle k)).2.pushed := by
  have hdrained : (m.act (.cycle k)).2.drained = [] := by
    cases k with
    | dispatch now replies => exact absurd rfl hk
    | resources outcome => rfl
    | endpoints outcomes => rfl
    | containers outcome => rfl
    | noRuntime => rfl
    | broken d => rfl
  have hqueue := (moves_act m (.cycle k)).queue_eq
  rw [hdrained, List.nil_append] at hqueue
  exact hqueue

variable (config : MonitorConfig) (channels : List String) (startedAt : Instant)

theorem remembers_play (cycles : List Cycle) (key : String) :
    ((new config channels startedAt).play (cycles.map .cycle)).1.book.Remembers key
      (Finding.verdictsOf key (cycles.flatMap (Cycle.findings config.resources))) := by
  have hplay := moves_play (new config channels startedAt) (cycles.map .cycle)
  rw [hplay.book_eq, List.flatMap_map]
  exact (AlertBook.Remembers.observeAll _
    (AlertBook.remembers_new AlertBook.defaultThreshold key)).1

/-- **What a cycle queues about a key** are the events that are due with what it reads of
the key, after what earlier cycles read of it. -/
theorem ofKind_pushed (earlier : List Cycle) (k : Cycle) (key : String) :
    let m := ((new config channels startedAt).play (earlier.map .cycle)).1
    AlertEvent.ofKind key (m.act (.cycle k)).2.pushed =
      Finding.dueAfter AlertBook.defaultThreshold.toNat
        (Finding.verdictsOf key (earlier.flatMap (Cycle.findings config.resources)))
        (Finding.ofKey key (k.findings config.resources)) := by
  intro m
  have hplay := moves_play (new config channels startedAt) (earlier.map .cycle)
  have hconfig : m.config = config := hplay.config_eq
  have hthreshold : m.book.threshold = AlertBook.defaultThreshold.toNat := by
    show ((new config channels startedAt).play _).1.book.threshold = _
    rw [hplay.book_eq, AlertBook.threshold_observeAll]
    rfl
  have hremembers := remembers_play config channels startedAt earlier key
  rw [pushed_act_cycle, hconfig, (hremembers.observeAll _).2, hthreshold]

/-- **A key that every cycle reads at most once.**  The cycle queues an event about it
when it reads the key and the event is due after the verdicts on the earlier readings. -/
theorem queues_iff {key : String} {reading : Cycle → Option Finding} {earlier : List Cycle}
    {k : Cycle}
    (hreading : ∀ k' ∈ k :: earlier,
      Finding.ofKey key (k'.findings config.resources) = (reading k').toList)
    (level : AlertLevel) :
    let m := ((new config channels startedAt).play (earlier.map .cycle)).1
    m.Queues k key level ↔
      ∃ f, reading k = some f ∧
        AlertLevel.due? AlertBook.defaultThreshold.toNat
          ((earlier.filterMap reading).map (·.health)) f.health = some level := by
  intro m
  obtain ⟨hlast, hearlier⟩ := List.forall_mem_cons.1 hreading
  have hpushed := ofKind_pushed config channels startedAt earlier k key
  rw [hlast, Finding.verdictsOf_flatMap hearlier] at hpushed
  have hqueues : m.Queues k key level ↔
      ∃ e ∈ AlertEvent.ofKind key (m.act (.cycle k)).2.pushed, e.level = level := by
    simp only [Queues, AlertEvent.ofKind, List.mem_filter, decide_eq_true_eq, and_assoc]
  rw [hqueues, hpushed]
  cases reading k with
  | none => simp [Finding.dueAfter]
  | some f => simp [Finding.dueAfter, Finding.event]

end Monitor

end HostWatch
