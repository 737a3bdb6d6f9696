import Mathlib.Data.List.Forall2
import HostWatch.Alert.Finding
import HostWatch.Proofs.Alert.Debounce
set_option autoImplicit false

/-!
# Alerts: unhealthy episodes

The readings of one key fall into episodes: the runs of bad readings, each with the good
reading that ended it.  An episode that has reached the threshold gives a critical event
about the reading with which it did, and a warning about its end; a shorter one gives
nothing (`Episode.notices`).

What the book says about a key is the notices of the episodes of that key and nothing
else, whatever else it reads in between (`AlertBook.ofKind_observeAll`).  From this it
follows that the events of a key take turns, critical first.
-/

namespace HostWatch

/-- The event of a given level about a reading. -/
def Finding.event (f : Finding) (level : AlertLevel) : AlertEvent :=
  ⟨f.key, f.message, level, f.time⟩

/-- The readings of a key, among others. -/
def Finding.ofKey (key : String) (fs : List Finding) : List Finding :=
  fs.filter fun f => f.key = key

/-- The events of a kind, among others. -/
def AlertEvent.ofKind (kind : String) (events : List AlertEvent) : List AlertEvent :=
  events.filter fun e => e.kind = kind

namespace Finding

theorem ofKey_cons_self (f : Finding) (fs : List Finding) :
    ofKey f.key (f :: fs) = f :: ofKey f.key fs :=
  List.filter_cons_of_pos (by simp)

theorem ofKey_cons_of_ne {key : String} {f : Finding} (h : f.key ≠ key) (fs : List Finding) :
    ofKey key (f :: fs) = ofKey key fs :=
  List.filter_cons_of_neg (by simpa using h)

end Finding

/-- A run of bad readings of one key. -/
structure Episode where
  /-- the bad readings, in their order -/
  bad : List Finding
  /-- the good reading that ended it, unless it goes on -/
  recovery : Option Finding
  deriving DecidableEq, Repr, Inhabited

namespace Episode

/-- The episodes of the readings of one key; `bad` are the bad readings of the episode that
is under way before them. -/
def splitFrom (bad : List Finding) : List Finding → List Episode
  | [] => if bad.isEmpty then [] else [⟨bad, none⟩]
  | f :: fs =>
    match f.health with
    | .critical => splitFrom (bad ++ [f]) fs
    | .ok => if bad.isEmpty then splitFrom [] fs else ⟨bad, some f⟩ :: splitFrom [] fs

/-- The episodes of the readings of one key. -/
def split (fs : List Finding) : List Episode := splitFrom [] fs

/-- The events of an episode. -/
def notices (threshold : Nat) (e : Episode) : List AlertEvent :=
  match e.bad[threshold - 1]? with
  | none => []
  | some f => f.event .critical :: (e.recovery.map (·.event .warning)).toList

/-! ## The notices of one episode -/

variable {threshold : Nat}

theorem notices_of_short {bad : List Finding} (h : bad.length < threshold)
    (recovery : Option Finding) : notices threshold ⟨bad, recovery⟩ = [] := by
  have hnone : bad[threshold - 1]? = none := by
    rw [List.getElem?_eq_none_iff]
    omega
  simp [notices, hnone]

theorem notices_nil (hpos : 1 ≤ threshold) : notices threshold ⟨[], none⟩ = [] :=
  notices_of_short hpos none

theorem notices_of_long (hpos : 1 ≤ threshold) {bad : List Finding}
    (h : threshold ≤ bad.length) (recovery : Option Finding) :
    ∃ f ∈ bad, notices threshold ⟨bad, recovery⟩ =
      f.event .critical :: (recovery.map (·.event .warning)).toList := by
  have hlt : threshold - 1 < bad.length := by omega
  refine ⟨bad[threshold - 1], List.getElem_mem hlt, ?_⟩
  simp [notices, List.getElem?_eq_getElem hlt]

/-- One more bad reading adds the critical event when it makes the episode as long as the
threshold. -/
theorem notices_append_bad (hpos : 1 ≤ threshold) (bad : List Finding) (f : Finding) :
    notices threshold ⟨bad ++ [f], none⟩ =
      notices threshold ⟨bad, none⟩ ++
        if bad.length + 1 = threshold then [f.event .critical] else [] := by
  rcases Nat.lt_trichotomy (bad.length + 1) threshold with hlt | heq | hgt
  · rw [notices_of_short (by simpa using hlt), notices_of_short (by omega), if_neg (by omega)]
    rfl
  · have hshort : notices threshold ⟨bad, none⟩ = [] := notices_of_short (by omega) none
    have hlast : (bad ++ [f])[threshold - 1]? = some f := by
      rw [← heq]
      simp
    rw [hshort, if_pos heq]
    simp [notices, hlast]
  · have hsame : (bad ++ [f])[threshold - 1]? = bad[threshold - 1]? := by
      rw [List.getElem?_append_left (by omega)]
    rw [if_neg (by omega), List.append_nil]
    simp [notices, hsame]

/-- The end of an episode adds a warning when the episode had reached the threshold. -/
theorem notices_recovery (hpos : 1 ≤ threshold) (bad : List Finding) (f : Finding) :
    notices threshold ⟨bad, some f⟩ =
      notices threshold ⟨bad, none⟩ ++
        if threshold ≤ bad.length then [f.event .warning] else [] := by
  by_cases h : threshold ≤ bad.length
  · have hlt : threshold - 1 < bad.length := by omega
    simp [notices, List.getElem?_eq_getElem hlt, h]
  · rw [notices_of_short (by omega), notices_of_short (by omega), if_neg h]
    rfl

/-- The event that is due with a bad reading is the notice by which the episode grows. -/
theorem notices_append_due_critical (hpos : 1 ≤ threshold) {past : List Health}
    {bad : List Finding} (hrun : Health.runOf .critical past = bad.length) (f : Finding) :
    notices threshold ⟨bad, none⟩ ++
        ((AlertLevel.due? threshold past .critical).map f.event).toList =
      notices threshold ⟨bad ++ [f], none⟩ := by
  have hrun' : Health.runOf .critical (past ++ [.critical]) = bad.length + 1 := by
    rw [Health.runOf_append_singleton, if_pos rfl, hrun]
  rw [notices_append_bad hpos, AlertLevel.due?, hrun']
  by_cases hdue : bad.length + 1 = threshold
  · simp [hdue]
  · simp [hdue]

/-- The event that is due with a good reading is the notice of the end of the episode. -/
theorem notices_append_due_ok (hpos : 1 ≤ threshold) {past : List Health} {bad : List Finding}
    (hrun : Health.runOf .critical past = bad.length) (f : Finding) :
    notices threshold ⟨bad, none⟩ ++ ((AlertLevel.due? threshold past .ok).map f.event).toList =
      notices threshold ⟨bad, some f⟩ := by
  rw [notices_recovery hpos]
  by_cases hlong : threshold ≤ bad.length
  · have hlast : past.getLast? = some .critical := Health.getLast?_eq_of_runOf_pos (by omega)
    simp [AlertLevel.due?, hlast, hrun, hlong]
  · simp [AlertLevel.due?, hrun, hlong]

/-- What may be said about an episode: some of its notices in their order, so at most one
critical event and at most one warning, and a warning only when the episode is over and
had reached the threshold. -/
def Allows (threshold : Nat) (e : Episode) (said : List AlertEvent) : Prop :=
  said.Sublist (e.notices threshold) ∧
    said.countP (fun a => a.level = .critical) ≤ 1 ∧
    said.countP (fun a => a.level = .warning) ≤ 1 ∧
    ∀ a ∈ said, a.level = .warning → threshold ≤ e.bad.length ∧ e.recovery.isSome = true

theorem allows_of_sublist (hpos : 1 ≤ threshold) {e : Episode} {said : List AlertEvent}
    (h : said.Sublist (e.notices threshold)) : e.Allows threshold said := by
  obtain ⟨bad, recovery⟩ := e
  refine ⟨h, Nat.le_trans h.countP_le ?_, Nat.le_trans h.countP_le ?_, ?_⟩
  · by_cases hlong : threshold ≤ bad.length
    · obtain ⟨f, _, hnotices⟩ := notices_of_long hpos hlong recovery
      rw [hnotices]
      cases recovery <;> simp [Finding.event]
    · rw [notices_of_short (by omega)]
      simp
  · by_cases hlong : threshold ≤ bad.length
    · obtain ⟨f, _, hnotices⟩ := notices_of_long hpos hlong recovery
      rw [hnotices]
      cases recovery <;> simp [Finding.event]
    · rw [notices_of_short (by omega)]
      simp
  · intro a ha hwarning
    have hmem := h.subset ha
    by_cases hlong : threshold ≤ bad.length
    · refine ⟨hlong, ?_⟩
      obtain ⟨f, _, hnotices⟩ := notices_of_long hpos hlong recovery
      rw [hnotices] at hmem
      cases recovery with
      | some _ => rfl
      | none =>
        rw [List.mem_singleton.1 hmem] at hwarning
        cases hwarning
    · rw [notices_of_short (by omega)] at hmem
      cases hmem

/-! ## The notices of all episodes -/

/-- Levels that take turns, critical first. -/
def turns : Nat → List AlertLevel
  | 0 => []
  | 1 => [.critical]
  | n + 2 => .critical :: .warning :: turns n

@[simp] theorem length_turns : ∀ n, (turns n).length = n
  | 0 => rfl
  | 1 => rfl
  | n + 2 => by simp [turns, length_turns n]

/-- The notices of the episodes of one key take turns. -/
theorem exists_turns (hpos : 1 ≤ threshold) (bad fs : List Finding) :
    ∃ n, ((splitFrom bad fs).flatMap (notices threshold)).map (·.level) = turns n := by
  induction fs generalizing bad with
  | nil =>
    unfold splitFrom
    split
    · exact ⟨0, rfl⟩
    · by_cases hlong : threshold ≤ bad.length
      · obtain ⟨f, _, hnotices⟩ := notices_of_long hpos hlong none
        refine ⟨1, ?_⟩
        simp [hnotices, Finding.event, turns]
      · refine ⟨0, ?_⟩
        simp [notices_of_short (Nat.lt_of_not_le hlong), turns]
  | cons f fs ih =>
    unfold splitFrom
    cases hf : f.health with
    | critical => exact ih _
    | ok =>
      obtain ⟨n, hn⟩ := ih []
      simp only
      split
      · exact ⟨n, hn⟩
      · by_cases hlong : threshold ≤ bad.length
        · obtain ⟨g, _, hnotices⟩ := notices_of_long hpos hlong (some f)
          refine ⟨n + 2, ?_⟩
          rw [List.flatMap_cons, List.map_append, hn, hnotices]
          rfl
        · refine ⟨n, ?_⟩
          rw [List.flatMap_cons, notices_of_short (Nat.lt_of_not_le hlong), List.nil_append, hn]

/-- Some of the notices of episodes, in their order, fall into groups, one for each
episode. -/
theorem exists_groups (hpos : 1 ≤ threshold) {es : List Episode} {said : List AlertEvent}
    (h : said.Sublist (es.flatMap (notices threshold))) :
    ∃ groups : List (List AlertEvent),
      groups.flatten = said ∧ List.Forall₂ (Allows threshold) es groups := by
  induction es generalizing said with
  | nil =>
    rw [List.flatMap_nil, List.sublist_nil] at h
    exact ⟨[], h.symm, .nil⟩
  | cons e es ih =>
    rw [List.flatMap_cons, List.sublist_append_iff] at h
    obtain ⟨first, others, rfl, hfirst, hothers⟩ := h
    obtain ⟨groups, rfl, hgroups⟩ := ih hothers
    exact ⟨first :: groups, rfl, .cons (allows_of_sublist hpos hfirst) hgroups⟩

end Episode

namespace AlertBook

open Episode
open HostWatch.Time (Instant)

variable {b : AlertBook}

theorem ofKind_observeAll_cons (b : AlertBook) (key : String) (f : Finding) (fs : List Finding) :
    AlertEvent.ofKind key (b.observeAll (f :: fs)).2 =
      AlertEvent.ofKind key (b.observeFinding f).2.toList ++
        AlertEvent.ofKind key ((b.observeFinding f).1.observeAll fs).2 :=
  List.filter_append _ _

theorem ofKind_observeFinding_of_ne (b : AlertBook) {key : String} {f : Finding}
    (h : f.key ≠ key) : AlertEvent.ofKind key (b.observeFinding f).2.toList = [] := by
  unfold AlertEvent.ofKind observeFinding observe
  rw [List.filter_eq_nil_iff]
  intro e he
  rw [Option.mem_toList, Option.map_eq_some_iff] at he
  obtain ⟨level, _, rfl⟩ := he
  simpa using h

theorem ofKind_observeFinding_self (hb : b.HasThreshold) {past : List Health} {f : Finding}
    (hsum : (b.met f.key f.time).Summarizes b.threshold past) :
    AlertEvent.ofKind f.key (b.observeFinding f).2.toList =
      ((AlertLevel.due? b.threshold past f.health).map f.event).toList := by
  rw [observeFinding, observe_event hb hsum]
  cases AlertLevel.due? b.threshold past f.health with
  | none => rfl
  | some level => simp [AlertEvent.ofKind, Finding.event]

theorem summarizes_observeFinding_self (hb : b.HasThreshold) {past : List Health} {f : Finding}
    (hsum : ∀ now, (b.met f.key now).Summarizes b.threshold past) (now : Instant) :
    ((b.observeFinding f).1.met f.key now).Summarizes b.threshold (past ++ [f.health]) := by
  rw [observeFinding, met_observe_self]
  exact (hsum f.time).step hb.1 hb.2 f.health f.time

/-- The book remembers the verdicts on a key as far as it needs them. -/
def Remembers (b : AlertBook) (key : String) (past : List Health) : Prop :=
  b.HasThreshold ∧ ∀ now, (b.met key now).Summarizes b.threshold past

theorem remembers_new (checks : UInt32) (key : String) : (new checks).Remembers key [] := by
  have hb : (new checks).HasThreshold := threshold_new checks
  exact ⟨hb, fun now => KeyState.summarizes_fresh hb.1 key now⟩

namespace Remembers

variable {key : String} {past : List Health} {f : Finding}

theorem other (h : b.Remembers key past) (hkey : f.key ≠ key) :
    (b.observeFinding f).1.Remembers key past := by
  refine ⟨h.1, ?_⟩
  intro now
  rw [observeFinding, met_observe_of_ne b hkey]
  exact h.2 now

theorem self (h : b.Remembers f.key past) :
    (b.observeFinding f).1.Remembers f.key (past ++ [f.health]) :=
  ⟨h.1, summarizes_observeFinding_self h.1 h.2⟩

end Remembers

/-- The book stands where `bad` are the bad readings of the episode of a key that is under
way. -/
def Tracks (b : AlertBook) (key : String) (bad : List Finding) : Prop :=
  b.HasThreshold ∧ ∃ past, (∀ now, (b.met key now).Summarizes b.threshold past) ∧
    Health.runOf .critical past = bad.length

theorem tracks_new (checks : UInt32) (key : String) : (new checks).Tracks key [] := by
  obtain ⟨hb, hsum⟩ := remembers_new checks key
  exact ⟨hb, [], hsum, Health.runOf_nil _⟩

namespace Tracks

variable {bad : List Finding} {f : Finding}

/-- **A reading of another key** changes nothing. -/
theorem other {key : String} (h : b.Tracks key bad) (hkey : f.key ≠ key) :
    (b.observeFinding f).1.Tracks key bad := by
  obtain ⟨hb, past, hsum, hrun⟩ := h
  obtain ⟨hb', hsum'⟩ := Remembers.other ⟨hb, hsum⟩ hkey
  exact ⟨hb', past, hsum', hrun⟩

/-- **A bad reading** of the key goes on with the episode and causes the notice by which it
grows. -/
theorem critical (h : b.Tracks f.key bad) (hf : f.health = .critical) :
    (b.observeFinding f).1.Tracks f.key (bad ++ [f]) ∧
      notices b.threshold ⟨bad, none⟩ ++ AlertEvent.ofKind f.key (b.observeFinding f).2.toList =
        notices b.threshold ⟨bad ++ [f], none⟩ := by
  obtain ⟨hb, past, hsum, hrun⟩ := h
  obtain ⟨hb', hsum'⟩ := Remembers.self ⟨hb, hsum⟩
  rw [hf] at hsum'
  refine ⟨⟨hb', _, hsum', ?_⟩, ?_⟩
  · rw [Health.runOf_append_singleton, if_pos rfl, hrun, List.length_append, List.length_singleton]
  · rw [ofKind_observeFinding_self hb (hsum f.time), hf]
    exact notices_append_due_critical hb.1 hrun f

/-- **A good reading** of the key ends the episode and causes the notice of its end. -/
theorem ok (h : b.Tracks f.key bad) (hf : f.health = .ok) :
    (b.observeFinding f).1.Tracks f.key [] ∧
      notices b.threshold ⟨bad, none⟩ ++ AlertEvent.ofKind f.key (b.observeFinding f).2.toList =
        notices b.threshold ⟨bad, some f⟩ := by
  obtain ⟨hb, past, hsum, hrun⟩ := h
  obtain ⟨hb', hsum'⟩ := Remembers.self ⟨hb, hsum⟩
  rw [hf] at hsum'
  refine ⟨⟨hb', _, hsum', ?_⟩, ?_⟩
  · rw [Health.runOf_append_singleton, if_neg (by decide)]
    rfl
  · rw [ofKind_observeFinding_self hb (hsum f.time), hf]
    exact notices_append_due_ok hb.1 hrun f

end Tracks

/-- The readings of a key, among others, cause the notices of the episodes of the key;
`bad` are the bad readings of the episode that is under way before them. -/
theorem ofKind_observeAll_from (key : String) (fs : List Finding) :
    ∀ {b : AlertBook} {bad : List Finding}, b.Tracks key bad →
      notices b.threshold ⟨bad, none⟩ ++ AlertEvent.ofKind key (b.observeAll fs).2 =
        (splitFrom bad (Finding.ofKey key fs)).flatMap (notices b.threshold) := by
  induction fs with
  | nil =>
    intro b bad h
    cases bad with
    | nil => simp [splitFrom, notices_nil h.1.1, observeAll, AlertEvent.ofKind, Finding.ofKey]
    | cons f bad => simp [splitFrom, observeAll, AlertEvent.ofKind, Finding.ofKey]
  | cons f fs ih =>
    intro b bad h
    rw [ofKind_observeAll_cons, ← List.append_assoc]
    by_cases hkey : f.key = key
    · subst hkey
      rw [Finding.ofKey_cons_self, splitFrom]
      cases hf : f.health with
      | critical =>
        obtain ⟨hnext, hnotices⟩ := h.critical hf
        rw [hnotices]
        exact ih hnext
      | ok =>
        obtain ⟨hnext, hnotices⟩ := h.ok hf
        have hrest := ih hnext
        have hthreshold : (b.observeFinding f).1.threshold = b.threshold := rfl
        rw [hthreshold, notices_nil h.1.1, List.nil_append] at hrest
        rw [hnotices, hrest]
        cases bad with
        | nil => simp [notices]
        | cons g bad => simp
    · rw [ofKind_observeFinding_of_ne b hkey, List.append_nil, Finding.ofKey_cons_of_ne hkey]
      exact ih (h.other hkey)

/-- **The events of a key** that a new book emits over a list of readings are the notices
of the episodes of that key. -/
theorem ofKind_observeAll (checks : UInt32) (key : String) (fs : List Finding) :
    AlertEvent.ofKind key ((new checks).observeAll fs).2 =
      (split (Finding.ofKey key fs)).flatMap (notices (new checks).threshold) := by
  have h := ofKind_observeAll_from key fs (tracks_new checks key)
  rw [notices_nil (threshold_new checks).1, List.nil_append] at h
  exact h

end AlertBook

end HostWatch
