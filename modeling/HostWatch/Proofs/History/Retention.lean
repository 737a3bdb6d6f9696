import Mathlib.Data.List.DropRight
import Mathlib.Data.List.Induction
import HostWatch.History.Store
set_option autoImplicit false

/-!
# History: what is still there

A window has no memory of how its entries came in.  After any calls it holds the last of the
entries that were written since it was last cleared, as many as its capacity allows, whether
they came one by one or in batches, and also when a single batch was longer than the window
(`Window.Holds`).  Every question that a window answers is a question about this list.

The four windows of a history are changed by the calls on their own category alone
(`History.window_afterAll`).
-/

namespace HostWatch

/-! ## Calls to a window -/

/-- A call that changes a window. -/
inductive WindowCall (α : Type) where
  /-- writes one entry -/
  | append (entry : α)
  /-- writes a batch -/
  | extend (batch : List α)
  /-- drops every entry -/
  | clear
  deriving DecidableEq, Repr, Inhabited

namespace WindowCall

variable {α : Type}

/-- The entries that the call writes. -/
def entries : WindowCall α → List α
  | append entry => [entry]
  | extend batch => batch
  | clear => []

/-- The call drops every entry. -/
def clears : WindowCall α → Bool
  | clear => true
  | _ => false

/-- What calls wrote since the window was last cleared, the oldest first. -/
def written (calls : List (WindowCall α)) : List α :=
  (calls.rtakeWhile fun call => !call.clears).flatMap entries

theorem written_append_singleton (calls : List (WindowCall α)) (call : WindowCall α) :
    written (calls ++ [call]) =
      if call.clears then [] else written calls ++ call.entries := by
  unfold written
  rw [List.rtakeWhile_concat]
  cases call.clears with
  | true => simp
  | false => simp

end WindowCall

theorem lastEntries_min_length {α : Type} (n : Nat) (xs : List α) :
    lastEntries (min n xs.length) xs = lastEntries n xs := by
  have hexcess : xs.length - min n xs.length = xs.length - n := by omega
  rw [lastEntries, hexcess, lastEntries]

namespace Window

variable {α : Type}

/-- The window after a call. -/
def after (w : Window α) : WindowCall α → Window α
  | .append entry => w.append entry
  | .extend batch => w.extend batch
  | .clear => w.clear

/-- The window after calls in their order. -/
def afterAll (w : Window α) (calls : List (WindowCall α)) : Window α := calls.foldl after w

@[simp] theorem capacity_after (w : Window α) (call : WindowCall α) :
    (w.after call).capacity = w.capacity := by
  cases call <;> rfl

@[simp] theorem capacity_afterAll (w : Window α) (calls : List (WindowCall α)) :
    (w.afterAll calls).capacity = w.capacity := by
  induction calls generalizing w with
  | nil => rfl
  | cons call calls ih =>
    rw [afterAll, List.foldl_cons, ← afterAll, ih, capacity_after]

/-! ## What a window holds -/

/-- The window holds the last of some entries, as many as its capacity allows. -/
def Holds (w : Window α) (past : List α) : Prop := w.entries = lastEntries w.capacity past

theorem holds_new (capacity : Nat) : (new capacity : Window α).Holds [] := by
  simp [Holds, new, lastEntries]

namespace Holds

variable {w : Window α} {past : List α}

theorem extend (h : w.Holds past) (batch : List α) : (w.extend batch).Holds (past ++ batch) := by
  rw [Holds, entries_extend, h, lastEntries_append_left]
  rfl

/-- **One call** adds its entries to those that the window holds the last of, or clears them. -/
theorem after (h : w.Holds past) (call : WindowCall α) :
    (w.after call).Holds (if call.clears then [] else past ++ call.entries) := by
  cases call with
  | append entry =>
    show (w.append entry).Holds (past ++ [entry])
    rw [append_eq_extend]
    exact h.extend [entry]
  | extend batch => exact h.extend batch
  | clear =>
    show ([] : List α) = lastEntries w.capacity []
    simp [lastEntries]

end Holds

/-- **Any calls** leave the last of the entries that were written since the window was last
cleared. -/
theorem holds_afterAll (capacity : Nat) (calls : List (WindowCall α)) :
    ((new capacity : Window α).afterAll calls).Holds (WindowCall.written calls) := by
  induction calls using List.reverseRecOn with
  | nil => exact holds_new capacity
  | append_singleton calls call ih =>
    have hlast : (new capacity : Window α).afterAll (calls ++ [call]) =
        ((new capacity).afterAll calls).after call := by
      rw [afterAll, List.foldl_append, ← afterAll]
      rfl
    rw [hlast, WindowCall.written_append_singleton]
    exact ih.after call

/-- The latest entry that satisfies a predicate is the last of those that do. -/
theorem findLatest?_eq (w : Window α) (p : α → Bool) :
    w.findLatest? p = (w.entries.filter p).getLast? :=
  List.getLast?_filter.symm

end Window

/-! ## The windows of a history -/

/-- What the window of a category holds. -/
abbrev Category.Entry : Category → Type
  | .alerts => AlertEvent
  | .resources => ResourceSample
  | .endpoints => EndpointResult
  | .containers => ContainerSample

/-- A call that changes a window of a history. -/
structure HistoryCall where
  category : Category
  call : WindowCall category.Entry

namespace HistoryCall

/-- The call, if it is on the window of the category. -/
def on? (c : Category) (x : HistoryCall) : Option (WindowCall c.Entry) :=
  if h : x.category = c then some (h ▸ x.call) else none

/-- The calls on the window of a category, in their order. -/
def on (c : Category) (calls : List HistoryCall) : List (WindowCall c.Entry) :=
  calls.filterMap (on? c)

end HistoryCall

namespace History

/-- The window of a category. -/
def window (h : History) : (c : Category) → Window c.Entry
  | .alerts => h.alerts
  | .resources => h.resources
  | .endpoints => h.endpoints
  | .containers => h.containers

/-- The history after a call. -/
def after (h : History) : HistoryCall → History
  | ⟨.alerts, call⟩ => { h with alerts := h.alerts.after call }
  | ⟨.resources, call⟩ => { h with resources := h.resources.after call }
  | ⟨.endpoints, call⟩ => { h with endpoints := h.endpoints.after call }
  | ⟨.containers, call⟩ => { h with containers := h.containers.after call }

/-- The history after calls in their order. -/
def afterAll (h : History) (calls : List HistoryCall) : History := calls.foldl after h

theorem window_new (capacity : Nat) (c : Category) :
    (new capacity).window c = Window.new capacity := by
  cases c <;> rfl

theorem count_eq (h : History) (c : Category) : h.count c = (h.window c).count := by
  cases c <;> rfl

theorem clear_eq_after (h : History) (c : Category) : h.clear c = h.after ⟨c, .clear⟩ := by
  cases c <;> rfl

/-- **One call** changes a window if it is on the category of the window. -/
theorem window_after (h : History) (x : HistoryCall) (c : Category) :
    (h.after x).window c = (h.window c).afterAll (x.on? c).toList := by
  obtain ⟨d, call⟩ := x
  cases d <;> cases c <;> rfl

/-- **Any calls** change a window as those of its own category do. -/
theorem window_afterAll (h : History) (calls : List HistoryCall) (c : Category) :
    (h.afterAll calls).window c = (h.window c).afterAll (HistoryCall.on c calls) := by
  induction calls generalizing h with
  | nil => rfl
  | cons x calls ih =>
    have hfirst : (h.afterAll (x :: calls)).window c =
        ((h.window c).afterAll (x.on? c).toList).afterAll (HistoryCall.on c calls) := by
      rw [afterAll, List.foldl_cons, ← afterAll, ih, window_after]
    rw [hfirst, HistoryCall.on, HistoryCall.on]
    cases hx : x.on? c with
    | none => rw [List.filterMap_cons_none hx]; rfl
    | some call => rw [List.filterMap_cons_some hx]; rfl

end History

namespace Window

/-- **The latest entries are kept.**  After any calls to a new window it holds the last of the
entries that were written since it was last cleared, as many as it may hold, and its answers
are about these: how many there are, which is the last one, and which is the last one that
satisfies a predicate.  Writing a batch is writing its entries one by one.  In a history a
call changes the window of its category and none of the three others, so that each window
is what the calls on its own category have made of it. -/
theorem afterAll_keeps_latest {α : Type} (capacity : Nat) (calls : List (WindowCall α)) :
    let limit := if capacity = 0 then 100 else capacity
    let written := WindowCall.written calls
    let kept := lastEntries (min limit written.length) written
    let w := (new capacity : Window α).afterAll calls
    (w.entries = kept ∧ w.count = kept.length ∧ w.count ≤ limit ∧ w.latest? = kept.getLast? ∧
        ∀ p, w.findLatest? p = (kept.filter p).getLast?) ∧
      (∀ (v : Window α) (batch : List α), v.extend batch = batch.foldl append v) ∧
      (∀ (h : History) (x : HistoryCall),
        (h.after x).window x.category = (h.window x.category).after x.call ∧
          ∀ c, c ≠ x.category → (h.after x).window c = h.window c) ∧
      (∀ (h : History) (c : Category),
        h.clear c = h.after ⟨c, .clear⟩ ∧ h.count c = (h.window c).count) ∧
      ∀ (calls : List HistoryCall) (c : Category),
        ((History.new capacity).afterAll calls).window c =
          (new capacity).afterAll (HistoryCall.on c calls) := by
  intro limit written kept w
  have hholds : w.Holds written := holds_afterAll capacity calls
  have hlimit : w.capacity = limit := capacity_afterAll _ calls
  have hentries : w.entries = kept := by
    show w.entries = lastEntries (min limit written.length) written
    rw [lastEntries_min_length, ← hlimit]
    exact hholds
  refine ⟨⟨hentries, ?_, ?_, ?_, ?_⟩, extend_eq_foldl, ?_, ?_, ?_⟩
  · rw [count, hentries]
  · rw [← hlimit]
    exact w.within
  · rw [latest?, hentries]
  · intro p
    rw [findLatest?_eq, hentries]
  · intro h x
    refine ⟨?_, ?_⟩
    · rw [History.window_after, HistoryCall.on?, dif_pos rfl]
      rfl
    · intro c hc
      rw [History.window_after, HistoryCall.on?, dif_neg hc.symm]
      rfl
  · exact fun h c => ⟨h.clear_eq_after c, h.count_eq c⟩
  · intro calls c
    rw [History.window_afterAll, History.window_new]

/-- Entries written one by one and in batches, after the window was cleared; and a call on
the endpoints, which leaves the alerts alone. -/
theorem afterAll_keeps_latest_batches :
    let calls : List (WindowCall Nat) :=
      [.append 9, .clear, .extend [1, 2, 3], .append 4, .extend [5, 6]]
    let w := (new 4 : Window Nat).afterAll calls
    w.entries = [3, 4, 5, 6] ∧ w.findLatest? (· < 5) = some 4 ∧
      Category.alerts ≠ .endpoints ∧
      ∀ h : History, (h.after ⟨.endpoints, .clear⟩).window .alerts = h.window .alerts := by
  intro calls w
  obtain ⟨⟨hentries, _, _, _, hfind⟩, _, hothers, _⟩ := afterAll_keeps_latest 4 calls
  have hne : Category.alerts ≠ .endpoints := by decide
  exact ⟨hentries.trans (by decide), (hfind _).trans (by decide), hne,
    fun h => (hothers h ⟨.endpoints, .clear⟩).2 .alerts hne⟩

end Window

end HostWatch
