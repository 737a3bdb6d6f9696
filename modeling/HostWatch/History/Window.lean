set_option autoImplicit false

/-!
# History: a window over the latest entries

A window keeps the last entries that were written, as many as its capacity allows;
older ones are dropped.  After a single entry they are dropped one at a time, and after
a batch all at once; it comes to the same (`evict_eq_lastEntries`), so that writing a
batch is writing its entries one by one (`Window.extend_eq_foldl`).
-/

namespace HostWatch

/-- How many entries a window keeps, unless something else is said. -/
def defaultCapacity : Nat := 100

section

variable {α : Type}

/-- The last entries of a list, at most `n` of them. -/
def lastEntries (n : Nat) (xs : List α) : List α := xs.drop (xs.length - n)

/-- Drops the oldest entry as long as there are more than `n`. -/
def evict (n : Nat) : List α → List α
  | [] => []
  | x :: xs => if n < (x :: xs).length then evict n xs else x :: xs

theorem length_lastEntries (n : Nat) (xs : List α) :
    (lastEntries n xs).length = min n xs.length := by
  rw [lastEntries, List.length_drop]
  omega

theorem lastEntries_of_le {n : Nat} {xs : List α} (h : xs.length ≤ n) : lastEntries n xs = xs := by
  simp [lastEntries, Nat.sub_eq_zero_of_le h]

/-- Entries that are dropped one at a time are those that are dropped at once. -/
theorem evict_eq_lastEntries (n : Nat) (xs : List α) : evict n xs = lastEntries n xs := by
  induction xs with
  | nil => simp [evict, lastEntries]
  | cons x xs ih =>
    unfold evict
    split
    · rename_i hmany
      have hexcess : (x :: xs).length - n = (xs.length - n) + 1 := by
        rw [List.length_cons] at hmany ⊢
        omega
      rw [ih, lastEntries, lastEntries, hexcess, List.drop_succ_cons]
    · rename_i hfew
      exact (lastEntries_of_le (Nat.le_of_not_lt hfew)).symm

/-- Dropping the oldest entries early makes no difference. -/
theorem lastEntries_append_left (n : Nat) (xs ys : List α) :
    lastEntries n (lastEntries n xs ++ ys) = lastEntries n (xs ++ ys) := by
  simp only [lastEntries, List.length_append, List.length_drop]
  rcases Nat.le_total xs.length n with h | h
  · rw [Nat.sub_eq_zero_of_le h, List.drop_zero, Nat.sub_zero]
  · rw [show xs.length - (xs.length - n) + ys.length - n = ys.length by omega]
    rw [show xs.length + ys.length - n = (xs.length - n) + ys.length by omega]
    have tail : (xs ++ ys).drop (xs.length - n) = xs.drop (xs.length - n) ++ ys :=
      List.drop_append_of_le_length (by omega)
    rw [← List.drop_drop, tail]

end

/-- The latest entries written, the oldest first. -/
structure Window (α : Type) where
  capacity : Nat
  entries : List α
  capacity_pos : 0 < capacity
  within : entries.length ≤ capacity

namespace Window

variable {α : Type}

/-- A window without entries; a capacity of zero stands for the usual one. -/
def new (capacity : Nat) : Window α where
  capacity := if capacity = 0 then defaultCapacity else capacity
  entries := []
  capacity_pos := by
    split
    · decide
    · omega
  within := Nat.zero_le _

instance : Inhabited (Window α) := ⟨new 0⟩

/-- Writes a batch: its entries follow the ones kept, and the oldest are dropped. -/
def extend (w : Window α) (batch : List α) : Window α where
  capacity := w.capacity
  entries := lastEntries w.capacity (w.entries ++ batch)
  capacity_pos := w.capacity_pos
  within := by
    rw [length_lastEntries]
    omega

/-- Writes one entry: it follows the ones kept, and the oldest is dropped as long as there
are too many. -/
def append (w : Window α) (entry : α) : Window α where
  capacity := w.capacity
  entries := evict w.capacity (w.entries ++ [entry])
  capacity_pos := w.capacity_pos
  within := by
    rw [evict_eq_lastEntries, length_lastEntries]
    omega

/-- Drops every entry. -/
def clear (w : Window α) : Window α where
  capacity := w.capacity
  entries := []
  capacity_pos := w.capacity_pos
  within := Nat.zero_le _

/-- The number of entries. -/
def count (w : Window α) : Nat := w.entries.length

/-- The latest entry. -/
def latest? (w : Window α) : Option α := w.entries.getLast?

/-- The latest entry that satisfies a predicate. -/
def findLatest? (w : Window α) (p : α → Bool) : Option α := w.entries.reverse.find? p

/-! ## What is kept -/

@[simp] theorem capacity_extend (w : Window α) (batch : List α) :
    (w.extend batch).capacity = w.capacity := rfl

@[simp] theorem entries_extend (w : Window α) (batch : List α) :
    (w.extend batch).entries = lastEntries w.capacity (w.entries ++ batch) := rfl

private theorem eq_of_parts {v w : Window α} (hc : v.capacity = w.capacity)
    (he : v.entries = w.entries) : v = w := by
  cases v; cases w; simp_all

@[simp] theorem extend_nil (w : Window α) : w.extend [] = w :=
  eq_of_parts rfl (by simpa using lastEntries_of_le w.within)

theorem extend_extend (w : Window α) (xs ys : List α) :
    (w.extend xs).extend ys = w.extend (xs ++ ys) :=
  eq_of_parts rfl (by simp [lastEntries_append_left])

theorem append_eq_extend (w : Window α) (entry : α) : w.append entry = w.extend [entry] :=
  eq_of_parts rfl (evict_eq_lastEntries w.capacity (w.entries ++ [entry]))

theorem extend_eq_foldl (w : Window α) (batch : List α) :
    w.extend batch = batch.foldl append w := by
  induction batch generalizing w with
  | nil => simp
  | cons x xs ih =>
    rw [List.foldl_cons, ← ih, append_eq_extend, extend_extend]
    rfl

end Window

end HostWatch
