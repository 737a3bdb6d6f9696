set_option autoImplicit false

/-!
# Maps with text keys, in key order

A finite map is the list of its entries in strictly increasing key order; the
order is part of the type.  Every operation is described by what `find?` answers
afterwards, and two maps that answer alike are equal (`KeyMap.ext_find?`), so that
the order in which entries were written never matters.
-/

namespace HostWatch

/-- A finite map from texts. -/
structure KeyMap (α : Type) where
  entries : List (String × α)
  sorted : entries.Pairwise fun a b => a.1 < b.1

namespace KeyMap

variable {α : Type}

/-- The map without entries. -/
def empty : KeyMap α := ⟨[], .nil⟩

instance : Inhabited (KeyMap α) := ⟨empty⟩

/-- The value of a key in a list of entries. -/
def lookup (key : String) : List (String × α) → Option α
  | [] => none
  | (k, v) :: rest => if k = key then some v else lookup key rest

/-- The value of a key. -/
def find? (m : KeyMap α) (key : String) : Option α := lookup key m.entries

/-- The number of entries. -/
def size (m : KeyMap α) : Nat := m.entries.length

/-- The keys, in increasing order. -/
def keys (m : KeyMap α) : List String := m.entries.map (·.1)

/-- The values in the order of their keys. -/
def values (m : KeyMap α) : List α := m.entries.map (·.2)

/-- The entries with `key` set to `value`. -/
def setEntry (key : String) (value : α) : List (String × α) → List (String × α)
  | [] => [(key, value)]
  | (k, v) :: rest =>
    if key < k then (key, value) :: (k, v) :: rest
    else if k = key then (key, value) :: rest
    else (k, v) :: setEntry key value rest

theorem fst_of_mem_setEntry {key : String} {value : α} {es : List (String × α)}
    {e : String × α} (h : e ∈ setEntry key value es) : e.1 = key ∨ e ∈ es := by
  induction es with
  | nil => simp_all [setEntry]
  | cons f es ih =>
    obtain ⟨k, v⟩ := f
    simp only [setEntry] at h
    split at h
    · rcases List.mem_cons.1 h with rfl | h
      · exact Or.inl rfl
      · exact Or.inr h
    · split at h
      · rcases List.mem_cons.1 h with rfl | h
        · exact Or.inl rfl
        · exact Or.inr (List.mem_cons_of_mem _ h)
      · rcases List.mem_cons.1 h with rfl | h
        · exact Or.inr List.mem_cons_self
        · exact (ih h).imp id (List.mem_cons_of_mem _)

theorem setEntry_sorted (key : String) (value : α) {es : List (String × α)}
    (h : es.Pairwise fun a b => a.1 < b.1) :
    (setEntry key value es).Pairwise fun a b => a.1 < b.1 := by
  induction es with
  | nil => simp [setEntry]
  | cons f es ih =>
    obtain ⟨k, v⟩ := f
    have hhead := (List.pairwise_cons.1 h).1
    have htail := (List.pairwise_cons.1 h).2
    simp only [setEntry]
    split
    · rename_i hlt
      refine List.pairwise_cons.2 ⟨?_, h⟩
      intro e he
      rcases List.mem_cons.1 he with rfl | he
      · exact hlt
      · exact String.lt_trans hlt (hhead e he)
    · split
      · rename_i heq
        subst heq
        exact List.pairwise_cons.2 ⟨hhead, htail⟩
      · rename_i hge hne
        refine List.pairwise_cons.2 ⟨?_, ih htail⟩
        intro e he
        rcases fst_of_mem_setEntry he with he | he
        · rw [he]
          rcases String.le_total k key with hle | hle
          · exact Decidable.byContradiction fun hnot =>
              hne (String.le_antisymm hle (String.not_lt.1 hnot))
          · exact absurd (String.le_antisymm (String.not_lt.1 hge) hle) hne
        · exact hhead e he

/-- The map with `key` set to `value`. -/
def insert (m : KeyMap α) (key : String) (value : α) : KeyMap α :=
  ⟨setEntry key value m.entries, setEntry_sorted key value m.sorted⟩

/-- The map without `key`. -/
def erase (m : KeyMap α) (key : String) : KeyMap α :=
  ⟨m.entries.filter fun e => e.1 ≠ key, m.sorted.filter _⟩

/-! ## What a key stands for afterwards -/

@[simp] theorem find?_empty (key : String) : (empty : KeyMap α).find? key = none := rfl

theorem lookup_setEntry (key other : String) (value : α) (es : List (String × α)) :
    lookup other (setEntry key value es) = if key = other then some value else lookup other es := by
  induction es with
  | nil => simp [setEntry, lookup]
  | cons f es ih =>
    obtain ⟨k, v⟩ := f
    simp only [setEntry]
    split
    · simp [lookup]
    · split
      · rename_i heq
        subst heq
        by_cases h : k = other <;> simp [lookup, h]
      · rename_i hne
        by_cases h : k = other
        · subst h
          simp [lookup, Ne.symm hne]
        · simp [lookup, h, ih]

theorem find?_insert (m : KeyMap α) (key other : String) (value : α) :
    (m.insert key value).find? other = if key = other then some value else m.find? other :=
  lookup_setEntry key other value m.entries

@[simp] theorem find?_insert_self (m : KeyMap α) (key : String) (value : α) :
    (m.insert key value).find? key = some value := by simp [find?_insert]

theorem find?_insert_of_ne (m : KeyMap α) {key other : String} (value : α) (h : key ≠ other) :
    (m.insert key value).find? other = m.find? other := by simp [find?_insert, h]

theorem find?_erase (m : KeyMap α) (key other : String) :
    (m.erase key).find? other = if key = other then none else m.find? other := by
  obtain ⟨es, hs⟩ := m
  simp only [erase, find?]
  clear hs
  induction es with
  | nil => simp [lookup]
  | cons f es ih =>
    obtain ⟨k, v⟩ := f
    simp only [ne_eq, decide_not] at ih
    by_cases hk : k = key
    · subst hk
      by_cases ho : k = other <;> simp_all [lookup]
    · by_cases ho : k = other
      · subst ho
        simp [hk, lookup, Ne.symm hk]
      · simp [hk, lookup, ho, ih]

/-! ## Entries -/

theorem mem_entries_iff {m : KeyMap α} {key : String} {value : α} :
    (key, value) ∈ m.entries ↔ m.find? key = some value := by
  obtain ⟨es, hs⟩ := m
  simp only [find?]
  induction es with
  | nil => simp [lookup]
  | cons f es ih =>
    obtain ⟨k, v⟩ := f
    have hhead := (List.pairwise_cons.1 hs).1
    have htail := (List.pairwise_cons.1 hs).2
    by_cases h : k = key
    · subst h
      simp only [List.mem_cons, Prod.mk.injEq, true_and, lookup, if_true, Option.some.injEq]
      constructor
      · rintro (rfl | hmem)
        · rfl
        · exact absurd (hhead _ hmem) (String.lt_irrefl _)
      · rintro rfl
        exact Or.inl rfl
    · simp [lookup, h, Ne.symm h, ih htail]

theorem mem_keys_iff {m : KeyMap α} {key : String} :
    key ∈ m.keys ↔ (m.find? key).isSome = true := by
  simp only [keys, List.mem_map, Prod.exists, exists_and_right, exists_eq_right,
    Option.isSome_iff_exists, mem_entries_iff]

theorem keys_sorted (m : KeyMap α) : m.keys.Pairwise (· < ·) :=
  List.pairwise_map.2 m.sorted

private theorem entries_eq {es fs : List (String × α)}
    (hes : es.Pairwise fun a b => a.1 < b.1) (hfs : fs.Pairwise fun a b => a.1 < b.1)
    (h : ∀ e, e ∈ es ↔ e ∈ fs) : es = fs := by
  induction es generalizing fs with
  | nil =>
    cases fs with
    | nil => rfl
    | cons f fs => exact absurd ((h f).2 List.mem_cons_self) (by simp)
  | cons e es ih =>
    cases fs with
    | nil => exact absurd ((h e).1 List.mem_cons_self) (by simp)
    | cons f fs =>
      have he := List.pairwise_cons.1 hes
      have hf := List.pairwise_cons.1 hfs
      have heq : e = f := by
        rcases List.mem_cons.1 ((h e).1 List.mem_cons_self) with heq | hmem
        · exact heq
        · rcases List.mem_cons.1 ((h f).2 List.mem_cons_self) with heq | hmem'
          · exact heq.symm
          · exact absurd (String.lt_trans (hf.1 e hmem) (he.1 f hmem')) (String.lt_irrefl _)
      subst heq
      congr 1
      refine ih he.2 hf.2 fun g => ⟨fun hg => ?_, fun hg => ?_⟩
      · rcases List.mem_cons.1 ((h g).1 (List.mem_cons_of_mem _ hg)) with rfl | hm
        · exact absurd (he.1 _ hg) (String.lt_irrefl _)
        · exact hm
      · rcases List.mem_cons.1 ((h g).2 (List.mem_cons_of_mem _ hg)) with rfl | hm
        · exact absurd (hf.1 _ hg) (String.lt_irrefl _)
        · exact hm

/-- Maps that answer alike for every key are equal. -/
theorem ext_find? {m n : KeyMap α} (h : ∀ key, m.find? key = n.find? key) : m = n := by
  have key : m.entries = n.entries :=
    entries_eq m.sorted n.sorted fun (k, v) => by simp only [mem_entries_iff, h]
  cases m; cases n; simp_all

end KeyMap

end HostWatch
