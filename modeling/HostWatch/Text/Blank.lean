set_option autoImplicit false

/-!
# Text: blanks, lines and lists

The small readers that every other module shares: which characters are blank,
how a text is trimmed, how it is cut into lines or at a separator, and the two
tests "starts with" and "contains".  All of them work on the list of characters,
so that a statement about one of them is an induction on a list.

A character is blank when Unicode gives it the property `White_Space`; the set
is larger than the ASCII blanks that `Char.isWhitespace` knows.
-/

namespace HostWatch.Text

/-! ## Blank characters -/

/-- The characters with the Unicode property `White_Space`. -/
def isBlank (c : Char) : Bool :=
  let n := c.toNat
  (0x09 ≤ n && n ≤ 0x0D) || n == 0x20 || n == 0x85 || n == 0xA0 || n == 0x1680
    || (0x2000 ≤ n && n ≤ 0x200A) || n == 0x2028 || n == 0x2029 || n == 0x202F
    || n == 0x205F || n == 0x3000

/-- A list of characters without the blanks at its two ends. -/
def trimChars (cs : List Char) : List Char :=
  ((cs.dropWhile isBlank).reverse.dropWhile isBlank).reverse

/-- A text without the blanks at its two ends. -/
def trim (s : String) : String := String.ofList (trimChars s.toList)

/-- The text holds blanks only. -/
def isAllBlank (s : String) : Bool := s.toList.all isBlank

theorem trimChars_of_ends {cs : List Char} (hd : cs.head?.all (fun c => !isBlank c) = true)
    (hl : cs.getLast?.all (fun c => !isBlank c) = true) : trimChars cs = cs := by
  have drop : ∀ ds : List Char, ds.head?.all (fun c => !isBlank c) = true →
      ds.dropWhile isBlank = ds := by
    intro ds h
    cases ds with
    | nil => rfl
    | cons d ds =>
      simp only [List.head?_cons, Option.all_some, Bool.not_eq_true'] at h
      simp [List.dropWhile, h]
  unfold trimChars
  rw [drop cs hd, drop cs.reverse (by simpa using hl), List.reverse_reverse]

theorem trimChars_append_blank {c : Char} (h : isBlank c = true) (cs : List Char) :
    trimChars (cs ++ [c]) = trimChars cs := by
  rw [trimChars, trimChars, List.dropWhile_append]
  split
  · rename_i hnone
    rw [List.isEmpty_iff.1 hnone]
    simp [h]
  · rw [List.reverse_append, List.reverse_singleton, List.singleton_append,
      List.dropWhile_cons_of_pos h]

theorem trimChars_of_all_isBlank {cs : List Char} (h : cs.all isBlank = true) :
    trimChars cs = [] := by
  have hdrop : cs.dropWhile isBlank = [] := by
    induction cs with
    | nil => rfl
    | cons c cs ih =>
      rw [List.all_cons, Bool.and_eq_true] at h
      rw [List.dropWhile_cons_of_pos h.1, ih h.2]
  rw [trimChars, hdrop]
  rfl

/-! ## Cutting -/

/-- The pieces of a list between the occurrences of `sep`; there is always one
piece more than there are separators. -/
def splitAt (sep : Char) : List Char → List (List Char)
  | [] => [[]]
  | c :: cs =>
    match splitAt sep cs with
    | [] => [[c]]
    | piece :: rest => if c = sep then [] :: piece :: rest else (c :: piece) :: rest

theorem splitAt_ne_nil (sep : Char) (cs : List Char) : splitAt sep cs ≠ [] := by
  induction cs with
  | nil => simp [splitAt]
  | cons c cs ih =>
    simp only [splitAt]
    split
    · simp
    · split <;> simp

theorem splitAt_eq_splitOn (sep : Char) (cs : List Char) : splitAt sep cs = cs.splitOn sep := by
  induction cs with
  | nil => rfl
  | cons c cs ih =>
    rw [splitAt, ih, List.splitOn_cons_eq_if_modifyHead]
    cases hpieces : cs.splitOn sep with
    | nil => exact absurd hpieces (List.splitOn_ne_nil sep cs)
    | cons piece rest =>
      simp only [beq_iff_eq, List.modifyHead_cons]

/-- The first occurrence of `sep` cuts a text in two; `none` when there is none. -/
def splitOnce (sep : Char) : List Char → Option (List Char × List Char)
  | [] => none
  | c :: cs =>
    if c = sep then some ([], cs)
    else (splitOnce sep cs).map fun (before, after) => (c :: before, after)

/-- The cut loses nothing but the separator, and there is no separator in front of it. -/
theorem splitOnce_eq_some_iff {sep : Char} {cs before after : List Char} :
    splitOnce sep cs = some (before, after) ↔ cs = before ++ sep :: after ∧ sep ∉ before := by
  induction cs generalizing before with
  | nil => simp [splitOnce]
  | cons c cs ih =>
    rw [splitOnce]
    by_cases hsep : c = sep
    · rw [if_pos hsep]
      subst hsep
      cases before with
      | nil => simp
      | cons d before =>
        constructor
        · intro h
          cases h
        · rintro ⟨hcs, hno⟩
          obtain ⟨rfl, _⟩ := List.cons.inj hcs
          exact absurd List.mem_cons_self hno
    · rw [if_neg hsep, Option.map_eq_some_iff]
      constructor
      · rintro ⟨⟨front, back⟩, hcut, hpair⟩
        obtain ⟨rfl, rfl⟩ := Prod.mk.inj hpair
        obtain ⟨rfl, hno⟩ := ih.1 hcut
        exact ⟨rfl, by simp [hno, Ne.symm hsep]⟩
      · rintro ⟨hcs, hno⟩
        cases before with
        | nil => exact absurd (List.cons.inj hcs).1 hsep
        | cons d before =>
          obtain ⟨rfl, rfl⟩ := List.cons.inj hcs
          exact ⟨(before, after), ih.2 ⟨rfl, fun h => hno (List.mem_cons_of_mem _ h)⟩, rfl⟩

/-- The lines of a text.  A line feed ends a line, and so does a carriage return
before a line feed; what follows the last line feed is a line unless it is empty. -/
def lines (s : String) : List String :=
  let pieces := splitAt '\n' s.toList
  let ended := pieces.dropLast.map fun line =>
    if line.getLast? = some '\r' then line.dropLast else line
  let last := pieces.getLast?.toList.filter (! ·.isEmpty)
  (ended ++ last).map String.ofList

/-- The entries of a comma-separated list, trimmed; blank entries are dropped. -/
def commaList (s : String) : List String :=
  ((splitAt ',' s.toList).map trimChars).filter (! ·.isEmpty) |>.map String.ofList

/-! ## Prefixes and occurrences -/

/-- What follows `front` in a list that starts with it. -/
def dropFront? : List Char → List Char → Option (List Char)
  | [], cs => some cs
  | _ :: _, [] => none
  | f :: front, c :: cs => if f = c then dropFront? front cs else none

theorem dropFront?_eq_some_iff {front cs rest : List Char} :
    dropFront? front cs = some rest ↔ cs = front ++ rest := by
  induction front generalizing cs with
  | nil => simp [dropFront?]
  | cons f front ih =>
    cases cs with
    | nil => simp [dropFront?]
    | cons c cs =>
      simp only [dropFront?, List.cons_append, List.cons.injEq]
      split
      · rename_i h
        simp [ih, h]
      · rename_i h
        simp [Ne.symm h]

/-- What follows `front` in a text that starts with it. -/
def afterFront? (front s : String) : Option String :=
  (dropFront? front.toList s.toList).map String.ofList

theorem afterFront?_append (front s : String) : afterFront? front (front ++ s) = some s := by
  have hrest : dropFront? front.toList (front ++ s).toList = some s.toList := by
    rw [dropFront?_eq_some_iff, String.toList_append]
  rw [afterFront?, hrest, Option.map_some, String.ofList_toList]

/-- The text starts with `front`. -/
def startsWith (s front : String) : Bool := (dropFront? front.toList s.toList).isSome

theorem startsWith_iff {s front : String} :
    startsWith s front = true ↔ ∃ rest, s.toList = front.toList ++ rest := by
  simp [startsWith, Option.isSome_iff_exists, dropFront?_eq_some_iff]

/-- Some part of the list is `part`. -/
def containsChars (part : List Char) : List Char → Bool
  | [] => part.isEmpty
  | c :: cs => (dropFront? part (c :: cs)).isSome || containsChars part cs

theorem isSome_dropFront?_iff {front cs : List Char} :
    (dropFront? front cs).isSome = true ↔ front <+: cs := by
  rw [Option.isSome_iff_exists]
  exact exists_congr fun rest => dropFront?_eq_some_iff.trans eq_comm

theorem containsChars_iff {part cs : List Char} :
    containsChars part cs = true ↔ part <:+: cs := by
  induction cs with
  | nil => simp [containsChars]
  | cons c cs ih =>
    rw [containsChars, Bool.or_eq_true, isSome_dropFront?_iff, ih, List.infix_cons_iff]

/-- Some part of the text is `part`. -/
def contains (s part : String) : Bool := containsChars part.toList s.toList

theorem contains_iff {s part : String} : contains s part = true ↔ part.toList <:+: s.toList :=
  containsChars_iff

/-! ## Letter case, ASCII only -/

/-- The text with the ASCII capitals in small letters; all else is kept. -/
def lowerAscii (s : String) : String := String.ofList (s.toList.map Char.toLower)

/-- The text with the ASCII small letters as capitals; all else is kept. -/
def upperAscii (s : String) : String := String.ofList (s.toList.map Char.toUpper)

/-- Two texts are the same up to the case of ASCII letters. -/
def eqIgnoreCase (s t : String) : Bool := lowerAscii s == lowerAscii t

end HostWatch.Text
