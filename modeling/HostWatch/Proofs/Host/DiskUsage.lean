import Mathlib.Data.List.Nodup
import Mathlib.Logic.Relation
import HostWatch.Host.Mount
set_option autoImplicit false

/-!
# Host: the file system that a path lies on

Among the mount points that a path lies in one is the deepest, and there is no tie: two points of
the same depth in one path are the same point.  So with mount points that are all different the
usage of a path is that of one certain mount (`Mount.holding?_eq_some_iff`), whatever the order of
the mounts.  A mount that the path does not lie in, or lies in less deeply, has no say
(`Mount.holding?_of_idle`).

The depth counts parts and not characters, so a path can be written in more than one way
(`PathPart.ofPath_eq_of_sameSpelling`).
-/

namespace HostWatch

open HostWatch.Text

namespace PathPart

/-! ## Ways to write a path -/

/-- One text writes out a mark that adds nothing to the other: a slash beside a slash, a point
between two slashes, or a slash at the end. -/
inductive AddsMark : List Char → List Char → Prop
  | slash (front back : List Char) :
    AddsMark (front ++ '/' :: back) (front ++ '/' :: '/' :: back)
  | point (front back : List Char) :
    AddsMark (front ++ '/' :: back) (front ++ '/' :: '.' :: '/' :: back)
  | ending {path : List Char} (hpath : path ≠ []) : AddsMark path (path ++ ['/'])

/-- Two texts differ only in marks that add nothing. -/
def SameSpelling (path path' : String) : Prop :=
  Relation.EqvGen AddsMark path.toList path'.toList

/-- What the parts of a path start with, apart from the names. -/
def start (path : List Char) : List PathPart :=
  if path.head? = some '/' then [.root]
  else if (splitAt '/' path).head? = some ['.'] then [.here]
  else []

theorem names_append (pieces pieces' : List (List Char)) :
    names (pieces ++ pieces') = names pieces ++ names pieces' := by
  simp [names]

theorem splitAt_append_slash (front back : List Char) :
    splitAt '/' (front ++ '/' :: back) = splitAt '/' front ++ splitAt '/' back := by
  simp only [splitAt_eq_splitOn, List.splitOn_append_cons_self]

theorem splitAt_slash (back : List Char) : splitAt '/' ('/' :: back) = [] :: splitAt '/' back :=
  splitAt_append_slash [] back

theorem splitAt_point (back : List Char) :
    splitAt '/' ('.' :: '/' :: back) = ['.'] :: splitAt '/' back :=
  splitAt_append_slash ['.'] back

/-- The names are what is between the slashes, the start aside. -/
theorem ofPath_eq (path : String) :
    ofPath path = start path.toList ++ names (splitAt '/' path.toList) := by
  rw [ofPath]
  split
  case h_1 rest hroot =>
    rw [hroot, start, if_pos (by rfl), splitAt_slash]
    rfl
  case h_2 hnone =>
    have hhead : path.toList.head? ≠ some '/' := by
      intro hhead
      obtain ⟨rest, hrest⟩ := List.head?_eq_some_iff.1 hhead
      exact hnone rest hrest
    rw [start, if_neg hhead]
    split
    case h_1 rest hpieces =>
      rw [hpieces, if_pos (by rfl)]
      rfl
    case h_2 pieces hnot =>
      rw [if_neg]
      · rfl
      · intro hpoint
        obtain ⟨rest, hrest⟩ := List.head?_eq_some_iff.1 hpoint
        exact hnot rest hrest

theorem start_append_slash (front back back' : List Char) :
    start (front ++ '/' :: back) = start (front ++ '/' :: back') := by
  have hpieces : ∀ rest : List Char,
      (splitAt '/' (front ++ '/' :: rest)).head? = (splitAt '/' front).head? := by
    intro rest
    rw [splitAt_append_slash, List.head?_append_of_ne_nil _ (splitAt_ne_nil '/' front)]
  rw [start, start, hpieces, hpieces]
  cases front <;> rfl

theorem start_append_ending {path : List Char} (hpath : path ≠ []) :
    start (path ++ ['/']) = start path := by
  rw [start, start, splitAt_append_slash, List.head?_append_of_ne_nil _ (splitAt_ne_nil '/' path),
    List.head?_append_of_ne_nil _ hpath]

/-- The parts do not depend on marks that add nothing. -/
theorem start_names_eq_of_addsMark {path path' : List Char} (h : AddsMark path path') :
    start path ++ names (splitAt '/' path) = start path' ++ names (splitAt '/' path') := by
  cases h with
  | slash front back =>
    rw [start_append_slash front back ('/' :: back), splitAt_append_slash, splitAt_append_slash,
      splitAt_slash, names_append, names_append]
    rfl
  | point front back =>
    rw [start_append_slash front back ('.' :: '/' :: back), splitAt_append_slash,
      splitAt_append_slash, splitAt_point, names_append, names_append]
    rfl
  | ending hpath =>
    rw [start_append_ending hpath, splitAt_append_slash, names_append]
    exact congrArg _ (List.append_nil _).symm

/-- **A path that is written differently** has the same parts. -/
theorem ofPath_eq_of_sameSpelling {path path' : String} (h : SameSpelling path path') :
    ofPath path = ofPath path' := by
  have hparts : ∀ cs cs' : List Char, Relation.EqvGen AddsMark cs cs' →
      start cs ++ names (splitAt '/' cs) = start cs' ++ names (splitAt '/' cs') := by
    intro cs cs' hcs
    induction hcs with
    | rel _ _ hmark => exact start_names_eq_of_addsMark hmark
    | refl _ => rfl
    | symm _ _ _ ih => exact ih.symm
    | trans _ _ _ _ _ ih ih' => exact ih.trans ih'
  rw [ofPath_eq, ofPath_eq]
  exact hparts _ _ h

end PathPart

namespace Mount

variable {mounts mounts' : List Mount} {path : String} {m n : Mount}

/-! ## The deepest mount -/

/-- The path lies in the mount, and in no mount that has more parts. -/
structure IsDeepest (mounts : List Mount) (path : String) (m : Mount) : Prop where
  mem : m ∈ mounts
  holds : m.parts <+: PathPart.ofPath path
  longest : ∀ n ∈ mounts, n.parts <+: PathPart.ofPath path → n.parts.length ≤ m.parts.length

/-- The mount has no say in where a path lies: the path does not lie in it, or lies deeper in
another one. -/
def IsIdle (mounts : List Mount) (path : String) (m : Mount) : Prop :=
  m.parts <+: PathPart.ofPath path →
    ∃ deepest, IsDeepest mounts path deepest ∧ m.parts.length < deepest.parts.length

/-- The fold comes out with the mount that it started with or a later one, and none of them has
more parts. -/
theorem exists_foldl_deeper (best : Mount) (mounts : List Mount) :
    ∃ m ∈ best :: mounts, mounts.foldl deeper (some best) = some m ∧
      ∀ n ∈ best :: mounts, n.parts.length ≤ m.parts.length := by
  induction mounts generalizing best with
  | nil => exact ⟨best, List.mem_cons_self, rfl, by simp⟩
  | cons next rest ih =>
    rw [List.foldl_cons, deeper]
    split
    case isTrue hle =>
      obtain ⟨m, hm, hfold, hmax⟩ := ih next
      refine ⟨m, List.mem_cons_of_mem _ hm, hfold, ?_⟩
      rw [List.forall_mem_cons]
      exact ⟨Nat.le_trans hle (hmax next List.mem_cons_self), hmax⟩
    case isFalse hgt =>
      obtain ⟨m, hm, hfold, hmax⟩ := ih best
      rw [List.forall_mem_cons] at hmax
      refine ⟨m, ?_, hfold, ?_⟩
      · rw [List.mem_cons] at hm ⊢
        exact hm.imp_right (List.mem_cons_of_mem _)
      · rw [List.forall_mem_cons, List.forall_mem_cons]
        exact ⟨hmax.1, Nat.le_trans (Nat.le_of_not_le hgt) hmax.1, hmax.2⟩

/-- **Some mount is found** exactly when the path lies in one, and the one that is found is the
deepest. -/
theorem holding?_cases (mounts : List Mount) (path : String) :
    (holding? mounts path = none ∧ ∀ m ∈ mounts, ¬ m.parts <+: PathPart.ofPath path) ∨
      ∃ m, holding? mounts path = some m ∧ IsDeepest mounts path m := by
  have hmem : ∀ m, m ∈ mounts.filter (fun m => PathPart.liesIn (PathPart.ofPath path) m.parts) ↔
      m ∈ mounts ∧ m.parts <+: PathPart.ofPath path := by
    intro m
    rw [List.mem_filter, PathPart.liesIn_iff]
  rw [holding?]
  cases hholds : mounts.filter (fun m => PathPart.liesIn (PathPart.ofPath path) m.parts) with
  | nil =>
    refine .inl ⟨rfl, fun m hm hfront => ?_⟩
    have hin := (hmem m).2 ⟨hm, hfront⟩
    rw [hholds] at hin
    exact List.not_mem_nil hin
  | cons first rest =>
    rw [hholds] at hmem
    obtain ⟨m, hm, hfold, hmax⟩ := exists_foldl_deeper first rest
    exact .inr ⟨m, hfold, ((hmem m).1 hm).1, ((hmem m).1 hm).2,
      fun n hn hfront => hmax n ((hmem n).2 ⟨hn, hfront⟩)⟩

theorem holding?_eq_none_iff :
    holding? mounts path = none ↔ ∀ m ∈ mounts, ¬ m.parts <+: PathPart.ofPath path := by
  obtain ⟨hnone, hno⟩ | ⟨m, hsome, hdeepest⟩ := holding?_cases mounts path
  · exact iff_of_true hnone hno
  · refine iff_of_false ?_ fun hno => hno m hdeepest.mem hdeepest.holds
    rw [hsome]
    nofun

theorem isDeepest_of_holding? (h : holding? mounts path = some m) : IsDeepest mounts path m := by
  obtain ⟨hnone, _⟩ | ⟨n, hsome, hdeepest⟩ := holding?_cases mounts path
  · rw [hnone] at h
    cases h
  · rw [hsome] at h
    exact Option.some.inj h ▸ hdeepest

/-- **There is no tie**: two starts of one path with the same number of parts are the same. -/
theorem IsDeepest.unique (hdistinct : (mounts.map parts).Nodup) (hm : IsDeepest mounts path m)
    (hn : IsDeepest mounts path n) : m = n := by
  have hlength : m.parts.length = n.parts.length :=
    Nat.le_antisymm (hn.longest m hm.mem hm.holds) (hm.longest n hn.mem hn.holds)
  have hfront : m.parts <+: n.parts :=
    List.prefix_of_prefix_length_le hm.holds hn.holds (Nat.le_of_eq hlength)
  exact List.inj_on_of_nodup_map hdistinct hm.mem hn.mem (hfront.eq_of_length hlength)

/-- **The mount that is found** is the deepest one, if the mount points are all different. -/
theorem holding?_eq_some_iff (hdistinct : (mounts.map parts).Nodup) :
    holding? mounts path = some m ↔ IsDeepest mounts path m := by
  refine ⟨isDeepest_of_holding?, fun hdeepest => ?_⟩
  obtain ⟨_, hno⟩ | ⟨n, hsome, hn⟩ := holding?_cases mounts path
  · exact absurd hdeepest.holds (hno m hdeepest.mem)
  · rw [hsome, hn.unique hdistinct hdeepest]

/-! ## Mounts that have no say -/

/-- A mount that comes or goes has no say. -/
def SameButIdle (mounts mounts' : List Mount) (path : String) : Prop :=
  ∀ m, (m ∈ mounts ∧ m ∉ mounts') ∨ (m ∈ mounts' ∧ m ∉ mounts) → IsIdle mounts path m

theorem SameButIdle.mem_of_isDeepest (h : SameButIdle mounts mounts' path)
    (hm : IsDeepest mounts path m) : m ∈ mounts' := by
  refine Classical.byContradiction fun hgone => ?_
  obtain ⟨deepest, hdeepest, hlt⟩ := h m (.inl ⟨hm.mem, hgone⟩) hm.holds
  exact absurd (hm.longest deepest hdeepest.mem hdeepest.holds) (Nat.not_le_of_lt hlt)

theorem SameButIdle.isDeepest (h : SameButIdle mounts mounts' path)
    (hm : IsDeepest mounts' path m) : IsDeepest mounts path m := by
  -- No mount of before has more parts: it is still there, or another one above it is.
  have hlongest : ∀ n ∈ mounts, n.parts <+: PathPart.ofPath path →
      n.parts.length ≤ m.parts.length := by
    intro n hn hfront
    by_cases hkept : n ∈ mounts'
    · exact hm.longest n hkept hfront
    · obtain ⟨deepest, hdeepest, hlt⟩ := h n (.inl ⟨hn, hkept⟩) hfront
      exact Nat.le_of_lt (Nat.lt_of_lt_of_le hlt
        (hm.longest deepest (h.mem_of_isDeepest hdeepest) hdeepest.holds))
  refine ⟨Classical.byContradiction fun hcame => ?_, hm.holds, hlongest⟩
  obtain ⟨deepest, hdeepest, hlt⟩ := h m (.inr ⟨hm.mem, hcame⟩) hm.holds
  exact absurd (hlongest deepest hdeepest.mem hdeepest.holds) (Nat.not_le_of_lt hlt)

/-- **Mounts that have no say** can come and go. -/
theorem holding?_of_idle (hdistinct : (mounts.map parts).Nodup)
    (h : SameButIdle mounts mounts' path) : holding? mounts' path = holding? mounts path := by
  cases hfound : holding? mounts' path with
  | some m =>
    exact ((holding?_eq_some_iff hdistinct).2 (h.isDeepest (isDeepest_of_holding? hfound))).symm
  | none =>
    cases hbefore : holding? mounts path with
    | none => rfl
    | some m =>
      have hdeepest := isDeepest_of_holding? hbefore
      exact absurd hdeepest.holds
        (holding?_eq_none_iff.1 hfound m (h.mem_of_isDeepest hdeepest))

theorem holding?_of_perm (hdistinct : (mounts.map parts).Nodup) (h : mounts'.Perm mounts) :
    holding? mounts' path = holding? mounts path :=
  holding?_of_idle hdistinct fun _ hdiffers => by
    obtain ⟨hm, hno⟩ | ⟨hm, hno⟩ := hdiffers
    · exact absurd (h.mem_iff.2 hm) hno
    · exact absurd (h.mem_iff.1 hm) hno

end Mount

/-! ## The usage of a path -/

section

variable {mounts mounts' : List Mount} {path path' : String}

theorem diskUsage?_eq_none_iff :
    diskUsage? mounts path = none ↔ ∀ m ∈ mounts, ¬ m.parts <+: PathPart.ofPath path := by
  rw [diskUsage?, Option.map_eq_none_iff, Mount.holding?_eq_none_iff]

/-- **The numbers of a mount**: its own total and what is available on it, with the used bytes as
the rest of the total, and nothing used where more is available than there is. -/
structure Mount.Shows (m : Mount) (path : String) (u : DiskUsage) : Prop where
  path_eq : u.path = path
  total_eq : u.totalBytes = m.totalBytes
  free_eq : u.freeBytes = m.availableBytes
  used_add_min :
    u.usedBytes.toNat + min m.availableBytes.toNat m.totalBytes.toNat = m.totalBytes.toNat
  percent_eq : u.usedPercent =
    if m.totalBytes = 0 then 0.0 else u.usedBytes.toFloat / m.totalBytes.toFloat * 100.0

theorem Mount.shows_usage (m : Mount) (path : String) : m.Shows path (m.usage path) where
  path_eq := rfl
  total_eq := rfl
  free_eq := rfl
  used_add_min := usedBytes_add_min m.totalBytes m.availableBytes
  percent_eq := rfl

theorem Mount.Shows.usedBytes_eq {m : Mount} {u : DiskUsage} (h : m.Shows path u) (used : UInt64)
    (hused : used.toNat + min m.availableBytes.toNat m.totalBytes.toNat = m.totalBytes.toNat) :
    u.usedBytes = used :=
  UInt64.toNat_inj.1 (Nat.add_right_cancel (h.used_add_min.trans hused.symm))

/-- A usage shows the numbers of some deepest mount. -/
theorem exists_shows_of_diskUsage? {u : DiskUsage} (h : diskUsage? mounts path = some u) :
    ∃ m, Mount.IsDeepest mounts path m ∧ m.Shows path u := by
  rw [diskUsage?, Option.map_eq_some_iff] at h
  obtain ⟨m, hfound, rfl⟩ := h
  exact ⟨m, Mount.isDeepest_of_holding? hfound, m.shows_usage path⟩

/-- A path that is written differently has the same usage, shown for the other text. -/
theorem diskUsage?_of_sameSpelling (h : PathPart.SameSpelling path path') :
    diskUsage? mounts path' =
      (diskUsage? mounts path).map fun u => { u with path := path' } := by
  rw [diskUsage?, diskUsage?, Mount.holding?, Mount.holding?,
    PathPart.ofPath_eq_of_sameSpelling h, Option.map_map]
  rfl

/-- **The usage of a path** is there exactly when the path lies in some mount, shows the numbers of
a deepest one, and does not depend on how the path is written.  If the mount points are all
different there is one deepest mount, whose numbers are shown whatever the order of the mounts, and
mounts that have no say can come and go. -/
theorem diskUsage?_of_deepest (mounts : List Mount) (path : String) :
    (diskUsage? mounts path = none ↔ ∀ m ∈ mounts, ¬ m.parts <+: PathPart.ofPath path) ∧
      (∀ u, diskUsage? mounts path = some u →
        ∃ m, Mount.IsDeepest mounts path m ∧ m.Shows path u) ∧
      (∀ path', PathPart.SameSpelling path path' →
        diskUsage? mounts path' =
          (diskUsage? mounts path).map fun u => { u with path := path' }) ∧
      ((mounts.map Mount.parts).Nodup →
        ((∃ m ∈ mounts, m.parts <+: PathPart.ofPath path) →
          ∃! m, Mount.IsDeepest mounts path m) ∧
        (∀ m, Mount.IsDeepest mounts path m →
          ∃ u, diskUsage? mounts path = some u ∧ m.Shows path u) ∧
        (∀ mounts', mounts'.Perm mounts → diskUsage? mounts' path = diskUsage? mounts path) ∧
        ∀ mounts', Mount.SameButIdle mounts mounts' path →
          diskUsage? mounts' path = diskUsage? mounts path) := by
  refine ⟨diskUsage?_eq_none_iff, fun u => exists_shows_of_diskUsage?,
    fun path' => diskUsage?_of_sameSpelling, fun hdistinct => ⟨?_, ?_, ?_, ?_⟩⟩
  · rintro ⟨m, hm, hfront⟩
    obtain ⟨_, hno⟩ | ⟨n, _, hdeepest⟩ := Mount.holding?_cases mounts path
    · exact absurd hfront (hno m hm)
    · exact ⟨n, hdeepest, fun _ hother => hother.unique hdistinct hdeepest⟩
  · intro m hdeepest
    have hfound := (Mount.holding?_eq_some_iff hdistinct).2 hdeepest
    exact ⟨m.usage path, by rw [diskUsage?, hfound, Option.map_some], m.shows_usage path⟩
  · intro mounts' hperm
    rw [diskUsage?, diskUsage?, Mount.holding?_of_perm hdistinct hperm]
  · intro mounts' hsame
    rw [diskUsage?, diskUsage?, Mount.holding?_of_idle hdistinct hsame]

/-- A log on the root file system, and a directory beside a mount whose name it starts with, on a
file system that claims to have more room than there is.  A mount of that other name has no say,
wherever it is listed. -/
theorem diskUsage?_of_deepest_database :
    let root : Mount := ⟨"/", 1000, 600⟩
    let data : Mount := ⟨"/data/.", 200, 300⟩
    let db : Mount := ⟨"/data/db", 50, 5⟩
    let numbers : DiskUsage → UInt64 × UInt64 × UInt64 :=
      fun u => (u.totalBytes, u.usedBytes, u.freeBytes)
    ([root, data].map Mount.parts).Nodup ∧
      (diskUsage? [root, data] "/var/log").map numbers = some (1000, 400, 600) ∧
      (diskUsage? [db, data, root] "/data/database").map numbers = some (200, 0, 300) ∧
      (diskUsage? [root, data] "//data/database").map numbers = some (200, 0, 300) := by
  intro root data db numbers
  have hdistinct : ([root, data].map Mount.parts).Nodup := by decide +kernel
  obtain ⟨_, _, _, hlog⟩ := diskUsage?_of_deepest [root, data] "/var/log"
  obtain ⟨_, _, hspelling, hdatabase⟩ := diskUsage?_of_deepest [root, data] "/data/database"
  obtain ⟨_, hlogUsage, _⟩ := hlog hdistinct
  obtain ⟨_, husage, _, hidle⟩ := hdatabase hdistinct
  have hroot : Mount.IsDeepest [root, data] "/var/log" root :=
    ⟨by decide, by decide +kernel, by decide +kernel⟩
  have hdata : Mount.IsDeepest [root, data] "/data/database" data :=
    ⟨by decide, by decide +kernel, by decide +kernel⟩
  have hsame : Mount.SameButIdle [root, data] [db, data, root] "/data/database" := by
    rintro m (⟨hm, hno⟩ | ⟨hm, hno⟩)
    · exact absurd (List.mem_cons_of_mem db (List.mem_reverse.2 hm)) hno
    · rcases List.mem_cons.1 hm with rfl | hm
      · exact fun hfront => absurd hfront (by decide +kernel)
      · exact absurd (List.mem_reverse.2 hm) hno
  have hslash : PathPart.SameSpelling "/data/database" "//data/database" :=
    .rel _ _ (.slash [] "data/database".toList)
  obtain ⟨u, hu, hshows⟩ := hlogUsage root hroot
  obtain ⟨v, hv, hshown⟩ := husage data hdata
  have hlogUsed : u.usedBytes = 400 := hshows.usedBytes_eq 400 (by decide)
  have hused : v.usedBytes = 0 := hshown.usedBytes_eq 0 (by decide)
  have hlogNumbers : numbers u = (1000, 400, 600) := by
    simp only [numbers, hshows.total_eq, hshows.free_eq, hlogUsed, root]
  have hnumbers : numbers v = (200, 0, 300) := by
    simp only [numbers, hshown.total_eq, hshown.free_eq, hused, data]
  refine ⟨hdistinct, ?_, ?_, ?_⟩
  · rw [hu, Option.map_some, hlogNumbers]
  · rw [hidle _ hsame, hv, Option.map_some, hnumbers]
  · rw [hspelling _ hslash, hv, Option.map_some, Option.map_some]
    exact congrArg some hnumbers

end

end HostWatch
