import Mathlib.Data.List.Forall2
import HostWatch.Docker.Listing
import HostWatch.Proofs.Text.Utf8
set_option autoImplicit false

/-!
# Docker: what a list of containers gives

The list of containers comes as bytes, one line for each container, and every line stands for
itself: it is read apart from the others (`parseList_decodeLossy`), and the details that go with
it are had by a command of its own.  So a line that cannot be read, or details that cannot be
had, touch no other container (`list_reports_lines`).
-/

namespace HostWatch.Docker

open HostWatch.Text
open HostWatch.Time (Instant)

/-! ## Lines -/

/-- The container that a line of the list describes. -/
def described? (line : List Char) : Option Line := Line.ofText? (String.ofList (trimChars line))

/-- The containers that the lines of a list describe, in the order of the lines.  The list and its
lines are bytes. -/
def listed (stdout : List UInt8) : List Line :=
  (stdout.splitOn 0x0A).filterMap fun line => described? (decodeLossy line).toList

/-- The line is blank, or describes no container. -/
def isJunk (line : List UInt8) : Bool :=
  isAllBlank (decodeLossy line) || (described? (decodeLossy line).toList).isNone

theorem Line.ofText?_empty : Line.ofText? "" = none := by
  decide +kernel

theorem described?_of_all_isBlank {line : List Char} (h : line.all isBlank = true) :
    described? line = none := by
  rw [described?, trimChars_of_all_isBlank h]
  exact Line.ofText?_empty

theorem described?_of_isJunk {line : List UInt8} (h : isJunk line = true) :
    described? (decodeLossy line).toList = none := by
  rw [isJunk, Bool.or_eq_true, Option.isNone_iff_eq_none] at h
  exact h.elim described?_of_all_isBlank id

theorem filterMap_filter_of_eq_none {α β : Type} {f : α → Option β} {p : α → Bool}
    (h : ∀ a, p a = false → f a = none) (xs : List α) :
    (xs.filter p).filterMap f = xs.filterMap f := by
  rw [List.filterMap_filter]
  refine List.filterMap_congr fun a _ => ?_
  cases hp : p a with
  | false => exact (h a hp).symm
  | true => rfl

theorem listed_eq_filterMap_filter (stdout : List UInt8) :
    listed stdout = ((stdout.splitOn 0x0A).filter (! isJunk ·)).filterMap fun line =>
      described? (decodeLossy line).toList := by
  refine (filterMap_filter_of_eq_none (fun line hjunk => ?_) _).symm
  rw [Bool.not_eq_false'] at hjunk
  exact described?_of_isJunk hjunk

/-! ## Reading line by line -/

theorem filterMap_ofText?_filter (texts : List String) :
    (texts.filter (! ·.isEmpty)).filterMap Line.ofText? = texts.filterMap Line.ofText? := by
  refine filterMap_filter_of_eq_none (fun text hempty => ?_) texts
  rw [Bool.not_eq_false', String.isEmpty_iff] at hempty
  rw [hempty, Line.ofText?_empty]

theorem filterMap_described?_filter (last : List (List Char)) :
    (last.filter (! ·.isEmpty)).filterMap described? = last.filterMap described? := by
  refine filterMap_filter_of_eq_none (fun line hempty => ?_) last
  rw [Bool.not_eq_false', List.isEmpty_iff] at hempty
  rw [hempty, described?_of_all_isBlank rfl]

/-- Whether a carriage return ends a line does not matter. -/
theorem described?_dropLast_return (line : List Char) :
    described? (if line.getLast? = some '\r' then line.dropLast else line) = described? line := by
  split
  · rename_i hlast
    obtain ⟨front, rfl⟩ := List.getLast?_eq_some_iff.1 hlast
    rw [described?, described?, List.dropLast_concat,
      trimChars_append_blank (show isBlank '\r' = true from rfl)]
  · rfl

/-- A list is read line by line, the part after its last line feed included. -/
theorem parseList_eq_filterMap_splitOn (output : String) :
    parseList output = (output.toList.splitOn '\n').filterMap described? := by
  have hread : ∀ line, Line.ofText? (trim (String.ofList line)) = described? line := by
    intro line
    rw [trim, String.toList_ofList, described?]
  obtain ⟨ended, last, hlines⟩ :=
    (List.eq_nil_or_concat' (output.toList.splitOn '\n')).resolve_left (List.splitOn_ne_nil _ _)
  rw [parseList, filledLines, filterMap_ofText?_filter, lines, splitAt_eq_splitOn, hlines]
  simp only [List.dropLast_concat, List.getLast?_concat, Option.toList_some, List.map_map,
    List.filterMap_map, List.filterMap_append, Function.comp_def, hread,
    described?_dropLast_return]
  rw [filterMap_described?_filter]

/-- **The lines of a list** are read from their bytes, each by itself. -/
theorem parseList_decodeLossy (stdout : List UInt8) :
    parseList (decodeLossy stdout) = listed stdout := by
  simp only [parseList_eq_filterMap_splitOn, splitOn_decodeLossy, List.filterMap_map,
    Function.comp_def, listed]

/-! ## Selection -/

/-- A name is selected by itself, or by what follows its slash, and every name by no names. -/
def Selects (names : List String) (name : String) : Prop :=
  names = [] ∨ name ∈ names ∨ ∃ bare ∈ names, name = "/" ++ bare

instance (names : List String) (name : String) : Decidable (Selects names name) :=
  inferInstanceAs (Decidable (_ ∨ _ ∨ _))

theorem wanted_eq_decide_selects (names : List String) (name : String) :
    wanted names name = decide (Selects names name) := by
  rw [Bool.eq_iff_iff, decide_eq_true_iff, wanted, Selects, Bool.or_eq_true, List.isEmpty_iff,
    List.any_eq_true]
  refine or_congr_right ?_
  simp only [Bool.or_eq_true, beq_iff_eq, and_or_left, exists_or, exists_eq_right']

theorem wantedLines_decodeLossy (names : List String) (stdout : List UInt8) :
    wantedLines names (decodeLossy stdout) = (listed stdout).filter (Selects names ·.name) := by
  simp only [wantedLines, parseList_decodeLossy, wanted_eq_decide_selects]

/-! ## Samples -/

/-- **The samples** of a list that could be had. -/
theorem list_of_listed {runner : Runner} {stdout stderr : List UInt8}
    (h : runner listArgs = .ok ⟨stdout, stderr, 0⟩) (names : List String) (now : Instant) :
    list runner names now =
      .ok (((listed stdout).filter (Selects names ·.name)).map fun l =>
        sampleOf l (knownDetails runner l.id) now) := by
  have hrun : run runner listArgs = .ok (decodeLossy stdout) := by
    simp only [run, show argumentFault? listArgs = none from rfl, h, if_true]
  rw [list, hrun, Except.map, wantedLines_decodeLossy]

/-- What a sample has from the line of its container. -/
structure Reports (line : Line) (c : ContainerSample) : Prop where
  id : c.id = line.id
  name : c.name = line.name
  status : c.status = line.status
  state : c.state = line.state
  running : c.running = true ↔ "running".toList <:+: line.state.toList

theorem reports_sampleOf (line : Line) (d : Details) (now : Instant) :
    Reports line (sampleOf line d now) where
  id := rfl
  name := rfl
  status := rfl
  state := rfl
  running := contains_iff

theorem knownDetails_of_error {runner : Runner} {id : String} {f : Fault}
    (h : details runner id = .error f) : knownDetails runner id = Details.none := by
  rw [knownDetails, h]

theorem knownDetails_congr {runner other : Runner} {id : String}
    (h : details other id = details runner id) :
    knownDetails other id = knownDetails runner id := by
  rw [knownDetails, knownDetails, h]

/-- **Every line that describes a selected container** gives one sample, in the order of the
lines.  Its details are those of the container or, when they cannot be had, none; all else is
from the line.  A list whose lines are the same but for junk, with other answers about the
containers, gives samples for the same containers; only the details of a sample can be other
ones, and they are the same where the answer is, and none where it is a failure. -/
theorem list_reports_lines {runner : Runner} {stdout stderr : List UInt8}
    (h : runner listArgs = .ok ⟨stdout, stderr, 0⟩) (names : List String) (now : Instant) :
    ∃ samples, list runner names now = .ok samples ∧
      List.Forall₂ (fun line c => Reports line c ∧
          ∀ d, details runner line.id = .ok d → ⟨c.restarts, c.exitCode, c.error⟩ = d)
        ((listed stdout).filter (Selects names ·.name)) samples ∧
      ∀ (other : Runner) (stdout' stderr' : List UInt8),
        other listArgs = .ok ⟨stdout', stderr', 0⟩ →
        (stdout'.splitOn 0x0A).filter (! isJunk ·) = (stdout.splitOn 0x0A).filter (! isJunk ·) →
        ∃ samples', list other names now = .ok samples' ∧
          List.Forall₂ (fun c c' =>
            c' = { c with restarts := c'.restarts, exitCode := c'.exitCode, error := c'.error } ∧
            (details other c.id = details runner c.id → c' = c) ∧
            ∀ f, details other c.id = .error f →
              c' = { c with restarts := 0, exitCode := 0, error := none }) samples samples' := by
  refine ⟨_, list_of_listed h names now, ?_, ?_⟩
  · refine List.forall₂_map_right_iff.2 (List.forall₂_same.2 fun line _ => ?_)
    refine ⟨reports_sampleOf _ _ _, fun d hd => ?_⟩
    rw [knownDetails, hd]
    rfl
  · intro other stdout' stderr' hother hsame
    have hlisted : listed stdout' = listed stdout := by
      rw [listed_eq_filterMap_filter, listed_eq_filterMap_filter, hsame]
    rw [list_of_listed hother, hlisted]
    refine ⟨_, rfl, ?_⟩
    refine List.forall₂_map_left_iff.2 (List.forall₂_map_right_iff.2
      (List.forall₂_same.2 fun line _ => ⟨rfl, fun hdetails => ?_, fun f hf => ?_⟩))
    · have hknown : knownDetails other line.id = knownDetails runner line.id :=
        knownDetails_congr hdetails
      rw [hknown]
    · have hknown : knownDetails other line.id = Details.none := knownDetails_of_error hf
      rw [hknown]
      rfl

/-! ## A list with junk in it -/

/-- A runtime that prints a list, and an answer about every container but those that fail. -/
def scripted (listing answer : String) (failing : List String) : Runner := fun args =>
  if args = listArgs then .ok ⟨listing.toUTF8.toList, [], 0⟩
  else if failing.any fun id => args == inspectArgs id then .ok ⟨"[]".toUTF8.toList, [], 0⟩
  else .ok ⟨answer.toUTF8.toList, [], 0⟩

/-- Two containers, one of them with a slash in front of its name. -/
def twoLines : String :=
  "\x7b\"ID\":\"a1\",\"Names\":\"/web\",\"State\":\"running\"\x7d\n" ++
    "\x7b\"ID\":\"b2\",\"Names\":\"db\"\x7d\n"

/-- The same lines among blank lines and lines that describe no container. -/
def twoLinesAmongJunk : String :=
  "\r\n\x7b\"ID\":\"a1\",\"Names\":\"/web\",\"State\":\"running\"\x7d\nnot json\n \t\n" ++
    "\x7b\"ID\":\"b2\",\"Names\":\"db\"\x7d\n[1]"

/-- Junk in the list and a container without details change the details of that container. -/
theorem list_reports_lines_among_junk :
    let answer := "[\x7b\"RestartCount\":3\x7d]"
    let runner := scripted twoLines answer []
    let other := scripted twoLinesAmongJunk answer ["a1"]
    let names := ["web", "db"]
    runner listArgs = .ok ⟨twoLines.toUTF8.toList, [], 0⟩ ∧
    other listArgs = .ok ⟨twoLinesAmongJunk.toUTF8.toList, [], 0⟩ ∧
    (twoLinesAmongJunk.toUTF8.toList.splitOn 0x0A).filter (! isJunk ·) =
      (twoLines.toUTF8.toList.splitOn 0x0A).filter (! isJunk ·) ∧
    (∃ f, details other "a1" = .error f) ∧
    ((listed twoLines.toUTF8.toList).filter (Selects names ·.name)).map Line.id = ["a1", "b2"] ∧
    ∃ samples samples', list runner names ⟨0, 0⟩ = .ok samples ∧
      list other names ⟨0, 0⟩ = .ok samples' ∧
      List.Forall₂ (fun line c => Reports line c ∧
          ∀ d, details runner line.id = .ok d → ⟨c.restarts, c.exitCode, c.error⟩ = d)
        ((listed twoLines.toUTF8.toList).filter (Selects names ·.name)) samples ∧
      List.Forall₂ (fun c c' =>
        c' = { c with restarts := c'.restarts, exitCode := c'.exitCode, error := c'.error } ∧
        (details other c.id = details runner c.id → c' = c) ∧
        ∀ f, details other c.id = .error f →
          c' = { c with restarts := 0, exitCode := 0, error := none }) samples samples' := by
  intro answer runner other names
  have hsame : (twoLinesAmongJunk.toUTF8.toList.splitOn 0x0A).filter (! isJunk ·) =
      (twoLines.toUTF8.toList.splitOn 0x0A).filter (! isJunk ·) := by
    decide +kernel
  have hfails : details other "a1" = .error (.containers "no container info found") := by
    decide +kernel
  have hrunner : runner listArgs = .ok ⟨twoLines.toUTF8.toList, [], 0⟩ := rfl
  have hother : other listArgs = .ok ⟨twoLinesAmongJunk.toUTF8.toList, [], 0⟩ := rfl
  obtain ⟨samples, hlist, hlines, hothers⟩ := list_reports_lines hrunner names ⟨0, 0⟩
  obtain ⟨samples', hlist', hsamples⟩ := hothers other _ _ hother hsame
  exact ⟨hrunner, hother, hsame, ⟨_, hfails⟩, by decide +kernel, samples, samples', hlist, hlist',
    hlines, hsamples⟩

end HostWatch.Docker
