import Mathlib.Data.List.Basic
import HostWatch.Alert.Notice
import HostWatch.Proofs.Time.Timestamp
set_option autoImplicit false

/-!
# Alerts: the message in HTML

The message to a chat holds two texts from elsewhere, the subject and the words of the alert, and
neither can be taken for markup (`AlertEvent.htmlMessage?_marks_up`).  Escaping is three
replacements one after the other, and comes to one pass over the text (`toList_escapeHtml`): the
later replacements meet no character that the earlier ones wrote.  So a reader who decodes the
three entities in one pass gets every text back, one that is made of entities included
(`unescape_escapeHtml`).

A message ends with the time in its long form, and there is none for an event whose time has no
long form.
-/

namespace HostWatch

open HostWatch.Time (Instant)

/-! ## Escaping in one pass -/

/-- How a character is written. -/
def entity (c : Char) : List Char :=
  if c = '&' then "&amp;".toList
  else if c = '<' then "&lt;".toList
  else if c = '>' then "&gt;".toList
  else [c]

theorem entity_of_ne {c : Char} (hamp : c ≠ '&') (hlt : c ≠ '<') (hgt : c ≠ '>') :
    entity c = [c] := by
  rw [entity, if_neg hamp, if_neg hlt, if_neg hgt]

/-- **Three replacements** write every character by itself: none of them meets what another one
wrote. -/
theorem toList_escapeHtml (s : String) : (escapeHtml s).toList = s.toList.flatMap entity := by
  simp only [escapeHtml, replaceChar, String.toList_ofList, List.flatMap_assoc]
  refine List.flatMap_congr fun c _ => ?_
  by_cases hamp : c = '&'
  · subst hamp
    rfl
  by_cases hlt : c = '<'
  · subst hlt
    rfl
  by_cases hgt : c = '>'
  · subst hgt
    rfl
  · simp [entity_of_ne hamp hlt hgt, hamp, hlt, hgt]

/-! ## Decoding -/

/-- A text with its entities decoded, in one pass from the front. -/
def unescape : List Char → List Char
  | '&' :: 'a' :: 'm' :: 'p' :: ';' :: cs => '&' :: unescape cs
  | '&' :: 'l' :: 't' :: ';' :: cs => '<' :: unescape cs
  | '&' :: 'g' :: 't' :: ';' :: cs => '>' :: unescape cs
  | c :: cs => c :: unescape cs
  | [] => []

theorem unescape_cons_of_ne {c : Char} (h : c ≠ '&') (cs : List Char) :
    unescape (c :: cs) = c :: unescape cs := by
  rw [unescape] <;> simp_all

/-- A character is decoded from what is written for it, whatever comes after it. -/
theorem unescape_entity_append (c : Char) (cs : List Char) :
    unescape (entity c ++ cs) = c :: unescape cs := by
  by_cases hamp : c = '&'
  · subst hamp
    rfl
  by_cases hlt : c = '<'
  · subst hlt
    rfl
  by_cases hgt : c = '>'
  · subst hgt
    rfl
  · rw [entity_of_ne hamp hlt hgt, List.singleton_append, unescape_cons_of_ne hamp]

/-- **Decoding** gives back every text. -/
theorem unescape_escapeHtml (s : String) : unescape (escapeHtml s).toList = s.toList := by
  rw [toList_escapeHtml]
  induction s.toList with
  | nil => rfl
  | cons c cs ih => rw [List.flatMap_cons, unescape_entity_append, ih]

/-! ## Escaped texts -/

/-- There is no markup in the text, and every ampersand in it begins an entity. -/
structure Escaped (cs : List Char) : Prop where
  no_opening : '<' ∉ cs
  no_closing : '>' ∉ cs
  entity_of_ampersand : ∀ front back, cs = front ++ '&' :: back →
    "amp;".toList <+: back ∨ "lt;".toList <+: back ∨ "gt;".toList <+: back

theorem escaped_nil : Escaped [] where
  no_opening := List.not_mem_nil
  no_closing := List.not_mem_nil
  entity_of_ampersand := by
    intro front back h
    exact absurd h.symm (List.append_ne_nil_of_right_ne_nil _ (List.cons_ne_nil _ _))

theorem Escaped.append {cs ds : List Char} (hcs : Escaped cs) (hds : Escaped ds) :
    Escaped (cs ++ ds) where
  no_opening := by
    rw [List.mem_append, not_or]
    exact ⟨hcs.no_opening, hds.no_opening⟩
  no_closing := by
    rw [List.mem_append, not_or]
    exact ⟨hcs.no_closing, hds.no_closing⟩
  entity_of_ampersand := by
    intro front back h
    -- The ampersand stands in the first text, whose entities end within it, or in the second.
    obtain ⟨mid, rfl, hback⟩ | ⟨mid, hfront, hds'⟩ := List.append_eq_append_iff.1 h
    · exact hds.entity_of_ampersand mid back hback
    · cases mid with
      | nil =>
        exact hds.entity_of_ampersand [] back hds'.symm
      | cons c mid =>
        obtain ⟨rfl, rfl⟩ := List.cons.inj hds'
        obtain hamp | hlt | hgt := hcs.entity_of_ampersand front mid hfront
        · exact .inl (hamp.trans (List.prefix_append _ _))
        · exact .inr (.inl (hlt.trans (List.prefix_append _ _)))
        · exact .inr (.inr (hgt.trans (List.prefix_append _ _)))

/-- The characters that HTML gives no meaning. -/
def isInert (c : Char) : Bool := c ≠ '&' && c ≠ '<' && c ≠ '>'

theorem not_mem_of_all_isInert {cs : List Char} (h : cs.all isInert = true) :
    '&' ∉ cs ∧ '<' ∉ cs ∧ '>' ∉ cs := by
  rw [List.all_eq_true] at h
  exact ⟨fun hc => Bool.false_ne_true (h _ hc), fun hc => Bool.false_ne_true (h _ hc),
    fun hc => Bool.false_ne_true (h _ hc)⟩

theorem escaped_of_inert {cs : List Char} (h : cs.all isInert = true) : Escaped cs where
  no_opening := (not_mem_of_all_isInert h).2.1
  no_closing := (not_mem_of_all_isInert h).2.2
  entity_of_ampersand := by
    rintro front back rfl
    exact absurd (List.mem_append_right _ List.mem_cons_self) (not_mem_of_all_isInert h).1

theorem escaped_of_entity {cs : List Char} (hinert : cs.all isInert = true)
    (h : "amp;".toList <+: cs ∨ "lt;".toList <+: cs ∨ "gt;".toList <+: cs) :
    Escaped ('&' :: cs) where
  no_opening := by simp [(not_mem_of_all_isInert hinert).2.1]
  no_closing := by simp [(not_mem_of_all_isInert hinert).2.2]
  entity_of_ampersand := by
    intro front back heq
    cases front with
    | nil =>
      obtain rfl := (List.cons.inj heq).2
      exact h
    | cons c front =>
      have hamp := (not_mem_of_all_isInert hinert).1
      rw [(List.cons.inj heq).2] at hamp
      exact absurd (List.mem_append_right _ List.mem_cons_self) hamp

theorem escaped_entity (c : Char) : Escaped (entity c) := by
  by_cases hamp : c = '&'
  · subst hamp
    exact escaped_of_entity rfl (.inl (List.prefix_refl _))
  by_cases hlt : c = '<'
  · subst hlt
    exact escaped_of_entity rfl (.inr (.inl (List.prefix_refl _)))
  by_cases hgt : c = '>'
  · subst hgt
    exact escaped_of_entity rfl (.inr (.inr (List.prefix_refl _)))
  · rw [entity_of_ne hamp hlt hgt]
    exact escaped_of_inert (by simp [isInert, hamp, hlt, hgt])

/-- **What is escaped** holds no markup. -/
theorem escaped_escapeHtml (s : String) : Escaped (escapeHtml s).toList := by
  rw [toList_escapeHtml]
  induction s.toList with
  | nil => exact escaped_nil
  | cons c cs ih =>
    rw [List.flatMap_cons]
    exact (escaped_entity c).append ih

/-! ## Times -/

namespace Time

theorem escaped_of_isDigit {cs : List Char} (h : ∀ c ∈ cs, c.isDigit = true) : Escaped cs := by
  refine escaped_of_inert (List.all_eq_true.2 fun c hc => ?_)
  have hdigit := h c hc
  simp only [isInert, Bool.and_eq_true, decide_eq_true_eq]
  refine ⟨⟨?_, ?_⟩, ?_⟩ <;> rintro rfl <;> cases hdigit

theorem escaped_padded (width n : Nat) : Escaped (padded width n).toList :=
  escaped_of_isDigit fun _ => isDigit_of_mem_padded

theorem escaped_repr (n : Nat) : Escaped n.repr.toList := by
  rw [Nat.toList_repr]
  exact escaped_of_isDigit fun _ => Nat.isDigit_of_mem_toDigits (by decide) (by decide)

theorem escaped_getD {words : List String}
    (h : words.all (fun word => word.toList.all isInert) = true) (i : Nat) :
    Escaped (words.getD i "").toList := by
  rw [List.getD_eq_getElem?_getD]
  cases hword : words[i]? with
  | none => exact escaped_nil
  | some word => exact escaped_of_inert (List.all_eq_true.1 h word (List.mem_of_getElem? hword))

theorem escaped_clockText (r : Reading) : Escaped (clockText r).toList := by
  have hcolon : Escaped ":".toList := escaped_of_inert rfl
  simp only [clockText, String.toList_append]
  exact ((((escaped_padded _ _).append hcolon).append (escaped_padded _ _)).append hcolon).append
    (escaped_padded _ _)

/-- **The long form** of a time is no markup. -/
theorem escaped_of_longForm? {t : Instant} {time : String} (h : t.longForm? = some time) :
    Escaped time.toList := by
  have hweekday : ∀ i, Escaped (weekdays.getD i "").toList := escaped_getD rfl
  have hmonth : ∀ i, Escaped (months.getD i "").toList := escaped_getD rfl
  have hcomma : Escaped ", ".toList := escaped_of_inert rfl
  have hblank : Escaped " ".toList := escaped_of_inert rfl
  have hzone : Escaped " +0000".toList := escaped_of_inert rfl
  rw [Instant.longForm?] at h
  split at h
  · cases h
  · obtain rfl := Option.some.inj h
    simp only [String.toList_append]
    have hdate := fun i n => (((hweekday i).append hcomma).append (escaped_repr n)).append hblank
    exact ((((((hdate _ _).append (hmonth _)).append hblank).append (escaped_padded _ _)).append
      hblank).append (escaped_clockText _)).append hzone

/-- The years of the long form. -/
theorem Instant.exists_longForm?_iff (t : Instant) :
    (∃ time, t.longForm? = some time) ↔
      0 ≤ t.reading.date.year ∧ t.reading.date.year ≤ 9999 := by
  rw [longForm?]
  split
  · rename_i hout
    simp only [Bool.or_eq_true, decide_eq_true_eq] at hout
    constructor
    · rintro ⟨_, hnone⟩
      cases hnone
    · omega
  · rename_i hin
    simp only [Bool.or_eq_true, decide_eq_true_eq] at hin
    exact ⟨fun _ => by omega, fun _ => ⟨_, rfl⟩⟩

end Time

/-! ## The message -/

/-- Around an escaped title and before an escaped text, the tags are the only markup. -/
theorem count_tagged {title tail : List Char} (htitle : Escaped title) (htail : Escaped tail) :
    ("<b>".toList ++ title ++ "</b>\n\nMessage: ".toList ++ tail).count '<' = 2 ∧
      ("<b>".toList ++ title ++ "</b>\n\nMessage: ".toList ++ tail).count '>' = 2 := by
  simp only [List.count_append, List.count_eq_zero_of_not_mem htitle.no_opening,
    List.count_eq_zero_of_not_mem htitle.no_closing,
    List.count_eq_zero_of_not_mem htail.no_opening,
    List.count_eq_zero_of_not_mem htail.no_closing]
  decide

namespace AlertEvent

/-- **The message in HTML** of an event whose time has a long form.  Its only tags are the pair
around the title.  The title and what follows `Message: ` are free of markup, and decoding gives
back the subject and the words of the alert, whatever texts they are. -/
theorem htmlMessage?_marks_up (appName : String) (e : AlertEvent)
    (hlow : 0 ≤ e.time.reading.date.year) (hhigh : e.time.reading.date.year ≤ 9999) :
    ∃ html title body time : String,
      e.htmlMessage? appName = some html ∧
      html = "<b>" ++ title ++ "</b>\n\nMessage: " ++ (body ++ "\nTime: " ++ time) ∧
      html.toList.count '<' = 2 ∧ html.toList.count '>' = 2 ∧
      Escaped title.toList ∧ unescape title.toList = (e.subject appName).toList ∧
      Escaped body.toList ∧ unescape body.toList = e.message.toList ∧
      Escaped (body ++ "\nTime: " ++ time).toList ∧ e.time.longForm? = some time := by
  obtain ⟨time, htime⟩ := (Instant.exists_longForm?_iff e.time).2 ⟨hlow, hhigh⟩
  have htitle := escaped_escapeHtml (e.subject appName)
  have hbody := escaped_escapeHtml e.message
  have htail : Escaped (escapeHtml e.message ++ "\nTime: " ++ time).toList := by
    rw [String.toList_append, String.toList_append]
    exact (hbody.append (escaped_of_inert rfl)).append (Time.escaped_of_longForm? htime)
  have hcount := count_tagged htitle htail
  refine ⟨_, escapeHtml (e.subject appName), escapeHtml e.message, time, ?_, rfl, ?_, ?_,
    htitle, unescape_escapeHtml _, hbody, unescape_escapeHtml _, htail, htime⟩
  · simp only [htmlMessage?, htime, String.append_assoc]
    rfl
  · simpa only [String.toList_append] using hcount.1
  · simpa only [String.toList_append] using hcount.2

/-- An alert whose texts hold tags and entities, and pieces of entities at their ends. -/
theorem htmlMessage?_marks_up_entities :
    let e : AlertEvent := ⟨"disk_/a&lt;b&", "amp;1 < 2 &amp; <i>x</i>", .warning, ⟨1704067200, 0⟩⟩
    0 ≤ e.time.reading.date.year ∧ e.time.reading.date.year ≤ 9999 ∧
      ∃ html title body time : String,
        e.htmlMessage? "R&D <b>" = some html ∧
        html = "<b>" ++ title ++ "</b>\n\nMessage: " ++ (body ++ "\nTime: " ++ time) ∧
        html.toList.count '<' = 2 ∧ html.toList.count '>' = 2 ∧
        Escaped title.toList ∧ unescape title.toList = (e.subject "R&D <b>").toList ∧
        Escaped body.toList ∧ unescape body.toList = e.message.toList ∧
        Escaped (body ++ "\nTime: " ++ time).toList ∧ e.time.longForm? = some time := by
  intro e
  have hyear : 0 ≤ e.time.reading.date.year ∧ e.time.reading.date.year ≤ 9999 := by
    decide +kernel
  exact ⟨hyear.1, hyear.2, htmlMessage?_marks_up "R&D <b>" e hyear.1 hyear.2⟩

/-- There is no message about an alert of the year 10000. -/
theorem htmlMessage?_year_ten_thousand :
    AlertEvent.htmlMessage? "Monic" ⟨"cpu", "m", .critical, ⟨253402300800, 0⟩⟩ = none := by
  decide +kernel

end AlertEvent

end HostWatch
