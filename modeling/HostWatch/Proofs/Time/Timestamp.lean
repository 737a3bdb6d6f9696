import HostWatch.Proofs.Time.Calendar
import HostWatch.Time.Timestamp
set_option autoImplicit false

/-!
# Timestamps: what is written can be read

The instants that are read back from their timestamps are the ones that a clock can show
(`Instant.ofTimestamp?_timestamp_iff`).

The parts of a timestamp are read one after the other, each with the rest of the text behind it.  A
number of fixed width leaves any rest as it is; a year of more than four digits and a fraction do so
when the rest starts with no digit.
-/

namespace HostWatch.Time

open HostWatch.Number HostWatch.Text

/-! ## Digits -/

theorem isBlank_of_isDigit {c : Char} (h : c.isDigit = true) : isBlank c = false := by
  have hrange : 0x30 ≤ c.toNat ∧ c.toNat ≤ 0x39 := by
    simpa [Char.isDigit, UInt32.le_iff_toNat_le] using h
  simp only [isBlank, Bool.or_eq_false_iff, Bool.and_eq_false_iff, decide_eq_false_iff_not,
    beq_eq_false_iff_ne]
  omega

theorem toList_pushn (s : String) (c : Char) (k : Nat) :
    (s.pushn c k).toList = s.toList ++ List.replicate k c := by
  induction k with
  | zero => rw [List.replicate_zero, List.append_nil]; rfl
  | succ k ih =>
    have hpush : s.pushn c (k + 1) = (s.pushn c k).push c := rfl
    rw [hpush, String.toList_push, ih, List.replicate_succ', List.append_assoc]

theorem toList_padded (width n : Nat) :
    (padded width n).toList =
      List.replicate (width - n.repr.length) '0' ++ Nat.toDigits 10 n := by
  rw [padded, String.toList_append, toList_pushn, Nat.toList_repr]
  rfl

theorem ofDigits_eq_ofDigitChars (cs : List Char) : ofDigits cs = Nat.ofDigitChars 10 cs 0 := rfl

theorem ofDigits_lt {cs : List Char} (h : ∀ c ∈ cs, c.isDigit = true) :
    ofDigits cs < Nat.pow 10 cs.length := by
  rw [ofDigits_eq_ofDigitChars]
  induction cs with
  | nil => decide
  | cons c cs ih =>
    have hrest := ih fun d hd => h d (.tail _ hd)
    have hc : 0x30 ≤ c.toNat ∧ c.toNat ≤ 0x39 := by
      simpa [Char.isDigit, UInt32.le_iff_toNat_le] using h c (.head _)
    have hvalue : 10 * 0 + (c.toNat - '0'.toNat) ≤ 9 := by
      have hzero : '0'.toNat = 0x30 := rfl
      omega
    rw [Nat.ofDigitChars_cons, Nat.ofDigitChars_eq_ofDigitChars_zero]
    have hmul := Nat.mul_le_mul_left (10 ^ cs.length) hvalue
    have hpow : Nat.pow 10 (c :: cs).length = 10 ^ cs.length * 10 := rfl
    have hsame : Nat.pow 10 cs.length = 10 ^ cs.length := rfl
    omega

theorem ofDigits_mul_pow_lt {cs : List Char} {k : Nat} (hdigits : ∀ c ∈ cs, c.isDigit = true)
    (hlength : cs.length ≤ k) : ofDigits cs * Nat.pow 10 (k - cs.length) < Nat.pow 10 k := by
  have hpow := Nat.pow_add 10 cs.length (k - cs.length)
  rw [Nat.add_sub_cancel' hlength] at hpow
  exact Nat.lt_of_lt_of_eq
    (Nat.mul_lt_mul_of_pos_right (ofDigits_lt hdigits) (Nat.pow_pos (by decide))) hpow.symm

variable {width n : Nat}

theorem length_padded (hwidth : n.repr.length ≤ width) :
    (padded width n).toList.length = width := by
  have hdigits : (Nat.toDigits 10 n).length = n.repr.length := by
    rw [← Nat.toList_repr, String.length_toList]
  rw [toList_padded, List.length_append, List.length_replicate, hdigits]
  omega

theorem isDigit_of_mem_padded {c : Char} (hc : c ∈ (padded width n).toList) : c.isDigit = true := by
  rw [toList_padded, List.mem_append] at hc
  obtain hzero | hdigit := hc
  · rw [List.eq_of_mem_replicate hzero]
    rfl
  · exact Nat.isDigit_of_mem_toDigits (by decide) (by decide) hdigit

theorem ofDigits_padded (width n : Nat) : ofDigits (padded width n).toList = n := by
  rw [ofDigits_eq_ofDigitChars, toList_padded, Nat.ofDigitChars_append,
    Nat.ofDigitChars_replicate_zero, Nat.mul_zero, Nat.ofDigitChars_ten_toDigits]

theorem isEmpty_padded (width n : Nat) : (padded width n).toList.isEmpty = false := by
  rw [toList_padded, List.isEmpty_eq_false_iff]
  exact List.append_ne_nil_of_right_ne_nil _ Nat.toDigits_ne_nil

theorem padded_cons (width n : Nat) :
    ∃ c cs, (padded width n).toList = c :: cs ∧ c.isDigit = true := by
  obtain ⟨c, cs, hcs⟩ :=
    List.exists_cons_of_ne_nil (List.isEmpty_eq_false_iff.1 (isEmpty_padded width n))
  exact ⟨c, cs, hcs, isDigit_of_mem_padded (hcs ▸ List.mem_cons_self)⟩

theorem takeWhile_padded (width n : Nat) (rest : List Char) :
    ((padded width n).toList ++ rest).takeWhile Char.isDigit =
      (padded width n).toList ++ rest.takeWhile Char.isDigit :=
  List.takeWhile_append_of_pos fun _ => isDigit_of_mem_padded

theorem skipBlanks_padded (width n : Nat) (rest : List Char) :
    skipBlanks ((padded width n).toList ++ rest) = (padded width n).toList ++ rest := by
  obtain ⟨c, cs, hcs, hdigit⟩ := padded_cons width n
  rw [hcs, List.cons_append, skipBlanks, List.dropWhile_cons, isBlank_of_isDigit hdigit]
  rfl

/-! ## Numbers -/

/-- A number of fixed width is read back, whatever comes behind it. -/
theorem number?_padded (hwidth : n.repr.length ≤ width) (rest : List Char) :
    number? width ((padded width n).toList ++ rest) = some (n, rest) := by
  have htake : ((padded width n).toList ++ rest).take width = (padded width n).toList := by
    rw [List.take_left' (length_padded hwidth)]
  have hdrop : ((padded width n).toList ++ rest).drop width = rest := by
    rw [List.drop_left' (length_padded hwidth)]
  have hdigits : (padded width n).toList.takeWhile Char.isDigit = (padded width n).toList := by
    simpa using takeWhile_padded width n []
  simp only [number?, skipBlanks_padded, htake, hdigits, isEmpty_padded, ofDigits_padded,
    length_padded hwidth, hdrop]
  rfl

theorem literal?_cons {c : Char} (hc : isBlank c = false) (rest : List Char) :
    literal? c (c :: rest) = some rest := by
  rw [literal?, skipBlanks, List.dropWhile_cons, hc]
  exact if_pos rfl

theorem digits_padded {c : Char} (hc : c.isDigit = false) (width n : Nat) (rest : List Char) :
    year?.digits ((padded width n).toList ++ c :: rest) = some (n, c :: rest) := by
  have hdigits : ((padded width n).toList ++ c :: rest).takeWhile Char.isDigit =
      (padded width n).toList := by
    rw [takeWhile_padded, List.takeWhile_cons, hc]
    exact List.append_nil _
  simp only [year?.digits, hdigits, isEmpty_padded, ofDigits_padded, List.drop_left]
  rfl

theorem year?_unsigned {cs : List Char} {d : Char} (hdigit : d.isDigit = true)
    (hcs : skipBlanks cs = d :: cs.tail) :
    year? cs = (number? 4 (d :: cs.tail)).map fun (n, r) => ((n : Int), r) := by
  rw [year?, hcs]
  split
  case h_1 heq =>
    obtain ⟨rfl, _⟩ := List.cons.inj heq
    cases hdigit
  case h_2 heq =>
    obtain ⟨rfl, _⟩ := List.cons.inj heq
    cases hdigit
  case h_3 => rfl

theorem year?_yearText {c : Char} (hc : c.isDigit = false) (y : Int) (rest : List Char) :
    year? ((yearText y).toList ++ c :: rest) = some (y, c :: rest) := by
  rw [yearText]
  split
  case isTrue hfour =>
    simp only [Bool.and_eq_true, decide_eq_true_eq] at hfour
    have hwidth : y.toNat.repr.length ≤ 4 := (Nat.length_repr_le_iff (by decide)).2 (by omega)
    have hread := number?_padded hwidth (c :: rest)
    obtain ⟨d, ds, hds, hdigit⟩ := padded_cons 4 y.toNat
    have hblanks := skipBlanks_padded 4 y.toNat (c :: rest)
    rw [hds, List.cons_append] at hblanks hread ⊢
    rw [year?_unsigned hdigit hblanks, List.tail_cons, hread]
    simp only [Option.map_some, Int.toNat_of_nonneg hfour.1]
  case isFalse hfour =>
    simp only [Bool.and_eq_true, decide_eq_true_eq, not_and, Int.not_le] at hfour
    have hread := digits_padded hc 4 y.natAbs rest
    split
    case isTrue hnegative =>
      have hminus : year? (("-" ++ padded 4 y.natAbs).toList ++ c :: rest) =
          (year?.digits ((padded 4 y.natAbs).toList ++ c :: rest)).map
            fun (n, r) => (-(n : Int), r) := by
        rw [String.toList_append]
        rfl
      have hvalue : -(y.natAbs : Int) = y := by omega
      rw [hminus, hread]
      simp only [Option.map_some, hvalue]
    case isFalse hpositive =>
      have hplus : year? (("+" ++ padded 4 y.natAbs).toList ++ c :: rest) =
          (year?.digits ((padded 4 y.natAbs).toList ++ c :: rest)).map
            fun (n, r) => ((n : Int), r) := by
        rw [String.toList_append]
        rfl
      have hvalue : (y.natAbs : Int) = y := by omega
      rw [hplus, hread]
      simp only [Option.map_some, hvalue]

/-! ## Fractions -/

theorem nanos?_padded {c : Char} (hc : c.isDigit = false) (hwidth : n.repr.length ≤ width)
    (hnine : width ≤ 9) (rest : List Char) :
    nanos? ('.' :: ((padded width n).toList ++ c :: rest)) =
      some (n * Nat.pow 10 (9 - width), c :: rest) := by
  have hlength := length_padded hwidth
  have hdigits : (((padded width n).toList ++ c :: rest).take 9).takeWhile Char.isDigit =
      (padded width n).toList := by
    rw [List.take_append, List.take_of_length_le (by omega), takeWhile_padded]
    cases 9 - (padded width n).toList.length with
    | zero => exact List.append_nil _
    | succ k =>
      rw [List.take_succ_cons, List.takeWhile_cons, hc]
      exact List.append_nil _
  have hrest : ((padded width n).toList ++ c :: rest).dropWhile Char.isDigit = c :: rest := by
    rw [List.dropWhile_append_of_pos fun _ => isDigit_of_mem_padded, List.dropWhile_cons, hc]
    rfl
  simp only [nanos?, hdigits, isEmpty_padded, ofDigits_padded, hlength, hrest]
  rfl

theorem nanos?_fractionText {c : Char} (hc : c.isDigit = false) (hother : c ≠ '.')
    (hn : n < 1000000000) (rest : List Char) :
    nanos? ((fractionText n).toList ++ c :: rest) = some (n, c :: rest) := by
  have hpoint {width m : Nat} (hwidth : m.repr.length ≤ width) (hnine : width ≤ 9)
      (hm : m * Nat.pow 10 (9 - width) = n) :
      nanos? (("." ++ padded width m).toList ++ c :: rest) = some (n, c :: rest) := by
    rw [String.toList_append, ← hm]
    exact nanos?_padded hc hwidth hnine rest
  rw [fractionText]
  split
  case isTrue hzero =>
    obtain rfl := hzero
    have hnone : ("".toList ++ c :: rest) = c :: rest := rfl
    rw [hnone, nanos?]
    exact fun r heq => hother (List.cons.inj heq).1
  case isFalse =>
    split
    case isTrue hmillis =>
      exact hpoint ((Nat.length_repr_le_iff (by decide)).2 (by omega)) (by decide)
        (Nat.div_mul_cancel (Nat.dvd_of_mod_eq_zero hmillis))
    case isFalse =>
      split
      case isTrue hmicros =>
        exact hpoint ((Nat.length_repr_le_iff (by decide)).2 (by omega)) (by decide)
          (Nat.div_mul_cancel (Nat.dvd_of_mod_eq_zero hmicros))
      case isFalse =>
        exact hpoint ((Nat.length_repr_le_iff (by decide)).2 (by omega)) (by decide)
          (Nat.mul_one n)

theorem nanos?_lt {cs rest : List Char} {n : Nat} (h : nanos? cs = some (n, rest)) :
    n < 1000000000 := by
  unfold nanos? at h
  split at h
  case h_1 r =>
    dsimp only at h
    split at h
    case isTrue => cases h
    case isFalse =>
      obtain ⟨rfl, _⟩ := Prod.mk.inj (Option.some.inj h)
      exact ofDigits_mul_pow_lt (fun c hc => List.all_eq_true.1 List.all_takeWhile c hc)
        (Nat.le_trans (List.takeWhile_prefix _).length_le (List.length_take_le 9 r))
  case h_2 =>
    obtain ⟨rfl, _⟩ := Prod.mk.inj (Option.some.inj h)
    decide

theorem offset?_emod {cs rest : List Char} {offset : Int} (h : offset? cs = some (offset, rest)) :
    offset % 60 = 0 := by
  unfold offset? at h
  dsimp only at h
  split at h
  case isTrue =>
    obtain ⟨rfl, _⟩ := Prod.mk.inj (Option.some.inj h)
    rfl
  case isFalse =>
    split at h
    case h_1 | h_2 =>
      obtain ⟨rfl, _⟩ := Prod.mk.inj (Option.some.inj h)
      rfl
    case h_3 =>
      -- Whatever the sign, hours and minutes follow.
      repeat' split at h
      all_goals
        obtain ⟨negative, _, h⟩ := Option.bind_eq_some_iff.1 h
        obtain ⟨⟨hours, _⟩, _, h⟩ := Option.bind_eq_some_iff.1 h
        obtain ⟨⟨minutes, _⟩, _, h⟩ := Option.bind_eq_some_iff.1 h
        obtain ⟨rfl, _⟩ := Prod.mk.inj (Option.some.inj h)
        split <;> omega
    case h_4 => cases h

/-! ## Instants -/

/-- A clock for universal time can show the instant: its year is in range, and an inserted second is
the last one of its minute. -/
structure Instant.IsShown (t : Instant) : Prop where
  year : yearInRange t.reading.date.year = true
  nanos : t.nanos < 2000000000
  inserted : t.isInserted = true → t.seconds % 60 = 59

namespace Instant

variable {t : Instant}

theorem reading_hour_le (t : Instant) : t.reading.hour ≤ 23 := by
  simp only [reading]
  omega

theorem reading_minute_le (t : Instant) : t.reading.minute ≤ 59 := by
  simp only [reading]
  omega

theorem reading_second_le (h : t.IsShown) : t.reading.second ≤ 60 := by
  have hnanos := h.nanos
  simp only [reading]
  omega

theorem reading_nanos_lt (t : Instant) : t.reading.nanos < 1000000000 :=
  Nat.mod_lt _ (by decide)

/-- The clock shows a sixtieth second for the second that is inserted. -/
theorem reading_second_eq_sixty_iff (h : t.IsShown) :
    t.reading.second = 60 ↔ 1000000000 ≤ t.nanos := by
  have hnanos := h.nanos
  have hinserted : 1000000000 ≤ t.nanos → t.seconds % 60 = 59 :=
    fun hle => h.inserted (decide_eq_true hle)
  simp only [reading]
  omega

theorem ofReading_reading (h : t.IsShown) : ofReading t.reading 0 = t := by
  have hnanos := h.nanos
  have hsixty := reading_second_eq_sixty_iff h
  have hinserted : (if t.reading.second = 60 then 1 else 0) = t.nanos / 1000000000 := by
    split <;> omega
  simp only [ofReading, hinserted]
  simp only [reading, Date.toDays_ofDays, day]
  obtain ⟨seconds, nanos⟩ := t
  simp only [mk.injEq]
  omega

/-- **A timestamp is read back** as the instant that it was written for. -/
theorem ofTimestamp?_timestamp (h : t.IsShown) : ofTimestamp? t.timestamp = some t := by
  let r := t.reading
  have htext : t.timestamp.toList =
      (yearText r.date.year).toList ++ '-' :: ((padded 2 r.date.month).toList ++ '-' ::
        ((padded 2 r.date.day).toList ++ 'T' :: ((padded 2 r.hour).toList ++ ':' ::
          ((padded 2 r.minute).toList ++ ':' :: ((padded 2 r.second).toList ++
            ((fractionText r.nanos).toList ++ ['Z'])))))) := by
    simp [timestamp, clockText, r, String.toList_append]
  have hvalid : r.date.isValid = true := Date.isValid_ofDays t.day
  have hdate := (Date.isValid_iff _).1 hvalid
  have hmonthLength := monthLength_le r.date.year r.date.month
  have hhour : r.hour ≤ 23 := reading_hour_le t
  have hminute : r.minute ≤ 59 := reading_minute_le t
  have hsecond : r.second ≤ 60 := reading_second_le h
  have htwo {n : Nat} (hn : n < 100) (rest : List Char) :
      number? 2 ((padded 2 n).toList ++ rest) = some (n, rest) :=
    number?_padded ((Nat.length_repr_le_iff (by decide)).2 hn) rest
  have hnanos : nanos? ((fractionText r.nanos).toList ++ ['Z']) = some (r.nanos, ['Z']) :=
    nanos?_fractionText rfl (by decide) (reading_nanos_lt t) []
  have hoffset : offset? ['Z'] = some (0, []) := rfl
  have hread : ofReading r 0 = t := ofReading_reading h
  have hdash (rest : List Char) : literal? '-' ('-' :: rest) = some rest := literal?_cons rfl rest
  have hcolon (rest : List Char) : literal? ':' (':' :: rest) = some rest := literal?_cons rfl rest
  unfold ofTimestamp?
  rw [htext]
  refine Option.bind_eq_some_iff.2 ⟨_, year?_yearText rfl _ _, ?_⟩
  refine Option.bind_eq_some_iff.2 ⟨_, hdash _, ?_⟩
  refine Option.bind_eq_some_iff.2 ⟨_, htwo (by omega) _, ?_⟩
  refine Option.bind_eq_some_iff.2 ⟨_, hdash _, ?_⟩
  refine Option.bind_eq_some_iff.2 ⟨_, htwo (by omega) _, ?_⟩
  -- The letter between the date and the time of day.
  dsimp only
  rw [if_pos (by decide)]
  refine Option.bind_eq_some_iff.2 ⟨_, rfl, ?_⟩
  refine Option.bind_eq_some_iff.2 ⟨_, htwo (by omega) _, ?_⟩
  refine Option.bind_eq_some_iff.2 ⟨_, hcolon _, ?_⟩
  refine Option.bind_eq_some_iff.2 ⟨_, htwo (by omega) _, ?_⟩
  refine Option.bind_eq_some_iff.2 ⟨_, hcolon _, ?_⟩
  refine Option.bind_eq_some_iff.2 ⟨_, htwo (by omega) _, ?_⟩
  refine Option.bind_eq_some_iff.2 ⟨_, hnanos, ?_⟩
  refine Option.bind_eq_some_iff.2 ⟨_, hoffset, ?_⟩
  dsimp only
  have hsameDate : (⟨r.date.year, r.date.month, r.date.day⟩ : Date) = r.date := rfl
  have hsame : (⟨r.date, r.hour, r.minute, r.second, r.nanos⟩ : Reading) = r := rfl
  have hyear : yearInRange r.date.year = true := h.year
  rw [hsameDate, hsame, hread, hyear, hvalid]
  simp [skipBlanks, hhour, hminute, hsecond]

/-- A reading in whole minutes of offset names an instant that can be shown. -/
theorem isShown_ofReading {r : Reading} {offset : Int}
    (hyear : yearInRange (ofReading r offset).reading.date.year = true)
    (hnanos : r.nanos < 1000000000) (hoffset : offset % 60 = 0) : (ofReading r offset).IsShown := by
  refine ⟨hyear, ?_, fun hinserted => ?_⟩
  · simp only [ofReading]
    split <;> omega
  · by_cases hsixty : r.second = 60
    · simp only [ofReading, hsixty, if_true]
      omega
    · simp only [isInserted, ofReading, if_neg hsixty, decide_eq_true_eq] at hinserted
      omega

theorem isShown_of_ofTimestamp? {s : String} (h : ofTimestamp? s = some t) : t.IsShown := by
  -- The date, up to the letter between it and the time of day.
  obtain ⟨⟨year, _⟩, _, h⟩ := Option.bind_eq_some_iff.1 h
  obtain ⟨_, _, h⟩ := Option.bind_eq_some_iff.1 h
  obtain ⟨⟨month, _⟩, _, h⟩ := Option.bind_eq_some_iff.1 h
  obtain ⟨_, _, h⟩ := Option.bind_eq_some_iff.1 h
  obtain ⟨⟨day, _⟩, _, h⟩ := Option.bind_eq_some_iff.1 h
  dsimp only at h
  split at h
  case h_2 => cases h
  split at h
  case isFalse => cases h
  -- The time of day and the offset.
  obtain ⟨_, _, h⟩ := Option.bind_eq_some_iff.1 h
  obtain ⟨⟨hour, _⟩, _, h⟩ := Option.bind_eq_some_iff.1 h
  obtain ⟨_, _, h⟩ := Option.bind_eq_some_iff.1 h
  obtain ⟨⟨minute, _⟩, _, h⟩ := Option.bind_eq_some_iff.1 h
  obtain ⟨_, _, h⟩ := Option.bind_eq_some_iff.1 h
  obtain ⟨⟨second, _⟩, _, h⟩ := Option.bind_eq_some_iff.1 h
  obtain ⟨⟨nanos, _⟩, hnanos, h⟩ := Option.bind_eq_some_iff.1 h
  obtain ⟨⟨offset, _⟩, hoffset, h⟩ := Option.bind_eq_some_iff.1 h
  -- What was read exists, in a year in range.
  dsimp only at h
  split at h
  case isFalse => cases h
  split at h
  case isFalse => cases h
  case isTrue hyears =>
    obtain rfl := Option.some.inj h
    exact isShown_ofReading (Bool.and_eq_true_iff.1 hyears).2 (nanos?_lt hnanos)
      (offset?_emod hoffset)

/-- Exactly the instants that can be shown are read back. -/
theorem ofTimestamp?_timestamp_iff : ofTimestamp? t.timestamp = some t ↔ t.IsShown :=
  ⟨isShown_of_ofTimestamp?, ofTimestamp?_timestamp⟩

/-- Half of an inserted second has passed. -/
example : (⟨1483228799, 1500000000⟩ : Instant).timestamp = "2016-12-31T23:59:60.500Z" := by
  decide +kernel

end Instant

end HostWatch.Time
