import HostWatch.Time.Instant
set_option autoImplicit false

/-!
# Calendar: days and dates

The date of a day exists, and it is the date of no other day: counting its days gives the day back
(`Date.toDays_ofDays`).

Days are counted in eras of four centuries from 1 March on.  A century has twenty-five groups of
four years and a group has a day more than its years, at its end, but for the last group of a
century that is not the last of its era.  Where a day lies in its era (`Date.IsPlace`) is what the
division by the length of a year, with its corrections, finds.
-/

namespace HostWatch.Time

theorem monthLength_le (y : Int) (m : Nat) : monthLength y m ≤ 31 := by
  unfold monthLength
  repeat' split
  all_goals decide

namespace Date

/-! ## Places in an era -/

/-- Day `n` of an era is day `day` of year `year` of group `group` of century `century`, all from
zero. -/
structure IsPlace (n century group year day : Int) : Prop where
  century_nonneg : 0 ≤ century
  century_lt : century < 4
  group_nonneg : 0 ≤ group
  group_lt : group < 25
  year_nonneg : 0 ≤ year
  year_lt : year < 4
  day_nonneg : 0 ≤ day
  day_le : day ≤ 365
  count : n = 36524 * century + 1461 * group + 365 * year + day
  inserted : day = 365 → year = 3 ∧ (group < 24 ∨ century = 3)

/-- Every day of an era has its place: the last century, and the last year of a group, take the day
beyond their length. -/
theorem exists_isPlace {n : Int} (hn : 0 ≤ n) (hlt : n < 146097) :
    ∃ century group year day, IsPlace n century group year day := by
  let century := min (n / 36524) 3
  let inCentury := n - 36524 * century
  let group := inCentury / 1461
  let inGroup := inCentury - 1461 * group
  let year := min (inGroup / 365) 3
  refine ⟨century, group, year, inGroup - 365 * year, ?_⟩
  constructor <;> omega

namespace IsPlace

variable {n century group year day : Int}

/-- The corrections for the inserted days leave 365 days for each year. -/
theorem yearOfEra_eq (h : IsPlace n century group year day) :
    (n - n / 1460 + n / 36524 - n / 146096) / 365 = 100 * century + 4 * group + year := by
  obtain ⟨hcentury, hcentury', hgroup, hgroup', hyear, hyear', hday, hday', hcount, hinserted⟩ := h
  have hlast : n / 146096 =
      if century = 3 ∧ group = 24 ∧ year = 3 ∧ day = 365 then 1 else 0 := by
    split <;> omega
  have hcenturies : n / 36524 = century + n / 146096 := by
    rw [hlast]
    split <;> omega
  have hgroups : n / 1460 =
      25 * century + group + (24 * century + group + 365 * year + day) / 1460 := by
    omega
  rw [hcenturies]
  omega

theorem daysBefore_eq (h : IsPlace n century group year day) :
    let yearOfEra := 100 * century + 4 * group + year
    365 * yearOfEra + yearOfEra / 4 - yearOfEra / 100 = n - day := by
  obtain ⟨hcentury, hcentury', hgroup, hgroup', hyear, hyear', hday, hday', hcount, hinserted⟩ := h
  omega

end IsPlace

/-! ## Years from March on -/

/-- The days from the first day of the calendar to 1 March of a year. -/
def daysToMarch (year : Int) : Int := 365 * year + year / 4 - year / 100 + year / 400

/-- Every era has the same days. -/
theorem daysToMarch_add_era (yearOfEra era : Int) (hnonneg : 0 ≤ yearOfEra)
    (hlt : yearOfEra < 400) :
    daysToMarch (yearOfEra + era * 400) =
      365 * yearOfEra + yearOfEra / 4 - yearOfEra / 100 + 146097 * era := by
  have hfour : (yearOfEra + era * 400) / 4 = yearOfEra / 4 + era * 100 := by omega
  have hcenturies : (yearOfEra + era * 400) / 100 = yearOfEra / 100 + era * 4 := by omega
  have heras : (yearOfEra + era * 400) / 400 = era := by omega
  rw [daysToMarch, hfour, hcenturies, heras]
  omega

/-- The date a number of days after 1 March of a year, for less than a year. -/
def ofMarch (year dayOfYear : Int) : Date :=
  let shifted := (5 * dayOfYear + 2) / 153
  let day := (dayOfYear - (153 * shifted + 2) / 5 + 1).toNat
  let month := (if shifted < 10 then shifted + 3 else shifted - 9).toNat
  ⟨if month ≤ 2 then year + 1 else year, month, day⟩

/-- A day lies in a year from March on, whose last day is there in leap years only. -/
theorem exists_ofMarch (days : Int) :
    ∃ year dayOfYear, ofDays days = ofMarch year dayOfYear ∧ 0 ≤ dayOfYear ∧ dayOfYear ≤ 365 ∧
      days + 719468 = daysToMarch year + dayOfYear ∧
      (dayOfYear = 365 → isLeapYear (year + 1) = true) := by
  let era := (days + 719468) / 146097
  have hparts (day : Int) :
      days + 719468 = (days + 719468) % 146097 - day + 146097 * era + day := by omega
  obtain ⟨century, group, year, day, hplace⟩ :=
    exists_isPlace (n := (days + 719468) % 146097) (by omega) (by omega)
  have hyear := hplace.yearOfEra_eq
  have hbefore := hplace.daysBefore_eq
  obtain ⟨hcentury, hcentury', hgroup, hgroup', hyear', hyear'', hday, hday', _, hinserted⟩ :=
    hplace
  refine ⟨100 * century + 4 * group + year + era * 400, day, ?_, hday, hday', ?_, fun hlast => ?_⟩
  · simp only [ofDays, ofMarch, hyear, hbefore, Int.sub_sub_self]
    rfl
  · have hera := daysToMarch_add_era (100 * century + 4 * group + year) era (by omega) (by omega)
    rw [hera, hbefore]
    exact hparts day
  · obtain ⟨rfl, hgroups⟩ := hinserted hlast
    have hfour : (100 * century + 4 * group + 3 + era * 400 + 1) % 4 = 0 := by omega
    have hcenturies : (100 * century + 4 * group + 3 + era * 400 + 1) % 100 ≠ 0 ∨
        (100 * century + 4 * group + 3 + era * 400 + 1) % 400 = 0 := by omega
    simpa [isLeapYear, hfour] using hcenturies

variable {year dayOfYear : Int}

theorem toDays_ofMarch (hnonneg : 0 ≤ dayOfYear) (hle : dayOfYear ≤ 365) :
    (ofMarch year dayOfYear).toDays = daysToMarch year + dayOfYear - 719468 := by
  let shifted := (5 * dayOfYear + 2) / 153
  -- January and February belong to the year before.
  have hyear : (if (ofMarch year dayOfYear).month ≤ 2 then (ofMarch year dayOfYear).year - 1
      else (ofMarch year dayOfYear).year) = year := by
    simp only [ofMarch]
    split <;> omega
  have hmonth : (((ofMarch year dayOfYear).month + 9) % 12 : Nat) = shifted := by
    simp only [ofMarch]
    split <;> omega
  have hday : ((ofMarch year dayOfYear).day : Int) = dayOfYear - (153 * shifted + 2) / 5 + 1 := by
    simp only [ofMarch]
    omega
  rw [toDays, hyear, hmonth, hday, daysToMarch]
  omega

theorem isValid_iff (d : Date) :
    d.isValid = true ↔
      1 ≤ d.month ∧ d.month ≤ 12 ∧ 1 ≤ d.day ∧ d.day ≤ monthLength d.year d.month := by
  simp only [isValid, Bool.and_eq_true, decide_eq_true_eq, and_assoc]

theorem isValid_ofMarch (hnonneg : 0 ≤ dayOfYear) (hle : dayOfYear ≤ 365)
    (hlast : dayOfYear = 365 → isLeapYear (year + 1) = true) :
    (ofMarch year dayOfYear).isValid = true := by
  rw [isValid_iff]
  simp only [ofMarch]
  by_cases hfebruary : (5 * dayOfYear + 2) / 153 = 11
  · -- The inserted day is the only one whose month depends on the year.
    by_cases hleap : isLeapYear (year + 1) = true
    · simp [hfebruary, monthLength, hleap]
      omega
    · have hshort : dayOfYear ≠ 365 := fun h => hleap (hlast h)
      simp [hfebruary, monthLength, hleap]
      omega
  · -- Each of the other months has one length.
    obtain ⟨m, hm, hmonth⟩ : ∃ m : Int, (5 * dayOfYear + 2) / 153 = m ∧
        (m = 0 ∨ m = 1 ∨ m = 2 ∨ m = 3 ∨ m = 4 ∨ m = 5 ∨ m = 6 ∨ m = 7 ∨ m = 8 ∨ m = 9 ∨ m = 10) :=
      ⟨_, rfl, by omega⟩
    rcases hmonth with rfl | rfl | rfl | rfl | rfl | rfl | rfl | rfl | rfl | rfl | rfl <;>
      simp [hm, monthLength] <;> omega

/-! ## Dates of days -/

/-- **The days of a date** that was made from a number of days are this number. -/
theorem toDays_ofDays (days : Int) : (ofDays days).toDays = days := by
  obtain ⟨year, dayOfYear, hdate, hnonneg, hle, hcount, _⟩ := exists_ofMarch days
  rw [hdate, toDays_ofMarch hnonneg hle]
  omega

theorem isValid_ofDays (days : Int) : (ofDays days).isValid = true := by
  obtain ⟨year, dayOfYear, hdate, hnonneg, hle, _, hlast⟩ := exists_ofMarch days
  rw [hdate]
  exact isValid_ofMarch hnonneg hle hlast

end Date

end HostWatch.Time
