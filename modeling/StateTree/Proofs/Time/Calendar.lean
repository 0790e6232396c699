import StateTree.Time.Calendar
import Mathlib.Tactic.IntervalCases

/-!
# `StateTree.Proofs.Time.Calendar`: dates and counted days

A day is looked up in four centuries, in a century, in four years and in a year. Each of these
parts begins with the shorter ones, so the last may be a day longer, and dividing by the length of
the shorter ones counts one too many on that day.

- `daysBeforeYear_yearOfDay_le`, `yearOfDay_eq`: the year that a day lies in.
- `daysBeforeMonth_monthOfDay_le`, `monthOfDay_eq`: the month that a day of a year lies in.
- `Date.ofEpochDay_spec`, `Date.ofEpochDay_epochDay`: the dates that exist and the counted days
  correspond.
-/

set_option autoImplicit false

namespace StateTree.Time

/-! ### Years -/

/-- The length of a year. February lacks one day of thirty in a leap year and two in any other. -/
def daysInYear (year : Int) : Int :=
  367 - februaryGap year

/-- A year ends where the next one begins. It ties the count of leap years to the rule for them.
-/
theorem daysBeforeYear_succ (year : Int) :
    daysBeforeYear (year + 1) = daysBeforeYear year + daysInYear year := by
  simp only [daysBeforeYear, daysInYear, februaryGap, isLeapYear, Bool.and_eq_true,
    Bool.or_eq_true, decide_eq_true_eq]
  split <;> omega

/-- Later years begin later. With the lengths of years it leaves one year for each day. -/
theorem daysBeforeYear_mono {year later : Int} (h : year ≤ later) :
    daysBeforeYear year ≤ daysBeforeYear later := by
  simp only [daysBeforeYear]
  omega

section

variable (cycle : Int) {century four year : Int} (hcentury : 0 ≤ century ∧ century ≤ 3)
  (hfour : 0 ≤ four ∧ four ≤ 24) (hyear : 0 ≤ year ∧ year ≤ 3)

include hcentury hfour hyear

/-- The days before a year that is given by its place in four centuries, a century and four years.
These places are what a day is looked up by. -/
theorem daysBeforeYear_parts :
    daysBeforeYear (400 * cycle + 100 * century + 4 * four + year + 1) =
      146097 * cycle + 36524 * century + 1461 * four + 365 * year := by
  simp only [daysBeforeYear]
  omega

/-- Only the last of four years is a leap year, and that of a century only if it is the last of
four centuries. -/
theorem isLeapYear_parts :
    isLeapYear (400 * cycle + 100 * century + 4 * four + year + 1) ↔
      year = 3 ∧ (four = 24 → century = 3) := by
  simp only [isLeapYear, Bool.and_eq_true, Bool.or_eq_true, decide_eq_true_eq]
  omega

end

/-- The place that a day is looked up at. The rest may be day 365, but only in a year that has
this day. -/
theorem exists_parts (day : Int) : ∃ cycle century four year rest : Int,
    (0 ≤ century ∧ century ≤ 3) ∧ (0 ≤ four ∧ four ≤ 24) ∧ (0 ≤ year ∧ year ≤ 3) ∧
    yearOfDay day = 400 * cycle + 100 * century + 4 * four + year + 1 ∧
    day = 146097 * cycle + 36524 * century + 1461 * four + 365 * year + rest ∧
    0 ≤ rest ∧ rest ≤ 365 ∧ (rest = 365 → year = 3 ∧ (four = 24 → century = 3)) := by
  let inCycle := day % cycleDays
  let century := min (inCycle / centuryDays) 3
  let inCentury := inCycle - century * centuryDays
  let inFour := inCentury % 1461
  refine ⟨day / cycleDays, century, inCentury / 1461, min (inFour / 365) 3,
    inFour - 365 * min (inFour / 365) 3, ?_⟩
  -- The length of each part is written out, so that the rest is arithmetic.
  have hinCycle : inCycle = day % 146097 := rfl
  have hcentury : century = min (inCycle / 36524) 3 := rfl
  have hinCentury : inCentury = inCycle - century * 36524 := rfl
  have hinFour : inFour = inCentury % 1461 := rfl
  have hday : day = 146097 * (day / cycleDays) + inCycle := by
    rw [hinCycle, cycleDays]
    omega
  refine ⟨by omega, by omega, by omega, rfl, by omega, by omega, by omega, by omega⟩

/-- The year of a day begins no later than the day, and ends after it. So the year that is looked
up is the right one, also on the last day of a longer part. -/
theorem daysBeforeYear_yearOfDay_le (day : Int) :
    daysBeforeYear (yearOfDay day) ≤ day ∧
      day < daysBeforeYear (yearOfDay day) + daysInYear (yearOfDay day) := by
  obtain ⟨cycle, century, four, year, rest, hcentury, hfour, hyear, hparts, hday, hrest⟩ :=
    exists_parts day
  have hbefore := daysBeforeYear_parts cycle hcentury hfour hyear
  have hleap := isLeapYear_parts cycle hcentury hfour hyear
  rw [hparts, daysInYear, februaryGap, hbefore]
  -- Only a leap year has a day numbered 365.
  split
  · omega
  · rename_i hcommon
    rw [hleap] at hcommon
    omega

/-- The year of a day is the only one that the day lies in. It leads from a date to the year that
is looked up for it. -/
theorem yearOfDay_eq {day year : Int} (hbegin : daysBeforeYear year ≤ day)
    (hend : day < daysBeforeYear year + daysInYear year) : yearOfDay day = year := by
  obtain ⟨hle, hlt⟩ := daysBeforeYear_yearOfDay_le day
  rw [← daysBeforeYear_succ] at hend hlt
  rcases Int.lt_trichotomy (yearOfDay day) year with hless | heq | hmore
  · have : daysBeforeYear (yearOfDay day + 1) ≤ daysBeforeYear year := daysBeforeYear_mono hless
    omega
  · exact heq
  · have : daysBeforeYear (year + 1) ≤ daysBeforeYear (yearOfDay day) := daysBeforeYear_mono hmore
    omega

/-! ### Months -/

/-- February lacks one day or two of thirty. Nothing else about leap years is needed for months.
-/
theorem februaryGap_le (year : Int) : 1 ≤ februaryGap year ∧ februaryGap year ≤ 2 := by
  unfold februaryGap
  split <;> decide

/-- A month other than February ends where the next one begins, all months being counted with a
February of thirty days. The fractions count 30 or 31 days in turn. -/
theorem daysInMonth_cases (year : Int) {month : Nat} (hlow : 1 ≤ month) (hhigh : month ≤ 12) :
    (month = 2 ∧ daysInMonth year month + februaryGap year = 30) ∨
      (month ≠ 2 ∧ (367 * month - 362) / 12 + daysInMonth year month = (367 * month + 5) / 12) := by
  by_cases hfebruary : month = 2
  · subst hfebruary
    refine .inl ⟨rfl, ?_⟩
    unfold daysInMonth februaryGap
    cases isLeapYear year <;> rfl
  · refine .inr ⟨hfebruary, ?_⟩
    unfold daysInMonth
    interval_cases month <;> first | rfl | exact absurd rfl hfebruary

/-- The days of a year before a month. The days that February lacks count after it only. -/
theorem daysBeforeMonth_cases (year : Int) (month : Nat) :
    (month ≤ 2 ∧ daysBeforeMonth year month = (367 * month - 362) / 12) ∨
      (2 < month ∧
        daysBeforeMonth year month = (367 * month - 362) / 12 - februaryGap year) := by
  unfold daysBeforeMonth
  split
  · exact .inl ⟨‹_›, rfl⟩
  · exact .inr ⟨by omega, rfl⟩

/-- The month of a day of a year. The days that February lacks are made up for after it only, by a
shift. -/
theorem exists_monthOfDay (year : Int) (day : Nat) : ∃ shift,
    (day + februaryGap year < 61 ∧ shift = 0 ∨
      61 ≤ day + februaryGap year ∧ shift = februaryGap year) ∧
    monthOfDay year day = (12 * (day + shift) + 373) / 367 := by
  refine ⟨if day + februaryGap year < 61 then 0 else februaryGap year, ?_, rfl⟩
  split <;> omega

/-- The month of a day of a year begins no later than the day, and ends after it. -/
theorem daysBeforeMonth_monthOfDay_le (year : Int) (day : Nat) (h : day < daysInYear year) :
    1 ≤ monthOfDay year day ∧ monthOfDay year day ≤ 12 ∧
      daysBeforeMonth year (monthOfDay year day) ≤ day ∧
        day < daysBeforeMonth year (monthOfDay year day) +
          daysInMonth year (monthOfDay year day) := by
  obtain ⟨shift, hshift, hmonth⟩ := exists_monthOfDay year day
  generalize monthOfDay year day = month at hmonth ⊢
  have hgap := februaryGap_le year
  unfold daysInYear at h
  have hlow : 1 ≤ month := by omega
  have hhigh : month ≤ 12 := by omega
  -- Both are by one formula but for February, so the rest is arithmetic.
  have hlength := daysInMonth_cases year hlow hhigh
  have hbefore := daysBeforeMonth_cases year month
  refine ⟨hlow, hhigh, ?_, ?_⟩ <;> omega

/-- The month of a day of a year is the only one that the day lies in. It leads from a date to the
month that is looked up for it. -/
theorem monthOfDay_eq {date : Date} (h : date.IsValid) :
    monthOfDay date.year (daysBeforeMonth date.year date.month + date.day - 1) = date.month := by
  obtain ⟨hlow, hhigh, hfirst, hlast⟩ := h
  obtain ⟨shift, hshift, hmonth⟩ :=
    exists_monthOfDay date.year (daysBeforeMonth date.year date.month + date.day - 1)
  have hgap := februaryGap_le date.year
  have hlength := daysInMonth_cases date.year hlow hhigh
  have hbefore := daysBeforeMonth_cases date.year date.month
  rw [hmonth]
  omega

/-- The days of a year up to a date in it are no more than the year has. -/
theorem daysBeforeMonth_add_day_le {date : Date} (h : date.IsValid) :
    daysBeforeMonth date.year date.month + date.day ≤ daysInYear date.year := by
  obtain ⟨hlow, hhigh, hfirst, hlast⟩ := h
  have hgap := februaryGap_le date.year
  have hlength := daysInMonth_cases date.year hlow hhigh
  have hbefore := daysBeforeMonth_cases date.year date.month
  unfold daysInYear
  omega

/-- No month has more than 31 days, so two digits are enough to write one. -/
theorem daysInMonth_le (year : Int) (month : Nat) : daysInMonth year month ≤ 31 := by
  unfold daysInMonth
  split
  · split <;> omega
  · split <;> omega

/-! ### Dates -/

namespace Date

/-- Every counted day is a date that exists, and has that count. -/
theorem ofEpochDay_spec (day : Int) :
    (ofEpochDay day).IsValid ∧ (ofEpochDay day).epochDay = day := by
  obtain ⟨hbegin, hend⟩ := daysBeforeYear_yearOfDay_le (day + epoch)
  obtain ⟨hlow, hhigh, hfirst, hlast⟩ := daysBeforeMonth_monthOfDay_le (yearOfDay (day + epoch))
    (day + epoch - daysBeforeYear (yearOfDay (day + epoch))).toNat (by omega)
  refine ⟨⟨hlow, hhigh, Nat.le_add_left _ _, ?_⟩, ?_⟩
  · simp only [ofEpochDay]
    omega
  · simp only [ofEpochDay, epochDay]
    omega

/-- The date of the count of a date that exists is this date. With `ofEpochDay_spec`, counting
days and naming dates are inverse to each other. -/
theorem ofEpochDay_epochDay {date : Date} (h : date.IsValid) : ofEpochDay date.epochDay = date := by
  have hin := daysBeforeMonth_add_day_le h
  have hmonth := monthOfDay_eq h
  obtain ⟨-, -, hfirst, -⟩ := h
  have hday : date.epochDay + epoch =
      daysBeforeYear date.year + (daysBeforeMonth date.year date.month + date.day - 1 : Nat) := by
    unfold epochDay
    omega
  -- The year is found, and what is left of the count is the day of the year.
  have hyear : yearOfDay (date.epochDay + epoch) = date.year :=
    yearOfDay_eq (by omega) (by omega)
  have hrest : (date.epochDay + epoch - daysBeforeYear date.year).toNat =
      daysBeforeMonth date.year date.month + date.day - 1 := by omega
  simp only [ofEpochDay, hyear, hrest, hmonth]
  obtain ⟨year, month, day⟩ := date
  simp only [mk.injEq, true_and]
  simp only at hfirst
  omega

end Date

end StateTree.Time
