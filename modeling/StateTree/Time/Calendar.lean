/-!
# `StateTree.Time.Calendar`: days of the Gregorian calendar

The calendar extends to all years; the year before year one is year zero. Days are also counted
from 1 January 1970, the epoch.

- `Date`: a year, a month and a day.
- `Date.IsValid`, `Date.of?`: the dates that exist.
- `Date.epochDay`, `Date.ofEpochDay`: from dates to counted days and back.
- `Date.weekday`: the day of the week.
-/

set_option autoImplicit false

namespace StateTree.Time

/-- A day of the calendar. Months and days count from one. -/
structure Date where
  year : Int
  month : Nat
  day : Nat
  deriving DecidableEq, Repr

/-- Every fourth year is a leap year, of the full centuries only every fourth. -/
def isLeapYear (year : Int) : Bool :=
  year % 4 = 0 && (year % 100 ≠ 0 || year % 400 = 0)

/-- The length of a month. -/
def daysInMonth (year : Int) (month : Nat) : Nat :=
  if month = 2 then if isLeapYear year then 29 else 28
  else if month = 4 || month = 6 || month = 9 || month = 11 then 30
  else 31

/-- How many days the months from March on come earlier than if February had thirty days. -/
def februaryGap (year : Int) : Nat :=
  if isLeapYear year then 1 else 2

/-- The days of a year before a month. With a February of thirty days, twelve months have 367. -/
def daysBeforeMonth (year : Int) (month : Nat) : Nat :=
  (367 * month - 362) / 12 - (if month ≤ 2 then 0 else februaryGap year)

/-- The month of a day of a year, days being counted from zero. -/
def monthOfDay (year : Int) (day : Nat) : Nat :=
  let gap := februaryGap year
  (12 * (day + if day + gap < 61 then 0 else gap) + 373) / 367

/-- The days between 1 January of year one and 1 January of a year. -/
def daysBeforeYear (year : Int) : Int :=
  let years := year - 1
  365 * years + years / 4 - years / 100 + years / 400

/-- The days of four centuries. -/
def cycleDays : Int := 146097

/-- The days of a century that does not begin with a leap year. -/
def centuryDays : Int := 36524

/-- The year of a day, days being counted from 1 January of year one. The last day of a leap year
at the end of four years or of four centuries is one more than four equal parts of them have. -/
def yearOfDay (day : Int) : Int :=
  let inCycle := day % cycleDays
  let century := min (inCycle / centuryDays) 3
  let inCentury := inCycle - century * centuryDays
  let inFour := inCentury % 1461
  400 * (day / cycleDays) + 100 * century + 4 * (inCentury / 1461) + min (inFour / 365) 3 + 1

/-- The epoch, in days since 1 January of year one. -/
def epoch : Int := 719162

namespace Date

/-- A date that exists. -/
def IsValid (date : Date) : Prop :=
  1 ≤ date.month ∧ date.month ≤ 12 ∧ 1 ≤ date.day ∧ date.day ≤ daysInMonth date.year date.month

instance (date : Date) : Decidable date.IsValid :=
  inferInstanceAs (Decidable (_ ∧ _ ∧ _ ∧ _))

/-- The date of a year, a month and a day, if there is one. -/
def of? (year : Int) (month day : Nat) : Option Date :=
  let date : Date := ⟨year, month, day⟩
  if date.IsValid then some date else none

/-- The days from the epoch to a date. -/
def epochDay (date : Date) : Int :=
  daysBeforeYear date.year + daysBeforeMonth date.year date.month + date.day - 1 - epoch

/-- The date of a day, days being counted from the epoch. -/
def ofEpochDay (day : Int) : Date :=
  let year := yearOfDay (day + epoch)
  let inYear := (day + epoch - daysBeforeYear year).toNat
  let month := monthOfDay year inYear
  ⟨year, month, inYear - daysBeforeMonth year month + 1⟩

/-- The day of the week, from zero for a Monday to six. The epoch was a Thursday. -/
def weekday (date : Date) : Int :=
  (date.epochDay + 3) % 7

end Date

end StateTree.Time
