import StateTree.Text.Digits
import StateTree.Time.Calendar

/-!
# `StateTree.Time.Instant`: instants to the millisecond

- `Clock`: a time of day, which may be in a leap second.
- `Instant`: an instant in the supported years, as date and time of day in universal time.
- `Instant.millis`, `Instant.ofMillis?`: from instants to milliseconds from the epoch and back.
- `Instant.universal?`: the instant at a place with another time.
- `Instant.text`: an instant as it is written.
-/

set_option autoImplicit false

namespace StateTree.Time

open StateTree.Text (padded)

/-- The years that instants can lie in. -/
def firstYear : Int := -262143

/-- The years that instants can lie in. -/
def lastYear : Int := 262142

/-- Whether a date lies in a supported year. -/
def Date.isSupported (date : Date) : Bool :=
  firstYear ≤ date.year && date.year ≤ lastYear

/-- A time of day. A leap second is written as second 60, and counts as the milliseconds from a
thousand on of the second before it. -/
structure Clock where
  hour : Nat
  minute : Nat
  second : Nat := 0
  millisecond : Nat := 0
  deriving DecidableEq, Repr

namespace Clock

/-- A time of day that can be written. -/
def IsValid (clock : Clock) : Prop :=
  clock.hour ≤ 23 ∧ clock.minute ≤ 59 ∧ clock.second ≤ 60 ∧ clock.millisecond ≤ 999

instance (clock : Clock) : Decidable clock.IsValid :=
  inferInstanceAs (Decidable (_ ∧ _ ∧ _ ∧ _))

/-- A time of day that an instant can have. Any second may be followed by a leap second. -/
def IsSettled (clock : Clock) : Prop :=
  clock.hour ≤ 23 ∧ clock.minute ≤ 59 ∧ clock.second ≤ 59 ∧ clock.millisecond ≤ 1999

instance (clock : Clock) : Decidable clock.IsSettled :=
  inferInstanceAs (Decidable (_ ∧ _ ∧ _ ∧ _))

/-- A written time of day as it counts. -/
def settled (clock : Clock) : Clock :=
  if clock.second = 60 then { clock with second := 59, millisecond := clock.millisecond + 1000 }
  else clock

/-- A time of day that counts as it is written. -/
def written (clock : Clock) : Clock :=
  { clock with
    second := clock.second + clock.millisecond / 1000
    millisecond := clock.millisecond % 1000 }

/-- The milliseconds from midnight to a time of day. -/
def millis (clock : Clock) : Nat :=
  ((clock.hour * 60 + clock.minute) * 60 + clock.second) * 1000 + clock.millisecond

/-- The time of day that is so many milliseconds after midnight. -/
def ofMillis (millis : Nat) : Clock :=
  { hour := millis / 3600000
    minute := millis / 60000 % 60
    second := millis / 1000 % 60
    millisecond := millis % 1000 }

/-- A time of day to the millisecond. -/
def text (clock : Clock) : String :=
  let clock := clock.written
  padded 2 clock.hour ++ ":" ++ padded 2 clock.minute ++ ":" ++ padded 2 clock.second ++ "."
    ++ padded 3 clock.millisecond

end Clock

/-- A year with at least four digits. Years of other than four digits have a sign. -/
def yearText (year : Int) : String :=
  if year < 0 then "-" ++ padded 4 year.natAbs
  else if year < 10000 then padded 4 year.natAbs
  else "+" ++ padded 4 year.natAbs

/-- A date as year, month and day. -/
def Date.text (date : Date) : String :=
  yearText date.year ++ "-" ++ padded 2 date.month ++ "-" ++ padded 2 date.day

/-- An instant in the supported years: its date and time of day in universal time. The three
proofs make it one that exists, so nothing has to be checked again when it is counted or written.
-/
structure Instant where
  date : Date
  clock : Clock
  date_valid : date.IsValid
  date_supported : date.isSupported
  clock_settled : clock.IsSettled
  deriving DecidableEq

namespace Instant

/-- The instant at a date and a time of day, if there is one. -/
def of? (date : Date) (clock : Clock) : Option Instant :=
  if h : date.IsValid ∧ date.isSupported ∧ clock.IsSettled then
    some ⟨date, clock, h.1, h.2.1, h.2.2⟩
  else none

/-- The milliseconds from the epoch to an instant. -/
def millis (instant : Instant) : Int :=
  instant.date.epochDay * 86400000 + instant.clock.millis

/-- The instant so many milliseconds from the epoch, if it lies in the supported years. -/
def ofMillis? (millis : Int) : Option Instant :=
  of? (Date.ofEpochDay (millis / 86400000)) (Clock.ofMillis (millis % 86400000).toNat)

/-- The instant at a date and a time of day that are written at a place `offset` minutes ahead of
universal time. The date has to be a supported one in both times. -/
def universal? (date : Date) (clock : Clock) (offset : Int) : Option Instant :=
  if date.isSupported && clock.IsValid then
    let minutes := date.epochDay * 1440 + clock.hour * 60 + clock.minute - offset
    let inDay := (minutes % 1440).toNat
    of? (Date.ofEpochDay (minutes / 1440))
      { clock.settled with hour := inDay / 60, minute := inDay % 60 }
  else none

/-- The text of an instant in universal time. -/
def text (instant : Instant) : String :=
  instant.date.text ++ "T" ++ instant.clock.text ++ "Z"

end Instant

end StateTree.Time
