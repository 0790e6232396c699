import StateTree.Time.Instant
import StateTree.Time.Zone

/-!
# `StateTree.Time.Literal`: reading dates and times of day

A literal is a date and a time of day in digits with a zone (RFC 3339), one in words with a zone
(RFC 2822), one in digits without a zone, or a date alone. A missing zone is universal time, a
missing time of day is midnight.

- `digitsWithZone`, `wordsWithZone`: the forms with a zone.
- `timedForms`, `dateForm`: the forms without.
- `literal?`: the instant of a literal, read by the first form that fits.
-/

set_option autoImplicit false

namespace StateTree.Time

open Scan

/-! ### Digits with a zone -/

/-- A date and a time of day in digits with a zone. The year has four digits and no sign, so the
years before 0 and after 9999 cannot be written like this. -/
def digitsWithZone : Scan Instant := do
  let year ← number 4 4
  token '-'
  let month ← number 2 2
  token '-'
  let day ← number 2 2
  discard (char fun c => c = 'T' || c = 't' || c = ' ')
  let hour ← number 2 2
  token ':'
  let minute ← number 2 2
  token ':'
  let second ← number 2 2
  let millisecond ← afterPoint
  let zone ← colonZone
  let date ← need (Date.of? year month day)
  need (Instant.universal? date ⟨hour, minute, second, millisecond⟩ zone)

/-! ### Words with a zone -/

/-- The place in a list of three-letter names of the name at the front, letter case apart. -/
def nameIndex? (names : List String) (cs : List Char) : Option Nat :=
  names.idxOf? (String.ofList ((cs.take 3).map Char.toLower))

/-- The names of the days of the week. -/
def dayNames : List String :=
  ["mon", "tue", "wed", "thu", "fri", "sat", "sun"]

/-- The names of the months. -/
def monthNames : List String :=
  ["jan", "feb", "mar", "apr", "may", "jun", "jul", "aug", "sep", "oct", "nov", "dec"]

/-- A day of the week and a comma, or nothing. -/
def dayOfWeek : Scan (Option Nat) := fun cs =>
  match nameIndex? dayNames cs with
  | none => some (none, cs)
  | some day => (token ',' (cs.drop 3)).map fun (_, rest) => (some day, rest)

/-- The name of a month. -/
def monthName : Scan Nat := fun cs =>
  (nameIndex? monthNames cs).map fun month => (month + 1, cs.drop 3)

/-- A year of two digits lies from 1950 to 2049; one of three digits counts from 1900. -/
def fullYear (digits : List Char) : Nat :=
  let year := Text.digitsValue digits
  match digits.length with
  | 2 => if year ≤ 49 then year + 2000 else year + 1900
  | 3 => year + 1900
  | _ => year

/-- A year of at least two digits. -/
def writtenYear : Scan Nat := do
  let digits ← run Char.isDigit
  if digits.length < 2 then failure else return fullYear digits

/-- A colon and the seconds after it, or nothing. White space may stand before the colon. -/
def optionalSeconds : Scan Nat := fun cs =>
  match cs.dropWhile Text.isBlank with
  | ':' :: rest => number 2 2 rest
  | _ => some (0, cs)

/-- Where a text of comments stands: before a comment, after a blank that a comment has to follow,
in so many comments besides the outermost, or after a backslash in there. -/
inductive CommentPlace where
  | between
  | afterBlank
  | inside (depth : Nat)
  | escaped (depth : Nat)

/-- Whether a text holds nothing but comments in parentheses. White space may stand before each,
they may be nested, and a backslash takes the character after it from its meaning. -/
def isComments : CommentPlace → List Char → Bool
  | .between, [] => true
  | _, [] => false
  | .escaped depth, _ :: rest => isComments (.inside depth) rest
  | .inside depth, '\\' :: rest => isComments (.escaped depth) rest
  | .inside depth, '(' :: rest => isComments (.inside (depth + 1)) rest
  | .inside 0, ')' :: rest => isComments .between rest
  | .inside (depth + 1), ')' :: rest => isComments (.inside depth) rest
  | .inside depth, _ :: rest => isComments (.inside depth) rest
  | _, '(' :: rest => isComments (.inside 0) rest
  | _, c :: rest => Text.isBlank c && isComments .afterBlank rest

/-- Comments up to the end of the text. -/
def comments : Scan Unit := fun cs =>
  if isComments .between cs then some ((), []) else none

/-- A date and a time of day in words with a zone. A day of the week has to be that of the date. -/
def wordsWithZone : Scan Instant := do
  blanks
  let weekday ← dayOfWeek
  blanks
  let day ← number 1 2
  gap
  let month ← monthName
  gap
  let year ← writtenYear
  gap
  let hour ← number 2 2
  blanks
  token ':'
  blanks
  let minute ← number 2 2
  let second ← optionalSeconds
  gap
  let zone ← namedZone
  comments
  let date ← need (Date.of? year month day)
  if weekday.any fun weekday => date.weekday ≠ weekday then failure
  else need (Instant.universal? date ⟨hour, minute, second, 0⟩ zone)

/-! ### Without a zone -/

/-- A number of one or two digits. White space may stand before it. -/
def looseNumber : Scan Nat := do
  blanks
  number 1 2

/-- A year of up to four digits, or of any number of digits after a sign. White space may stand
before it. -/
def looseYear : Scan Int := do
  blanks
  if ← hasToken '-' then return -(← longNumber 1)
  else if ← hasToken '+' then return ← longNumber 1
  else return ← number 1 4

/-- A date. -/
def looseDate : Scan Date := do
  let year ← looseYear
  token '-'
  let month ← looseNumber
  token '-'
  let day ← looseNumber
  need (Date.of? year month day)

/-- An hour and a minute. -/
def looseMinutes : Scan Clock := do
  let hour ← looseNumber
  token ':'
  return { hour, minute := ← looseNumber }

/-- An hour, a minute, a second and perhaps a part of it. -/
def looseSeconds : Scan Clock := do
  let clock ← looseMinutes
  token ':'
  let second ← looseNumber
  return { clock with second, millisecond := ← afterPoint }

/-- A date and a time of day in universal time with something between them. -/
def timedForm (between : Scan Unit) (clock : Scan Clock) : Scan Instant := do
  let date ← looseDate
  between
  need (Instant.universal? date (← clock) 0)

/-- A date and the time of day after `T` or white space, in the order in which they are tried. -/
def timedForms : List (Scan Instant) :=
  [timedForm (token 'T') looseSeconds, timedForm blanks looseSeconds,
    timedForm (token 'T') looseMinutes]

/-- A date alone. -/
def dateForm : Scan Instant :=
  timedForm (pure ()) (pure ⟨0, 0, 0, 0⟩)

/-- The instant of a literal. -/
def literal? (s : String) : Option Instant :=
  ([digitsWithZone, wordsWithZone] ++ timedForms ++ [dateForm]).findSome? fun form =>
    whole? form s.toList

end StateTree.Time
