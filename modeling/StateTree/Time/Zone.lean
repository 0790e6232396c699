import StateTree.Time.Scan

/-!
# `StateTree.Time.Zone`: how far a place is ahead of universal time

- `offset`: hours and minutes with a sign.
- `colonZone`: the zone of a date and time of digits.
- `namedZone`: the zone of a date and time of words.
-/

set_option autoImplicit false

namespace StateTree.Time

/-- The characters for a place behind universal time. -/
def isMinus (c : Char) : Bool :=
  c = '-' || c = '\u2212'

/-- Hours and minutes after a sign, as minutes. Less than a day. -/
def offset (isSign : Char → Bool) (between : Scan Unit) : Scan Int := do
  let sign ← Scan.char isSign
  let hours ← Scan.number 2 2
  between
  let minutes ← Scan.number 2 2
  if 23 < hours || 59 < minutes then failure
  else
    let size : Int := hours * 60 + minutes
    return if isMinus sign then -size else size

/-- A zone that is `Z` or hours and minutes with a colon. The minus sign proper counts as one. -/
def colonZone : Scan Int := do
  if ← Scan.hasToken 'Z' then return 0
  else if ← Scan.hasToken 'z' then return 0
  else offset (fun c => c = '+' || isMinus c) (Scan.token ':')

/-- The hours that a zone with a name in lower-case letters is ahead of universal time. A single
letter other than `j` stands for some zone and is taken for universal time. -/
def zoneHours? : List Char → Option Int
  | ['g', 'm', 't'] => some 0
  | ['u', 't'] => some 0
  | ['e', 'd', 't'] => some (-4)
  | ['e', 's', 't'] => some (-5)
  | ['c', 'd', 't'] => some (-5)
  | ['c', 's', 't'] => some (-6)
  | ['m', 'd', 't'] => some (-6)
  | ['m', 's', 't'] => some (-7)
  | ['p', 'd', 't'] => some (-7)
  | ['p', 's', 't'] => some (-8)
  | [letter] => if letter = 'j' then none else some 0
  | _ => none

/-- A zone that is a name or hours and minutes without a colon. -/
def namedZone : Scan Int := do
  let name ← Scan.run Char.isAlpha
  if name.isEmpty then offset (fun c => c = '+' || c = '-') (pure ())
  else
    let hours ← Scan.need (zoneHours? (name.map Char.toLower))
    return hours * 60

end StateTree.Time
