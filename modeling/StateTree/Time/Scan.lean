import StateTree.Text.Blank
import StateTree.Text.Digits

/-!
# `StateTree.Time.Scan`: reading pieces of a literal from its front

- `Scan`: a reader that takes its piece from the front of the text, or fails.
- `Scan.whole?`: the value of a reader that takes the whole text.
- `Scan.token`, `Scan.blanks`, `Scan.gap`, `Scan.number`, `Scan.afterPoint`: the pieces that
  literals consist of.
-/

set_option autoImplicit false

namespace StateTree.Time

open StateTree.Text (digitsValue isBlank)

/-- A reader takes its piece from the front of a text, or fails. -/
abbrev Scan (α : Type) : Type := StateT (List Char) Option α

namespace Scan

/-- The value of a text that a reader takes as a whole. -/
def whole? {α : Type} (scan : Scan α) (cs : List Char) : Option α :=
  match scan.run cs with
  | some (value, []) => some value
  | _ => none

/-- A value that has to be there. -/
def need {α : Type} : Option α → Scan α
  | some value => pure value
  | none => failure

/-- One of the characters that `accepted` holds of. -/
def char (accepted : Char → Bool) : Scan Char
  | c :: rest => if accepted c then some (c, rest) else none
  | [] => none

/-- The given character. -/
def token (c : Char) : Scan Unit := do
  discard (char (· == c))

/-- Whether the given character comes next, which is then taken. -/
def hasToken (c : Char) : Scan Bool
  | d :: rest => if d == c then some (true, rest) else some (false, d :: rest)
  | [] => some (false, [])

/-- The characters at the front that `accepted` holds of. -/
def run (accepted : Char → Bool) : Scan (List Char) := fun cs =>
  some (cs.takeWhile accepted, cs.dropWhile accepted)

/-- White space, if there is any. -/
def blanks : Scan Unit := do
  discard (run isBlank)

/-- White space. -/
def gap : Scan Unit := do
  discard (char isBlank)
  blanks

/-- The digits at the front, at most `most` of them. -/
def digits (most : Nat) : Scan (List Char) := fun cs =>
  let taken := (cs.take most).takeWhile Char.isDigit
  some (taken, cs.drop taken.length)

/-- A number of at least `least` and at most `most` digits. -/
def number (least most : Nat) : Scan Nat := do
  let digits ← digits most
  if digits.length < least then failure else return digitsValue digits

/-- A number of at least `least` digits. -/
def longNumber (least : Nat) : Scan Nat := do
  let digits ← run Char.isDigit
  if digits.length < least then failure else return digitsValue digits

/-- The milliseconds of the digits after a point, of which there has to be one. -/
def millisOf (digits : List Char) : Nat :=
  digitsValue ((digits ++ ['0', '0']).take 3)

/-- A point and the milliseconds after it, or nothing. -/
def afterPoint : Scan Nat := do
  if ← hasToken '.' then
    let digits ← run Char.isDigit
    if digits.isEmpty then failure else return millisOf digits
  else return 0

end Scan

end StateTree.Time
