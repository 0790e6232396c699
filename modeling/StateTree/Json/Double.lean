import StateTree.Json.Value

/-!
# `StateTree.Json.Double`: numbers as binary numbers of 64 bits

A number is read as a whole number of at most 64 bits, its significand, and a power of ten, by
which the significand is then scaled. A number of many digits can so miss the nearest binary number
by a little.

- `extend`: a significand with further digits, as long as it fits.
- `scale?`: a significand times a power of ten, in steps.
- `Number.float?`: the value of a number, unless it is too large.
-/

set_option autoImplicit false

namespace StateTree.Json

open StateTree.Text (digitsValue)

/-- Significands are less than this. -/
def significandBound : Nat := 0x10000000000000000

/-- Appends digits to a significand up to the first with which it would need more than 64 bits.
The second result is the number of digits left out. -/
def extend (significand : Nat) : List Char → Nat × Nat
  | [] => (significand, 0)
  | c :: rest =>
    let extended := 10 * significand + digitsValue [c]
    if extended < significandBound then extend extended rest else (significand, rest.length + 1)

/-- The greatest power of ten that a single step scales by. -/
def greatestStep : Nat := 308

/-- The power of ten with the given exponent, rounded to the nearest. -/
def powerOfTen (exponent : Nat) : Float :=
  Float.ofScientific 1 false exponent

/-- A value other than infinity. -/
def finite? (x : Float) : Option Float :=
  if x.isInf then none else some x

/-- A value divided by a power of ten, in steps of at most the greatest. -/
def scaleDown (x : Float) (exponent : Nat) : Float :=
  if exponent ≤ greatestStep then x / powerOfTen exponent
  else if x == 0 then x
  else scaleDown (x / powerOfTen greatestStep) (exponent - greatestStep)
termination_by exponent
decreasing_by simp only [greatestStep] at *; omega

/-- A value times a power of ten, unless that is too large. -/
def scale? (x : Float) (exponent : Int) : Option Float :=
  if exponent < 0 then some (scaleDown x (-exponent).toNat)
  else if exponent ≤ greatestStep then finite? (x * powerOfTen exponent.toNat)
  else if x == 0 then some x
  else none

namespace Number

/-- The digits after the point. -/
def fractionDigits (n : Number) : List Char :=
  n.fraction.getD []

/-- The exponent as it is written. -/
def writtenExponent (n : Number) : Int :=
  match n.exponent with
  | none => 0
  | some (true, digits) => -(digitsValue digits : Int)
  | some (false, digits) => digitsValue digits

/-- The value of a number, unless it is too large. Digits before the point that do not fit into the
significand count as zeros, and those after it are left out. -/
def float? (n : Number) : Option Float :=
  let (whole, dropped) := extend 0 n.whole
  let (significand, ignored) := extend whole n.fractionDigits
  let kept := n.fractionDigits.length - ignored
  let size := scale? significand.toUInt64.toFloat (n.writtenExponent + dropped - kept)
  size.map fun size => if n.negative then -size else size

end Number

end StateTree.Json
