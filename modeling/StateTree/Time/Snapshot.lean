import StateTree.Decimal.Shortest
import StateTree.Json.Double
import StateTree.Json.Reader
import StateTree.Time.Literal

/-!
# `StateTree.Time.Snapshot`: the stored form of an instant

An instant is stored as a number of seconds from the epoch, as a text with such a number or a
literal, or as null, which stands for no instant. It is written as a literal to the millisecond.

- `Snapshot`, `Snapshot.parse?`: the stored form and its reading from an interchange text.
- `Snapshot.millis`: the milliseconds that a stored form means.
- `Snapshot.toInstant`, `Snapshot.ofInstant`: from the stored form to an instant and back.
- `Snapshot.complaint`: what is wrong with a stored form.
-/

set_option autoImplicit false

namespace StateTree.Time

open StateTree.Json (Value)

/-- The stored form of an instant, or of none. -/
inductive Snapshot where
  | seconds (count : Float)
  | text (s : String)
  | null

/-- A stored form that means no instant; `shown` is its text. -/
structure InvalidTimestamp where
  shown : String
  deriving DecidableEq, Repr

namespace InvalidTimestamp

/-- What is said about a stored form that means no instant. -/
def reason : String :=
  "doesn't look like a valid literal timestamp or unix timestamp"

/-- The message of the error. -/
def message (error : InvalidTimestamp) : String :=
  "'" ++ error.shown ++ "' " ++ reason

end InvalidTimestamp

/-- Whether a text holds digits and points only. -/
def isNumericText (cs : List Char) : Bool :=
  !cs.isEmpty && cs.all fun c => c.isDigit || c = '.'

/-- The text up to its second point. -/
def leadingDecimal (cs : List Char) : List Char :=
  match cs.span (· ≠ '.') with
  | (whole, '.' :: rest) => whole ++ '.' :: rest.takeWhile (· ≠ '.')
  | (whole, _) => whole

/-- The value of digits with at most one point among or around them. Without a digit there is
none. -/
def decimalValue? (cs : List Char) : Option Float :=
  let whole := cs.takeWhile (· ≠ '.')
  let fraction := (cs.dropWhile (· ≠ '.')).drop 1
  let digits := whole ++ fraction
  if digits.isEmpty then none
  else some (Float.ofScientific (Text.digitsValue digits) true fraction.length)

/-- The value of the decimal at the front of a text of digits and points. -/
def leadingFloat? (cs : List Char) : Option Float :=
  decimalValue? (leadingDecimal cs)

/-- The whole part of a number. Where that does not fit into 64 bits with a sign, it is the nearest
number that does. -/
def wholePart (x : Float) : Int :=
  x.toModel.toInt64.toInt

namespace Snapshot

/-- The stored form that a value holds. -/
def ofValue? : Value → Option Snapshot
  | .number n => n.float?.map seconds
  | .text s => some (text s)
  | .null => some null
  | _ => none

/-- The stored form in an interchange text. -/
def parse? (src : String) : Option Snapshot :=
  (Json.parse? src).bind ofValue?

/-- The text of a stored form. -/
def shown : Snapshot → String
  | seconds count => Decimal.ofFloat count
  | text s => s
  | null => "null"

/-- The error that a stored form means no instant. -/
def invalid (snapshot : Snapshot) : InvalidTimestamp :=
  ⟨snapshot.shown⟩

/-- The milliseconds of a stored form other than null, if it has the form of a number or literal.
It says nothing about whether there is an instant. -/
def readMillis? : Snapshot → Option Float
  | seconds count => some (count * 1000)
  | text s =>
    if isNumericText s.toList then (leadingFloat? s.toList).map (· * 1000)
    else (literal? s).map fun instant => Float.ofInt instant.millis
  | null => none

/-- The milliseconds from the epoch that a stored form means, none for null. They are finite,
which is all that is checked of them here. -/
def millis (snapshot : Snapshot) : Except InvalidTimestamp (Option Float) :=
  match snapshot with
  | null => .ok none
  | snapshot =>
    match snapshot.readMillis? with
    | some millis => if millis.isFinite then .ok (some millis) else .error snapshot.invalid
    | none => .error snapshot.invalid

/-- The instant that a stored form means, none for null. A part of a millisecond is cut off. The
milliseconds may still be those of no supported year. -/
def toInstant (snapshot : Snapshot) : Except InvalidTimestamp (Option Instant) :=
  match snapshot.millis with
  | .error error => .error error
  | .ok none => .ok none
  | .ok (some millis) =>
    match Instant.ofMillis? (wholePart millis) with
    | some instant => .ok (some instant)
    | none => .error snapshot.invalid

/-- The stored form of an instant, or of none. -/
def ofInstant : Option Instant → Snapshot
  | some instant => text instant.text
  | none => null

/-- What is wrong with a stored form; empty where its milliseconds can be told. -/
def complaint (snapshot : Snapshot) : String :=
  match snapshot.millis with
  | .ok _ => ""
  | .error error => error.message

end Snapshot

end StateTree.Time
