import StateTree.Text.Digits

/-!
# `StateTree.Json.Value`: values of the interchange notation

A value keeps what the text says: numbers as they are written, and the members of an object in
order, repeated names included. What a repeated name means is for the reader of the value to say.

- `Value`: the values.
- `Value.nat32?`, `Value.text?`, `Value.bool?`, `Value.list?`, `Value.orNull?`: values of one kind.
- `Value.variant?`: the name of a case without content.
- `Value.record?`: the fields of a record.
-/

set_option autoImplicit false

namespace StateTree.Json

open StateTree.Text (digitsValue)

/-- A number as it is written: sign, digits, digits after the point and the exponent with its
sign. -/
structure Number where
  negative : Bool
  whole : List Char
  fraction : Option (List Char) := none
  exponent : Option (Bool × List Char) := none
  deriving DecidableEq, Repr

/-- A value. -/
inductive Value where
  | null
  | bool (b : Bool)
  | number (n : Number)
  | text (s : String)
  | array (items : List Value)
  | object (members : List (String × Value))

namespace Value

/-- A number below 2 ^ 32, written without sign, point or exponent. -/
def nat32? : Value → Option Nat
  | number ⟨false, whole, none, none⟩ =>
    let n := digitsValue whole
    if n < 0x100000000 then some n else none
  | _ => none

/-- A text. -/
def text? : Value → Option String
  | text s => some s
  | _ => none

/-- A truth value. -/
def bool? : Value → Option Bool
  | bool b => some b
  | _ => none

/-- An array all of whose items `read` accepts. -/
def list? {α : Type} (read : Value → Option α) : Value → Option (List α)
  | array items => items.mapM read
  | _ => none

/-- A value that `read` accepts, or null. -/
def orNull? {α : Type} (read : Value → Option α) : Value → Option (Option α)
  | null => some none
  | value => (read value).map some

/-- The name of a case without content: a text, or an object with that name alone over null. -/
def variant? : Value → Option String
  | text s => some s
  | object [(s, null)] => some s
  | _ => none

/-- The fields of a record with the given field names: an object with some of the names, none of
them twice, or an array with a value for each name in order. -/
def record? (names : List String) : Value → Option (List (String × Value))
  | object members =>
    let given := members.map Prod.fst
    if given.all names.contains && given.eraseDups.length == given.length then some members
    else none
  | array items => if items.length == names.length then some (names.zip items) else none
  | _ => none

end Value

/-- A field that has to be there. -/
def required {α : Type} (fields : List (String × Value)) (name : String)
    (read : Value → Option α) : Option α :=
  (fields.lookup name).bind read

/-- A field that has a value where it is missing. -/
def defaulted {α : Type} (fields : List (String × Value)) (name : String)
    (read : Value → Option α) (missing : α) : Option α :=
  match fields.lookup name with
  | some value => read value
  | none => some missing

/-- A field that may be missing or null. -/
def optional {α : Type} (fields : List (String × Value)) (name : String)
    (read : Value → Option α) : Option (Option α) :=
  defaulted fields name (Value.orNull? read) none

end StateTree.Json
