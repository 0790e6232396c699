import StateTree.Json.Value
import StateTree.Text.Taken

/-!
# `StateTree.Json.Reader`: reading the interchange notation

The strict notation: no comments, no trailing commas, no leading zeros, blanks only of the four
kinds, no raw control characters in texts, and no surrogate escape without its partner.

- `readString`: the inside of a text up to its closing quote.
- `readNumber`: a number.
- `readValue`: any value.
- `parse?`: a whole text that holds one value.
-/

set_option autoImplicit false

namespace StateTree.Json

open StateTree.Text (Taken length_dropWhile_le)

/-- The characters that may stand around values. -/
def isGap (c : Char) : Bool :=
  c = ' ' || c = '\t' || c = '\n' || c = '\r'

/-- The text without gaps at its front. -/
def skipGap (cs : List Char) : List Char :=
  cs.dropWhile isGap

/-- Skipping gaps makes a text no longer. -/
theorem length_skipGap_le (cs : List Char) : (skipGap cs).length ≤ cs.length :=
  length_dropWhile_le isGap cs

/-- What follows the first character after the gaps is shorter than the text. -/
theorem length_lt_of_skipGap {cs rest : List Char} {c : Char} (h : skipGap cs = c :: rest) :
    rest.length < cs.length := by
  have hle := length_skipGap_le cs
  rw [h, List.length_cons] at hle
  exact hle

/-- The value of a hexadecimal digit. -/
def hexValue? (c : Char) : Option Nat :=
  if '0' ≤ c && c ≤ '9' then some (c.toNat - 0x30)
  else if 'a' ≤ c && c ≤ 'f' then some (c.toNat - 0x57)
  else if 'A' ≤ c && c ≤ 'F' then some (c.toNat - 0x37)
  else none

/-- The UTF-16 unit of four hexadecimal digits. -/
def unitValue? (a b c d : Char) : Option Nat := do
  return 0x1000 * (← hexValue? a) + 0x100 * (← hexValue? b) + 0x10 * (← hexValue? c)
    + (← hexValue? d)

/-- The character of an escape of one letter. -/
def shortEscape? : Char → Option Char
  | '"' => some '"'
  | '\\' => some '\\'
  | '/' => some '/'
  | 'b' => some '\x08'
  | 'f' => some '\x0c'
  | 'n' => some '\n'
  | 'r' => some '\r'
  | 't' => some '\t'
  | _ => none

/-- The character of a unit that is no surrogate. -/
def plainUnit? (u : Nat) : Option Char :=
  if 0xD800 ≤ u && u < 0xE000 then none else some (Char.ofNat u)

/-- The character of a high and a low surrogate. -/
def pairedUnits? (high low : Nat) : Option Char :=
  if 0xD800 ≤ high && high < 0xDC00 && 0xDC00 ≤ low && low < 0xE000 then
    some (Char.ofNat (0x10000 + 0x400 * (high - 0xD800) + (low - 0xDC00)))
  else none

/-- One character of a text, escaped or not. The closing quote is none. -/
def readChar : (cs : List Char) → Option (Taken Char cs)
  | '\\' :: 'u' :: a :: b :: c :: d :: rest =>
    match unitValue? a b c d with
    | none => none
    | some u =>
      -- A surrogate has to be the high half of a pair, whose low half is the next escape.
      match plainUnit? u, rest with
      | some ch, rest => some ⟨ch, rest, by simp only [List.length_cons]; omega⟩
      | none, '\\' :: 'u' :: e :: f :: g :: h :: rest =>
        ((unitValue? e f g h).bind (pairedUnits? u)).map fun ch =>
          ⟨ch, rest, by simp only [List.length_cons]; omega⟩
      | none, _ => none
  | '\\' :: c :: rest =>
    (shortEscape? c).map fun ch => ⟨ch, rest, by simp only [List.length_cons]; omega⟩
  | c :: rest =>
    if c = '"' || c = '\\' || c.toNat < 0x20 then none else some ⟨c, rest, by simp⟩
  | [] => none

/-- The inside of a text up to its closing quote. -/
def readString (cs : List Char) : Option (Taken (List Char) cs) :=
  match cs with
  | '"' :: rest => some ⟨[], rest, by simp⟩
  | cs =>
    match readChar cs with
    | none => none
    | some ⟨c, rest, h⟩ =>
      (readString rest).map fun taken => (taken.map (c :: ·)).within (Nat.le_of_lt h)
termination_by cs.length

/-- Splits a text after its leading digits. -/
def spanDigits (cs : List Char) : List Char × List Char :=
  (cs.takeWhile Char.isDigit, cs.dropWhile Char.isDigit)

/-- The digits after a point, of which there has to be one. No point, no fraction. -/
def readFraction : List Char → Option (Option (List Char) × List Char)
  | '.' :: rest =>
    match spanDigits rest with
    | ([], _) => none
    | (digits, rest) => some (some digits, rest)
  | rest => some (none, rest)

/-- The digits of an exponent, of which there has to be one, with its sign in front. -/
def readExponentDigits (negative : Bool) (cs : List Char) :
    Option (Option (Bool × List Char) × List Char) :=
  match spanDigits cs with
  | ([], _) => none
  | (digits, rest) => some (some (negative, digits), rest)

/-- The exponent of a number, if it has one. -/
def readExponent : List Char → Option (Option (Bool × List Char) × List Char)
  | c :: rest =>
    if c = 'e' || c = 'E' then
      match rest with
      | '+' :: rest => readExponentDigits false rest
      | '-' :: rest => readExponentDigits true rest
      | rest => readExponentDigits false rest
    else some (none, c :: rest)
  | [] => some (none, [])

/-- A number without its sign. Only zero itself begins with the digit zero. -/
def readUnsigned (negative : Bool) (cs : List Char) : Option (Number × List Char) :=
  match spanDigits cs with
  | ([], _) => none
  | ('0' :: _ :: _, _) => none
  | (whole, rest) => do
    let (fraction, rest) ← readFraction rest
    let (exponent, rest) ← readExponent rest
    return (⟨negative, whole, fraction, exponent⟩, rest)

/-- A number. -/
def readNumber : List Char → Option (Number × List Char)
  | '-' :: rest => readUnsigned true rest
  | cs => readUnsigned false cs

/-- The rest after a word that stands at the front. -/
def afterWord? (word cs : List Char) : Option (List Char) :=
  if word.isPrefixOf cs then some (cs.drop word.length) else none

/-- A value that is neither a text nor a container. -/
def readScalar (cs : List Char) : Option (Value × List Char) :=
  match afterWord? "null".toList cs, afterWord? "true".toList cs, afterWord? "false".toList cs with
  | some rest, _, _ => some (.null, rest)
  | none, some rest, _ => some (.bool true, rest)
  | none, none, some rest => some (.bool false, rest)
  | none, none, none => (readNumber cs).map fun (n, rest) => (.number n, rest)

/-- The name of a member and the colon after it. -/
def readName (cs : List Char) : Option (Taken String cs) :=
  match h : skipGap cs with
  | '"' :: rest =>
    match readString rest with
    | none => none
    | some ⟨name, after, hafter⟩ =>
      have hafter := Nat.lt_trans hafter (length_lt_of_skipGap h)
      match hcolon : skipGap after with
      | ':' :: rest' =>
        some ⟨String.ofList name, rest', Nat.lt_trans (length_lt_of_skipGap hcolon) hafter⟩
      | _ => none
  | _ => none

mutual

/-- A value, with gaps in front of it. -/
def readValue (cs : List Char) : Option (Taken Value cs) :=
  match h : skipGap cs with
  | '"' :: rest =>
    have hrest := Nat.le_of_lt (length_lt_of_skipGap h)
    (readString rest).map fun taken =>
      (taken.map fun s => Value.text (String.ofList s)).within hrest
  | '[' :: rest =>
    have hrest := length_lt_of_skipGap h
    match hclose : skipGap rest with
    | ']' :: rest' => some ⟨.array [], rest', Nat.lt_trans (length_lt_of_skipGap hclose) hrest⟩
    | _ => (readItems rest).map fun taken => (taken.map .array).within (Nat.le_of_lt hrest)
  | '{' :: rest =>
    have hrest := length_lt_of_skipGap h
    match hclose : skipGap rest with
    | '}' :: rest' => some ⟨.object [], rest', Nat.lt_trans (length_lt_of_skipGap hclose) hrest⟩
    | _ => (readMembers rest).map fun taken => (taken.map .object).within (Nat.le_of_lt hrest)
  | cs' =>
    match readScalar cs' with
    | none => none
    | some (value, rest) => if hlt : rest.length < cs.length then some ⟨value, rest, hlt⟩ else none
termination_by (cs.length, 0)
decreasing_by all_goals exact Prod.Lex.left _ _ hrest

/-- The items of an array up to its closing bracket; there is at least one. -/
def readItems (cs : List Char) : Option (Taken (List Value) cs) :=
  match readValue cs with
  | none => none
  | some ⟨value, rest, hrest⟩ =>
    match h : skipGap rest with
    | ',' :: rest' =>
      have hlt := Nat.lt_trans (length_lt_of_skipGap h) hrest
      (readItems rest').map fun taken => (taken.map (value :: ·)).within (Nat.le_of_lt hlt)
    | ']' :: rest' => some ⟨[value], rest', Nat.lt_trans (length_lt_of_skipGap h) hrest⟩
    | _ => none
termination_by (cs.length, 1)
decreasing_by
  · exact Prod.Lex.right _ (by decide)
  · exact Prod.Lex.left _ _ hlt

/-- The members of an object up to its closing brace; there is at least one. -/
def readMembers (cs : List Char) : Option (Taken (List (String × Value)) cs) :=
  match readName cs with
  | none => none
  | some ⟨name, afterName, hname⟩ =>
    match readValue afterName with
    | none => none
    | some ⟨value, rest, hrest⟩ =>
      have hrest := Nat.lt_trans hrest hname
      match h : skipGap rest with
      | ',' :: rest' =>
        have hlt := Nat.lt_trans (length_lt_of_skipGap h) hrest
        (readMembers rest').map fun taken =>
          (taken.map ((name, value) :: ·)).within (Nat.le_of_lt hlt)
      | '}' :: rest' =>
        some ⟨[(name, value)], rest', Nat.lt_trans (length_lt_of_skipGap h) hrest⟩
      | _ => none
termination_by (cs.length, 1)
decreasing_by
  · exact Prod.Lex.left _ _ hname
  · exact Prod.Lex.left _ _ hlt

end

/-- The value of a text that holds one value and gaps around it. -/
def parse? (src : String) : Option Value :=
  match readValue src.toList with
  | none => none
  | some taken => if (skipGap taken.rest).isEmpty then some taken.value else none

end StateTree.Json
