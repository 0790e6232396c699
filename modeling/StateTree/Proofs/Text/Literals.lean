import Mathlib.Data.List.Basic
import StateTree.Text.Quoted

/-!
# `StateTree.Proofs.Text.Literals`: a literal reads back as its text

A reader of the generated language takes the characters between double quotes as UTF-16 units: most
as the units of the character, an escape as what it stands for. A quote ends the literal, and a line
may not end inside. The reader here knows all escapes of the language, also those that are never
written, and takes the two line separators for ends of lines, as older readers do.

It goes through a literal character by character and keeps track of the escape that it is in. A
character as it is written brings it back to where it was with the units of the character, and so a
whole text does, whatever comes behind it.

- `readFrom`, `readLiteral?`: the reader.
- `readFrom_escapeChar`: one character as it is written.
- `readLiteral?_quote`: the literal of a text, followed by anything.
- `utf16_injective`: two texts do not have the same units.
- `escapeChar_eq_singleton_iff`, `escape_eq_self_iff`: which characters and which texts are written
  as they are.
-/

set_option autoImplicit false

namespace StateTree.Text

/-! ### Units -/

/-- The UTF-16 units of a text. This is what texts are in the generated language, and so what
reading a literal comes to. -/
def utf16 (cs : List Char) : List Nat :=
  cs.flatMap units16

/-- A character is one unit that is no surrogate, or a high surrogate and a low one. All that is
said of units below is by these two cases. -/
theorem units16_cases (c : Char) :
    (units16 c = [c.toNat] ∧ c.toNat < 0x10000 ∧ (c.toNat < 0xD800 ∨ 0xDFFF < c.toNat)) ∨
    ∃ high low, units16 c = [0xD800 + high, 0xDC00 + low] ∧ high < 0x400 ∧ low < 0x400 ∧
      c.toNat = 0x10000 + high * 0x400 + low := by
  have hvalid : c.toNat < 0xD800 ∨ 0xDFFF < c.toNat ∧ c.toNat < 0x110000 := c.valid
  unfold units16
  by_cases hplane : c.toNat < 0x10000
  · left
    simp only [hplane, if_true, true_and]
    omega
  · -- Ten bits go into each surrogate.
    right
    refine ⟨(c.toNat - 0x10000) / 0x400, (c.toNat - 0x10000) % 0x400, ?_, ?_, ?_, ?_⟩
    · simp only [hplane, if_false]
    · omega
    · omega
    · omega

/-- The units of a character can be told from what follows them: a high surrogate tells that a low
one comes next. -/
theorem units16_append_injective {c d : Char} {us vs : List Nat}
    (h : units16 c ++ us = units16 d ++ vs) : c = d ∧ us = vs := by
  obtain ⟨hc, -, hc'⟩ | ⟨high, low, hc, hhigh, hlow, hc'⟩ := units16_cases c <;>
    obtain ⟨hd, -, hd'⟩ | ⟨high', low', hd, hhigh', hlow', hd'⟩ := units16_cases d <;>
    rw [hc, hd] at h
  · obtain ⟨heq, hrest⟩ := List.cons.inj h
    exact ⟨Char.toNat_inj.1 heq, hrest⟩
  · -- One character alone is no surrogate.
    have heq := (List.cons.inj h).1
    omega
  · have heq := (List.cons.inj h).1
    omega
  · obtain ⟨heq, hrest⟩ := List.cons.inj h
    obtain ⟨heq', hrest⟩ := List.cons.inj hrest
    refine ⟨Char.toNat_inj.1 ?_, hrest⟩
    omega

/-- No character is without units, so a text that is not empty has some. -/
theorem units16_ne_nil (c : Char) : units16 c ≠ [] := by
  unfold units16
  dsimp only
  split <;> simp

/-- Two texts do not have the same units. Reading back units is therefore as good as reading back
the text. -/
theorem utf16_injective {cs ds : List Char} (h : utf16 cs = utf16 ds) : cs = ds := by
  induction cs generalizing ds with
  | nil =>
    cases ds with
    | nil => rfl
    | cons d ds => simp [utf16, units16_ne_nil] at h
  | cons c cs ih =>
    cases ds with
    | nil => simp [utf16, units16_ne_nil] at h
    | cons d ds =>
      -- No character's units begin those of another one, so the first characters are the same.
      obtain ⟨rfl, hrest⟩ := units16_append_injective h
      rw [ih hrest]

/-! ### Reading literals -/

/-- Where a reader is inside a literal. Reading is by recursion on the text with this as its
state, so an escape needs no look ahead. -/
inductive Reading where
  /-- Between characters. -/
  | plain
  /-- After a backslash. -/
  | escape
  /-- After the `u` of an escape. -/
  | unicode
  /-- In an escape with this many hexadecimal digits to come, after digits of the given value. -/
  | digits (missing value : Nat)
  /-- In an escape in braces, after digits of the given value, if there were any. -/
  | braces (value : Option Nat)
  deriving DecidableEq, Repr

/-- The value of a hexadecimal digit, with small letters or capitals. What is written has small
letters only. -/
def hexValue? (c : Char) : Option Nat :=
  if '0' ≤ c ∧ c ≤ '9' then some (c.toNat - 0x30)
  else if 'a' ≤ c ∧ c ≤ 'f' then some (c.toNat - 0x57)
  else if 'A' ≤ c ∧ c ≤ 'F' then some (c.toNat - 0x37)
  else none

/-- The characters that end a line: line feed, carriage return, and the two separators. -/
def isLineEnd (c : Char) : Bool :=
  c = '\n' || c = '\r' || isSeparator c

/-- The unit that a letter stands for after a backslash. All other letters stand for themselves.
-/
def controlOf? : Char → Option Nat
  | 'b' => some 0x08
  | 't' => some 0x09
  | 'n' => some 0x0A
  | 'v' => some 0x0B
  | 'f' => some 0x0C
  | 'r' => some 0x0D
  | _ => none

/-- The units of a code point, which may be a surrogate: escapes can name those alone, which no
character is. -/
def unitsOf (n : Nat) : List Nat :=
  if n < 0x10000 then [n]
  else [0xD800 + (n - 0x10000) / 0x400, 0xDC00 + (n - 0x10000) % 0x400]

/-- What was read with units in front of it. If nothing was read, nothing comes of it. -/
def prepend (units : List Nat) (result : Option (List Nat × List Char)) :
    Option (List Nat × List Char) :=
  result.map fun (more, rest) => (units ++ more, rest)

/-- Reads the inside of a literal up to its closing quote: its units, and what comes after it. The
first argument says what has been taken of an escape. Every call takes a character, so this is by
recursion on the text. -/
def readFrom : Reading → List Char → Option (List Nat × List Char)
  | _, [] => none
  | .plain, c :: rest =>
    if c = '"' then some ([], rest)
    else if c = '\\' then readFrom .escape rest
    else if isLineEnd c then none
    else prepend (units16 c) (readFrom .plain rest)
  | .escape, c :: rest =>
    if c = 'u' then readFrom .unicode rest
    else if c = 'x' then readFrom (.digits 2 0) rest
    else if isLineEnd c then
      -- A line may go on after a backslash; a carriage return takes a line feed with it.
      match c, rest with
      | '\r', '\n' :: rest => readFrom .plain rest
      | _, rest => readFrom .plain rest
    else if c = '0' && !rest.head?.any Char.isDigit then prepend [0] (readFrom .plain rest)
    else if c.isDigit then none
    else prepend ((controlOf? c).elim (units16 c) fun unit => [unit]) (readFrom .plain rest)
  | .unicode, c :: rest =>
    if c = '\x7b' then readFrom (.braces none) rest
    else
      match hexValue? c with
      | some digit => readFrom (.digits 3 digit) rest
      | none => none
  | .digits missing value, c :: rest =>
    match hexValue? c with
    | some digit =>
      if missing ≤ 1 then prepend [0x10 * value + digit] (readFrom .plain rest)
      else readFrom (.digits (missing - 1) (0x10 * value + digit)) rest
    | none => none
  | .braces value, c :: rest =>
    if c = '\x7d' then
      match value with
      | some n => if n < 0x110000 then prepend (unitsOf n) (readFrom .plain rest) else none
      | none => none
    else
      match hexValue? c with
      | some digit => readFrom (.braces (some (0x10 * value.getD 0 + digit))) rest
      | none => none

/-- Reads a literal: its units, and what comes after it. A text that does not begin with a quote
is none. -/
def readLiteral? : List Char → Option (List Nat × List Char)
  | '"' :: rest => readFrom .plain rest
  | _ => none

/-! ### Characters as they are written -/

/-- A hexadecimal digit reads back, and is no brace. A brace behind `u` would begin another kind
of escape. -/
theorem hexValue?_hexDigit : ∀ d < 16, hexValue? (hexDigit d) = some d ∧ hexDigit d ≠ '\x7b' := by
  decide

/-- The escape of a unit reads back as the unit. Its four digits are one more than the reader has
taken at any time. -/
theorem readFrom_escapeUnit {u : Nat} (hu : u < 0x10000) (rest : List Char) :
    readFrom .plain (escapeUnit u ++ rest) = prepend [u] (readFrom .plain rest) := by
  obtain ⟨h₁, hbrace⟩ := hexValue?_hexDigit (u / 0x1000 % 16) (Nat.mod_lt _ (by decide))
  obtain ⟨h₂, -⟩ := hexValue?_hexDigit (u / 0x100 % 16) (Nat.mod_lt _ (by decide))
  obtain ⟨h₃, -⟩ := hexValue?_hexDigit (u / 0x10 % 16) (Nat.mod_lt _ (by decide))
  obtain ⟨h₄, -⟩ := hexValue?_hexDigit (u % 16) (Nat.mod_lt _ (by decide))
  -- The value that the reader has after the last digit.
  have hvalue : 0x10 * (0x10 * (0x10 * (u / 0x1000 % 16) + u / 0x100 % 16) + u / 0x10 % 16) +
      u % 16 = u := by omega
  simp [escapeUnit, readFrom, hbrace, h₁, h₂, h₃, h₄, hvalue]

/-- Escapes of units one after the other read back as the units. A character outside of the first
plane is written as two of them. -/
theorem readFrom_flatMap_escapeUnit {units : List Nat} (hunits : ∀ u ∈ units, u < 0x10000)
    (rest : List Char) :
    readFrom .plain (units.flatMap escapeUnit ++ rest) = prepend units (readFrom .plain rest) := by
  induction units with
  | nil => cases h : readFrom .plain rest <;> simp [prepend, h]
  | cons u units ih =>
    have hrest : ∀ u ∈ units, u < 0x10000 := fun v hv => hunits v (List.mem_cons_of_mem _ hv)
    rw [List.flatMap_cons, List.append_assoc, readFrom_escapeUnit (hunits u List.mem_cons_self),
      ih hrest]
    cases readFrom .plain rest <;> simp [prepend]

/-- The units of a character take sixteen bits, as four hexadecimal digits do. -/
theorem lt_of_mem_units16 {c : Char} : ∀ u ∈ units16 c, u < 0x10000 := by
  intro u hu
  obtain ⟨hc, hlt, -⟩ | ⟨high, low, hc, hhigh, hlow, -⟩ := units16_cases c
  · obtain rfl : u = c.toNat := by simpa [hc] using hu
    exact hlt
  · have hu : u = 0xD800 + high ∨ u = 0xDC00 + low := by simpa [hc] using hu
    omega

/-- The characters with a short escape, each with what stands after the backslash. -/
def shortEscapes : List (Char × Char) :=
  [('\\', '\\'), ('"', '"'), ('\n', 'n'), ('\r', 'r'), ('\t', 't'), ('\x08', 'b'), ('\x0c', 'f')]

/-- The characters that are not written as they are: those that end a literal or begin an escape,
controls, separators, and all outside of the first plane. -/
def needsEscape (c : Char) : Bool :=
  c = '"' || c = '\\' || isControl c || isSeparator c || 0xFFFF < c.toNat

/-- What holds of a character that is written as it is. Each of the five conditions excludes one
kind of escape. -/
theorem needsEscape_eq_false_iff {c : Char} : needsEscape c = false ↔
    c ≠ '"' ∧ c ≠ '\\' ∧ isControl c = false ∧ isSeparator c = false ∧ c.toNat ≤ 0xFFFF := by
  simp [needsEscape, and_assoc]

/-- A character that is written as it is ends no line: the ends of lines are controls or
separators. -/
theorem isLineEnd_of_needsEscape {c : Char} (h : needsEscape c = false) : isLineEnd c = false := by
  obtain ⟨-, -, hcontrol, hseparator, -⟩ := needsEscape_eq_false_iff.1 h
  have hnewline : c ≠ '\n' := by
    rintro rfl
    exact absurd hcontrol (by decide)
  have hreturn : c ≠ '\r' := by
    rintro rfl
    exact absurd hcontrol (by decide)
  simp [isLineEnd, hnewline, hreturn, hseparator]

/-- The three ways to write a character: by a short escape, by escapes of its units, or as it is.
What is shown of escaped texts is shown for each of these. -/
theorem escapeChar_cases (c : Char) :
    (∃ d, (c, d) ∈ shortEscapes ∧ escapeChar c = ['\\', d]) ∨
    escapeChar c = (units16 c).flatMap escapeUnit ∧ needsEscape c = true ∨
    escapeChar c = [c] ∧ needsEscape c = false := by
  by_cases hshort : c ∈ shortEscapes.map Prod.fst
  · left
    simp only [shortEscapes, List.map_cons, List.map_nil, List.mem_cons, List.not_mem_nil,
      or_false] at hshort
    obtain rfl | rfl | rfl | rfl | rfl | rfl | rfl := hshort <;> exact ⟨_, by decide, rfl⟩
  · right
    simp only [shortEscapes, List.map_cons, List.map_nil, List.mem_cons, List.not_mem_nil,
      or_false, not_or] at hshort
    obtain ⟨hbackslash, hquote, hnewline, hreturn, htab, hback, hfeed⟩ := hshort
    -- All tests for short escapes fail.
    rw [escapeChar, if_neg hbackslash, if_neg hquote, if_neg hnewline, if_neg hreturn, if_neg htab,
      if_neg hback, if_neg hfeed]
    by_cases hescaped : (isControl c || isSeparator c || 0xFFFF < c.toNat) = true
    · refine .inl ⟨if_pos hescaped, ?_⟩
      simpa [needsEscape, hquote, hbackslash, or_assoc] using hescaped
    · refine .inr ⟨if_neg hescaped, ?_⟩
      simpa [needsEscape, hquote, hbackslash, and_assoc] using hescaped

/-- A short escape reads back as the units of its character. There are seven, and each is read by
evaluation. -/
theorem readFrom_of_mem_shortEscapes {c d : Char} (h : (c, d) ∈ shortEscapes) (rest : List Char) :
    readFrom .plain ('\\' :: d :: rest) = prepend (units16 c) (readFrom .plain rest) := by
  simp only [shortEscapes, List.mem_cons, List.not_mem_nil, or_false, Prod.mk.injEq] at h
  obtain ⟨rfl, rfl⟩ | ⟨rfl, rfl⟩ | ⟨rfl, rfl⟩ | ⟨rfl, rfl⟩ | ⟨rfl, rfl⟩ | ⟨rfl, rfl⟩ | ⟨rfl, rfl⟩ :=
    h <;> rfl

/-- A character as it is written reads back as its units, whatever comes after it. It is the step
of the next induction. -/
theorem readFrom_escapeChar (c : Char) (rest : List Char) :
    readFrom .plain (escapeChar c ++ rest) = prepend (units16 c) (readFrom .plain rest) := by
  obtain ⟨d, hd, hc⟩ | ⟨hc, -⟩ | ⟨hc, hplain⟩ := escapeChar_cases c
  · rw [hc]
    exact readFrom_of_mem_shortEscapes hd rest
  · rw [hc]
    exact readFrom_flatMap_escapeUnit lt_of_mem_units16 rest
  · obtain ⟨hquote, hbackslash, -⟩ := needsEscape_eq_false_iff.1 hplain
    rw [hc, List.singleton_append, readFrom, if_neg hquote, if_neg hbackslash,
      isLineEnd_of_needsEscape hplain]
    rfl

/-- The inside of a literal reads back up to its closing quote, and not further. -/
theorem readFrom_escapeChars (cs rest : List Char) :
    readFrom .plain (escapeChars cs ++ '"' :: rest) = some (utf16 cs, rest) := by
  induction cs with
  | nil => rfl
  | cons c cs ih =>
    show readFrom .plain ((escapeChar c ++ escapeChars cs) ++ '"' :: rest) = _
    rw [List.append_assoc, readFrom_escapeChar, ih]
    rfl

/-- The literal of a text reads back as the units of the text, whatever comes after it. Keys and
enum members are read back by this. -/
theorem readLiteral?_quote (s : String) (rest : List Char) :
    readLiteral? ((quote s).toList ++ rest) = some (utf16 s.toList, rest) := by
  have hlist : (quote s).toList ++ rest = '"' :: (escapeChars s.toList ++ '"' :: rest) := by
    simp [quote, escape, String.toList_append]
  rw [hlist]
  exact readFrom_escapeChars s.toList rest

/-! ### Texts that are written as they are -/

/-- A character is written as itself, or as two characters or more. So a text that is changed gets
longer. -/
theorem eq_singleton_or_two_le (c : Char) :
    escapeChar c = [c] ∨ 2 ≤ (escapeChar c).length := by
  obtain ⟨d, -, hc⟩ | ⟨hc, -⟩ | ⟨hc, -⟩ := escapeChar_cases c
  · exact .inr (by rw [hc]; exact Nat.le_refl 2)
  · right
    obtain ⟨u, units, hcons⟩ := List.exists_cons_of_ne_nil (units16_ne_nil c)
    have hunit : (escapeUnit u).length = 6 := rfl
    rw [hc, hcons, List.flatMap_cons, List.length_append, hunit]
    omega
  · exact .inl hc

/-- The characters that are written as they are. The five tests can be read off a text. -/
theorem escapeChar_eq_singleton_iff {c : Char} : escapeChar c = [c] ↔ needsEscape c = false := by
  obtain ⟨d, hd, hc⟩ | ⟨hc, hescaped⟩ | ⟨hc, hplain⟩ := escapeChar_cases c
  · have hshort : ∀ entry ∈ shortEscapes, needsEscape entry.1 = true := by decide
    exact iff_of_false (by simp [hc]) (by simp [hshort (c, d) hd])
  · obtain ⟨u, units, hcons⟩ := List.exists_cons_of_ne_nil (units16_ne_nil c)
    exact iff_of_false (by simp [hc, hcons, escapeUnit]) (by simp [hescaped])
  · exact iff_of_true hc hplain

/-- Escaping makes no text shorter, since no character is left out. -/
theorem length_le_length_escapeChars (cs : List Char) : cs.length ≤ (escapeChars cs).length := by
  induction cs with
  | nil => exact Nat.le_refl 0
  | cons c cs ih =>
    have hchar : 1 ≤ (escapeChar c).length := by
      obtain hc | hc := eq_singleton_or_two_le c
      · exact Nat.le_of_eq (by rw [hc, List.length_singleton])
      · omega
    rw [escapeChars, List.flatMap_cons, List.length_append, List.length_cons]
    rw [escapeChars] at ih
    omega

/-- A text is written as it is exactly if each of its characters is. A longer escape in one place
cannot be made up for in another. -/
theorem escapeChars_eq_self_iff {cs : List Char} :
    escapeChars cs = cs ↔ ∀ c ∈ cs, escapeChar c = [c] := by
  induction cs with
  | nil => simp [escapeChars]
  | cons c cs ih =>
    have hcons : escapeChars (c :: cs) = escapeChar c ++ escapeChars cs := rfl
    rw [hcons, List.forall_mem_cons, ← ih]
    constructor
    · intro h
      obtain hc | hc := eq_singleton_or_two_le c
      · rw [hc] at h
        exact ⟨hc, (List.cons.inj h).2⟩
      · -- An escape is longer than what it stands for, and the rest gets no shorter.
        have hlength := congrArg List.length h
        have hle := length_le_length_escapeChars cs
        rw [List.length_append, List.length_cons] at hlength
        omega
    · rintro ⟨hc, hcs⟩
      rw [hc, hcs]
      rfl

/-- A text is left as it is by escaping exactly if none of its characters needs an escape. The
test for bare keys escapes a name to find out. -/
theorem escape_eq_self_iff {s : String} :
    escape s = s ↔ ∀ c ∈ s.toList, needsEscape c = false := by
  rw [escape, ← String.toList_inj, String.toList_ofList, escapeChars_eq_self_iff]
  simp only [escapeChar_eq_singleton_iff]

end StateTree.Text
