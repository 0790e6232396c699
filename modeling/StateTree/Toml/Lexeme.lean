import StateTree.Json.Reader

/-!
# `StateTree.Toml.Lexeme`: gaps, texts and keys of the settings notation

- `skipSpace`, `skipTrivia`: what may stand between parts of a line and between lines.
- `readText`: a text in one of four kinds of quotes.
- `readKey`: a key, which may be a path of several.
-/

set_option autoImplicit false

namespace StateTree.Toml

open StateTree.Json (hexValue?)
open StateTree.Text (Taken length_dropWhile_le)

/-- Spaces and tabs. -/
def isSpace (c : Char) : Bool :=
  c = ' ' || c = '\t'

/-- The characters that may stand in comments and literal texts: all but control characters, and
the tab. -/
def isPlain (c : Char) : Bool :=
  c = '\t' || (0x20 ≤ c.toNat && c.toNat ≠ 0x7f)

/-- The text without spaces and tabs at its front. -/
def skipSpace (cs : List Char) : List Char :=
  cs.dropWhile isSpace

/-- The text without spaces, tabs, line ends and comments at its front. -/
def skipTrivia (cs : List Char) : List Char :=
  match cs with
  | '\r' :: '\n' :: rest => skipTrivia rest
  | '#' :: rest => skipTrivia (rest.dropWhile isPlain)
  | c :: rest => if isSpace c || c = '\n' then skipTrivia rest else c :: rest
  | [] => []
termination_by cs.length
decreasing_by
  all_goals
    have := length_dropWhile_le isPlain rest
    simp only [List.length_cons]
    omega

/-- Skipping spaces, line ends and comments makes a text no longer. -/
theorem length_skipTrivia_le (cs : List Char) : (skipTrivia cs).length ≤ cs.length := by
  fun_induction skipTrivia cs with
  | case1 rest ih => simp only [List.length_cons]; omega
  | case2 rest ih =>
    have := length_dropWhile_le isPlain rest
    simp only [List.length_cons]
    omega
  | case3 c rest _ _ _ ih => simp only [List.length_cons]; omega
  | case4 => exact Nat.le_refl _
  | case5 => exact Nat.le_refl _

/-- What follows the first character after the skipped ones is shorter than the text. -/
theorem length_lt_of_skipTrivia {cs rest : List Char} {c : Char} (h : skipTrivia cs = c :: rest) :
    rest.length < cs.length := by
  have hle := length_skipTrivia_le cs
  rw [h, List.length_cons] at hle
  exact hle

/-- The rest after the end of a line, before which spaces and a comment may stand. The end of the
text ends a line, too. -/
def afterLine? (cs : List Char) : Option (List Char) :=
  let rest := match skipSpace cs with
    | '#' :: rest => rest.dropWhile isPlain
    | rest => rest
  match rest with
  | '\r' :: '\n' :: rest => some rest
  | '\n' :: rest => some rest
  | [] => some []
  | _ => none

/-! ### Texts -/

/-- The character with a code in hexadecimal digits. -/
def codeChar? (digits : List Char) : Option Char := do
  let values ← digits.mapM hexValue?
  let code := values.foldl (fun n value => 16 * n + value) 0
  if code < 0xD800 || 0xE000 ≤ code && code < 0x110000 then some (Char.ofNat code) else none

/-- The character of an escape, after the backslash. -/
def readEscape : (cs : List Char) → Option (Taken Char cs)
  | 'b' :: rest => some ⟨'\x08', rest, Nat.lt_succ_self _⟩
  | 't' :: rest => some ⟨'\t', rest, Nat.lt_succ_self _⟩
  | 'n' :: rest => some ⟨'\n', rest, Nat.lt_succ_self _⟩
  | 'f' :: rest => some ⟨'\x0c', rest, Nat.lt_succ_self _⟩
  | 'r' :: rest => some ⟨'\r', rest, Nat.lt_succ_self _⟩
  | 'e' :: rest => some ⟨'\x1b', rest, Nat.lt_succ_self _⟩
  | '"' :: rest => some ⟨'"', rest, Nat.lt_succ_self _⟩
  | '\\' :: rest => some ⟨'\\', rest, Nat.lt_succ_self _⟩
  | 'x' :: a :: b :: rest =>
    (codeChar? [a, b]).map fun c => ⟨c, rest, by simp only [List.length_cons]; omega⟩
  | 'u' :: a :: b :: c :: d :: rest =>
    (codeChar? [a, b, c, d]).map fun ch => ⟨ch, rest, by simp only [List.length_cons]; omega⟩
  | 'U' :: a :: b :: c :: d :: e :: f :: g :: h :: rest =>
    (codeChar? [a, b, c, d, e, f, g, h]).map fun ch =>
      ⟨ch, rest, by simp only [List.length_cons]; omega⟩
  | _ => none

/-- The inside of a text in double quotes, up to the closing one. -/
def readQuoted (cs : List Char) : Option (List Char × List Char) :=
  match cs with
  | '"' :: rest => some ([], rest)
  | '\\' :: rest =>
    match readEscape rest with
    | none => none
    | some ⟨c, rest', _⟩ => (readQuoted rest').map fun (text, after) => (c :: text, after)
  | c :: rest =>
    if isPlain c then (readQuoted rest).map fun (text, after) => (c :: text, after) else none
  | [] => none
termination_by cs.length
decreasing_by all_goals (simp_all only [List.length_cons]; omega)

/-- The inside of a text in single quotes, up to the closing one. -/
def readLiteral : List Char → Option (List Char × List Char)
  | '\'' :: rest => some ([], rest)
  | c :: rest =>
    if isPlain c then (readLiteral rest).map fun (text, after) => (c :: text, after) else none
  | [] => none

/-- Up to two quotes before the three that close a text belong to it. -/
def closingQuotes (quote : Char) (rest : List Char) : List Char × List Char :=
  let extra := (rest.take 2).takeWhile (· == quote)
  (extra, rest.drop extra.length)

/-- Whether only spaces stand before the end of the line. -/
def isLineEnd (cs : List Char) : Bool :=
  match skipSpace cs with
  | '\n' :: _ => true
  | '\r' :: '\n' :: _ => true
  | _ => false

/-- The text without white space and line ends at its front. -/
def skipBreaks (cs : List Char) : List Char :=
  match cs with
  | '\r' :: '\n' :: rest => skipBreaks rest
  | c :: rest => if isSpace c || c = '\n' then skipBreaks rest else c :: rest
  | [] => []
termination_by cs.length

/-- Skipping white space and line ends makes a text no longer. -/
theorem length_skipBreaks_le (cs : List Char) : (skipBreaks cs).length ≤ cs.length := by
  fun_induction skipBreaks cs with
  | case1 rest ih => simp only [List.length_cons]; omega
  | case2 c rest _ _ ih => simp only [List.length_cons]; omega
  | case3 => exact Nat.le_refl _
  | case4 => exact Nat.le_refl _

/-- The inside of a text in three double quotes, up to the closing ones. A backslash at the end of
a line takes the line end and the white space after it along. -/
def readQuotedLines (cs : List Char) : Option (List Char × List Char) :=
  match cs with
  | '"' :: '"' :: '"' :: rest => some (closingQuotes '"' rest)
  | '\\' :: rest =>
    if isLineEnd rest then
      have := length_skipBreaks_le rest
      readQuotedLines (skipBreaks rest)
    else
      match readEscape rest with
      | none => none
      | some ⟨c, rest', _⟩ => (readQuotedLines rest').map fun (text, after) => (c :: text, after)
  | '\r' :: '\n' :: rest =>
    (readQuotedLines rest).map fun (text, after) => ('\r' :: '\n' :: text, after)
  | c :: rest =>
    if isPlain c || c = '\n' then
      (readQuotedLines rest).map fun (text, after) => (c :: text, after)
    else none
  | [] => none
termination_by cs.length
decreasing_by all_goals (simp_all only [List.length_cons]; omega)

/-- The inside of a text in three single quotes, up to the closing ones. -/
def readLiteralLines : List Char → Option (List Char × List Char)
  | '\'' :: '\'' :: '\'' :: rest => some (closingQuotes '\'' rest)
  | '\r' :: '\n' :: rest =>
    (readLiteralLines rest).map fun (text, after) => ('\r' :: '\n' :: text, after)
  | c :: rest =>
    if isPlain c || c = '\n' then
      (readLiteralLines rest).map fun (text, after) => (c :: text, after)
    else none
  | [] => none

/-- The text without a line end at its front. -/
def dropLineEnd : List Char → List Char
  | '\n' :: rest => rest
  | '\r' :: '\n' :: rest => rest
  | rest => rest

/-- A text in quotes. In three quotes it may have several lines, and a line end after the opening
ones does not belong to it. -/
def readText : List Char → Option (List Char × List Char)
  | '"' :: '"' :: '"' :: rest => readQuotedLines (dropLineEnd rest)
  | '\'' :: '\'' :: '\'' :: rest => readLiteralLines (dropLineEnd rest)
  | '"' :: rest => readQuoted rest
  | '\'' :: rest => readLiteral rest
  | _ => none

/-! ### Keys -/

/-- The characters of keys without quotes. -/
def isBare (c : Char) : Bool :=
  c.isAlphanum || c = '_' || c = '-'

/-- One part of a key. -/
def readKeyPart : List Char → Option (String × List Char)
  | '"' :: rest => (readQuoted rest).map fun (text, after) => (String.ofList text, after)
  | '\'' :: rest => (readLiteral rest).map fun (text, after) => (String.ofList text, after)
  | cs =>
    let name := cs.takeWhile isBare
    if name.isEmpty then none else some (String.ofList name, cs.dropWhile isBare)

/-- The name of an entry and the names of the tables that lead to it. -/
structure Key where
  path : List String
  name : String

/-- A key: one or more parts with points between them. -/
def readKey (cs : List Char) : Option (Key × List Char) :=
  match readKeyPart cs with
  | none => none
  | some (name, rest) =>
    match skipSpace rest with
    | '.' :: after =>
      -- Always so, as the point alone takes a character.
      if (skipSpace after).length < cs.length then
        (readKey (skipSpace after)).map fun (key, rest) =>
          ({ key with path := name :: key.path }, rest)
      else none
    | after => some (⟨[], name⟩, after)
termination_by cs.length

end StateTree.Toml
