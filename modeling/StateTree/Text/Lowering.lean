import StateTree.Text.CaseIgnorable
import StateTree.Text.CaseMap
import StateTree.Text.Cased

/-!
# `StateTree.Text.Lowering`: texts in small and capitalised form

Lowering a text maps each character to its small form. A capital sigma is the one character whose
form depends on its neighbours: at the end of a word it becomes the final sigma.

- `lower`: the whole text in small letters.
- `capitalize`: the first character in its capital form and the rest as it is.
-/

set_option autoImplicit false

namespace StateTree.Text

/-- Whether a cased character follows once the characters that case rules look through are
skipped. -/
def casedAhead (cs : List Char) : Bool :=
  match cs.dropWhile isCaseIgnorable with
  | [] => false
  | c :: _ => isCased c

/-- A sigma ends a word when a cased character stands before it and none stands after it. -/
def lowerSigma (before after : List Char) : Char :=
  if casedAhead before && !casedAhead after then 'ς' else 'σ'

/-- Lowers a text, given what stands before it in reverse. -/
def lowerFrom : List Char → List Char → List Char
  | _, [] => []
  | before, c :: rest =>
    (if c = 'Σ' then [lowerSigma before rest] else lowerOf c) ++ lowerFrom (c :: before) rest

/-- The text in small letters. -/
def lower (cs : List Char) : List Char :=
  lowerFrom [] cs

/-- The text with its first character in capital form. -/
def capitalize : List Char → List Char
  | [] => []
  | c :: rest => upperOf c ++ rest

end StateTree.Text
