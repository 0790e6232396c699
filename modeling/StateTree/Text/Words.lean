import StateTree.Text.Alphabetic
import StateTree.Text.Lowercase
import StateTree.Text.Numeric
import StateTree.Text.Uppercase

/-!
# `StateTree.Text.Words`: the words of a name

A name is split at every character that is neither a letter nor a number, and inside a run of such
characters at three kinds of boundary: a capital after a small letter (`user|Name`), the capital
that begins a word after capitals (`URL|Path`), and a letter after a number (`v2|beta`).

- `splitChars`: the words as lists of characters.
- `splitWords`: the words as texts.
-/

set_option autoImplicit false

namespace StateTree.Text

/-- A letter or a number: what words are made of. -/
def isAlphanumeric (c : Char) : Bool :=
  isAlphabetic c || isNumeric c

/-- Whether a word begins at `c`, which follows `prev` and precedes `next` in a run of letters and
numbers. The look ahead may go past the end of the run. -/
def isBoundary (prev c : Char) (next : Option Char) : Bool :=
  (isLowercase prev && isUppercase c)
    || (isUppercase prev && isUppercase c && next.any isLowercase)
    || (isNumeric prev && isAlphabetic c)

/-- Whether the word of the letter or number `c` goes on into the text after it. -/
def continues (c : Char) : List Char → Bool
  | [] => false
  | d :: rest => isAlphanumeric d && !isBoundary c d rest.head?

/-- Puts a character in front of the first word, or makes it a word if there is none. -/
def joinFirst (c : Char) : List (List Char) → List (List Char)
  | [] => [[c]]
  | word :: words => (c :: word) :: words

/-- The words of a text in order. Whether a character goes on into the next one is decided on what
comes behind it, so the recursion needs no state. -/
def splitChars : List Char → List (List Char)
  | [] => []
  | c :: rest =>
    if isAlphanumeric c then
      if continues c rest then joinFirst c (splitChars rest) else [c] :: splitChars rest
    else splitChars rest

/-- The words of a name in order. -/
def splitWords (s : String) : List String :=
  (splitChars s.toList).map String.ofList

end StateTree.Text
