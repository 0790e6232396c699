import StateTree.Text.Blank

/-!
# `StateTree.Text.Lines`: lines and surrounding white space

- `lines`: the lines of a text. A line ends at a line feed, which takes one carriage return before
  it along; a final line feed begins no further line.
- `trim`: the text without the white space around it.
-/

set_option autoImplicit false

namespace StateTree.Text

/-- A reversed line without the carriage return that stood before its line feed. -/
def dropReturn : List Char → List Char
  | '\r' :: line => line
  | line => line

/-- The lines of a text whose first line has already begun with `line`, in reverse. Text behind
the last line feed is a line only if there is any. -/
def linesFrom : List Char → List Char → List (List Char)
  | [], [] => []
  | line, [] => [line.reverse]
  | line, c :: rest =>
    if c = '\n' then (dropReturn line).reverse :: linesFrom [] rest
    else linesFrom (c :: line) rest

/-- The lines of a text. -/
def lines (s : String) : List String :=
  (linesFrom [] s.toList).map String.ofList

/-- The text without white space at its ends. -/
def trimChars (cs : List Char) : List Char :=
  ((cs.dropWhile isBlank).reverse.dropWhile isBlank).reverse

/-- The text without white space at its ends. -/
def trim (s : String) : String :=
  String.ofList (trimChars s.toList)

end StateTree.Text
