/-!
# `StateTree.Text.Position`: places in a text, counted in bytes

- `lineColumnOffset?`: the place of a line and column, both counted from one.
- `findOffset?`: the place where a piece of text comes first.
-/

set_option autoImplicit false

namespace StateTree.Text

/-- The bytes that some characters take. -/
def byteLength : List Char → Nat
  | [] => 0
  | c :: rest => c.utf8Size + byteLength rest

/-- The bytes before a line, lines being counted from zero. There is a line after each line feed. -/
def lineStart? : Nat → List Char → Option Nat
  | 0, _ => some 0
  | _ + 1, [] => none
  | line + 1, c :: rest =>
    (lineStart? (if c = '\n' then line else line + 1) rest).map (c.utf8Size + ·)

/-- The place of a line and column. There is no line zero; a column zero counts as the first, and a
column past the end of the text as its end. -/
def lineColumnOffset? (src : List Char) (line column : Nat) : Option Nat :=
  match line with
  | 0 => none
  | line + 1 => (lineStart? line src).map fun start => min (start + (column - 1)) (byteLength src)

/-- The bytes before the first place where `piece` comes in a text. -/
def findOffset? (piece : List Char) : List Char → Option Nat
  | [] => if piece.isEmpty then some 0 else none
  | c :: rest =>
    if piece.isPrefixOf (c :: rest) then some 0
    else (findOffset? piece rest).map (c.utf8Size + ·)

end StateTree.Text
