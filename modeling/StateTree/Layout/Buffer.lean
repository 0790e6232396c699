import StateTree.Layout.Fragment
import StateTree.Layout.Indent

/-!
# `StateTree.Layout.Buffer`: text written line by line at a level of indentation

- `Buffer.line`, `Buffer.blank`, `Buffer.docBlock`, `Buffer.comment`: what is written at the
  current level. A blank line is never indented.
- `Buffer.deeper`, `Buffer.shallower`: the level, which does not go below zero.
- `Buffer.write`, `Buffer.writeAll`: fragments, which leave the level as it was.
-/

set_option autoImplicit false

namespace StateTree.Layout

/-- The text written so far and the level of the next line. -/
structure Buffer where
  indent : Indent := .standard
  level : Nat := 0
  text : String := ""
  deriving Inhabited

/-- Breaks up every end of a documentation comment by a backslash. -/
def breakCommentEnd : List Char → List Char
  | '*' :: '/' :: rest => '*' :: '\\' :: '/' :: breakCommentEnd rest
  | c :: rest => c :: breakCommentEnd rest
  | [] => []

/-- A line inside a documentation comment. -/
def docLine (line : String) : String :=
  match breakCommentEnd line.toList with
  | [] => " *"
  | cs => " * " ++ String.ofList cs

/-- A line comment; without text it is the two slashes alone. -/
def commentLine (text : String) : String :=
  if text.isEmpty then "//" else "// " ++ text

namespace Buffer

/-- Writes a line at the current level. -/
def line (buffer : Buffer) (s : String) : Buffer :=
  { buffer with text := buffer.text ++ buffer.indent.margin buffer.level ++ s ++ "\n" }

/-- Writes an empty line. -/
def blank (buffer : Buffer) : Buffer :=
  { buffer with text := buffer.text ++ "\n" }

/-- Goes one level deeper. -/
def deeper (buffer : Buffer) : Buffer :=
  { buffer with level := buffer.level + 1 }

/-- Goes one level back; at level zero it stays there. -/
def shallower (buffer : Buffer) : Buffer :=
  { buffer with level := buffer.level - 1 }

/-- Writes a documentation comment. Nothing in the lines can end it early. -/
def docBlock (buffer : Buffer) (lines : List String) : Buffer :=
  ((lines.map docLine).foldl line (buffer.line "/**")).line " */"

/-- Writes a line comment. -/
def comment (buffer : Buffer) (s : String) : Buffer :=
  buffer.line (commentLine s)

/-- Writes a closing line if there is one. -/
def closing (buffer : Buffer) : Option String → Buffer
  | none => buffer
  | some close => buffer.line close

/-- Writes a header, what `body` writes one level deeper, and a closing line. -/
def frame (buffer : Buffer) (header close : String) (body : Buffer → Buffer) : Buffer :=
  (body (buffer.line header).deeper).shallower.line close

mutual

/-- Writes a fragment. What is in the buffer stays, and after a block the level is the one from
before. -/
def write (buffer : Buffer) : Fragment → Buffer
  | .line s => buffer.line s
  | .blank => buffer.blank
  | .block header body close =>
    (((buffer.line header).deeper.writeAll body).shallower).closing close
  | .indented body => (buffer.deeper.writeAll body).shallower
  | .sequence items => buffer.writeAll items
  | .doc lines => buffer.docBlock lines
  | .comment s => buffer.comment s

/-- Writes fragments one after the other. -/
def writeAll (buffer : Buffer) : List Fragment → Buffer
  | [] => buffer
  | fragment :: rest => (buffer.write fragment).writeAll rest

end

end Buffer

/-- The text of fragments at level zero. -/
def render (indent : Indent) (fragments : List Fragment) : String :=
  (Buffer.writeAll { indent := indent } fragments).text

end StateTree.Layout
