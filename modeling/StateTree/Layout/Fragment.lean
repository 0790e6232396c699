import StateTree.Text.Lines

/-!
# `StateTree.Layout.Fragment`: pieces of output without their indentation

A fragment says what lines there are and how they nest. The indentation is decided by the buffer
that it is written to.
-/

set_option autoImplicit false

namespace StateTree.Layout

/-- A piece of generated text. It knows nothing of levels and margins, so the same fragment can
stand anywhere. -/
inductive Fragment where
  | line (text : String)
  | blank
  /-- A header, a body one level deeper, and a closing line if there is one. -/
  | block (header : String) (body : List Fragment) (close : Option String)
  /-- A body one level deeper. -/
  | indented (body : List Fragment)
  | sequence (items : List Fragment)
  /-- The lines of a documentation comment. -/
  | doc (lines : List String)
  /-- A line comment. -/
  | comment (text : String)
  deriving Inhabited

/-- A documentation comment with one entry for each line of the text. -/
def Fragment.docOf (text : String) : Fragment :=
  .doc (Text.lines text)

/-- The documentation comment of a description, if there is one. -/
def Fragment.docOf? : Option String → List Fragment
  | none => []
  | some text => [.docOf text]

end StateTree.Layout
