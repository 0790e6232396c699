/-!
# `StateTree.Layout.Indent`: one level of indentation
-/

set_option autoImplicit false

namespace StateTree.Layout

/-- What one level of indentation is made of. -/
inductive Indent where
  | spaces (width : Nat)
  | tab
  deriving DecidableEq, Repr

namespace Indent

/-- Generated files indent by two spaces. -/
def standard : Indent := spaces 2

/-- The text of one level. -/
def text : Indent → String
  | spaces width => String.ofList (List.replicate width ' ')
  | tab => "\t"

/-- The text of a number of levels. -/
def margin (indent : Indent) : Nat → String
  | 0 => ""
  | level + 1 => indent.text ++ indent.margin level

end Indent

end StateTree.Layout
