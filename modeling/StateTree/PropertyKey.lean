import StateTree.Identifier
import StateTree.Text.Quoted

/-!
# `StateTree.PropertyKey`: the keys of a model's properties

A key stands bare where it is a plain identifier under the key convention, and as a quoted literal
everywhere else.
-/

set_option autoImplicit false

namespace StateTree

/-- The rules that a bare key has to satisfy: what it may begin with, and a function that leaves it
unchanged. -/
structure KeyConvention where
  legalize : String → String := legalize
  isStart : Char → Bool := isIdentifierStart

namespace KeyConvention

/-- A key may stand bare when it is not empty, begins as the convention asks, and neither escaping
nor legalizing changes it. -/
def isBare (convention : KeyConvention) (name : String) : Bool :=
  match name.toList with
  | [] => false
  | c :: _ =>
    convention.isStart c && Text.escape name == name && convention.legalize name == name

/-- The key of a property: its name where that may stand bare, else the literal of its name. -/
def key (convention : KeyConvention) (name : String) : String :=
  if convention.isBare name then name else Text.quote name

end KeyConvention

end StateTree
