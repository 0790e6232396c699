import StateTree.Graph.Basic
import StateTree.Naming.Registry

/-!
# `StateTree.Naming.Error`: names that are missing
-/

set_option autoImplicit false

namespace StateTree.Naming

open StateTree.Graph (TypeId)

/-- A name that something needs and that is not there. The first is never reported for a graph
whose names were assigned. -/
inductive Error where
  /-- A handle that no name was assigned to. -/
  | unresolved (id : NameId)
  /-- A type that needs a name and has none. -/
  | unnamed (type : TypeId) (kind : String)
  deriving DecidableEq, Repr

namespace Error

/-- The message of an error. -/
def message : Error → String
  | unresolved id => s!"name {id.text} was referenced but never resolved"
  | unnamed type kind => s!"{kind} type {type.text} has no name"

/-- The code of an error. -/
def code : Error → String
  | unresolved _ => "mstgen::unresolved_name"
  | unnamed _ _ => "mstgen::unnamed_type"

/-- What to do about an error, where there is advice. -/
def help? : Error → Option String
  | unresolved _ => none
  | unnamed _ _ => some "give the type a name in the graph or make it a top-level"

end Error

end StateTree.Naming
