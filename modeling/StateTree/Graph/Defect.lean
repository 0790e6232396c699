import StateTree.Graph.Basic

/-!
# `StateTree.Graph.Defect`: what can be wrong with a type graph

- `Defect`: the structural problems, each with its message, code and advice.
-/

set_option autoImplicit false

namespace StateTree.Graph

/-- A structural problem of a type graph. Some are of graphs, and some of entries or operations
that no graph comes of. -/
inductive Defect where
  | danglingReference (source target : TypeId)
  | danglingTopLevel (name : String) (target : TypeId)
  | emptyUnion (type : TypeId)
  | emptyEnum (type : TypeId)
  | duplicateCase (type : TypeId) (value : String)
  | duplicateTopLevel (name : String)
  | unmediatedCycle (type : TypeId)
  | missingField (type : TypeId) (kind field : String)
  | notAClass (type : TypeId)
  deriving DecidableEq, Repr

namespace Defect

/-- The message of a problem. -/
def message : Defect → String
  | danglingReference source target =>
    s!"type {source.text} references {target.text}, which does not exist"
  | danglingTopLevel name target =>
    s!"top-level '{name}' references {target.text}, which does not exist"
  | emptyUnion type => s!"union {type.text} has no members"
  | emptyEnum type => s!"enum {type.text} has no cases"
  | duplicateCase type value => s!"enum {type.text} lists case '{value}' more than once"
  | duplicateTopLevel name => s!"top-level '{name}' is defined more than once"
  | unmediatedCycle type =>
    s!"type {type.text} is part of a reference cycle that does not pass through a class"
  | missingField type kind field =>
    s!"{kind} type {type.text} is missing required field '{field}'"
  | notAClass type => s!"type {type.text} is not a class"

/-- The code of a problem. -/
def code : Defect → String
  | danglingReference _ _ => "mstgen::dangling_reference"
  | danglingTopLevel _ _ => "mstgen::dangling_reference"
  | emptyUnion _ => "mstgen::empty_union"
  | emptyEnum _ => "mstgen::empty_enum"
  | duplicateCase _ _ => "mstgen::duplicate_case"
  | duplicateTopLevel _ => "mstgen::duplicate_top_level"
  | unmediatedCycle _ => "mstgen::unmediated_cycle"
  | missingField _ _ _ => "mstgen::missing_field"
  | notAClass _ => "mstgen::not_a_class"

/-- What to do about a problem, where there is advice. -/
def help? : Defect → Option String
  | duplicateTopLevel _ => some "every top-level needs a distinct name"
  | unmediatedCycle _ => some "recursive types must recurse through an object type"
  | _ => none

end Defect

end StateTree.Graph
