import StateTree.Expr.Basic
import StateTree.Graph.Order
import StateTree.Naming.TypeNames

/-!
# `StateTree.Expr.Translate`: the expressions of types

An expression is translated at some point of a file, when some declarations have been written.
A class that has not been written is referred to late. A union that has a name and has been written
is referred to by name; any other union is written out.

- `distinctMembers`: the members of a union, of equal primitive ones only the first.
- `translate`: the expression of a type.
- `unionExpression`: the expression of a union written out.
-/

set_option autoImplicit false

namespace StateTree.Expr

open StateTree.Graph
open StateTree.Naming (NameId TypeNames)

/-- The members of a union, without the primitive ones whose type is in `seen` or came before.
Members of other kinds all stay, even if one comes twice. -/
def distinctMembers (kind : TypeId → Kind) (seen : List Primitive) : List TypeId → List TypeId
  | [] => []
  | member :: rest =>
    match (kind member).primitive? with
    | none => member :: distinctMembers kind seen rest
    | some type =>
      if type ∈ seen then distinctMembers kind seen rest
      else member :: distinctMembers kind (type :: seen) rest

/-- Leaving out members adds none. -/
theorem mem_of_mem_distinctMembers {kind : TypeId → Kind} {seen : List Primitive}
    {members : List TypeId} {id : TypeId} (h : id ∈ distinctMembers kind seen members) :
    id ∈ members := by
  induction members generalizing seen with
  | nil => simp [distinctMembers] at h
  | cons member rest ih =>
    rw [distinctMembers] at h
    split at h
    · rcases List.mem_cons.1 h with rfl | h
      · simp
      · exact List.mem_cons_of_mem _ (ih h)
    · -- With a primitive type the member may have been seen, and then it is left out.
      split at h
      · exact List.mem_cons_of_mem _ (ih h)
      · rcases List.mem_cons.1 h with rfl | h
        · simp
        · exact List.mem_cons_of_mem _ (ih h)

/-- The scalar that a primitive type is written as. Formats other than that of dates are written
as strings, and both kinds of numbers as one. -/
def scalarOf : Primitive → Scalar
  | .any => .any
  | .null => .null
  | .bool => .boolean
  | .integer | .double => .number
  | .string => .string
  | .formatted .dateTime => .date
  | .formatted _ => .string

/-- The name of a type that cannot do without. -/
def nameOf (names : TypeNames) (id : TypeId) (kind : Kind) : Except Naming.Error NameId :=
  match names.typeName? id with
  | some name => .ok name
  | none => .error (.unnamed id kind.name)

/-- The name of a union whose declaration has been written. -/
def writtenName? (names : TypeNames) (written : List TypeId) (id : TypeId) : Option NameId :=
  if id ∈ written then names.typeName? id else none

/-- What is written inside the shape of a type is inside the type. -/
theorem inside_of_mem {graph : TypeGraph} {id part : TypeId} {kind : Kind}
    (h : graph.kind id = kind) (hpart : part ∈ kind.inlined) : Inside graph.nodes part id := by
  subst h
  exact hpart

/-- The expression of a type at a point of a file where the declarations of `written` have been
written. -/
def translate (graph : TypeGraph) (names : TypeNames) (written : List TypeId) (id : TypeId) :
    Except Naming.Error Expr :=
  match h : graph.kind id with
  | .primitive type => .ok (.scalar (scalarOf type))
  | .array items =>
    have := inside_of_mem h (List.mem_singleton_self items)
    (translate graph names written items).map .array
  | .map _ => .ok (.scalar .any)
  | .object properties =>
    (nameOf names id (.object properties)).map fun name =>
      if id ∈ written then .reference name else .late name
  | .enumeration cases => (nameOf names id (.enumeration cases)).map .enumeration
  | .union members =>
    match writtenName? names written id with
    | some name => .ok (.reference name)
    -- A union that has no name, or whose declaration comes later, is written out.
    | none =>
      ((distinctMembers graph.kind [] members).attach.mapM fun member =>
        have := inside_of_mem h (mem_of_mem_distinctMembers member.2)
        translate graph names written member.1).map .union
termination_by graph.inside_wellFounded.wrap id
decreasing_by all_goals assumption

/-- The expression of a union written out; of any other type the expression that it has anyway. It
is what a declaration of the union says, where its own name must not be used. -/
def unionExpression (graph : TypeGraph) (names : TypeNames) (written : List TypeId) (id : TypeId) :
    Except Naming.Error Expr :=
  match graph.kind id with
  | .union members =>
    ((distinctMembers graph.kind [] members).mapM (translate graph names written)).map .union
  | _ => translate graph names written id

end StateTree.Expr
