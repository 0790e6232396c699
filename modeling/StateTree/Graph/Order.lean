import StateTree.Graph.Cycle
import StateTree.Graph.TypeGraph

/-!
# `StateTree.Graph.Order`: dependencies before their dependents

Types are declared in the order in which a depth-first search finishes them: from the entry points
in turn, then from the nodes in order. A type that is met again while the search is still inside it
cuts a cycle.

- `finish`, `finishAll`: the finished nodes, the latest first.
- `isDeclarable`: the kinds that have a declaration of their own.
- `declarationOrder`: the declarable types in the order of their declarations.
-/

set_option autoImplicit false

namespace StateTree.Graph

/-- Taking out a member makes a list shorter. -/
theorem length_erase_lt {free : List TypeId} {v : TypeId} (h : v ∈ free) :
    (free.erase v).length < free.length := by
  rw [List.length_erase_of_mem h]
  exact Nat.sub_lt (List.length_pos_of_mem h) (by decide)

mutual

/-- Finishes a node after all that it leads to. `free` holds the nodes that are not on the path to
`v`, and `done` the finished ones, the latest first. A node on the path is passed over. -/
def finish (next : TypeId → List TypeId) (free done : List TypeId) (v : TypeId) : List TypeId :=
  if v ∈ done then done
  else if h : v ∈ free then
    have := length_erase_lt h
    v :: finishAll next (free.erase v) done (next v)
  else done
termination_by (free.length, 0)

/-- Finishes nodes one after the other. -/
def finishAll (next : TypeId → List TypeId) (free done : List TypeId) :
    List TypeId → List TypeId
  | [] => done
  | v :: vs => finishAll next free (finish next free done v) vs
termination_by vs => (free.length, vs.length + 1)

end

/-- Whether a kind has a declaration of its own. -/
def isDeclarable (declareUnions : Bool) (kind : Kind) : Bool :=
  kind.isClass || kind.isEnum || (declareUnions && kind.isUnion)

/-- Whether a type may be referred to before its declaration: a class by a late reference, an enum
because it depends on nothing. -/
def isForwardable (kind : Kind) : Bool :=
  kind.isClass || kind.isEnum

namespace TypeGraph

/-- All types, each after the types it refers to unless a cycle forbids it. -/
def finishingOrder (graph : TypeGraph) : List TypeId :=
  (finishAll graph.children graph.ids []
    (graph.topLevels.map TopLevel.type ++ graph.ids)).reverse

/-- The types that get a declaration, in the order of their declarations. -/
def declarationOrder (graph : TypeGraph) (declareUnions : Bool) : List TypeId :=
  graph.finishingOrder.filter fun id => isDeclarable declareUnions (graph.kind id)

end TypeGraph

end StateTree.Graph
