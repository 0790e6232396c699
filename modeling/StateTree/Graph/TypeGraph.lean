import StateTree.Graph.WellFormed

/-!
# `StateTree.Graph.TypeGraph`: well-formed type graphs

- `TypeGraph`: nodes and entry points that satisfy the conditions.
- `TypeGraph.ofParts`: the graph of nodes and entry points, or their first defect.
-/

set_option autoImplicit false

namespace StateTree.Graph

/-- A well-formed type graph. -/
structure TypeGraph where
  nodes : List Node
  topLevels : List TopLevel
  wellFormed : WellFormed nodes topLevels

namespace TypeGraph

/-- The graph of nodes and entry points, or their first defect. -/
def ofParts (nodes : List Node) (topLevels : List TopLevel) : Except Defect TypeGraph :=
  match h : validate nodes topLevels with
  | .ok () => .ok ⟨nodes, topLevels, wellFormed_of_validate h⟩
  | .error defect => .error defect

/-- The number of nodes. -/
def size (graph : TypeGraph) : Nat :=
  graph.nodes.length

/-- All positions in order. -/
def ids (graph : TypeGraph) : List TypeId :=
  List.range graph.size

/-- The node at a position. -/
def node? (graph : TypeGraph) (id : TypeId) : Option Node :=
  graph.nodes[id]?

/-- The shape at a position. -/
def kind (graph : TypeGraph) (id : TypeId) : Kind :=
  kindAt graph.nodes id

/-- The description at a position. -/
def description? (graph : TypeGraph) (id : TypeId) : Option String :=
  (graph.node? id).bind Node.description

/-- The positions of the classes in order. -/
def classes (graph : TypeGraph) : List TypeId :=
  graph.ids.filter fun id => (graph.kind id).isClass

/-- The types that a type refers to. -/
def children (graph : TypeGraph) (id : TypeId) : List TypeId :=
  (graph.kind id).children

/-- No chain of types, each written inside the one before, is infinite. -/
theorem inside_wellFounded (graph : TypeGraph) : WellFounded (Inside graph.nodes) :=
  graph.wellFormed.wellFounded

end TypeGraph

end StateTree.Graph
