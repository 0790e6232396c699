import StateTree.Graph.Order
import StateTree.Proofs.Graph.Renumbering

/-!
# `StateTree.Proofs.Graph.Descriptions`: graphs without their descriptions

Types and properties may carry descriptions. Nothing in a graph hangs on them: without descriptions
the shapes refer to the same types, the nodes are still those of a graph, and its types are declared
in the same order.

- `Kind.undescribed`, `Node.undescribed`, `TypeGraph.undescribed`: the same without descriptions.
- `TypeGraph.SameButDescriptions`: two graphs that differ in descriptions only.
- `TypeGraph.children_undescribed`, `TypeGraph.declarationOrder_undescribed`: references and order.
-/

set_option autoImplicit false

namespace StateTree.Graph

/-! ### Shapes and nodes -/

/-- A property without its description. -/
def Property.undescribed (property : Property) : Property :=
  { property with description := none }

/-- A shape without the descriptions of its properties. No other shape has descriptions in it. -/
def Kind.undescribed : Kind → Kind
  | .object properties => .object (properties.map Property.undescribed)
  | kind => kind

/-- A node without its description and those of its properties. Its names stay, since they are
proposals for names in the file. -/
def Node.undescribed (node : Node) : Node :=
  { node with kind := node.kind.undescribed, description := none }

namespace Kind

variable (kind : Kind)

@[simp]
theorem children_undescribed : kind.undescribed.children = kind.children := by
  cases kind <;> simp [undescribed, children, Property.undescribed]

@[simp]
theorem inlined_undescribed : kind.undescribed.inlined = kind.inlined := by
  cases kind <;> rfl

@[simp]
theorem name_undescribed : kind.undescribed.name = kind.name := by
  cases kind <;> rfl

@[simp]
theorem primitive?_undescribed : kind.undescribed.primitive? = kind.primitive? := by
  cases kind <;> rfl

@[simp]
theorem isClass_undescribed : kind.undescribed.isClass = kind.isClass := by
  cases kind <;> rfl

@[simp]
theorem isEnum_undescribed : kind.undescribed.isEnum = kind.isEnum := by
  cases kind <;> rfl

@[simp]
theorem isUnion_undescribed : kind.undescribed.isUnion = kind.isUnion := by
  cases kind <;> rfl

@[simp]
theorem isNamed_undescribed : kind.undescribed.isNamed = kind.isNamed := by
  simp [isNamed]

variable {kind}

/-- Only a union without members is one without descriptions, so taking descriptions out makes no
union that the check refuses. -/
theorem eq_union_nil_of_undescribed (h : kind.undescribed = .union []) : kind = .union [] := by
  cases kind <;> simp_all [undescribed]

/-- Only an enum is one without descriptions, and its cases are the same. -/
theorem eq_enumeration_of_undescribed {cases : Distinct}
    (h : kind.undescribed = .enumeration cases) : kind = .enumeration cases := by
  cases kind <;> simp_all [undescribed]

end Kind

/-- The shape at a position without descriptions. Out of range there is the shape that stands for
none, which has no descriptions. -/
@[simp]
theorem kindAt_map_undescribed (nodes : List Node) (id : TypeId) :
    kindAt (nodes.map Node.undescribed) id = (kindAt nodes id).undescribed := by
  unfold kindAt
  rw [List.getElem?_map]
  cases nodes[id]? <;> rfl

/-- The same types are written inside one another without descriptions. So neither of the two
graphs has a cycle that the other is without. -/
theorem inside_map_undescribed (nodes : List Node) :
    Inside (nodes.map Node.undescribed) = Inside nodes := by
  funext w v
  simp [Inside, Follows, inlinedAt]

/-- The conditions on graphs do not ask for descriptions: a graph stays one when they are taken out,
which makes `TypeGraph.undescribed` a graph. -/
theorem WellFormed.undescribed {nodes : List Node} {topLevels : List TopLevel}
    (h : WellFormed nodes topLevels) : WellFormed (nodes.map Node.undescribed) topLevels := by
  refine {
    child_lt := ?child_lt
    union_ne := ?union_ne
    cases_ne := ?cases_ne
    top_lt := ?top_lt
    top_nodup := h.top_nodup
    acyclic := ?acyclic }
  case child_lt =>
    intro node' hnode' child hchild
    -- Every node comes from one with descriptions, of which the condition is known.
    obtain ⟨node, hnode, rfl⟩ := List.mem_map.1 hnode'
    rw [Node.undescribed, Kind.children_undescribed] at hchild
    rw [List.length_map]
    exact h.child_lt node hnode child hchild
  case union_ne =>
    intro node' hnode' hunion
    obtain ⟨node, hnode, rfl⟩ := List.mem_map.1 hnode'
    exact h.union_ne node hnode (Kind.eq_union_nil_of_undescribed hunion)
  case cases_ne =>
    intro node' hnode' cases hcases
    obtain ⟨node, hnode, rfl⟩ := List.mem_map.1 hnode'
    exact h.cases_ne node hnode cases (Kind.eq_enumeration_of_undescribed hcases)
  case top_lt =>
    intro top htop
    rw [List.length_map]
    exact h.top_lt top htop
  case acyclic =>
    rw [inside_map_undescribed]
    exact h.acyclic

/-- Descriptions make no graph out of what is none. A graph with descriptions that are not known can
thus be shown well formed by way of the graph without them. -/
theorem WellFormed.of_undescribed {nodes : List Node} {topLevels : List TopLevel}
    (h : WellFormed (nodes.map Node.undescribed) topLevels) : WellFormed nodes topLevels where
  -- Children, cases and the relation of types inside each other do not read descriptions, so that
  -- each field is the one of the graph without them.
  child_lt := by
    intro node hnode child hchild
    have hlt := h.child_lt _ (List.mem_map_of_mem hnode) child
    rw [Node.undescribed, Kind.children_undescribed, List.length_map] at hlt
    exact hlt hchild
  union_ne := by
    intro node hnode hunion
    exact h.union_ne _ (List.mem_map_of_mem hnode) (by rw [Node.undescribed, hunion]; rfl)
  cases_ne := by
    intro node hnode cases hcases
    exact h.cases_ne _ (List.mem_map_of_mem hnode) cases (by rw [Node.undescribed, hcases]; rfl)
  top_lt := by
    intro top htop
    have hlt := h.top_lt top htop
    rwa [List.length_map] at hlt
  top_nodup := h.top_nodup
  acyclic := by
    rw [← inside_map_undescribed]
    exact h.acyclic

namespace TypeGraph

/-! ### Graphs -/

/-- The graph without descriptions. Its file has no doc comments, and otherwise the lines of the
file with them, as `descriptions_stay_in_comments` says. -/
def undescribed (graph : TypeGraph) : TypeGraph where
  nodes := graph.nodes.map Node.undescribed
  topLevels := graph.topLevels
  wellFormed := graph.wellFormed.undescribed

/-- Two graphs differ in nothing but the descriptions of types and properties: they have the same
entry points, and the same nodes when all descriptions are taken out. -/
structure SameButDescriptions (graph graph' : TypeGraph) : Prop where
  nodes : graph.nodes.map Node.undescribed = graph'.nodes.map Node.undescribed
  topLevels : graph.topLevels = graph'.topLevels

/-- Graphs that differ in descriptions only are one graph without these. A statement about two
such graphs can so be shown by comparing each of them with its own graph without descriptions. -/
theorem SameButDescriptions.undescribed_eq {graph graph' : TypeGraph}
    (h : graph.SameButDescriptions graph') : graph.undescribed = graph'.undescribed := by
  unfold undescribed
  congr 1
  · exact h.nodes
  · exact h.topLevels

variable (graph : TypeGraph)

@[simp]
theorem kind_undescribed (id : TypeId) : graph.undescribed.kind id = (graph.kind id).undescribed :=
  kindAt_map_undescribed graph.nodes id

/-- Nothing is described, neither a type that has a node nor one that has none. -/
theorem description?_undescribed (id : TypeId) : graph.undescribed.description? id = none := by
  show (graph.nodes.map Node.undescribed)[id]?.bind Node.description = none
  rw [List.getElem?_map]
  cases graph.nodes[id]? <;> rfl

/-- References are the same without descriptions. The search for an order of the declarations goes
by these only. -/
theorem children_undescribed : graph.undescribed.children = graph.children := by
  funext id
  simp [children]

/-- Types are declared in the same order without descriptions: it comes from the number of nodes,
the references and the kinds of shapes. -/
theorem declarationOrder_undescribed (declareUnions : Bool) :
    graph.undescribed.declarationOrder declareUnions = graph.declarationOrder declareUnions := by
  have hids : graph.undescribed.ids = graph.ids := by simp [ids, size, undescribed]
  have hfinishing : graph.undescribed.finishingOrder = graph.finishingOrder := by
    rw [finishingOrder, finishingOrder, hids, children_undescribed]
    rfl
  -- Which of the types are declared hangs on the kinds of their shapes.
  simp [declarationOrder, hfinishing, isDeclarable]

end TypeGraph

end StateTree.Graph
