import Mathlib.Data.List.Nodup
import Mathlib.Logic.Equiv.Defs
import StateTree.Proofs.Graph.FinishingOrder
import StateTree.Proofs.Graph.Validation

/-!
# `StateTree.Proofs.Graph.Renumbering`: graphs whose nodes are numbered differently

Nodes may be listed in another order, with all references changed accordingly. Such nodes are still
a graph. A search from the entry points goes through them in the same way, since it only follows
references in the order in which they stand. After that the search starts from all nodes in the
order of their numbers, and here the numbers do make a difference. But if every type that may be
declared can be reached from an entry point, there is nothing to declare left to find by then.

- `Kind.rename`, `Node.rename`, `TopLevel.rename`: what refers to types, with other numbers in it.
- `Renumbers`: nodes in another order; `Renumbers.wellFormed`: they are still those of a graph.
- `TypeGraph.Renumbers`: two such graphs; `TypeGraph.exists_renumbers`: there is always the second.
- `finishAll_rename`: a search that starts from the same nodes under other numbers.
- `TypeGraph.finishedFirst`: what a search from the entry points finishes.
- `TypeGraph.Renumbers.declarationOrder_eq`: the types are declared in the same order.
-/

set_option autoImplicit false

namespace StateTree

/-! ### Other numbers -/

/-- The values under the same names, each changed. No name is touched, so the names are still
distinct, and the result is keyed without a check. -/
def Keyed.map {α β : Type} (f : α → β) (keyed : Keyed α) : Keyed β where
  entries := keyed.entries.map fun entry => (entry.1, f entry.2)
  nodup := by
    simpa [List.map_map, Function.comp_def] using keyed.nodup

@[simp]
theorem Keyed.names_map {α β : Type} (f : α → β) (keyed : Keyed α) :
    (keyed.map f).names = keyed.names := by
  simp [names, map]

@[simp]
theorem Keyed.values_map {α β : Type} (f : α → β) (keyed : Keyed α) :
    (keyed.map f).values = keyed.values.map f := by
  simp [values, map]

namespace Graph

/-- A property with another number for its type. -/
def Property.rename (σ : TypeId → TypeId) (property : Property) : Property :=
  { property with type := σ property.type }

/-- A shape with other numbers for the types that it refers to. A primitive and an enum refer to
nothing and stay as they are. -/
def Kind.rename (σ : TypeId → TypeId) : Kind → Kind
  | primitive type => primitive type
  | array items => array (σ items)
  | map values => map (σ values)
  | object properties => object (properties.map (Property.rename σ))
  | enumeration cases => enumeration cases
  | union members => union (members.map σ)

/-- A node with other numbers for the types that it refers to. -/
def Node.rename (σ : TypeId → TypeId) (node : Node) : Node :=
  { node with kind := node.kind.rename σ }

/-- An entry point with another number for its type. It keeps its name: what names are proposed
for a type must not hang on numbers. -/
def TopLevel.rename (σ : TypeId → TypeId) (top : TopLevel) : TopLevel :=
  { top with type := σ top.type }

section

variable (σ : TypeId → TypeId) (kind : Kind)

@[simp]
theorem Kind.children_rename : (kind.rename σ).children = kind.children.map σ := by
  cases kind <;> simp [rename, children, Property.rename]

@[simp]
theorem Kind.inlined_rename : (kind.rename σ).inlined = kind.inlined.map σ := by
  cases kind <;> simp [rename, inlined, children]

@[simp]
theorem Kind.primitive?_rename : (kind.rename σ).primitive? = kind.primitive? := by
  cases kind <;> rfl

@[simp]
theorem Kind.isClass_rename : (kind.rename σ).isClass = kind.isClass := by
  cases kind <;> rfl

@[simp]
theorem Kind.isEnum_rename : (kind.rename σ).isEnum = kind.isEnum := by
  cases kind <;> rfl

@[simp]
theorem Kind.isUnion_rename : (kind.rename σ).isUnion = kind.isUnion := by
  cases kind <;> rfl

@[simp]
theorem Kind.isNamed_rename : (kind.rename σ).isNamed = kind.isNamed := by
  simp [isNamed]

@[simp]
theorem isDeclarable_rename (declareUnions : Bool) :
    isDeclarable declareUnions (kind.rename σ) = isDeclarable declareUnions kind := by
  simp [isDeclarable]

variable {σ kind}

/-- A union without members is still one, and nothing else becomes one. The check of graphs
refuses such unions, so this is what keeps nodes acceptable. -/
theorem Kind.rename_eq_union_nil_iff : kind.rename σ = .union [] ↔ kind = .union [] := by
  cases kind <;> simp [rename]

/-- An enum refers to nothing, so it keeps its cases, and nothing else becomes one. With it the
cases that are asked for in one order are there in the other. -/
theorem Kind.rename_eq_enumeration_iff {cases : Distinct} :
    kind.rename σ = .enumeration cases ↔ kind = .enumeration cases := by
  cases kind <;> simp [rename]

end

/-- What may be declared takes part in naming. The types that a file declares are among those
whose names are settled, which is why only named types have to be within reach in
`generate_renumbered`. -/
theorem isNamed_of_isDeclarable {declareUnions : Bool} {kind : Kind}
    (h : isDeclarable declareUnions kind) : kind.isNamed := by
  -- Both are told from the kind of shape alone.
  cases kind <;> simp_all [isDeclarable, Kind.isNamed, Kind.isClass, Kind.isEnum, Kind.isUnion]

/-! ### Nodes in another order -/

/-- The nodes of the second list are those of the first, with `σ id` for the number `id`. A number
out of range in one of them goes to a number out of range in the other, so the lists are of one
length. -/
def Renumbers (σ : TypeId → TypeId) (nodes nodes' : List Node) : Prop :=
  ∀ id, nodes'[σ id]? = nodes[id]?.map (Node.rename σ)

namespace Renumbers

variable {σ : Equiv.Perm TypeId} {nodes nodes' : List Node} (h : Renumbers σ nodes nodes')

include h

/-- The shape at a position comes from the position of the same node. Positions out of range have
the same shape under all numbers, so there is nothing to ask of `id`. -/
theorem kindAt_eq (id : TypeId) : kindAt nodes' (σ id) = (kindAt nodes id).rename σ := by
  rw [kindAt, kindAt, h id]
  cases nodes[id]? <;> rfl

/-- A number is in range if it is in the other order. So references that lead to a node still do.
-/
theorem lt_length_iff {id : TypeId} : σ id < nodes'.length ↔ id < nodes.length := by
  rw [← not_iff_not, Nat.not_lt, Nat.not_lt, ← List.getElem?_eq_none_iff,
    ← List.getElem?_eq_none_iff, h id, Option.map_eq_none_iff]

/-- Every node is one of the other order. What is checked node by node is thus checked already. -/
theorem exists_node {node' : Node} (hnode' : node' ∈ nodes') :
    ∃ node ∈ nodes, node' = node.rename σ := by
  obtain ⟨i, hi⟩ := List.mem_iff_getElem?.1 hnode'
  -- The position in the second list is that of the node from `σ.symm i`.
  rw [← σ.apply_symm_apply i, h, Option.map_eq_some_iff] at hi
  obtain ⟨node, hnode, rfl⟩ := hi
  exact ⟨node, List.mem_of_getElem? hnode, rfl⟩

/-- What is written inside what is the same. A type that is inside of itself would be so under its
old number, which carries the absence of cycles over. -/
theorem inside {v w : TypeId} (hvw : Inside nodes' w v) : Inside nodes (σ.symm w) (σ.symm v) := by
  rw [Inside, Follows, inlinedAt, ← σ.apply_symm_apply v, h.kindAt_eq, Kind.inlined_rename,
    List.mem_map] at hvw
  obtain ⟨part, hpart, rfl⟩ := hvw
  rw [σ.symm_apply_apply]
  exact hpart

/-- The conditions on graphs do not depend on the order of the nodes. So a file that is made from
a graph can be compared with the one made from its nodes in any other order. -/
theorem wellFormed {topLevels : List TopLevel} (hgraph : WellFormed nodes topLevels) :
    WellFormed nodes' (topLevels.map (TopLevel.rename σ)) := by
  refine {
    child_lt := ?child_lt
    union_ne := ?union_ne
    cases_ne := ?cases_ne
    top_lt := ?top_lt
    top_nodup := ?top_nodup
    acyclic := ?acyclic }
  case child_lt =>
    intro node' hnode' child' hchild'
    obtain ⟨node, hnode, rfl⟩ := h.exists_node hnode'
    rw [Node.rename, Kind.children_rename, List.mem_map] at hchild'
    obtain ⟨child, hchild, rfl⟩ := hchild'
    exact h.lt_length_iff.2 (hgraph.child_lt node hnode child hchild)
  case union_ne =>
    intro node' hnode' hunion
    obtain ⟨node, hnode, rfl⟩ := h.exists_node hnode'
    exact hgraph.union_ne node hnode (Kind.rename_eq_union_nil_iff.1 hunion)
  case cases_ne =>
    intro node' hnode' cases hcases
    obtain ⟨node, hnode, rfl⟩ := h.exists_node hnode'
    exact hgraph.cases_ne node hnode cases (Kind.rename_eq_enumeration_iff.1 hcases)
  case top_lt =>
    intro top' htop'
    obtain ⟨top, htop, rfl⟩ := List.mem_map.1 htop'
    exact h.lt_length_iff.2 (hgraph.top_lt top htop)
  case top_nodup =>
    -- The names of entry points stay as they are.
    rw [List.map_map]
    exact hgraph.top_nodup
  case acyclic =>
    intro v hv
    -- A way from `v` back to itself is one from its old number back to itself.
    exact hgraph.acyclic _ (hv.lift σ.symm fun _ _ => h.inside)

end Renumbers

/-! ### A search under other numbers -/

/-- A search goes the same way through nodes that have other numbers. What it has finished is the
list of before under the new numbers, in the same order. The nodes that it is not inside of may be
listed in any order: it is only asked whether a node is among them, and all nodes of a graph are
listed by their numbers, which do not agree. -/
theorem finishAll_rename (σ : Equiv.Perm TypeId) {next next' : TypeId → List TypeId}
    (hnext : ∀ v, next' (σ v) = (next v).map σ) {free' : List TypeId} (free done vs : List TypeId)
    (hfree : free'.Perm (free.map σ)) :
    finishAll next' free' (done.map σ) (vs.map σ) = (finishAll next free done vs).map σ := by
  -- Whether a node is in a list can be told under either number.
  have hmem : ∀ {v} {vs : List TypeId}, σ v ∈ vs.map σ ↔ v ∈ vs :=
    List.mem_map_of_injective σ.injective
  -- The induction is on the search under the old numbers. The list under the new ones is a
  -- variable of the statement, since it changes with every node that the search goes into.
  refine (finish.mutual_induct next
    (fun free done v => ∀ free' : List TypeId, free'.Perm (free.map σ) →
      finish next' free' (done.map σ) (σ v) = (finish next free done v).map σ)
    (fun free done vs => ∀ free' : List TypeId, free'.Perm (free.map σ) →
      finishAll next' free' (done.map σ) (vs.map σ) = (finishAll next free done vs).map σ)
    ?_ ?_ ?_ ?_ ?_).2 free done vs free' hfree
  · -- The node has been finished before.
    intro free done v hdone free' _
    rw [finish, finish, if_pos hdone, if_pos (hmem.2 hdone)]
  · -- The search goes into the node.
    intro free done v hdone hin _ ih free' hfree
    have hin' : σ v ∈ free' := hfree.mem_iff.2 (hmem.2 hin)
    have herase : (free'.erase (σ v)).Perm ((free.erase v).map σ) := by
      rw [List.map_erase σ.injective]
      exact hfree.erase (σ v)
    rw [finish, finish, if_neg hdone, if_neg (mt hmem.1 hdone), dif_pos hin, dif_pos hin',
      List.map_cons, hnext, ih _ herase]
  · -- The search is inside of the node.
    intro free done v hdone hin free' hfree
    have hin' : σ v ∉ free' := fun hmem' => hin (hmem.1 (hfree.mem_iff.1 hmem'))
    rw [finish, finish, if_neg hdone, if_neg (mt hmem.1 hdone), dif_neg hin, dif_neg hin']
  · intro free done free' _
    rw [List.map_nil, finishAll, finishAll]
  · intro free done v vs ih₁ ih₂ free' hfree
    rw [List.map_cons, finishAll, finishAll, ih₁ free' hfree, ih₂ free' hfree]

/-- A search from some nodes and then from others. What is finished by the first is known to the
second. -/
theorem finishAll_append (next : TypeId → List TypeId) (free done vs vs' : List TypeId) :
    finishAll next free done (vs ++ vs') =
      finishAll next free (finishAll next free done vs) vs' := by
  induction vs generalizing done with
  | nil => rw [List.nil_append, finishAll]
  | cons v vs ih => rw [List.cons_append, finishAll, finishAll, ih]

namespace TypeGraph

variable {graph graph' : TypeGraph} {declareUnions : Bool}

/-- What a search from the entry points finishes, the latest first. The order of declarations
begins with these types, and ends there if no other type has to be declared. -/
def finishedFirst (graph : TypeGraph) : List TypeId :=
  finishAll graph.children graph.ids [] (graph.topLevels.map TopLevel.type)

/-- What holds of a search from the entry points: it is inside of nothing when it starts, so what
it finishes is closed under references. -/
theorem finishes_first (graph : TypeGraph) : Finishes graph.children graph.ids graph.ids []
    (graph.topLevels.map TopLevel.type) graph.finishedFirst := by
  refine finishes_of_finishing ?_ graph.finishing_nil
  intro v hv
  -- Entry points are in range, as the check of graphs says.
  obtain ⟨top, htop, rfl⟩ := List.mem_map.1 hv
  exact topLevel_lt htop

/-- What can be reached from an entry point is finished by a search from the entry points. For the
numbers this is the point: such a search does not go by them. -/
theorem mem_finishedFirst {top : TopLevel} (htop : top ∈ graph.topLevels) {id : TypeId}
    (h : Reaches graph.children top.type id) : id ∈ graph.finishedFirst := by
  have hfirst := graph.finishes_first
  -- The induction is on the path. The search is inside of nothing, so it never passes a node over.
  induction h with
  | refl =>
    have htype : top.type ∈ graph.ids := mem_ids_iff.2 (topLevel_lt htop)
    exact (hfirst.reached _ (List.mem_map_of_mem htop)).resolve_right (not_not_intro htype)
  | tail _ hchild ih =>
    have hid := mem_ids_iff.2 (graph.children_lt _ _ hchild)
    exact (hfirst.finishing.closed _ ih _ hchild).resolve_right (not_not_intro hid)

/-- If every type that may be declared is finished by a search from the entry points, the order of
the declarations comes from this search alone. The hypothesis is what fails for a class that no
entry point reaches: it is found by its number only. -/
theorem declarationOrder_eq_finishedFirst
    (h : ∀ id, isDeclarable declareUnions (graph.kind id) → id ∈ graph.finishedFirst) :
    graph.declarationOrder declareUnions = (graph.finishedFirst.filter fun id =>
      isDeclarable declareUnions (graph.kind id)).reverse := by
  have hrest : Finishes graph.children graph.ids graph.ids graph.finishedFirst graph.ids
      graph.finishingOrder.reverse := by
    -- The search of the graph goes on from the entry points to all nodes.
    rw [finishingOrder, List.reverse_reverse, finishAll_append]
    exact finishes_of_finishing (fun v => mem_ids_iff.1) graph.finishes_first.finishing
  obtain ⟨later, hlater⟩ := hrest.suffix
  have hnodup := hrest.finishing.nodup
  rw [← hlater] at hnodup
  -- What is finished later may not be declared, since nothing is finished twice.
  have hnone : (later.filter fun id => isDeclarable declareUnions (graph.kind id)) = [] := by
    rw [List.filter_eq_nil_iff]
    intro id hid hdeclarable
    exact (List.nodup_append.1 hnodup).2.2 id hid id (h id hdeclarable) rfl
  rw [declarationOrder, ← List.reverse_reverse graph.finishingOrder, List.filter_reverse, ← hlater,
    List.filter_append, hnone, List.nil_append]

/-! ### Graphs under other numbers -/

/-- The nodes of the second graph are those of the first, with `σ id` for the number `id`, and its
entry points are the same, in the same order. -/
structure Renumbers (σ : TypeId → TypeId) (graph graph' : TypeGraph) : Prop where
  nodes : Graph.Renumbers σ graph.nodes graph'.nodes
  topLevels : graph'.topLevels = graph.topLevels.map (TopLevel.rename σ)

/-- Nodes in another order are those of a graph, so the second graph of `TypeGraph.Renumbers` is
always there: renumbering a graph is never refused. -/
theorem exists_renumbers {σ : Equiv.Perm TypeId} {nodes' : List Node}
    (h : Graph.Renumbers σ graph.nodes nodes') :
    ∃ graph', ofParts nodes' (graph.topLevels.map (TopLevel.rename σ)) = .ok graph' ∧
      graph.Renumbers σ graph' := by
  have hvalid := validate_of_wellFormed (h.wellFormed graph.wellFormed)
  unfold ofParts
  split
  · exact ⟨_, rfl, h, rfl⟩
  · rename_i defect hdefect
    -- The check would have a complaint about nodes that are well formed.
    rw [hvalid] at hdefect
    cases hdefect

namespace Renumbers

variable {σ : Equiv.Perm TypeId} (h : graph.Renumbers σ graph')

include h

/-- The shape of a type, under its new number, refers to the types of before under theirs. All
that a file says of types goes by shapes, so this is cited wherever two files are compared. -/
theorem kind_eq (id : TypeId) : graph'.kind (σ id) = (graph.kind id).rename σ :=
  h.nodes.kindAt_eq id

/-- The shape of a type whose shape is known, as a case of a match leaves it. -/
theorem kind_of_eq {id : TypeId} {kind : Kind} (hkind : graph.kind id = kind) :
    graph'.kind (σ id) = kind.rename σ :=
  hkind ▸ h.kind_eq id

/-- The description of a type goes with the node. Comments come out the same. -/
theorem description?_eq (id : TypeId) : graph'.description? (σ id) = graph.description? id := by
  rw [description?, description?, node?, node?, h.nodes id]
  cases graph.nodes[id]? <;> rfl

/-- The types that a type refers to. -/
theorem children_eq (id : TypeId) : graph'.children (σ id) = (graph.children id).map σ := by
  rw [children, children, h.kind_eq, Kind.children_rename]

/-- All numbers are all numbers again, in another order. This is what a search from the entry
points is given as the nodes that it is not inside of. -/
theorem ids_perm : graph'.ids.Perm (graph.ids.map σ) := by
  have hnodup : ∀ graph : TypeGraph, graph.ids.Nodup := fun _ => List.nodup_range
  -- Both lists are without repetition, so it is enough that they have the same members.
  refine (List.perm_ext_iff_of_nodup (hnodup graph') ((hnodup graph).map σ.injective)).2 ?_
  intro id
  rw [← σ.apply_symm_apply id, List.mem_map_of_injective σ.injective, mem_ids_iff, mem_ids_iff]
  exact h.nodes.lt_length_iff

/-- A search from the entry points goes the same way: it starts from the same types, and follows
references in the order in which they stand. -/
theorem finishedFirst_eq : graph'.finishedFirst = graph.finishedFirst.map σ := by
  have htypes : graph'.topLevels.map TopLevel.type = (graph.topLevels.map TopLevel.type).map σ := by
    rw [h.topLevels, List.map_map, List.map_map]
    rfl
  rw [finishedFirst, htypes]
  exact finishAll_rename σ h.children_eq graph.ids [] _ h.ids_perm

/-- If every type that may be declared can be reached from an entry point, the types are declared
in the same order. This is the part of `generate_renumbered` in which numbers could have mattered.
-/
theorem declarationOrder_eq
    (hreached : ∀ id, isDeclarable declareUnions (graph.kind id) →
      ∃ top ∈ graph.topLevels, Reaches graph.children top.type id) :
    graph'.declarationOrder declareUnions = (graph.declarationOrder declareUnions).map σ := by
  have hfirst : ∀ id, isDeclarable declareUnions (graph.kind id) → id ∈ graph.finishedFirst := by
    intro id hid
    obtain ⟨top, htop, hpath⟩ := hreached id hid
    exact mem_finishedFirst htop hpath
  -- The same of the second graph. What may be declared there is so under its old number, and has
  -- been found under it.
  have hfirst' : ∀ id, isDeclarable declareUnions (graph'.kind id) →
      id ∈ graph'.finishedFirst := by
    intro id hid
    rw [← σ.apply_symm_apply id, h.kind_eq, isDeclarable_rename] at hid
    rw [h.finishedFirst_eq, ← σ.apply_symm_apply id]
    exact List.mem_map_of_mem (hfirst _ hid)
  have hsame : (graph.finishedFirst.filter fun id => isDeclarable declareUnions
      (graph'.kind (σ id))) = graph.finishedFirst.filter fun id =>
        isDeclarable declareUnions (graph.kind id) := by
    refine List.filter_congr ?_
    intro id _
    rw [h.kind_eq, isDeclarable_rename]
  -- Both orders are read off what the search from the entry points finishes.
  rw [declarationOrder_eq_finishedFirst hfirst, declarationOrder_eq_finishedFirst hfirst',
    h.finishedFirst_eq, List.map_reverse, List.filter_map, ← hsame]
  rfl

end Renumbers

end TypeGraph

end Graph

end StateTree
