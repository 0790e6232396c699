import StateTree.Graph.Cycle
import StateTree.Graph.Defect

/-!
# `StateTree.Graph.WellFormed`: what makes nodes and entry points a type graph

- `WellFormed`: every reference is in range, unions have members and enums have cases, top-level
  names are distinct, and no type is written inside itself.
- `validate`: the first defect of a graph, if it has one.
- `wellFormed_of_validate`: a graph that is not refused is well formed.
- `defect?_eq_none_iff`: the search for defects decides well-formedness.
-/

set_option autoImplicit false

namespace StateTree.Graph

/-- The types that are written inside the expression of a type: all that it refers to, but nothing
for a class, which is referred to by its name. -/
def inlinedAt (nodes : List Node) (id : TypeId) : List TypeId :=
  (kindAt nodes id).inlined

/-- `Inside nodes w v`: the type `w` is written inside the expression of `v`. Classes have nothing
written inside them, so a chain of such steps never goes on from a class. -/
abbrev Inside (nodes : List Node) : TypeId → TypeId → Prop :=
  Follows (inlinedAt nodes)

/-- The conditions on nodes and entry points. They are stated without the search for defects, and
`defect?_eq_none_iff` shows that it decides them. -/
structure WellFormed (nodes : List Node) (topLevels : List TopLevel) : Prop where
  /-- Every reference is to a node. -/
  child_lt : ∀ node ∈ nodes, ∀ child ∈ node.kind.children, child < nodes.length
  /-- Every union has a member. -/
  union_ne : ∀ node ∈ nodes, node.kind ≠ .union []
  /-- Every enum has a case. -/
  cases_ne : ∀ node ∈ nodes, ∀ cases, node.kind = .enumeration cases → cases.items ≠ []
  /-- Every entry point is a node. -/
  top_lt : ∀ top ∈ topLevels, top.type < nodes.length
  /-- No two entry points share a name. -/
  top_nodup : (topLevels.map TopLevel.name).Nodup
  /-- No type is written inside itself, at any depth. -/
  acyclic : ∀ v, ¬ Relation.TransGen (Inside nodes) v v

/-- A union without members or an enum without cases. -/
def emptyDefect? (id : TypeId) : Kind → Option Defect
  | .union [] => some (.emptyUnion id)
  | .enumeration cases => if cases.items.isEmpty then some (.emptyEnum id) else none
  | _ => none

/-- The first defect of a node among `n`: a reference out of range, then emptiness. -/
def nodeDefect? (n : Nat) (id : TypeId) (kind : Kind) : Option Defect :=
  match kind.children.find? fun child => n ≤ child with
  | some child => some (.danglingReference id child)
  | none => emptyDefect? id kind

/-- The first defect of nodes that stand at the positions from `id` up. The number `n` of all
nodes stays the same along the list, since references may go to any of them. -/
def nodesDefect? (n : Nat) (id : TypeId) : List Node → Option Defect
  | [] => none
  | node :: rest =>
    match nodeDefect? n id node.kind with
    | some defect => some defect
    | none => nodesDefect? n (id + 1) rest

/-- The first defect of entry points, the names in `seen` being taken: a type out of range, or a
name that came before. -/
def topsDefect? (n : Nat) (seen : List String) : List TopLevel → Option Defect
  | [] => none
  | top :: rest =>
    if n ≤ top.type then some (.danglingTopLevel top.name top.type)
    else if top.name ∈ seen then some (.duplicateTopLevel top.name)
    else topsDefect? n (top.name :: seen) rest

/-- The types, without the classes among them, that are written inside the expression of a type.
Leaving out the classes cuts no cycle, since nothing is written inside a class
(`wellFounded_inside`). -/
def unmediatedAt (nodes : List Node) (id : TypeId) : List TypeId :=
  (inlinedAt nodes id).filter fun part => !(kindAt nodes part).isClass

/-- The positions of all nodes but the classes. -/
def nonClasses (nodes : List Node) : List TypeId :=
  (List.range nodes.length).filter fun id => !(kindAt nodes id).isClass

/-- The first defect of a graph: of its nodes, of its entry points, and last a type that is written
inside itself. -/
def defect? (nodes : List Node) (topLevels : List TopLevel) : Option Defect :=
  match nodesDefect? nodes.length 0 nodes with
  | some defect => some defect
  | none =>
    match topsDefect? nodes.length [] topLevels with
    | some defect => some defect
    | none => (findCycle? (unmediatedAt nodes) (nonClasses nodes)).map .unmediatedCycle

/-- Refuses a graph with a defect. -/
def validate (nodes : List Node) (topLevels : List TopLevel) : Except Defect Unit :=
  match defect? nodes topLevels with
  | some defect => .error defect
  | none => .ok ()

/-! ### Graphs without a defect -/

/-- What is written inside a type is among the types that it refers to. -/
theorem inlined_subset_children (kind : Kind) : ∀ v ∈ kind.inlined, v ∈ kind.children := by
  cases kind <;> simp [Kind.inlined]

/-- Past the end of the nodes the shape counts as opaque. Such a position has nothing inside it,
so statements about all positions need no bound. -/
theorem kindAt_eq_any {nodes : List Node} {v : TypeId} (h : nodes.length ≤ v) :
    kindAt nodes v = .primitive .any := by
  simp [kindAt, List.getElem?_eq_none h]

/-- A position is in range if something is known of its shape, here `p`, that does not hold of the
opaque one. -/
theorem lt_length_of_kindAt (p : Kind → Prop) (hany : ¬ p (.primitive .any)) {nodes : List Node}
    {v : TypeId} (h : p (kindAt nodes v)) : v < nodes.length := by
  refine Nat.lt_of_not_le fun hge => hany ?_
  rwa [kindAt_eq_any hge] at h

/-- The shape at a position in range is the shape of a node. -/
theorem exists_kindAt {nodes : List Node} {v : TypeId} (h : v < nodes.length) :
    ∃ node ∈ nodes, kindAt nodes v = node.kind :=
  ⟨nodes[v], List.getElem_mem h, by simp [kindAt, List.getElem?_eq_getElem h]⟩

/-- A node is without a defect if its references are in range and it is not empty. The position is
only there to be named in a defect, so it does not matter here. -/
theorem nodeDefect?_eq_none_iff {n id : Nat} {kind : Kind} :
    nodeDefect? n id kind = none ↔
      (∀ child ∈ kind.children, child < n) ∧ kind ≠ .union [] ∧
        ∀ cases, kind = .enumeration cases → cases.items ≠ [] := by
  have hempty : emptyDefect? id kind = none ↔
      kind ≠ .union [] ∧ ∀ cases, kind = .enumeration cases → cases.items ≠ [] := by
    unfold emptyDefect?
    split <;> simp_all
  unfold nodeDefect?
  split
  · -- The reference that was found is out of range.
    rename_i child hchild
    have h₁ := List.mem_of_find?_eq_some hchild
    have h₂ := List.find?_some hchild
    simp only [reduceCtorEq, false_iff]
    exact fun h => Nat.not_le_of_lt (h.1 child h₁) (of_decide_eq_true h₂)
  · rename_i hnone
    rw [hempty]
    simp only [List.find?_eq_none, decide_eq_true_eq, Nat.not_le] at hnone
    exact ⟨fun h => ⟨hnone, h⟩, fun h => h.2⟩

/-- Nodes are without a defect if each of them is. The first position is left open, because it
goes up along the list. -/
theorem nodesDefect?_eq_none_iff {n : Nat} {nodes : List Node} {id : Nat} :
    nodesDefect? n id nodes = none ↔
      ∀ node ∈ nodes, (∀ child ∈ node.kind.children, child < n) ∧ node.kind ≠ .union [] ∧
        ∀ cases, node.kind = .enumeration cases → cases.items ≠ [] := by
  induction nodes generalizing id with
  | nil => simp [nodesDefect?]
  | cons node rest ih =>
    rw [nodesDefect?]
    cases h : nodeDefect? n id node.kind with
    | none =>
      simp only [List.mem_cons, forall_eq_or_imp]
      rw [ih, ← @nodeDefect?_eq_none_iff n id]
      simp [h]
    -- The first node has the defect, so it breaks its own part of the right side.
    | some defect =>
      simp only [reduceCtorEq, List.mem_cons, forall_eq_or_imp, false_iff]
      rw [← @nodeDefect?_eq_none_iff n id, h]
      simp

/-- Entry points are without a defect if their types are in range, and their names are new and
distinct. The names before the list are in `seen`; for the whole list there are none. -/
theorem topsDefect?_eq_none_iff {n : Nat} {topLevels : List TopLevel} {seen : List String} :
    topsDefect? n seen topLevels = none ↔
      (∀ top ∈ topLevels, top.type < n) ∧ (∀ top ∈ topLevels, top.name ∉ seen) ∧
        (topLevels.map TopLevel.name).Nodup := by
  induction topLevels generalizing seen with
  | nil => simp [topsDefect?]
  | cons top rest ih =>
    rw [topsDefect?]
    split
    · rename_i hle
      simp only [reduceCtorEq, List.mem_cons, forall_eq_or_imp, false_iff]
      exact fun h => Nat.not_le_of_lt h.1.1 hle
    · split
      · rename_i hseen
        simp [hseen]
      · rename_i hlt hseen
        rw [ih]
        -- Of the rest it is known that its names are not that of the first one either, which
        -- makes the names distinct.
        simp only [List.mem_cons, forall_eq_or_imp, List.map_cons, List.nodup_cons, not_or,
          List.mem_map, not_exists, not_and]
        constructor
        · rintro ⟨h₁, h₂, h₃⟩
          exact ⟨⟨Nat.lt_of_not_le hlt, h₁⟩, ⟨hseen, fun t ht => (h₂ t ht).2⟩,
            fun t ht => (h₂ t ht).1, h₃⟩
        · rintro ⟨⟨_, h₁⟩, ⟨_, h₂⟩, h₃, h₄⟩
          exact ⟨h₁, fun t ht => ⟨h₃ t ht, h₂ t ht⟩, h₄⟩

/-- What is written inside a type in range is in range, and past the end nothing is. With it the
search for cycles does not leave the nodes. -/
theorem inlinedAt_lt {nodes : List Node}
    (h : ∀ node ∈ nodes, ∀ child ∈ node.kind.children, child < nodes.length) :
    ∀ v, ∀ w ∈ inlinedAt nodes v, w < nodes.length := by
  intro v w hw
  by_cases hv : v < nodes.length
  · obtain ⟨node, hnode, hkind⟩ := exists_kindAt hv
    rw [inlinedAt, hkind] at hw
    exact h node hnode w (inlined_subset_children _ w hw)
  · rw [inlinedAt, kindAt_eq_any (Nat.le_of_not_lt hv)] at hw
    simp [Kind.inlined, Kind.children] at hw

/-- Nothing is written inside a class, so a chain of types, each inside the one before, ends
there. -/
theorem inlinedAt_eq_nil_of_isClass {nodes : List Node} {v : TypeId}
    (h : (kindAt nodes v).isClass) : inlinedAt nodes v = [] := by
  unfold inlinedAt
  cases hk : kindAt nodes v <;> simp_all [Kind.isClass, Kind.inlined]

/-- Nothing is written inside a type that is past the end or a class. This is what the search asks
of nodes that are not on its list. -/
theorem unmediatedAt_eq_nil {nodes : List Node} {v : TypeId} (h : v ∉ nonClasses nodes) :
    unmediatedAt nodes v = [] := by
  have hv : nodes.length ≤ v ∨ (kindAt nodes v).isClass := by
    simpa [nonClasses, Classical.or_iff_not_imp_left] using h
  rcases hv with hv | hv
  · simp [unmediatedAt, inlinedAt, kindAt_eq_any hv, Kind.inlined, Kind.children]
  · simp [unmediatedAt, inlinedAt_eq_nil_of_isClass hv]

/-- What is written inside a type without being a class is a node that is no class. So no
successor lies outside of the list that the search is given. -/
theorem mem_nonClasses_of_mem_unmediatedAt {nodes : List Node}
    (h : ∀ node ∈ nodes, ∀ child ∈ node.kind.children, child < nodes.length) :
    ∀ v, ∀ w ∈ unmediatedAt nodes v, w ∈ nonClasses nodes := by
  intro v w hw
  obtain ⟨hin, hclass⟩ := List.mem_filter.1 hw
  exact List.mem_filter.2 ⟨List.mem_range.2 (inlinedAt_lt h v w hin), hclass⟩

/-- If no chain without classes is infinite, then no chain is: a class ends every chain. The
search need not look at classes for this reason. -/
theorem wellFounded_inside {nodes : List Node} (h : WellFounded (Follows (unmediatedAt nodes))) :
    WellFounded (Inside nodes) := by
  refine ⟨fun v => h.induction (C := Acc (Inside nodes)) v fun v ih => ⟨v, fun w hw => ?_⟩⟩
  -- A class inside the type has nothing inside it. Anything else is inside it in the chains
  -- without classes as well, so the induction reaches it.
  by_cases hclass : (kindAt nodes w).isClass
  · refine ⟨w, fun u hu => ?_⟩
    rw [Inside, Follows, inlinedAt_eq_nil_of_isClass hclass] at hu
    simp at hu
  · exact ih w (List.mem_filter.2 ⟨hw, by simpa using hclass⟩)

/-- A relation without infinite descending chains has no cycle. A cycle could be gone round for
ever. -/
theorem acyclic_of_wellFounded {r : TypeId → TypeId → Prop} (h : WellFounded r) (v : TypeId) :
    ¬ Relation.TransGen r v v := by
  have hwf := h.transGen
  intro hv
  induction v using hwf.induction with
  | _ v ih => exact ih v hv hv

/-- A graph without a defect is well formed. Each stage of `defect?` gives its fields: the nodes
the first three, the entry points the next two, and the search for cycles the last. -/
theorem wellFormed_of_defect?_eq_none {nodes : List Node} {topLevels : List TopLevel}
    (h : defect? nodes topLevels = none) : WellFormed nodes topLevels := by
  unfold defect? at h
  split at h
  · simp at h
  · rename_i hnodes
    split at h
    · simp at h
    · rename_i htops
      -- All three checks have passed, and each of them gives its own fields.
      rw [nodesDefect?_eq_none_iff] at hnodes
      rw [topsDefect?_eq_none_iff] at htops
      have hcycle := wellFounded_of_findCycle?_eq_none (fun _ => unmediatedAt_eq_nil)
        (Option.map_eq_none_iff.1 h)
      exact
        { child_lt := fun node hnode => (hnodes node hnode).1
          union_ne := fun node hnode => (hnodes node hnode).2.1
          cases_ne := fun node hnode => (hnodes node hnode).2.2
          top_lt := htops.1
          top_nodup := htops.2.2
          acyclic := acyclic_of_wellFounded (wellFounded_inside hcycle) }

/-- A graph that is not refused is well formed. With this `TypeGraph.ofParts` builds graphs that
carry the proof of their conditions. -/
theorem wellFormed_of_validate {nodes : List Node} {topLevels : List TopLevel}
    (h : validate nodes topLevels = .ok ()) : WellFormed nodes topLevels := by
  unfold validate at h
  split at h
  · simp at h
  · exact wellFormed_of_defect?_eq_none ‹_›

/-- A chain without classes is a chain. So a cycle that the search finds is one of types that are
written inside each other. -/
theorem inside_of_unmediated {nodes : List Node} {w v : TypeId}
    (h : Relation.TransGen (Follows (unmediatedAt nodes)) w v) :
    Relation.TransGen (Inside nodes) w v := by
  induction h with
  | single hw => exact .single (List.mem_filter.1 hw).1
  | tail _ hw ih => exact .tail ih (List.mem_filter.1 hw).1

/-- The node that the search for cycles finds lies on a cycle without classes. References have to
be in range, which validation checks before it searches. -/
theorem unmediated_of_findCycle?_eq_some {nodes : List Node} {v : TypeId}
    (hlt : ∀ node ∈ nodes, ∀ child ∈ node.kind.children, child < nodes.length)
    (h : findCycle? (unmediatedAt nodes) (nonClasses nodes) = some v) :
    Relation.TransGen (Follows (unmediatedAt nodes)) v v :=
  cycle_of_findCycle?_eq_some (mem_nonClasses_of_mem_unmediatedAt hlt) h

/-- The search for cycles comes out empty-handed on a well-formed graph, since what it finds would
be a type that is written inside itself. -/
theorem WellFormed.findCycle?_eq_none {nodes : List Node} {topLevels : List TopLevel}
    (h : WellFormed nodes topLevels) :
    findCycle? (unmediatedAt nodes) (nonClasses nodes) = none := by
  cases hc : findCycle? (unmediatedAt nodes) (nonClasses nodes) with
  | none => rfl
  | some v =>
    have hcycle := unmediated_of_findCycle?_eq_some h.child_lt hc
    exact absurd (inside_of_unmediated hcycle) (h.acyclic v)

/-- In a well-formed graph no chain of types, each written inside the one before, is infinite. The
translation of types to expressions is by recursion along such chains. -/
theorem WellFormed.wellFounded {nodes : List Node} {topLevels : List TopLevel}
    (h : WellFormed nodes topLevels) : WellFounded (Inside nodes) :=
  wellFounded_inside
    (wellFounded_of_findCycle?_eq_none (fun _ => unmediatedAt_eq_nil) h.findCycle?_eq_none)

/-- The well-formed graphs are those without a defect. -/
theorem defect?_eq_none_iff {nodes : List Node} {topLevels : List TopLevel} :
    defect? nodes topLevels = none ↔ WellFormed nodes topLevels := by
  constructor
  · exact wellFormed_of_defect?_eq_none
  · intro h
    -- The other way round each check gets its own fields, and none of the three finds anything.
    have hnodes : nodesDefect? nodes.length 0 nodes = none :=
      nodesDefect?_eq_none_iff.2 fun node hnode =>
        ⟨h.child_lt node hnode, h.union_ne node hnode, h.cases_ne node hnode⟩
    have htops : topsDefect? nodes.length [] topLevels = none :=
      topsDefect?_eq_none_iff.2 ⟨h.top_lt, by simp, h.top_nodup⟩
    simp [defect?, hnodes, htops, h.findCycle?_eq_none]

/-- Whether a graph is well formed is decided by looking for a defect, so that a given graph is
shown well formed by evaluation. -/
instance (nodes : List Node) (topLevels : List TopLevel) : Decidable (WellFormed nodes topLevels) :=
  decidable_of_iff (defect? nodes topLevels = none) defect?_eq_none_iff

end StateTree.Graph
