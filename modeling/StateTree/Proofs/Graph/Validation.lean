import Mathlib.Logic.Relation
import StateTree.Graph.TypeGraph

/-!
# `StateTree.Proofs.Graph.Validation`: validation decides well-formedness

- `Unmediated`: a reference between two types neither of which is a class.
- `unmediated_cycle_iff`: the search goes along exactly these references.
- `findCycle?_eq_none_iff`: the search comes out empty-handed exactly on nodes without a cycle of
  such references.
- `validate_of_wellFormed`: what is well formed is accepted.
- `TypeGraph.ofParts_eq_ok_iff`, `TypeGraph.ofParts_eq_error_iff`: the graph of nodes and entry
  points.
- `validate_decides`: a graph is accepted exactly if it meets the six conditions; a type that is
  blamed for a cycle lies on one; the search for cycles comes to its end.
-/

set_option autoImplicit false

namespace StateTree.Graph

/-- `Unmediated nodes v w`: the type `v` refers to `w`, and neither of the two is a class. This is
the relation as a user of graphs has it; the search goes along what is written inside a type. -/
def Unmediated (nodes : List Node) (v w : TypeId) : Prop :=
  ¬ (kindAt nodes v).isClass ∧ ¬ (kindAt nodes w).isClass ∧ w ∈ (kindAt nodes v).children

variable {nodes : List Node} {topLevels : List TopLevel}

/-- Everything that a type other than a class refers to is written inside it, so for these types
the two relations are one. -/
theorem inlined_eq_children {kind : Kind} (h : ¬ kind.isClass) : kind.inlined = kind.children := by
  cases kind with
  | object properties => simp [Kind.isClass] at h
  | _ => rfl

/-- The successors of a node in the search are what it refers to without a class on either end.
For a class both sides are empty, though for different reasons: the search does not start from it,
and the relation leaves it out. -/
theorem mem_unmediatedAt_iff {v w : TypeId} : w ∈ unmediatedAt nodes v ↔ Unmediated nodes v w := by
  by_cases hv : (kindAt nodes v).isClass
  · simp [unmediatedAt, inlinedAt_eq_nil_of_isClass hv, Unmediated, hv]
  · simp [unmediatedAt, inlinedAt, inlined_eq_children hv, Unmediated, hv, and_comm]

/-- The cycles that the search goes after are the cycles of references without a class. A cycle
stays one when it is walked the other way round. -/
theorem unmediated_cycle_iff {v : TypeId} :
    Relation.TransGen (Follows (unmediatedAt nodes)) v v ↔
      Relation.TransGen (Unmediated nodes) v v := by
  -- `Follows` leads from a node back to the one that refers to it.
  have hrel : Unmediated nodes = Function.swap (Follows (unmediatedAt nodes)) := by
    funext v w
    exact propext mem_unmediatedAt_iff.symm
  rw [hrel, Relation.transGen_swap]

/-- The search finds nothing exactly if no type refers to itself without a class in between. One
direction is that a search without an answer leaves no infinite chain, the other that an answer
lies on a cycle. -/
theorem findCycle?_eq_none_iff
    (hlt : ∀ node ∈ nodes, ∀ child ∈ node.kind.children, child < nodes.length) :
    findCycle? (unmediatedAt nodes) (nonClasses nodes) = none ↔
      ∀ v, ¬ Relation.TransGen (Unmediated nodes) v v := by
  constructor
  · intro h v hv
    have hwf := wellFounded_of_findCycle?_eq_none (fun _ => unmediatedAt_eq_nil) h
    exact acyclic_of_wellFounded hwf v (unmediated_cycle_iff.2 hv)
  · intro h
    -- What the search finds is on a cycle, which the hypothesis excludes.
    cases hc : findCycle? (unmediatedAt nodes) (nonClasses nodes) with
    | none => rfl
    | some v =>
      have hcycle := unmediated_of_findCycle?_eq_some hlt hc
      exact absurd (unmediated_cycle_iff.1 hcycle) (h v)

/-- A graph is accepted exactly if none of the three stages of validation finds a defect: of the
nodes, of the entry points, and of the references without a class. The order of the stages only
matters for which defect is reported. -/
theorem validate_eq_ok_iff :
    validate nodes topLevels = .ok () ↔
      nodesDefect? nodes.length 0 nodes = none ∧ topsDefect? nodes.length [] topLevels = none ∧
        findCycle? (unmediatedAt nodes) (nonClasses nodes) = none := by
  unfold validate defect?
  cases nodesDefect? nodes.length 0 nodes with
  | some defect => simp
  | none =>
    cases topsDefect? nodes.length [] topLevels with
    | some defect => simp
    | none => cases findCycle? (unmediatedAt nodes) (nonClasses nodes) <;> simp

/-- What is well formed is accepted, so the conditions on graphs are not stronger than the checks.
-/
theorem validate_of_wellFormed (h : WellFormed nodes topLevels) :
    validate nodes topLevels = .ok () := by
  simp [validate, defect?_eq_none_iff.2 h]

/-- A graph is made of its own nodes and entry points, and of no others. So making a graph changes
nothing about its parts and succeeds wherever there is a graph of them. -/
theorem TypeGraph.ofParts_eq_ok_iff {graph : TypeGraph} :
    TypeGraph.ofParts nodes topLevels = .ok graph ↔
      graph.nodes = nodes ∧ graph.topLevels = topLevels := by
  unfold TypeGraph.ofParts
  split
  · rw [Except.ok.injEq]
    constructor
    · rintro rfl
      exact ⟨rfl, rfl⟩
    · rintro ⟨rfl, rfl⟩
      rfl
  · rename_i defect hdefect
    -- A graph carries the proof that its nodes are well-formed, so the check of them cannot have
    -- failed.
    refine iff_of_false (by simp) ?_
    rintro ⟨rfl, rfl⟩
    simp [validate_of_wellFormed graph.wellFormed] at hdefect

/-- Nodes and entry points that make no graph are refused for the defect that validation finds,
with no other way for this to fail. -/
theorem TypeGraph.ofParts_eq_error_iff {defect : Defect} :
    TypeGraph.ofParts nodes topLevels = .error defect ↔
      validate nodes topLevels = .error defect := by
  unfold TypeGraph.ofParts
  split <;> rename_i h <;> simp [h]

/-- Nodes on their own are not blamed for a cycle. With this a type that is blamed for one comes
from the search. -/
theorem nodesDefect?_ne_unmediatedCycle {n id : Nat} {v : TypeId} :
    nodesDefect? n id nodes ≠ some (.unmediatedCycle v) := by
  induction nodes generalizing id with
  | nil => simp [nodesDefect?]
  | cons node rest ih =>
    rw [nodesDefect?]
    split
    · -- The defect of one node is a reference out of range, or that the node is empty.
      rename_i defect h
      rintro ⟨⟩
      revert h
      unfold nodeDefect? emptyDefect?
      split
      · simp
      · split <;> simp
    · exact ih

/-- Entry points are not blamed for a cycle, for the same use as above. -/
theorem topsDefect?_ne_unmediatedCycle {n : Nat} {seen : List String} {v : TypeId} :
    topsDefect? n seen topLevels ≠ some (.unmediatedCycle v) := by
  induction topLevels generalizing seen with
  | nil => simp [topsDefect?]
  | cons top rest ih =>
    rw [topsDefect?]
    split
    · simp
    · split
      · simp
      · exact ih

/-- A type is blamed for a cycle by the search for cycles, once all references are in range. The
range is part of the conclusion because the search is sound only there. -/
theorem findCycle?_of_validate_eq_error {v : TypeId}
    (h : validate nodes topLevels = .error (.unmediatedCycle v)) :
    nodesDefect? nodes.length 0 nodes = none ∧
      findCycle? (unmediatedAt nodes) (nonClasses nodes) = some v := by
  unfold validate at h
  split at h
  · rename_i defect hdefect
    obtain rfl : defect = .unmediatedCycle v := by simpa using h
    unfold defect? at hdefect
    split at hdefect
    · rename_i defect hnodes
      -- The two checks before the search report other defects, so the search was reached.
      exact absurd (hnodes.trans hdefect) nodesDefect?_ne_unmediatedCycle
    · split at hdefect
      · rename_i defect htops
        exact absurd (htops.trans hdefect) topsDefect?_ne_unmediatedCycle
      · exact ⟨‹_›, by simpa using hdefect⟩
  · simp at h

/-- Validation decides well-formedness. It accepts nodes and entry points exactly if every
reference and every entry point is in range, every union has a member and every enum a case, the
names of the entry points are distinct, and no cycle of references goes without a class. If it
blames a type for such a cycle, the type lies on one. The search for cycles, which goes step by
step over an explicit path, comes to its end with the answer that validation goes by. -/
theorem validate_decides (nodes : List Node) (topLevels : List TopLevel) :
    (validate nodes topLevels = .ok () ↔
      (∀ node ∈ nodes, ∀ child ∈ node.kind.children, child < nodes.length) ∧
      (∀ top ∈ topLevels, top.type < nodes.length) ∧
      (∀ node ∈ nodes, node.kind ≠ .union []) ∧
      (∀ node ∈ nodes, ∀ cases, node.kind = .enumeration cases → cases.items ≠ []) ∧
      (topLevels.map TopLevel.name).Nodup ∧
      ∀ v, ¬ Relation.TransGen (Unmediated nodes) v v) ∧
    (∀ v, validate nodes topLevels = .error (.unmediatedCycle v) →
      Relation.TransGen (Unmediated nodes) v v) ∧
    Search.Ends (unmediatedAt nodes) (.start (nonClasses nodes))
      (findCycle? (unmediatedAt nodes) (nonClasses nodes)) := by
  refine ⟨?_, fun v h => ?_, Search.ends_run _ _⟩
  · rw [validate_eq_ok_iff, nodesDefect?_eq_none_iff, topsDefect?_eq_none_iff]
    constructor
    -- The stages bring the conditions in another order, grouped by what they are about.
    · rintro ⟨hnodes, htops, hcycle⟩
      have hlt := fun node hnode => (hnodes node hnode).1
      exact ⟨hlt, htops.1, fun node hnode => (hnodes node hnode).2.1,
        fun node hnode => (hnodes node hnode).2.2, htops.2.2, (findCycle?_eq_none_iff hlt).1 hcycle⟩
    · rintro ⟨hlt, htops, hunions, henums, hnames, hcycle⟩
      exact ⟨fun node hnode => ⟨hlt node hnode, hunions node hnode, henums node hnode⟩,
        ⟨htops, by simp, hnames⟩, (findCycle?_eq_none_iff hlt).2 hcycle⟩
  -- What the search blames lies on a cycle of its own relation, which is one of references
  -- without a class.
  · obtain ⟨hnodes, hcycle⟩ := findCycle?_of_validate_eq_error h
    have hlt := fun node hnode => (nodesDefect?_eq_none_iff.1 hnodes node hnode).1
    exact unmediated_cycle_iff.1 (unmediated_of_findCycle?_eq_some hlt hcycle)

end StateTree.Graph
