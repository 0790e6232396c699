import Mathlib.Logic.Relation
import StateTree.Graph.Order

/-!
# `StateTree.Proofs.Graph.FinishingOrder`: what comes before what

Every node is finished once. When a node is finished, all that the finished nodes refer to is
finished as well, except for nodes that the search is still inside of; and from those a path leads
to the node that has just been finished.

- `Reaches`: a path of references from one node to another.
- `Finishing`: what the search keeps of its finished nodes; `Finishes`: what it adds to them.
- `finishAll_finishes`: a search from any nodes keeps and adds this.
- `TypeGraph.mem_finishingOrder_iff`, `TypeGraph.nodup_finishingOrder`,
  `TypeGraph.before_or_reaches`: the order of all nodes.
- `TypeGraph.declarationOrder_split`: the declarable types before one of them.
-/

set_option autoImplicit false

namespace StateTree.Graph

/-- A path of references leads from `w` to `v`. The path may be empty, so every node reaches
itself. -/
abbrev Reaches (next : TypeId → List TypeId) (w v : TypeId) : Prop :=
  Relation.ReflTransGen (fun a b => b ∈ next a) w v

variable {next : TypeId → List TypeId} {ids free done : List TypeId}

/-- What holds of the finished nodes `done` while the search is inside of the nodes that are not
in `free`. Of a finished node it may only be said that what it refers to is finished or being
searched. The last part keeps what this comes to later: what was being searched when `v` was
finished leads to `v`. -/
structure Finishing (next : TypeId → List TypeId) (ids free done : List TypeId) : Prop where
  free_nodup : free.Nodup
  nodup : done.Nodup
  mem_ids : ∀ u ∈ done, u ∈ ids
  /-- All that a finished node refers to is finished, or the search is inside of it. -/
  closed : ∀ u ∈ done, ∀ w ∈ next u, w ∈ done ∨ w ∉ free
  /-- What was not finished together with `v` leads to `v`. -/
  ordered : ∀ v before, v :: before <:+ done → ∀ u ∈ v :: before, ∀ w ∈ next u,
    w ∈ v :: before ∨ Reaches next w v

/-- What a search from `targets` makes of the finished nodes. Nothing that was finished changes,
new ones come in front, and the targets are finished unless the search is inside of them. -/
structure Finishes (next : TypeId → List TypeId) (ids free done targets result : List TypeId) :
    Prop where
  finishing : Finishing next ids free result
  suffix : done <:+ result
  new : ∀ w ∈ result, w ∈ done ∨ w ∈ free
  reached : ∀ v ∈ targets, v ∈ result ∨ v ∉ free

/-- Going into a node keeps what holds of the finished ones. There is one free node less, which
only makes it easier for a reference not to be free. -/
theorem Finishing.enter (h : Finishing next ids free done) (v : TypeId) :
    Finishing next ids (free.erase v) done where
  free_nodup := h.free_nodup.erase v
  nodup := h.nodup
  mem_ids := h.mem_ids
  closed := fun u hu w hw => (h.closed u hu w hw).imp_right (mt List.mem_of_mem_erase)
  ordered := h.ordered

/-- A node that is no longer free after going into `v` is `v` or was not free before. With it the
paths to `v` are found: from `v` itself, or from where the search was before. -/
theorem eq_or_notMem_free {v w : TypeId} (h : w ∉ free.erase v) : w = v ∨ w ∉ free := by
  by_cases heq : w = v
  · exact .inl heq
  · exact .inr fun hfree => h ((List.mem_erase_of_ne heq).2 hfree)

/-- Finishing a node after all that it refers to. By `hpath` all nodes that the search is inside
of lead to the node, and this is what the order of the finished nodes has to say about references
that are left open. -/
theorem Finishes.leave {result : List TypeId} {v : TypeId} (hv : v ∈ ids) (hfree : v ∈ free)
    (hdone : v ∉ done) (hnext : ∀ u, ∀ w ∈ next u, w ∈ ids)
    (hpath : ∀ w ∈ ids, w ∉ free → Reaches next w v) (hfinishing : Finishing next ids free done)
    (h : Finishes next ids (free.erase v) done (next v) result) :
    Finishes next ids free done [v] (v :: result) := by
  -- What is referred to from the node or from those finished inside of it is finished by now, or
  -- it was not free before the search went into the node.
  have hclosed : ∀ u ∈ v :: result, ∀ w ∈ next u, w ∈ v :: result ∨ w ∉ free := by
    intro u hu w hw
    have hw : w ∈ result ∨ w ∉ free.erase v := by
      rcases List.mem_cons.1 hu with rfl | hu
      · exact h.reached w hw
      · exact h.finishing.closed u hu w hw
    rcases hw with hw | hw
    · exact .inl (List.mem_cons_of_mem v hw)
    · rcases eq_or_notMem_free hw with rfl | hw
      · exact .inl List.mem_cons_self
      · exact .inr hw
  -- Inside of `v` the search has not come back to it.
  have hnew : v ∉ result := by
    intro hmem
    rcases h.new v hmem with hmem | hmem
    · exact hdone hmem
    · exact hfinishing.free_nodup.not_mem_erase hmem
  refine ⟨⟨hfinishing.free_nodup, List.nodup_cons.2 ⟨hnew, h.finishing.nodup⟩, ?_, hclosed, ?_⟩,
    h.suffix.trans (List.suffix_cons v result), ?_, ?_⟩
  · intro u hu
    rcases List.mem_cons.1 hu with rfl | hu
    · exact hv
    · exact h.finishing.mem_ids u hu
  · intro v' before hsuffix u hu w hw
    rcases List.suffix_cons_iff.1 hsuffix with heq | hsuffix
    · -- The search is inside of what is not finished now, so it leads here.
      obtain ⟨rfl, rfl⟩ := List.cons.inj heq
      exact (hclosed u hu w hw).imp_right (hpath w (hnext u w hw))
    · exact h.finishing.ordered v' before hsuffix u hu w hw
  · intro w hw
    rcases List.mem_cons.1 hw with rfl | hw
    · exact .inr hfree
    · exact (h.new w hw).imp_right List.mem_of_mem_erase
  · intro w hw
    obtain rfl : w = v := by simpa using hw
    exact .inl List.mem_cons_self

/-- A search from one node after the other, given what each search does. The second search only
adds to what the first has finished, so what the first reached stays finished. -/
theorem Finishes.append {result final vs : List TypeId} {v : TypeId}
    (h : Finishes next ids free done [v] result) (h' : Finishes next ids free result vs final) :
    Finishes next ids free done (v :: vs) final where
  finishing := h'.finishing
  suffix := h.suffix.trans h'.suffix
  new := fun w hw => (h'.new w hw).elim (h.new w) .inr
  reached := by
    intro w hw
    rcases List.mem_cons.1 hw with rfl | hw
    · exact (h.reached w List.mem_cons_self).imp_left fun hmem => h'.suffix.subset hmem
    · exact h'.reached w hw

/-- A search from any nodes. From all nodes that it is inside of paths lead to those it starts
from, by `hvs`; inside of nothing this asks for nothing. The induction is on the calls of the
search. -/
theorem finishAll_finishes (hnext : ∀ u, ∀ w ∈ next u, w ∈ ids) (free done vs : List TypeId)
    (hvs : ∀ v ∈ vs, v ∈ ids ∧ ∀ w ∈ ids, w ∉ free → Reaches next w v)
    (h : Finishing next ids free done) :
    Finishes next ids free done vs (finishAll next free done vs) := by
  refine (finish.mutual_induct next
    (fun free done v => v ∈ ids → (∀ w ∈ ids, w ∉ free → Reaches next w v) →
      Finishing next ids free done → Finishes next ids free done [v] (finish next free done v))
    (fun free done vs => (∀ v ∈ vs, v ∈ ids ∧ ∀ w ∈ ids, w ∉ free → Reaches next w v) →
      Finishing next ids free done → Finishes next ids free done vs (finishAll next free done vs))
    ?_ ?_ ?_ ?_ ?_).2 free done vs hvs h
  · -- The node has been finished before.
    intro free done v hdone _ _ h
    rw [finish, if_pos hdone]
    exact ⟨h, List.suffix_rfl, fun _ => .inl, by simp [hdone]⟩
  · -- The search goes into the node, from which it gets to all that the node refers to.
    intro free done v hdone hfree _ ih hv hpath h
    rw [finish, if_neg hdone, dif_pos hfree]
    -- To each node that it refers to leads a path from all that the search is now inside of: from
    -- the node itself in one step, and from the others by way of it.
    refine .leave hv hfree hdone hnext hpath h (ih (fun w hw => ⟨hnext v w hw, ?_⟩) (h.enter v))
    intro u hu hin
    rcases eq_or_notMem_free hin with rfl | hin
    · exact .single hw
    · exact (hpath u hu hin).tail hw
  · -- The search is inside of the node.
    intro free done v hdone hfree _ _ h
    rw [finish, if_neg hdone, dif_neg hfree]
    exact ⟨h, List.suffix_rfl, fun _ => .inl, by simp [hfree]⟩
  · intro free done _ h
    rw [finishAll]
    exact ⟨h, List.suffix_rfl, fun _ => .inl, by simp⟩
  · intro free done v vs ih₁ ih₂ hvs h
    rw [finishAll]
    have hfirst := ih₁ (hvs v List.mem_cons_self).1 (hvs v List.mem_cons_self).2 h
    exact hfirst.append (ih₂ (fun w hw => hvs w (List.mem_cons_of_mem v hw)) hfirst.finishing)

namespace TypeGraph

variable {graph : TypeGraph}

/-- Positions are those of nodes, from zero up to the number of nodes. -/
@[simp]
theorem mem_ids_iff {id : TypeId} : id ∈ graph.ids ↔ id < graph.size :=
  List.mem_range

/-- References are to nodes. Past the end nothing is referred to, so this needs no bound on the
type. -/
theorem children_lt (graph : TypeGraph) (id : TypeId) : ∀ child ∈ graph.children id,
    child < graph.size := by
  intro child hchild
  by_cases hid : id < graph.size
  · obtain ⟨node, hnode, hkind⟩ := exists_kindAt hid
    rw [children, kind, hkind] at hchild
    exact graph.wellFormed.child_lt node hnode child hchild
  · rw [children, kind, kindAt_eq_any (Nat.le_of_not_lt hid)] at hchild
    simp [Kind.children] at hchild

/-- The references of a shape are in range. This is `children_lt` for use where the shape of a
type is known. -/
theorem child_lt_of_kind {id child : TypeId} {kind : Kind} (hkind : graph.kind id = kind)
    (hchild : child ∈ kind.children) : child < graph.size :=
  graph.children_lt id child (by rw [children, hkind]; exact hchild)

/-- The types of entry points are nodes. -/
theorem topLevel_lt {top : TopLevel} (h : top ∈ graph.topLevels) : top.type < graph.size :=
  graph.wellFormed.top_lt top h

/-- At first the search is inside of nothing and has finished nothing. -/
theorem finishing_nil (graph : TypeGraph) :
    Finishing graph.children graph.ids graph.ids [] :=
  ⟨List.nodup_range, List.nodup_nil, by simp, by simp, by simp⟩

/-- A search from any nodes while it is inside of nothing. In this state all nodes are free, so
the hypothesis on paths in `finishAll_finishes` is about no node. -/
theorem finishes_of_finishing {done vs : List TypeId} (hvs : ∀ v ∈ vs, v < graph.size)
    (h : Finishing graph.children graph.ids graph.ids done) :
    Finishes graph.children graph.ids graph.ids done vs
      (finishAll graph.children graph.ids done vs) := by
  have hnext : ∀ u, ∀ w ∈ graph.children u, w ∈ graph.ids := by
    intro u w hw
    exact mem_ids_iff.2 (graph.children_lt u w hw)
  refine finishAll_finishes hnext _ _ _ ?_ h
  intro v hv
  exact ⟨mem_ids_iff.2 (hvs v hv), fun w hw hin => absurd hw hin⟩

/-- The search that the order of all nodes comes from. It starts from the entry points and then
from every node, so that nodes without a way from an entry point are finished, too. -/
theorem finishes_all (graph : TypeGraph) :
    Finishes graph.children graph.ids graph.ids []
      (graph.topLevels.map TopLevel.type ++ graph.ids) graph.finishingOrder.reverse := by
  rw [finishingOrder, List.reverse_reverse]
  refine finishes_of_finishing ?_ graph.finishing_nil
  intro v hv
  rcases List.mem_append.1 hv with hv | hv
  · obtain ⟨top, htop, rfl⟩ := List.mem_map.1 hv
    exact topLevel_lt htop
  · exact mem_ids_iff.1 hv

/-- Every node is finished. Each is a target of the whole search, and no node is left that the
search could be inside of. -/
theorem mem_finishingOrder_iff {id : TypeId} : id ∈ graph.finishingOrder ↔ id < graph.size := by
  rw [← List.mem_reverse]
  constructor
  · intro h
    exact mem_ids_iff.1 (graph.finishes_all.finishing.mem_ids id h)
  · intro h
    -- All positions are among the starts, so none is left out even if nothing refers to it.
    have hid := mem_ids_iff.2 h
    rcases graph.finishes_all.reached id (List.mem_append_right _ hid) with h | h
    · exact h
    · exact absurd hid h

/-- No node is finished twice. So a place in the order belongs to one type. -/
theorem nodup_finishingOrder (graph : TypeGraph) : graph.finishingOrder.Nodup :=
  (List.reverse_perm _).nodup_iff.1 graph.finishes_all.finishing.nodup

/-- What the nodes up to `v` refer to comes before `v` or leads to `v`. All statements on what is
declared before what go back to this one: on no cycle the second case is out. -/
theorem before_or_reaches {before after : List TypeId} {v u w : TypeId}
    (h : graph.finishingOrder = before ++ v :: after) (hu : u ∈ before ∨ u = v)
    (hw : w ∈ graph.children u) : w ∈ before ∨ Reaches graph.children w v := by
  -- The search has its latest finished node first, so the nodes up to `v` are a back part of its
  -- list.
  have hsuffix : v :: before.reverse <:+ graph.finishingOrder.reverse := by
    rw [h]
    exact ⟨after.reverse, by simp⟩
  have hu : u ∈ v :: before.reverse := by
    simpa [or_comm] using hu
  rcases graph.finishes_all.finishing.ordered v _ hsuffix u hu w hw with hw | hw
  · rcases List.mem_cons.1 hw with rfl | hw
    · exact .inr .refl
    · exact .inl (List.mem_reverse.1 hw)
  · exact .inr hw

variable {declareUnions : Bool}

/-- The declarable types are declared, wherever they are in the graph. -/
theorem mem_declarationOrder_iff {id : TypeId} :
    id ∈ graph.declarationOrder declareUnions ↔
      id < graph.size ∧ isDeclarable declareUnions (graph.kind id) := by
  rw [declarationOrder, List.mem_filter, mem_finishingOrder_iff]

/-- No type is declared twice. -/
theorem nodup_declarationOrder (graph : TypeGraph) (declareUnions : Bool) :
    (graph.declarationOrder declareUnions).Nodup :=
  graph.nodup_finishingOrder.filter _

/-- Where a filtered list is cut, the whole list can be. What is left out between the two parts
goes to the first one. -/
theorem exists_split_of_filter {p : TypeId → Bool} {all xs ys : List TypeId} {v : TypeId}
    (h : all.filter p = xs ++ v :: ys) :
    ∃ before after, all = before ++ v :: after ∧ before.filter p = xs := by
  obtain ⟨l₁, l₂, rfl, rfl, h₂⟩ := List.filter_eq_append_iff.1 h
  obtain ⟨l₃, l₄, rfl, hnone, -, -⟩ := List.filter_eq_cons_iff.1 h₂
  have hempty : l₃.filter p = [] := List.filter_eq_nil_iff.2 hnone
  exact ⟨l₁ ++ l₃, l₄, by simp, by simp [hempty]⟩

/-- The types that are declared before a type are the declarable ones finished before it. So what
is known about the order of all nodes carries over to declarations. -/
theorem declarationOrder_split {before after : List TypeId} {v : TypeId}
    (h : graph.declarationOrder declareUnions = before ++ v :: after) :
    ∃ before' after', graph.finishingOrder = before' ++ v :: after' ∧
      ∀ w, w ∈ before ↔ w ∈ before' ∧ isDeclarable declareUnions (graph.kind w) := by
  obtain ⟨before', after', hsplit, rfl⟩ := exists_split_of_filter h
  exact ⟨before', after', hsplit, fun w => List.mem_filter⟩

end TypeGraph

end StateTree.Graph
