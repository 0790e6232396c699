import Mathlib.Data.List.Basic
import Mathlib.Data.List.Chain
import StateTree.Proofs.Graph.FinishingOrder

/-!
# `StateTree.Proofs.Graph.DependenciesFirst`: dependencies are declared before their dependents

The order of the declarations has every declarable type once. Cycles keep it from putting all
dependencies first, but only as far as they must: a path of references that cannot get back to where
it started ends in something that is declared earlier.

The argument goes along the path. When the search finishes a type, each reference of the types
finished so far is to a finished type as well, or leads back to the type. From no place on the path
anything leads back, so with each place the next one is finished, too.

- `TypeGraph.Refers`: one type refers to another.
- `TypeGraph.mem_before_of_isChain`: what is on such a path is finished before its start.
- `TypeGraph.idxOf_lt_of_mem_before`: what is finished before a type is declared before it.
- `TypeGraph.declarationOrder_dependencies`: the order as a whole.
-/

set_option autoImplicit false

namespace StateTree.Graph

/-- The declarable kinds: classes, enums, and unions where these are declared. In this form they
stand in the statements about files. -/
theorem isDeclarable_iff {declareUnions : Bool} {kind : Kind} :
    isDeclarable declareUnions kind ↔
      kind.isClass ∨ kind.isEnum ∨ declareUnions ∧ kind.isUnion := by
  simp [isDeclarable, or_assoc]

namespace TypeGraph

/-- A type refers to another: as its items, its values, a member of it or the type of a property.
-/
abbrev Refers (graph : TypeGraph) (this part : TypeId) : Prop :=
  part ∈ graph.children this

variable {graph : TypeGraph} {before after path : List TypeId} {this start part : TypeId}

/-- All places on a path are finished before a type, if the path starts from the type or from
something finished before it and nothing on it leads back to the type. The start is left open in
this way because the path is walked from its first place on. -/
theorem mem_before_of_isChain (horder : graph.finishingOrder = before ++ this :: after)
    (hstart : start ∈ before ∨ start = this) (hpath : (start :: path).IsChain graph.Refers)
    (hback : ∀ place ∈ path, ¬ Reaches graph.children place this) :
    ∀ place ∈ path, place ∈ before := by
  induction path generalizing start with
  | nil => simp
  | cons next rest ih =>
    obtain ⟨hrefers, hrest⟩ := List.isChain_cons_cons.1 hpath
    obtain ⟨hnext, hbackRest⟩ := List.forall_mem_cons.1 hback
    -- The next place is finished before the type or leads back to it, and nothing here leads
    -- back.
    have hbefore : next ∈ before :=
      (before_or_reaches horder hstart hrefers).resolve_right hnext
    exact List.forall_mem_cons.2 ⟨hbefore, ih (.inl hbefore) hrest hbackRest⟩

/-- A declarable type that is finished before another declarable one is declared before it. Places
are compared as indices, which decides the order since each type is declared once. -/
theorem idxOf_lt_of_mem_before {declareUnions : Bool}
    (horder : graph.finishingOrder = before ++ this :: after)
    (hthis : isDeclarable declareUnions (graph.kind this))
    (hpart : isDeclarable declareUnions (graph.kind part)) (hbefore : part ∈ before) :
    (graph.declarationOrder declareUnions).idxOf part <
      (graph.declarationOrder declareUnions).idxOf this := by
  have hnodup : this ∉ before := by
    have hnodup := graph.nodup_finishingOrder
    rw [horder] at hnodup
    exact fun hmem => (List.nodup_append.1 hnodup).2.2 this hmem this List.mem_cons_self rfl
  -- The declarable ones before the type are a front of the order, right before the type.
  have hsplit : graph.declarationOrder declareUnions =
      before.filter (fun id => isDeclarable declareUnions (graph.kind id)) ++
        this :: after.filter (fun id => isDeclarable declareUnions (graph.kind id)) := by
    simp [declarationOrder, horder, hthis]
  have hfront : part ∈ before.filter fun id => isDeclarable declareUnions (graph.kind id) :=
    List.mem_filter.2 ⟨hbefore, hpart⟩
  rw [hsplit, List.idxOf_append_of_mem hfront,
    List.idxOf_append_of_notMem (fun hmem => hnodup (List.mem_of_mem_filter hmem)),
    List.idxOf_cons_self]
  exact List.idxOf_lt_length_of_mem hfront

/-- The path that a chain of references follows, and what lies on it. This takes the relation
apart into the list of places that `mem_before_of_isChain` goes along. -/
theorem exists_isChain_of_transGen (h : Relation.TransGen graph.Refers this part) :
    ∃ via, (this :: (via ++ [part])).IsChain graph.Refers ∧
      ∀ place ∈ via ++ [part], Relation.TransGen graph.Refers this place := by
  induction h with
  | single hrefers => exact ⟨[], by simpa using hrefers, by simpa using .single hrefers⟩
  | tail hpath hrefers ih =>
    rename_i last part
    obtain ⟨via, hchain, hbelow⟩ := ih
    -- The end of the shorter path becomes a place on the way.
    refine ⟨via ++ [last], ?_, ?_⟩
    · rw [← List.cons_append]
      refine hchain.append (.singleton part) ?_
      simpa [List.getLast?_cons] using hrefers
    · intro place hplace
      rcases List.mem_append.1 hplace with hplace | hplace
      · exact hbelow place hplace
      · obtain rfl : place = part := by simpa using hplace
        exact hpath.tail hrefers

/-- What the order of the declarations is. Every class and every enum is in it once, and so is every
union if these are declared, and nothing else is. Wherever a path of references ends in such a type
and nothing on the path leads back to its start, the end comes before the start. So where no
references go in circles, every type comes after all that it depends on, directly or not. -/
theorem declarationOrder_dependencies (graph : TypeGraph) (declareUnions : Bool) :
    (graph.declarationOrder declareUnions).Nodup ∧
    (∀ id, id ∈ graph.declarationOrder declareUnions ↔ id < graph.size ∧
      ((graph.kind id).isClass ∨ (graph.kind id).isEnum ∨
        declareUnions ∧ (graph.kind id).isUnion)) ∧
    (∀ this ∈ graph.declarationOrder declareUnions,
      ∀ via part, (this :: (via ++ [part])).IsChain graph.Refers →
        isDeclarable declareUnions (graph.kind part) →
        (∀ place ∈ via ++ [part], ¬ Reaches graph.children place this) →
        (graph.declarationOrder declareUnions).idxOf part <
          (graph.declarationOrder declareUnions).idxOf this) ∧
    ((∀ id, ¬ Relation.TransGen graph.Refers id id) →
      ∀ this ∈ graph.declarationOrder declareUnions,
        ∀ part, Relation.TransGen graph.Refers this part →
          isDeclarable declareUnions (graph.kind part) →
          (graph.declarationOrder declareUnions).idxOf part <
            (graph.declarationOrder declareUnions).idxOf this) := by
  have hpath : ∀ this ∈ graph.declarationOrder declareUnions,
      ∀ via part, (this :: (via ++ [part])).IsChain graph.Refers →
        isDeclarable declareUnions (graph.kind part) →
        (∀ place ∈ via ++ [part], ¬ Reaches graph.children place this) →
        (graph.declarationOrder declareUnions).idxOf part <
          (graph.declarationOrder declareUnions).idxOf this := by
    intro this hthis via part hchain hpart hback
    obtain ⟨hsize, hthis⟩ := mem_declarationOrder_iff.1 hthis
    obtain ⟨before, after, horder⟩ := List.append_of_mem (mem_finishingOrder_iff.2 hsize)
    have hbefore := mem_before_of_isChain horder (.inr rfl) hchain hback part (by simp)
    exact idxOf_lt_of_mem_before horder hthis hpart hbefore
  refine ⟨graph.nodup_declarationOrder declareUnions, ?_, hpath, ?_⟩
  · intro id
    rw [mem_declarationOrder_iff, isDeclarable_iff]
  · intro hacyclic this hthis part hbelow hpart
    -- A place on the path that led back to the start would close a circle through the start.
    obtain ⟨via, hchain, hvia⟩ := exists_isChain_of_transGen hbelow
    refine hpath this hthis via part hchain hpart ?_
    intro place hplace hreaches
    exact hacyclic this ((hvia place hplace).trans_left hreaches)

/-- A class of folders in folders, and a list of labels on the way to the enum of these. -/
def folder : TypeGraph where
  nodes :=
    [{ kind := .object ⟨[("parent", { type := 0 }), ("labels", { type := 1 })], by simp⟩
       names := ["Folder"] },
      { kind := .array 2 },
      { kind := .enumeration ⟨["new", "old"], by simp⟩, names := ["Label"] }]
  topLevels := [{ name := "Folder", type := 0 }]
  wellFormed := by decide +kernel

/-- The labels come before the folders, although the folders are on a cycle. -/
theorem declarationOrder_folder :
    Relation.TransGen folder.Refers 0 0 ∧
      (folder.declarationOrder false).idxOf 2 < (folder.declarationOrder false).idxOf 0 := by
  -- From the list of labels only the labels are reached, so no path leads back to the folders.
  have hbelow : ∀ place, Reaches folder.children 1 place → place = 1 ∨ place = 2 := by
    intro place hplace
    induction hplace with
    | refl => exact .inl rfl
    | tail _ hrefers ih =>
      obtain rfl | rfl := ih
      · exact .inr (by simpa [folder, children, kind, kindAt, Kind.children] using hrefers)
      · simp [folder, children, kind, kindAt, Kind.children] at hrefers
  have hback : ∀ place ∈ [1] ++ [2], ¬ Reaches folder.children place 0 := by
    intro place hplace hreaches
    have hone : Reaches folder.children 1 place := by
      obtain rfl | rfl : place = 1 ∨ place = 2 := by simpa using hplace
      · exact .refl
      · exact .single (by decide)
    exact absurd (hbelow 0 (hone.trans hreaches)) (by decide)
  obtain ⟨-, hmem, hpath, -⟩ := declarationOrder_dependencies folder false
  exact ⟨.single (by decide), hpath 0 ((hmem 0).2 (by decide)) [1] 2 (by decide) (by decide) hback⟩

end TypeGraph

end StateTree.Graph
