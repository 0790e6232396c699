import StateTree.Graph.Draft
import StateTree.Proofs.Graph.Entries
import StateTree.Proofs.Graph.Validation

/-!
# `StateTree.Proofs.Graph.Interchange`: interchange entries and drafts make the same graphs

A graph comes about in two ways: it is built as a draft, or it is loaded from entries. Loading is
decided by what the entries describe, and a graph is what its own entries describe.

- `load_eq_ok_iff`, `load_eq_error_iff`: loading, in terms of what entries describe.
- `Entry.ofNode`, `describesNode_ofNode`: the entry of a node describes the node.
- `load_interchange`: the entries of a graph load as the graph.
- `read_eq_ok_iff`, `read_eq_error_iff`: reading a text is loading what it decodes to.
- `entries_and_drafts_agree`: what is loaded, what is refused and why, and that every finished draft
  can be loaded back from its entries.
-/

set_option autoImplicit false

namespace StateTree.Graph.Interchange

open StateTree.Fallible

variable {entries : List Entry} {topLevels : List TopLevel} {graph : TypeGraph} {defect : Defect}

/-! ### Loading -/

/-- The graph of entries has the nodes that they describe, and the given entry points. So there is
no other way for loading to succeed, and entries describe at most one graph. -/
theorem load_eq_ok_iff :
    load entries topLevels = .ok graph ↔
      List.Forall₂ DescribesNode entries graph.nodes ∧ graph.topLevels = topLevels := by
  -- Nodes are decoded first, then they are checked with the entry points.
  rw [load, bind_eq_ok_iff]
  constructor
  · rintro ⟨nodes, hnodes, hgraph⟩
    obtain ⟨rfl, htops⟩ := TypeGraph.ofParts_eq_ok_iff.1 hgraph
    exact ⟨nodesFrom_eq_ok_iff.1 hnodes, htops⟩
  · rintro ⟨hnodes, htops⟩
    exact ⟨graph.nodes, nodesFrom_eq_ok_iff.2 hnodes, TypeGraph.ofParts_eq_ok_iff.2 ⟨rfl, htops⟩⟩

/-- Entries are refused for the first of them that is not complete, and if there is none, for the
defect that validation finds in the nodes that they describe. -/
theorem load_eq_error_iff :
    load entries topLevels = .error defect ↔
      FirstDefect 0 entries defect ∨
        ∃ nodes, List.Forall₂ DescribesNode entries nodes ∧
          validate nodes topLevels = .error defect := by
  simp only [load, bind_eq_error_iff, nodesFrom_eq_error_iff, nodesFrom_eq_ok_iff,
    TypeGraph.ofParts_eq_error_iff]

/-- Entries load if each is complete and what they describe is well formed. The first two
conditions are about entries one by one, the last one is about references between them. -/
theorem exists_load_eq_ok_iff :
    (∃ graph, load entries topLevels = .ok graph) ↔
      (∀ entry ∈ entries, ∀ field, ¬ entry.Lacks field) ∧
        (∀ entry ∈ entries, ∀ value, ¬ entry.Repeats value) ∧
        ∃ nodes, List.Forall₂ DescribesNode entries nodes ∧ WellFormed nodes topLevels := by
  constructor
  · rintro ⟨graph, hgraph⟩
    obtain ⟨hnodes, rfl⟩ := load_eq_ok_iff.1 hgraph
    have hcomplete := exists_forall₂_describesNode_iff.1 ⟨_, hnodes⟩
    exact ⟨fun entry hentry => (hcomplete entry hentry).1,
      fun entry hentry => (hcomplete entry hentry).2, graph.nodes, hnodes, graph.wellFormed⟩
  · rintro ⟨-, -, nodes, hnodes, hwf⟩
    -- Well-formed nodes are a graph, and it is the one that is loaded.
    exact ⟨⟨nodes, topLevels, hwf⟩, load_eq_ok_iff.2 ⟨hnodes, rfl⟩⟩

/-! ### The entries of a graph -/

/-- The entry of a node: its kind, the parts of it in the fields for them, and what the node says
about its names and its description. -/
def Entry.ofNode (node : Node) : Entry :=
  let entry (kind : EntryKind) : Entry :=
    { kind := kind, names := node.names, inferredName := node.inferred
      description := node.description }
  match node.kind with
  | .primitive (.formatted format) => { entry .formatted with format := some format }
  | .primitive type => entry (.plain type)
  | .array items => { entry .array with items := some items }
  | .map values => { entry .map with values := some values }
  | .object properties => { entry .object with properties := some properties }
  | .enumeration cases => { entry .enumeration with cases := some cases.items }
  | .union members => { entry .union with members := some members }

/-- The entry of a node describes its shape. The case of a primitive is in two, since a string
with a format has an entry kind of its own. -/
theorem describes_ofNode (node : Node) : Describes (Entry.ofNode node) node.kind := by
  obtain ⟨kind, names, inferred, description⟩ := node
  cases kind with
  | primitive type =>
    -- A primitive type is written plainly if it has no format, and by the name of its format if
    -- it has one.
    cases type with
    | formatted format => exact .formatted rfl rfl
    | _ => exact .plain rfl
  | array items => exact .array rfl rfl
  | map values => exact .map rfl rfl
  | object properties => exact .object rfl
  | enumeration cases => exact .enumeration rfl rfl
  | union members => exact .union rfl rfl

/-- The entry of a node describes the node. So every node can be written as an entry, which is
what makes the round trip of `load_interchange` total. -/
theorem describesNode_ofNode (node : Node) : DescribesNode (Entry.ofNode node) node := by
  refine ⟨describes_ofNode node, ?_, ?_, ?_⟩ <;>
  · unfold Entry.ofNode
    split <;> rfl

/-- The entries of a graph load as the graph. Nothing about the graph has to be asked: it is well
formed, and its nodes are described one by one. -/
theorem load_interchange (graph : TypeGraph) :
    load (graph.nodes.map Entry.ofNode) graph.topLevels = .ok graph := by
  refine load_eq_ok_iff.2 ⟨?_, rfl⟩
  -- Each node is compared with its own entry.
  rw [List.forall₂_map_left_iff]
  exact List.forall₂_same.2 fun node _ => describesNode_ofNode node

/-! ### Texts -/

/-- A text is read as a graph exactly if it decodes to entries and entry points that load as it.
Where things stand in the text is of no account for this. -/
theorem read_eq_ok_iff {src : String} :
    read src = .ok graph ↔
      ∃ entries topLevels, (Json.parse? src).bind document? = some (entries, topLevels) ∧
        load entries topLevels = .ok graph := by
  unfold read
  cases (Json.parse? src).bind document? with
  | none => simp
  | some parts =>
    obtain ⟨entries, topLevels⟩ := parts
    cases h : load entries topLevels <;> simp [h, Except.mapError]

/-- A text is refused if it does not decode, or as what it decodes to; the complaint then has its
place in the text. -/
theorem read_eq_error_iff {src : String} {error : LoadError} :
    read src = .error error ↔
      (Json.parse? src).bind document? = none ∧ error = .malformed ∨
        ∃ entries topLevels defect,
          (Json.parse? src).bind document? = some (entries, topLevels) ∧
          load entries topLevels = .error defect ∧
          error = .invalid defect (locate src defect) := by
  unfold read
  cases (Json.parse? src).bind document? with
  | none => simp [eq_comm]
  | some parts =>
    obtain ⟨entries, topLevels⟩ := parts
    cases h : load entries topLevels <;> simp [h, Except.mapError, eq_comm]

/-! ### Both ways -/

/-- Entries and drafts agree on what a graph is.

Entries and entry points load exactly if no entry lacks the field that its kind requires, no enum
repeats a case, and the nodes that the entries describe are well formed with the entry points. The
graph then has these nodes and entry points. Otherwise they are refused for the first entry that
lacks its field or repeats a case, and if no entry does, for what validation finds in the nodes.
Texts are read as what they decode to loads, and refused as what they decode to is. Every graph
that a draft is finished to has the nodes and entry points of the draft, and its entries load as
the same graph. -/
theorem entries_and_drafts_agree :
    (∀ (entries : List Entry) (topLevels : List TopLevel),
      ((∃ graph, load entries topLevels = .ok graph) ↔
        (∀ entry ∈ entries, ∀ field, ¬ entry.Lacks field) ∧
          (∀ entry ∈ entries, ∀ value, ¬ entry.Repeats value) ∧
          ∃ nodes, List.Forall₂ DescribesNode entries nodes ∧ WellFormed nodes topLevels) ∧
      (∀ graph, load entries topLevels = .ok graph ↔
        List.Forall₂ DescribesNode entries graph.nodes ∧ graph.topLevels = topLevels) ∧
      ∀ defect, load entries topLevels = .error defect ↔
        FirstDefect 0 entries defect ∨
          ∃ nodes, List.Forall₂ DescribesNode entries nodes ∧
            validate nodes topLevels = .error defect) ∧
    (∀ src : String,
      (∀ graph, read src = .ok graph ↔
        ∃ entries topLevels, (Json.parse? src).bind document? = some (entries, topLevels) ∧
          load entries topLevels = .ok graph) ∧
      ∀ error, read src = .error error ↔
        (Json.parse? src).bind document? = none ∧ error = .malformed ∨
          ∃ entries topLevels defect,
            (Json.parse? src).bind document? = some (entries, topLevels) ∧
            load entries topLevels = .error defect ∧
            error = .invalid defect (locate src defect)) ∧
    ∀ (draft : Draft) (graph : TypeGraph), draft.finish = .ok graph →
      graph.nodes = draft.nodes ∧ graph.topLevels = draft.topLevels ∧
        load (graph.nodes.map Entry.ofNode) graph.topLevels = .ok graph := by
  refine ⟨fun _ _ => ?_, fun _ => ⟨fun _ => read_eq_ok_iff, fun _ => read_eq_error_iff⟩, ?_⟩
  · exact ⟨exists_load_eq_ok_iff, fun _ => load_eq_ok_iff, fun _ => load_eq_error_iff⟩
  · intro draft graph hfinish
    -- A draft that was misused is not finished, so this one has come as far as the check of its
    -- nodes.
    have hparts : TypeGraph.ofParts draft.nodes draft.topLevels = .ok graph := by
      unfold Draft.finish at hfinish
      split at hfinish
      · cases hfinish
      · exact hfinish
    obtain ⟨hnodes, htops⟩ := TypeGraph.ofParts_eq_ok_iff.1 hparts
    exact ⟨hnodes, htops, load_interchange graph⟩

/-- A draft of a class whose instances hold an array of others. The property refers to an array
that comes after the class. -/
def treeDraft : Draft :=
  let draft := (({} : Draft).addClass "Tree").2
  let draft := (draft.add (.array 0)).2
  (draft.property 0 "children" 1 true).topLevel "Tree" 0

/-- The graph of `treeDraft`, with the property in the class and the entry point as they were put
there. -/
def tree : TypeGraph where
  nodes :=
    [{ kind := .object ⟨[("children", { type := 1, optional := true })], by simp⟩
       names := ["Tree"] },
      { kind := .array 0 }]
  topLevels := [{ name := "Tree", type := 0 }]
  wellFormed := by decide +kernel

/-- The draft is finished to the graph, and the entries of the graph load as it. -/
theorem load_tree :
    treeDraft.finish = .ok tree ∧ tree.nodes = treeDraft.nodes ∧
      load (tree.nodes.map Entry.ofNode) tree.topLevels = .ok tree := by
  have hfinish : treeDraft.finish = .ok tree := TypeGraph.ofParts_eq_ok_iff.2 ⟨rfl, rfl⟩
  obtain ⟨hnodes, -, hload⟩ := entries_and_drafts_agree.2.2 treeDraft tree hfinish
  exact ⟨hfinish, hnodes, hload⟩

end StateTree.Graph.Interchange
