import StateTree.Graph.Draft
import StateTree.Proofs.Keyed

/-!
# `StateTree.Proofs.Graph.Operations`: what one operation does to a draft

- `Op`, `Op.apply`: the operations on a draft, and what they do and answer.
- `Op.node?`, `Op.topLevel?`, `Op.insertion?`, `Op.change`: what an operation adds, and what it does
  to the properties of a class.
- `Misuse`: the operations that are a misuse, given the nodes that are there.
- `answer_apply`, `length_nodes_apply`: the answer of an operation and the number of nodes after it.
- `kindAt_apply`, `kindAt_apply_of_le`: the shapes after an operation, of nodes that were there and
  of the others.
- `misuse_apply_eq_some_iff`: what is recorded after an operation.
-/

set_option autoImplicit false

namespace StateTree.Graph.Draft

/-! ### Operations -/

/-- The operations on a draft. A node without a name, of whatever kind, comes by `add`. -/
inductive Op where
  | addNode (node : Node)
  | add (kind : Kind)
  | addClass (name : String)
  | addEnum (name : String) (cases : List String)
  | property (id : TypeId) (name : String) (type : TypeId) (optional : Bool)
  | describeProperty (id : TypeId) (name text : String)
  | describe (id : TypeId) (text : String)
  | rename (id : TypeId) (names : List String) (inferred : Bool)
  | topLevel (name : String) (type : TypeId)

/-- What an operation answers, if anything, and the draft after it. Only the operations that
create a node answer. -/
def Op.apply (draft : Draft) : Op → Option TypeId × Draft
  | .addNode node => (draft.addNode node).map some id
  | .add kind => (draft.add kind).map some id
  | .addClass name => (draft.addClass name).map some id
  | .addEnum name cases => (draft.addEnum name cases).map some id
  | .property id name type optional => (none, draft.property id name type optional)
  | .describeProperty id name text => (none, draft.describeProperty id name text)
  | .describe id text => (none, draft.describe id text)
  | .rename id names inferred => (none, draft.rename id names inferred)
  | .topLevel name type => (none, draft.topLevel name type)

/-- The node that an operation creates, as it is at first. An enum keeps each of its cases once,
also where it is a misuse because of a repetition. -/
def Op.node? : Op → Option Node
  | .addNode node => some node
  | .add kind => some { kind := kind }
  | .addClass name => some { kind := .object {}, names := [name] }
  | .addEnum name cases => some { kind := .enumeration (Distinct.ofList cases), names := [name] }
  | _ => none

/-- The entry point that an operation adds. The entry points of a graph are those of its
operations in order, by `topLevels_after`. -/
def Op.topLevel? : Op → Option TopLevel
  | .topLevel name type => some ⟨name, type⟩
  | _ => none

/-! ### The nodes after one operation -/

variable {draft : Draft} {op : Op} {nodes : List Node} {id : TypeId}
  {defect : Defect}

/-- A shape with the properties changed, if it is a class. Nothing else that is done to a draft
changes the shape of a node that is there. -/
def mapProperties (f : Keyed Property → Keyed Property) : Kind → Kind
  | .object properties => .object (f properties)
  | kind => kind

/-- What an operation does to the properties of a class. The two operations on properties do
something to one class only, and all others do nothing to any. -/
def Op.change (id : TypeId) : Op → Keyed Property → Keyed Property
  | .property id' name type optional =>
    if id' = id then fun properties => properties.insert name { type := type, optional := optional }
    else fun properties => properties
  | .describeProperty id' name text =>
    if id' = id then fun properties =>
      properties.update name fun property => { property with description := some text }
    else fun properties => properties
  | _ => fun properties => properties

/-- A property that is put into a class: its name, its type and whether it is optional. -/
abbrev Insertion : Type :=
  String × TypeId × Bool

/-- The property that an operation puts into a class. A description is no part of it: it may come
later, and stays through another insertion. -/
def Op.insertion? (id : TypeId) : Op → Option Insertion
  | .property id' name type optional => if id' = id then some (name, type, optional) else none
  | _ => none

/-- Nothing but a class has properties to change. -/
theorem mapProperties_of_not_isClass {f : Keyed Property → Keyed Property} {kind : Kind}
    (h : ¬ kind.isClass) : mapProperties f kind = kind := by
  cases kind with
  | object properties => simp [Kind.isClass] at h
  | _ => rfl

/-- Properties that are changed to themselves. This is the case of every operation that is not
about the class. -/
theorem mapProperties_self (kind : Kind) :
    mapProperties (fun properties => properties) kind = kind := by
  cases kind <;> rfl

/-- Properties that are changed twice. So what a sequence of operations does to a class is one
change of its properties. -/
theorem mapProperties_mapProperties (f g : Keyed Property → Keyed Property) (kind : Kind) :
    mapProperties g (mapProperties f kind) =
      mapProperties (fun properties => g (f properties)) kind := by
  cases kind <;> rfl

/-- A change of properties makes nothing a class, and no class anything else. Whether an operation
is a misuse can thus be told from the nodes as they were created. -/
theorem isClass_mapProperties (f : Keyed Property → Keyed Property) (kind : Kind) :
    (mapProperties f kind).isClass = kind.isClass := by
  cases kind <;> rfl

/-- Where there is no node, there is no class. So a property of a class that has not been created
yet is a misuse. -/
theorem not_isClass_of_le (h : nodes.length ≤ id) : ¬ (kindAt nodes id).isClass := by
  rw [kindAt_eq_any h]
  simp [Kind.isClass]

/-- The shapes of nodes stay as they are when other nodes come. Outside of the range of the first
nodes this fails, which is why `h` is there. -/
theorem kindAt_append_of_lt {nodes' : List Node} (h : id < nodes.length) :
    kindAt (nodes ++ nodes') id = kindAt nodes id := by
  rw [kindAt, kindAt, List.getElem?_append_left h]

/-- A change of a node that keeps its shape changes no shape. The names and the description of a
node are changed in this way. -/
theorem kindAt_modify {id' : TypeId} {f : Node → Node} (h : ∀ node, (f node).kind = node.kind) :
    kindAt (nodes.modify id' f) id = kindAt nodes id := by
  unfold kindAt
  rw [List.getElem?_modify]
  cases nodes[id]? with
  | none => rfl
  | some node =>
    by_cases hid : id' = id
    · simp [hid, h]
    · simp [hid]

/-- A change of the properties of a class changes the shape of the class, and no other one. For
what is no class it is a misuse, and then no shape changes. -/
theorem kindAt_modifyProperties {id' : TypeId} {f : Keyed Property → Keyed Property} :
    kindAt (draft.modifyProperties id' f).nodes id =
      if id' = id then mapProperties f (kindAt draft.nodes id) else kindAt draft.nodes id := by
  -- The operation looks at the shape first. In a class it puts the new properties, for anything
  -- else it leaves the nodes alone.
  cases hkind : kindAt draft.nodes id' with
  | object properties =>
    have hnodes : (draft.modifyProperties id' f).nodes =
        draft.nodes.modify id' fun node => { node with kind := .object (f properties) } := by
      simp [modifyProperties, hkind, modifyNode]
    rw [hnodes, kindAt, List.getElem?_modify]
    by_cases hid : id' = id
    · subst hid
      rw [hkind]
      -- Only a node that is there is a class.
      cases hnode : draft.nodes[id']? with
      | none => simp [kindAt, hnode] at hkind
      | some node => simp [mapProperties]
    · simp only [if_neg hid]
      unfold kindAt
      cases draft.nodes[id]? <;> rfl
  | _ =>
    have hnodes : (draft.modifyProperties id' f).nodes = draft.nodes := by
      simp [modifyProperties, hkind, record]
    rw [hnodes]
    split
    · rename_i hid
      subst hid
      rw [hkind]
      rfl
    · rfl

/-- What comes of nodes by an operation that creates one: it stands behind all others. This also
holds for an enum that repeats a case. -/
theorem nodes_apply_of_node? {node : Node} (h : op.node? = some node) :
    (op.apply draft).2.nodes = draft.nodes ++ [node] := by
  cases op with
  | addEnum name cases =>
    obtain rfl := Option.some.inj h
    simp only [Op.apply, addEnum, addNode, Prod.map_snd, id_eq]
    -- A misuse may be recorded as well, which does nothing to the nodes.
    split <;> rfl
  | addNode | add | addClass =>
    obtain rfl := Option.some.inj h
    rfl
  | _ => cases h

/-- An operation that creates a node answers with its position; another answers nothing. This is
the step of `answers_eq_range'`. -/
theorem answer_apply : (op.apply draft).1 = op.node?.map fun _ => draft.nodes.length := by
  cases op with
  | addEnum name cases =>
    simp only [Op.apply, addEnum, addNode, Prod.map_fst, nextId]
    split <;> rfl
  | _ => rfl

/-- A draft grows by the node that an operation creates. No operation takes a node away. -/
theorem length_nodes_apply :
    (op.apply draft).2.nodes.length = draft.nodes.length + op.node?.toList.length := by
  cases h : op.node? with
  | some node => simp [nodes_apply_of_node? h]
  | none =>
    -- Without a new node, the operation changes a node in its place, adds an entry point or
    -- records a misuse.
    cases op with
    | addNode | add | addClass | addEnum => cases h
    | describe | rename => simp [Op.apply, describe, rename, modifyNode]
    | property | describeProperty =>
      simp only [Op.apply, property, describeProperty, modifyProperties]
      split <;> simp [modifyNode, record]
    | topLevel => rfl

/-- An operation changes the shape of a node that is there in its properties only. This is the
step of `kindAt_after`, for the nodes that were there. -/
theorem kindAt_apply (h : id < draft.nodes.length) :
    kindAt (op.apply draft).2.nodes id = mapProperties (op.change id) (kindAt draft.nodes id) := by
  have hsame := (mapProperties_self (kindAt draft.nodes id)).symm
  cases op with
  | addNode | add | addClass | addEnum =>
    rw [nodes_apply_of_node? rfl, kindAt_append_of_lt h]
    exact hsame
  | property id' | describeProperty id' =>
    -- The operation is about this class or about another one.
    refine kindAt_modifyProperties.trans ?_
    by_cases hid : id' = id
    · rw [if_pos hid, Op.change, if_pos hid]
    · rw [if_neg hid, Op.change, if_neg hid]
      exact hsame
  | describe | rename =>
    refine (kindAt_modify ?_).trans hsame
    intro node
    rfl
  | topLevel name type => exact hsame

/-- The shape of a node that was not there before an operation is that of the node it creates. The
nodes that it is compared with, as they were created, are as many as those of the draft by
`hlength`. -/
theorem kindAt_apply_of_le (hlength : nodes.length = draft.nodes.length)
    (h : draft.nodes.length ≤ id) :
    kindAt (op.apply draft).2.nodes id = kindAt (nodes ++ op.node?.toList) id := by
  -- If no node is created there is still none at the position, in either list.
  cases hnode : op.node? with
  | none =>
    have hnone : (op.apply draft).2.nodes.length ≤ id := by
      rw [length_nodes_apply, hnode]
      exact h
    rw [kindAt_eq_any hnone, Option.toList_none, List.append_nil, kindAt_eq_any (hlength ▸ h)]
  | some node =>
    rw [nodes_apply_of_node? hnode, Option.toList_some]
    unfold kindAt
    rw [List.getElem?_append_right h, List.getElem?_append_right (hlength ▸ h), hlength]

/-! ### Misuse -/

/-- `Misuse nodes op defect`: where the nodes are there already, the operation is a misuse, and
`defect` is what is recorded of it. The three kinds of misuse are all there are. -/
inductive Misuse (nodes : List Node) : Op → Defect → Prop
  /-- The first case of an enum that came before in it. -/
  | repeatedCase {name value : String} {before rest : List String} (hnodup : before.Nodup)
    (hvalue : value ∈ before) :
    Misuse nodes (.addEnum name (before ++ value :: rest)) (.duplicateCase nodes.length value)
  /-- A property of something that is no class, or that is not there yet. -/
  | property {id type : TypeId} {name : String} {optional : Bool}
    (h : ¬ (kindAt nodes id).isClass) :
    Misuse nodes (.property id name type optional) (.notAClass id)
  | describeProperty {id : TypeId} {name text : String} (h : ¬ (kindAt nodes id).isClass) :
    Misuse nodes (.describeProperty id name text) (.notAClass id)

/-- The misuse that an enum is, by the check of its cases. It is recorded with the position that
the enum gets. -/
theorem misuse_addEnum_iff {name : String} {cases : List String} :
    Misuse nodes (.addEnum name cases) defect ↔
      ∃ value, firstRepeated? cases = some value ∧
        defect = .duplicateCase nodes.length value := by
  constructor
  · intro h
    cases h with
    | repeatedCase hnodup hvalue =>
      exact ⟨_, firstRepeated?_eq_some_iff.2 ⟨_, _, rfl, hnodup, hvalue⟩, rfl⟩
  · rintro ⟨value, hvalue, rfl⟩
    obtain ⟨before, rest, rfl, hnodup, hmem⟩ := firstRepeated?_eq_some_iff.1 hvalue
    exact .repeatedCase hnodup hmem

/-- What is recorded after a change of properties, which is a misuse of anything but a class. A
misuse from before is not replaced. -/
theorem misuse_modifyProperties_eq_some_iff {f : Keyed Property → Keyed Property} :
    (draft.modifyProperties id f).misuse = some defect ↔
      draft.misuse = some defect ∨
        draft.misuse = none ∧ ¬ (kindAt draft.nodes id).isClass ∧ defect = .notAClass id := by
  have hmisuse : (draft.modifyProperties id f).misuse =
      if (kindAt draft.nodes id).isClass then draft.misuse
      else draft.misuse <|> some (.notAClass id) := by
    unfold modifyProperties
    cases kindAt draft.nodes id <;> rfl
  rw [hmisuse]
  split <;> rename_i hclass <;> cases draft.misuse <;> simp [hclass, eq_comm]

/-- After an operation, the first misuse is the one from before, or if there was none, the misuse
that the operation is. It is the step of `misuse_after`. -/
theorem misuse_apply_eq_some_iff :
    (op.apply draft).2.misuse = some defect ↔
      draft.misuse = some defect ∨ draft.misuse = none ∧ Misuse draft.nodes op defect := by
  cases op with
  | addNode | add | addClass | describe | rename | topLevel =>
    -- None of these is ever a misuse, and none is recorded.
    refine (or_iff_left ?_).symm
    rintro ⟨-, ⟨⟩⟩
  | addEnum name cases =>
    rw [misuse_addEnum_iff]
    simp only [Op.apply, addEnum, addNode, Prod.map_snd, id_eq]
    cases firstRepeated? cases with
    | none => simp
    | some value => cases h : draft.misuse <;> simp [record, h, nextId, eq_comm]
  | property | describeProperty =>
    refine misuse_modifyProperties_eq_some_iff.trans (or_congr_right (and_congr_right fun _ => ?_))
    constructor
    · rintro ⟨hclass, rfl⟩
      constructor
      exact hclass
    · rintro ⟨⟩
      exact ⟨‹_›, rfl⟩

/-- Whether an operation is a misuse depends on how many nodes there are and which are classes. So
it is the same for the nodes that a draft has and for the same nodes as they were created. -/
theorem Misuse.congr {nodes' : List Node} (h : Misuse nodes op defect)
    (hlength : nodes.length = nodes'.length)
    (hclass : ∀ id, (kindAt nodes id).isClass = (kindAt nodes' id).isClass) :
    Misuse nodes' op defect := by
  cases h with
  | repeatedCase hnodup hvalue =>
    rw [hlength]
    exact .repeatedCase hnodup hvalue
  | property h => exact .property (hclass _ ▸ h)
  | describeProperty h => exact .describeProperty (hclass _ ▸ h)

/-- Without a misuse, an operation puts nothing into what is no class. In particular it puts
nothing into a class that is still to be created. -/
theorem insertion?_eq_none (h : ∀ defect, ¬ Misuse nodes op defect)
    (hclass : ¬ (kindAt nodes id).isClass) : op.insertion? id = none := by
  cases op with
  | property id' name type optional =>
    refine if_neg ?_
    rintro rfl
    exact h _ (.property hclass)
  | _ => rfl

end StateTree.Graph.Draft
