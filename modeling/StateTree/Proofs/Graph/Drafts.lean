import Mathlib.Data.List.Induction
import StateTree.Proofs.Graph.Operations
import StateTree.Proofs.Graph.Validation

/-!
# `StateTree.Proofs.Graph.Drafts`: what a sequence of operations on a draft comes to

A draft is changed by one operation after another. Here the outcome of a whole sequence is said in
terms of the sequence alone: which nodes it creates, where it is misused first, and which properties
it puts into each class.

- `after`, `answers`: what a sequence of operations does and answers.
- `created`, `Faultless`, `FirstMisuse`, `insertions`: what is read off a sequence.
- `Holds`, `Holds.change`: the properties of a class and what was put into it.
- `answers_eq_range'`, `kindAt_after`, `misuse_after`: what a sequence has answered, built and
  recorded, each by induction over the sequence.
- `outcome_of_operations`: the answers count up, kinds stay, the first misuse decides for good, and
  without a misuse validation decides about the nodes that were built.
-/

set_option autoImplicit false

namespace StateTree.Graph.Draft

/-! ### Sequences -/

/-- The draft after operations on an empty one. All that is said of sequences of operations is
about this. -/
def after (ops : List Op) : Draft :=
  ops.foldl (fun draft op => (op.apply draft).2) {}

/-- The answers of operations that are applied one after another. Operations that create no node
answer with nothing. -/
def answers (draft : Draft) : List Op → List TypeId
  | [] => []
  | op :: ops => (op.apply draft).1.toList ++ answers (op.apply draft).2 ops

/-- The nodes that operations create, as they are at first. All that is said of a sequence below
is said in terms of these, and of what is put into classes. -/
def created (ops : List Op) : List Node :=
  ops.filterMap Op.node?

/-- No operation is a misuse, given the nodes that the operations before it create. It is about
the sequence alone and mentions no draft. -/
def Faultless (ops : List Op) : Prop :=
  ∀ before op rest, ops = before ++ op :: rest → ∀ defect, ¬ Misuse (created before) op defect

/-- The first misuse among operations. What comes before it is without one, and what comes after
it is of no account. -/
def FirstMisuse (ops : List Op) (defect : Defect) : Prop :=
  ∃ before op rest, ops = before ++ op :: rest ∧ Faultless before ∧
    Misuse (created before) op defect

/-- A property as it is put under its name. -/
def insertion (entry : String × Property) : Insertion :=
  (entry.1, entry.2.type, entry.2.optional)

/-- What is put into a class: the properties it was created with, then those of the operations. A
name may come more than once; which place and which flag it gets is then said by `Holds`. -/
def insertions (ops : List Op) (id : TypeId) (properties : Keyed Property) : List Insertion :=
  properties.entries.map insertion ++ ops.filterMap (Op.insertion? id)

/-- `Holds properties inserted`: the properties of a class are the ones that were put into it. Their
names stand in the order in which they came first; the type and whether the property is optional are
those of the last insertion under the name. -/
structure Holds (properties : Keyed Property) (inserted : List Insertion) : Prop where
  names : properties.names = (inserted.map Prod.fst).eraseDups
  last : ∀ name property, (name, property) ∈ properties.entries →
    ∃ before rest, inserted = before ++ (name, property.type, property.optional) :: rest ∧
      name ∉ rest.map Prod.fst

variable {op : Op} {ops : List Op} {id : TypeId} {defect : Defect}

/-! ### The nodes after a sequence -/

/-- One more operation. The lemmas on sequences go by induction from the end, as a draft is built.
-/
theorem after_concat (ops : List Op) (op : Op) :
    after (ops ++ [op]) = (op.apply (after ops)).2 := by
  simp [after]

/-- One more operation creates its node after the others, if it creates one. -/
theorem created_concat (ops : List Op) (op : Op) :
    created (ops ++ [op]) = created ops ++ op.node?.toList := by
  unfold created
  rw [List.filterMap_append]
  cases h : op.node? <;> simp [h]

/-- A sequence of operations comes to as many nodes as it creates. No operation is refused: one
that is a misuse creates its node as well. -/
theorem length_nodes_after (ops : List Op) : (after ops).nodes.length = (created ops).length := by
  induction ops using List.reverseRecOn with
  | nil => rfl
  | append_singleton ops op ih =>
    rw [after_concat, length_nodes_apply, created_concat, List.length_append, ih]

/-- The answers count up from the number of nodes that there are. The statement is about any
draft, so that the induction can go on from the one that the first operation leaves. -/
theorem answers_eq_range' (draft : Draft) (ops : List Op) :
    answers draft ops = List.range' draft.nodes.length (created ops).length := by
  induction ops generalizing draft with
  | nil => rfl
  | cons op ops ih =>
    rw [answers, ih, answer_apply, length_nodes_apply]
    unfold created
    rw [List.filterMap_cons]
    -- The draft grows by one node exactly where there is an answer.
    cases op.node? with
    | none => rfl
    | some node => rfl

/-- The ways to split a sequence that ends in an operation: at this operation, or before. The
conditions on a sequence are about such splits, and this takes them from a sequence to one that is
longer by one. -/
theorem concat_eq_append_cons_iff {before rest : List Op} {op' : Op} :
    ops ++ [op] = before ++ op' :: rest ↔
      (ops = before ∧ op = op' ∧ rest = []) ∨
        ∃ rest', ops = before ++ op' :: rest' ∧ rest = rest' ++ [op] := by
  constructor
  · intro h
    -- What stands behind the split is empty, or has the same last operation.
    rcases List.eq_nil_or_concat rest with rfl | ⟨rest', last, rfl⟩
    · obtain ⟨rfl, rfl⟩ := List.append_singleton_inj.1 h
      exact .inl ⟨rfl, rfl, rfl⟩
    · rw [List.concat_eq_append, ← List.cons_append, ← List.append_assoc] at h
      obtain ⟨rfl, rfl⟩ := List.append_singleton_inj.1 h
      exact .inr ⟨rest', rfl, List.concat_eq_append⟩
  · rintro (⟨rfl, rfl, rfl⟩ | ⟨rest', rfl, rfl⟩) <;> simp

/-- A sequence is without a misuse if it is up to its end, and there. -/
theorem faultless_concat_iff :
    Faultless (ops ++ [op]) ↔ Faultless ops ∧ ∀ defect, ¬ Misuse (created ops) op defect := by
  constructor
  · intro h
    refine ⟨?_, h ops op [] rfl⟩
    rintro before op' rest rfl
    exact h before op' (rest ++ [op]) (by simp)
  · rintro ⟨hops, hop⟩ before op' rest hsplit
    -- An operation of the longer sequence is the last one, or comes before it.
    obtain ⟨rfl, rfl, -⟩ | ⟨rest', hsplit, -⟩ := concat_eq_append_cons_iff.1 hsplit
    · exact hop
    · exact hops before op' rest' hsplit

/-- The first misuse of a sequence is before its end, or there. -/
theorem firstMisuse_concat_iff :
    FirstMisuse (ops ++ [op]) defect ↔
      FirstMisuse ops defect ∨ Faultless ops ∧ Misuse (created ops) op defect := by
  constructor
  · rintro ⟨before, op', rest, hsplit, hbefore, hmisuse⟩
    obtain ⟨rfl, rfl, -⟩ | ⟨rest', hsplit, -⟩ := concat_eq_append_cons_iff.1 hsplit
    · exact .inr ⟨hbefore, hmisuse⟩
    · exact .inl ⟨before, op', rest', hsplit, hbefore, hmisuse⟩
  · rintro (⟨before, op', rest, rfl, hbefore, hmisuse⟩ | ⟨hops, hmisuse⟩)
    · exact ⟨before, op', rest ++ [op], by simp, hbefore, hmisuse⟩
    · exact ⟨ops, op, [], rfl, hops, hmisuse⟩

/-- The first misuse of a sequence is the first one of any continuation. This is why a misuse
decides for good. -/
theorem FirstMisuse.append (h : FirstMisuse ops defect) (later : List Op) :
    FirstMisuse (ops ++ later) defect := by
  obtain ⟨before, op, rest, rfl, hbefore, hmisuse⟩ := h
  exact ⟨before, op, rest ++ later, by simp, hbefore, hmisuse⟩

/-- Without a misuse, nothing is put into a class before it is created. So a class begins with the
properties that it was created with, and not with any from earlier operations. -/
theorem insertions_eq_nil (h : Faultless ops) (hid : (created ops).length ≤ id) :
    ops.filterMap (Op.insertion? id) = [] := by
  refine List.filterMap_eq_nil_iff.2 ?_
  intro op hop
  obtain ⟨before, rest, rfl⟩ := List.append_of_mem hop
  -- When the operation came, there were still fewer nodes.
  have hlength : (created before).length ≤ (created (before ++ op :: rest)).length := by
    unfold created
    rw [List.filterMap_append, List.length_append]
    omega
  exact insertion?_eq_none (h before op rest rfl) (not_isClass_of_le (Nat.le_trans hlength hid))

/-! ### The properties of a class -/

/-- A class that was just created has the properties it was created with. Their names are
distinct, so each of them is the last under its name. -/
theorem holds_created (properties : Keyed Property) :
    Holds properties (properties.entries.map insertion) := by
  have hnames : ∀ entries : List (String × Property),
      (entries.map insertion).map Prod.fst = entries.map Prod.fst := by
    intro entries
    rw [List.map_map]
    rfl
  refine ⟨?_, ?_⟩
  · rw [hnames]
    exact (eraseDups_of_nodup properties.nodup).symm
  · intro name property hmem
    obtain ⟨before, rest, hsplit⟩ := List.append_of_mem hmem
    have hnodup := properties.nodup
    rw [hsplit, List.map_append, List.map_cons] at hnodup
    -- The name of a property does not come again behind it.
    have hfresh := (List.nodup_cons.1 (List.nodup_append.1 hnodup).2.1).1
    refine ⟨before.map insertion, rest.map insertion, ?_, ?_⟩
    · rw [hsplit, List.map_append, List.map_cons]
      rfl
    · rw [hnames]
      exact hfresh

variable {properties : Keyed Property} {inserted : List Insertion}

/-- One more property is put into a class. Under a name that is there already it takes the place
of the old one, and the order of the names is the one of before. -/
theorem Holds.insert (h : Holds properties inserted) (name : String) (type : TypeId)
    (optional : Bool) :
    Holds (properties.insert name { type := type, optional := optional })
      (inserted ++ [(name, type, optional)]) := by
  refine ⟨?_, ?_⟩
  · rw [Keyed.names_insert, List.map_append, List.map_singleton, eraseDups_append_singleton,
      h.names]
    simp only [List.mem_eraseDups]
  · intro other property hmem
    -- A property of the class is now the new one, or it has another name.
    obtain ⟨rfl, rfl⟩ | ⟨hne, hmem⟩ := Keyed.mem_entries_insert.1 hmem
    · -- Nothing comes after the insertion.
      exact ⟨inserted, [], rfl, by simp⟩
    · -- What was last under another name still is.
      obtain ⟨before, rest, rfl, hlast⟩ := h.last other property hmem
      exact ⟨before, rest ++ [(name, type, optional)], by simp, by simp_all⟩

/-- A change that keeps types and whether properties are optional. Describing a property is one:
what was put into the class does not show descriptions. -/
theorem Holds.update (h : Holds properties inserted) (name : String) {f : Property → Property}
    (hf : ∀ property, (f property).type = property.type ∧
      (f property).optional = property.optional) :
    Holds (properties.update name f) inserted := by
  refine ⟨(Keyed.names_update f).trans h.names, ?_⟩
  intro other property hmem
  obtain ⟨before, hbefore, rfl⟩ := Keyed.mem_entries_update.1 hmem
  obtain ⟨earlier, rest, hinserted, hlast⟩ := h.last other before hbefore
  refine ⟨earlier, rest, ?_, hlast⟩
  -- The update may be of this property or of another one, and neither changes what is held of it.
  split
  · rw [(hf before).1, (hf before).2]
    exact hinserted
  · exact hinserted

/-- An operation puts into a class what it says. With `holds_created` this carries `Holds` along a
sequence, in `kindAt_after`. -/
theorem Holds.change (h : Holds properties inserted) (op : Op) (id : TypeId) :
    Holds (op.change id properties) (inserted ++ (op.insertion? id).toList) := by
  -- An operation that is about another class, or about none, adds nothing to the list.
  have hsame : Holds properties (inserted ++ []) := by rwa [List.append_nil]
  cases op with
  | property id' name type optional =>
    by_cases hid : id' = id
    · rw [Op.change, if_pos hid, Op.insertion?, if_pos hid]
      exact h.insert name type optional
    · rw [Op.change, if_neg hid, Op.insertion?, if_neg hid]
      exact hsame
  | describeProperty id' name text =>
    by_cases hid : id' = id
    · rw [Op.change, if_pos hid]
      show Holds _ (inserted ++ [])
      rw [List.append_nil]
      exact h.update name fun _ => ⟨rfl, rfl⟩
    · rw [Op.change, if_neg hid]
      exact hsame
  | _ => exact hsame

/-! ### The outcome of a sequence -/

/-- One more operation puts its property into a class after the others. -/
theorem insertions_concat (ops : List Op) (op : Op) (id : TypeId) (properties : Keyed Property) :
    insertions (ops ++ [op]) id properties =
      insertions ops id properties ++ (op.insertion? id).toList := by
  unfold insertions
  rw [List.filterMap_append, List.append_assoc]
  cases h : op.insertion? id <;> simp [h]

/-- The shapes of the nodes are those that they were created with, except that classes hold the
properties that were put into them. What the operations have done to the properties is one
function `f`; that its results are right needs that no operation was a misuse, since a property
for a class that is not there yet is lost. -/
theorem kindAt_after (ops : List Op) (id : TypeId) :
    ∃ f, kindAt (after ops).nodes id = mapProperties f (kindAt (created ops) id) ∧
      ∀ properties, kindAt (created ops) id = .object properties → Faultless ops →
        Holds (f properties) (insertions ops id properties) := by
  induction ops using List.reverseRecOn with
  | nil => exact ⟨fun properties => properties, rfl, by rintro properties ⟨⟩⟩
  | append_singleton ops op ih =>
    -- `f` is what the other operations do to the properties; the last one comes on top of it.
    obtain ⟨f, hf, hholds⟩ := ih
    have hlength := length_nodes_after ops
    rw [after_concat, created_concat]
    by_cases hid : id < (created ops).length
    · -- A node that was there: the operation may change its properties.
      rw [kindAt_append_of_lt hid, kindAt_apply (hlength ▸ hid), hf, mapProperties_mapProperties]
      refine ⟨fun properties => op.change id (f properties), rfl, ?_⟩
      intro properties hproperties hfaultless
      rw [insertions_concat]
      exact (hholds properties hproperties (faultless_concat_iff.1 hfaultless).1).change op id
    · -- A node that was not there: if it is there now, it is as it was created.
      have hle : (created ops).length ≤ id := Nat.le_of_not_lt hid
      refine ⟨fun properties => properties, ?_, ?_⟩
      · rw [mapProperties_self]
        exact kindAt_apply_of_le hlength.symm (hlength ▸ hle)
      · intro properties _ hfaultless
        obtain ⟨hops, hop⟩ := faultless_concat_iff.1 hfaultless
        have hnone : op.insertion? id = none := insertion?_eq_none hop (not_isClass_of_le hle)
        rw [insertions_concat, insertions, insertions_eq_nil hops hle, hnone, Option.toList_none,
          List.append_nil, List.append_nil]
        exact holds_created properties

/-- An operation that comes after others is the misuse that it is of the nodes that they create.
So misuse can be read off a sequence without building its draft. -/
theorem misuse_after_iff : Misuse (after ops).nodes op defect ↔ Misuse (created ops) op defect := by
  have hlength := length_nodes_after ops
  have hclass : ∀ id,
      (kindAt (after ops).nodes id).isClass = (kindAt (created ops) id).isClass := by
    intro id
    obtain ⟨f, hf, -⟩ := kindAt_after ops id
    rw [hf, isClass_mapProperties]
  exact ⟨fun h => h.congr hlength hclass, fun h => h.congr hlength.symm fun id => (hclass id).symm⟩

/-- A draft has recorded the first misuse of the operations, and none if there is none. Both are
shown in one induction, since the first part is what makes room for the second. -/
theorem misuse_after (ops : List Op) :
    ((after ops).misuse = none ↔ Faultless ops) ∧
      ∀ defect, (after ops).misuse = some defect ↔ FirstMisuse ops defect := by
  induction ops using List.reverseRecOn with
  | nil =>
    refine ⟨iff_of_true rfl ?_, fun defect => iff_of_false (by rintro ⟨⟩) ?_⟩
    · intro before op rest h
      simp at h
    · rintro ⟨before, op, rest, h, -⟩
      simp at h
  | append_singleton ops op ih =>
    have hsome : ∀ defect, (after (ops ++ [op])).misuse = some defect ↔
        FirstMisuse ops defect ∨ Faultless ops ∧ Misuse (created ops) op defect := by
      intro defect
      -- What is recorded at the last operation depends on the nodes that the others have built.
      rw [after_concat, misuse_apply_eq_some_iff, ih.1, ih.2, misuse_after_iff]
    refine ⟨?_, fun defect => (hsome defect).trans firstMisuse_concat_iff.symm⟩
    -- Nothing is recorded if no defect is, and of each defect the step says when it is.
    rw [Option.eq_none_iff_forall_ne_some, faultless_concat_iff]
    simp only [ne_eq, hsome, not_or, not_and]
    constructor
    · intro h
      have hops : Faultless ops := by
        rw [← ih.1, Option.eq_none_iff_forall_ne_some]
        intro defect hdefect
        exact (h defect).1 ((ih.2 defect).1 hdefect)
      exact ⟨hops, fun defect => (h defect).2 hops⟩
    · rintro ⟨hops, hop⟩ defect
      refine ⟨?_, fun _ => hop defect⟩
      rw [← ih.2, ih.1.2 hops]
      rintro ⟨⟩

/-- The entry points are those of the operations, in their order. Whether one is repeated, or is
of a type that is not there, is found out at the end. -/
theorem topLevels_after (ops : List Op) : (after ops).topLevels = ops.filterMap Op.topLevel? := by
  induction ops using List.reverseRecOn with
  | nil => rfl
  | append_singleton ops op ih =>
    rw [after_concat, List.filterMap_append, ← ih]
    -- Most operations leave entry points alone as they stand. The others may be a misuse, which
    -- is recorded, so both branches are looked at.
    cases op with
    | topLevel name type => rfl
    | addEnum name cases =>
      simp only [Op.apply, addEnum, addNode, Prod.map_snd, id_eq]
      split <;> simp [record, Op.topLevel?]
    | property | describeProperty =>
      simp only [Op.apply, property, describeProperty, modifyProperties]
      split <;> simp [modifyNode, record, Op.topLevel?]
    | _ => exact (List.append_nil _).symm

/-- A node that is there keeps its shape, or stays a class, whatever comes later. So an answer of
the draft goes on referring to the same kind of type. -/
theorem kindAt_after_append (later : List Op) (hid : id < (created ops).length) :
    kindAt (after (ops ++ later)).nodes id = kindAt (after ops).nodes id ∨
      (kindAt (after (ops ++ later)).nodes id).isClass ∧
        (kindAt (after ops).nodes id).isClass := by
  -- Both shapes have come of the one that the node was created with.
  obtain ⟨f, hf, -⟩ := kindAt_after ops id
  obtain ⟨g, hg, -⟩ := kindAt_after (ops ++ later) id
  have hcreated : kindAt (created (ops ++ later)) id = kindAt (created ops) id := by
    unfold created at hid ⊢
    rw [List.filterMap_append, kindAt_append_of_lt hid]
  rw [hf, hg, hcreated]
  by_cases hclass : (kindAt (created ops) id).isClass
  · rw [isClass_mapProperties, isClass_mapProperties]
    exact .inr ⟨hclass, hclass⟩
  · rw [mapProperties_of_not_isClass hclass, mapProperties_of_not_isClass hclass]
    exact .inl rfl

/-- What any sequence of operations on an empty draft comes to.

The operations that create nodes answer 0, 1, 2 and so on, and a node that is there keeps its shape,
or stays a class, whatever operations come later. If there is a misuse among the operations, then
the first one is the outcome of this sequence and of every continuation. Otherwise the outcome is
what validation says of the nodes and the entry points. There are as many nodes as were created, of
the shapes that they were created with, except that every class holds the properties that were put
into it: those that it was created with, and then those of the operations. -/
theorem outcome_of_operations (ops : List Op) :
    answers {} ops = List.range (created ops).length ∧
    (∀ later, ∀ id < (created ops).length,
      kindAt (after (ops ++ later)).nodes id = kindAt (after ops).nodes id ∨
        (kindAt (after (ops ++ later)).nodes id).isClass ∧
          (kindAt (after ops).nodes id).isClass) ∧
    ((∃ defect, FirstMisuse ops defect) ∨ Faultless ops) ∧
    (∀ defect, FirstMisuse ops defect → ∀ later, (after (ops ++ later)).finish = .error defect) ∧
    (Faultless ops →
      (∀ defect, (after ops).finish = .error defect ↔
        validate (after ops).nodes (after ops).topLevels = .error defect) ∧
      (∀ graph, (after ops).finish = .ok graph ↔
        graph.nodes = (after ops).nodes ∧ graph.topLevels = (after ops).topLevels) ∧
      (after ops).topLevels = ops.filterMap Op.topLevel? ∧
      (after ops).nodes.length = (created ops).length ∧
      ∀ id, (¬ (kindAt (created ops) id).isClass →
          kindAt (after ops).nodes id = kindAt (created ops) id) ∧
        ∀ properties, kindAt (created ops) id = .object properties →
          ∃ held, kindAt (after ops).nodes id = .object held ∧
            Holds held (insertions ops id properties)) := by
  refine ⟨?_, fun later id hid => kindAt_after_append later hid, ?_, ?_, ?_⟩
  · rw [answers_eq_range', List.range_eq_range']
    rfl
  · cases h : (after ops).misuse with
    | none => exact .inr ((misuse_after ops).1.1 h)
    | some defect => exact .inl ⟨defect, ((misuse_after ops).2 defect).1 h⟩
  · intro defect hmisuse later
    rw [finish, ((misuse_after _).2 defect).2 (hmisuse.append later)]
  · intro hfaultless
    -- Nothing has been recorded, so the nodes are checked as they are.
    have hfinish : (after ops).finish =
        TypeGraph.ofParts (after ops).nodes (after ops).topLevels := by
      rw [finish, (misuse_after ops).1.2 hfaultless]
    rw [hfinish]
    refine ⟨fun _ => TypeGraph.ofParts_eq_error_iff, fun _ => TypeGraph.ofParts_eq_ok_iff,
      topLevels_after ops, length_nodes_after ops, fun id => ?_⟩
    -- The shape of a node is the created one with its properties changed; what is no class has
    -- none.
    obtain ⟨f, hf, hholds⟩ := kindAt_after ops id
    refine ⟨fun hclass => ?_, fun properties hproperties => ?_⟩
    · rw [hf, mapProperties_of_not_isClass hclass]
    · rw [hf, hproperties]
      exact ⟨f properties, rfl, hholds properties hproperties hfaultless⟩

/-- A property that is put into a class twice stands once, as it was put last; and where a text is
taken for a class first, that is the outcome, whatever comes later. The second sequence has
another misuse in it, which is never reported. -/
theorem outcome_of_repeated_property :
    (∃ held, kindAt (after [.addClass "Tree", .add (.array 0), .property 0 "children" 1 false,
        .property 0 "children" 1 true]).nodes 0 = .object held ∧ held.names = ["children"] ∧
        ∀ property, ("children", property) ∈ held.entries → property.optional = true) ∧
    ∀ later, (after ([.add (.primitive .string), .property 0 "length" 0 false,
        .addEnum "Mode" ["on", "on"]] ++ later)).finish = .error (.notAClass 0) := by
  refine ⟨?_, ?_⟩
  · obtain ⟨-, -, -, -, houtcome⟩ := outcome_of_operations [.addClass "Tree", .add (.array 0),
      .property 0 "children" 1 false, .property 0 "children" 1 true]
    obtain ⟨-, -, -, -, hbuilt⟩ := houtcome ((misuse_after _).1.1 rfl)
    obtain ⟨held, hheld, hholds⟩ := (hbuilt 0).2 {} rfl
    refine ⟨held, hheld, hholds.names.trans (by decide), ?_⟩
    intro property hmem
    obtain ⟨before, rest, hsplit, hlast⟩ := hholds.last "children" property hmem
    have hinsertions : [("children", 1, false), ("children", 1, true)] =
        before ++ ("children", property.type, property.optional) :: rest := hsplit
    -- What was put last is the second insertion, so one stands before it.
    match before with
    | [] =>
      obtain ⟨-, rfl⟩ := List.cons.inj hinsertions
      exact absurd (by simp) hlast
    | [first] => simp_all
    | first :: second :: before => simp at hinsertions
  · obtain ⟨-, -, -, hmisuse, -⟩ := outcome_of_operations [.add (.primitive .string),
      .property 0 "length" 0 false, .addEnum "Mode" ["on", "on"]]
    exact hmisuse (.notAClass 0) (((misuse_after _).2 _).1 rfl)

end StateTree.Graph.Draft
