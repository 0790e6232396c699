import StateTree.Graph.Interchange
import StateTree.Proofs.Fallible
import StateTree.Proofs.Keyed

/-!
# `StateTree.Proofs.Graph.Entries`: the nodes that interchange entries describe

What an entry describes is said here without the order in which its fields are looked at.

- `Describes`, `DescribesNode`: an entry and its shape, an entry and its node.
- `Entry.Lacks`, `Entry.Repeats`: a required field that is missing, a case that comes twice.
- `EntryDefect`, `FirstDefect`: the complaint about an entry, and the one about a list of entries.
- `describes_or_entryDefect`: an entry has a shape, or there is something to complain of.
- `shape_eq_ok_iff`, `shape_eq_error_iff`: decoding finds the one, or the other.
- `nodesFrom_eq_ok_iff`, `nodesFrom_eq_error_iff`: the same of a list of entries.
- `exists_describesNode_iff`: an entry describes a node exactly if there is nothing to complain of.
-/

set_option autoImplicit false

namespace StateTree.Graph.Interchange

open StateTree.Fallible

/-! ### What entries describe -/

/-- `Describes entry kind`: the entry is of that kind and has the parts of it in its fields. Of
a class, the properties may be missing if there are none. -/
inductive Describes (entry : Entry) : Kind → Prop
  | plain {type : Primitive} (h : entry.kind = .plain type) : Describes entry (.primitive type)
  | array {items : TypeId} (h : entry.kind = .array) (hitems : entry.items = some items) :
    Describes entry (.array items)
  | map {values : TypeId} (h : entry.kind = .map) (hvalues : entry.values = some values) :
    Describes entry (.map values)
  | object (h : entry.kind = .object) : Describes entry (.object (entry.properties.getD {}))
  | enumeration {cases : Distinct} (h : entry.kind = .enumeration)
    (hcases : entry.cases = some cases.items) : Describes entry (.enumeration cases)
  | union {members : List TypeId} (h : entry.kind = .union)
    (hmembers : entry.members = some members) : Describes entry (.union members)
  | formatted {format : StringFormat} (h : entry.kind = .formatted)
    (hformat : entry.format = some format) : Describes entry (.primitive (.formatted format))

/-- `DescribesNode entry node`: the entry describes the shape of the node, and says the same as the
node about its names and its description. -/
structure DescribesNode (entry : Entry) (node : Node) : Prop where
  kind : Describes entry node.kind
  names : entry.names = node.names
  inferred : entry.inferredName = node.inferred
  description : entry.description = node.description

namespace Entry

/-- `entry.Lacks field`: the kind of the entry requires the field, and the entry is without it.
The other kinds require none. -/
inductive Lacks (entry : Entry) : String → Prop
  | items (h : entry.kind = .array) (hnone : entry.items = none) : Lacks entry "items"
  | values (h : entry.kind = .map) (hnone : entry.values = none) : Lacks entry "values"
  | cases (h : entry.kind = .enumeration) (hnone : entry.cases = none) : Lacks entry "cases"
  | members (h : entry.kind = .union) (hnone : entry.members = none) : Lacks entry "members"
  | format (h : entry.kind = .formatted) (hnone : entry.format = none) : Lacks entry "format"

/-- `entry.Repeats value`: the entry is an enum, and `value` is the first of its cases that came
before. -/
def Repeats (entry : Entry) (value : String) : Prop :=
  entry.kind = .enumeration ∧
    ∃ before after, entry.cases = some (before ++ value :: after) ∧ before.Nodup ∧ value ∈ before

end Entry

/-- The complaint about an entry at a position. There is at most one: the kind of the entry
requires one field, and a field that is missing has no cases that are repeated. -/
inductive EntryDefect (entry : Entry) (id : TypeId) : Defect → Prop
  | missing {field : String} (h : entry.Lacks field) :
    EntryDefect entry id (.missingField id entry.kind.text field)
  | repeated {value : String} (h : entry.Repeats value) :
    EntryDefect entry id (.duplicateCase id value)

/-- The complaint about the first entry, of those from position `id` up, that is not complete. The
entries after it are not asked about, whatever is wrong with them. -/
def FirstDefect (id : TypeId) (entries : List Entry) (defect : Defect) : Prop :=
  ∃ before entry after, entries = before ++ entry :: after ∧
    (∀ earlier ∈ before, (∀ field, ¬ earlier.Lacks field) ∧ ∀ value, ¬ earlier.Repeats value) ∧
    EntryDefect entry (id + before.length) defect

/-! ### One entry -/

variable {entry : Entry} {id : TypeId} {defect : Defect}

/-- What an entry describes is what decoding finds. The fields that its kind does not require are
not looked at. -/
theorem shape_of_describes {kind : Kind} (h : Describes entry kind) :
    entry.shape id = .ok kind := by
  cases h with
  | plain h => simp [Entry.shape, h]
  | array h hitems => simp [Entry.shape, Entry.need, h, hitems, Except.map]
  | map h hvalues => simp [Entry.shape, Entry.need, h, hvalues, Except.map]
  | object h => simp [Entry.shape, h]
  | @enumeration cases h hcases =>
    -- The cases of a shape are distinct, so the check passes and keeps them in their order.
    have hnone := firstRepeated?_eq_none_iff.2 cases.nodup
    have hcopy := Distinct.eq_of_items_eq (Distinct.items_ofList cases.nodup)
    simp [Entry.shape, Entry.need, h, hcases, hnone, hcopy, bind, Except.bind]
  | union h hmembers => simp [Entry.shape, Entry.need, h, hmembers, Except.map]
  | formatted h hformat => simp [Entry.shape, Entry.need, h, hformat, Except.map]

/-- A complaint about an entry is what decoding reports, with its position and the field or the
case. -/
theorem shape_of_entryDefect (h : EntryDefect entry id defect) :
    entry.shape id = .error defect := by
  cases h with
  | missing hlacks =>
    -- The check for a field is the same for each of the five kinds that require one.
    cases hlacks <;> rename_i h hnone <;>
      simp [Entry.shape, Entry.need, h, hnone, Except.map, bind, Except.bind]
  | repeated hrepeats =>
    obtain ⟨h, before, after, hcases, hnodup, hvalue⟩ := hrepeats
    -- The first case that came before is what the search for repetitions finds.
    have hsome := firstRepeated?_eq_some_iff.2 ⟨before, after, rfl, hnodup, hvalue⟩
    simp [Entry.shape, Entry.need, h, hcases, hsome, bind, Except.bind]

/-- A required field is there or is complained of. This is the case of `describes_or_entryDefect`
for every kind that requires a field and checks nothing else. -/
theorem exists_or_entryDefect {α : Type} {field : String} {value : Option α}
    (hlacks : value = none → entry.Lacks field) {describe : α → Kind}
    (hdescribes : ∀ a, value = some a → Describes entry (describe a)) :
    (∃ kind, Describes entry kind) ∨ ∃ defect, EntryDefect entry id defect := by
  -- The five kinds with a required field differ in the field and in the shape that is made of it.
  cases value with
  | none => exact .inr ⟨_, .missing (hlacks rfl)⟩
  | some a => exact .inl ⟨_, hdescribes a rfl⟩

/-- There is a shape that an entry describes, or something to complain of. From it the two
directions that `shape_of_describes` and `shape_of_entryDefect` leave open follow: decoding does
one of two things, and each excludes the other. -/
theorem describes_or_entryDefect (entry : Entry) (id : TypeId) :
    (∃ kind, Describes entry kind) ∨ ∃ defect, EntryDefect entry id defect := by
  cases h : entry.kind with
  | plain type => exact .inl ⟨_, .plain h⟩
  | array => exact exists_or_entryDefect (.items h) fun _ => .array h
  | map => exact exists_or_entryDefect (.values h) fun _ => .map h
  | object => exact .inl ⟨_, .object h⟩
  -- The cases of an enum can be missing, and if they are there the same one can come twice.
  | enumeration =>
    cases hcases : entry.cases with
    | none => exact .inr ⟨_, .missing (.cases h hcases)⟩
    | some cases =>
      cases hrepeated : firstRepeated? cases with
      | none =>
        have hnodup := firstRepeated?_eq_none_iff.1 hrepeated
        exact .inl ⟨.enumeration ⟨cases, hnodup⟩, .enumeration h hcases⟩
      | some value =>
        obtain ⟨before, after, rfl, hnodup, hvalue⟩ := firstRepeated?_eq_some_iff.1 hrepeated
        exact .inr ⟨_, .repeated ⟨h, before, after, hcases, hnodup, hvalue⟩⟩
  | union => exact exists_or_entryDefect (.members h) fun _ => .union h
  | formatted => exact exists_or_entryDefect (.format h) fun _ => .formatted h

/-- Decoding finds a shape exactly if the entry describes it. The position does not matter for
this. -/
theorem shape_eq_ok_iff {kind : Kind} : entry.shape id = .ok kind ↔ Describes entry kind := by
  refine ⟨fun h => ?_, shape_of_describes⟩
  -- What it describes would be found as well, and a complaint would be reported.
  rcases describes_or_entryDefect entry id with ⟨kind', hkind⟩ | ⟨defect, hdefect⟩
  · obtain rfl : kind' = kind := by simpa [shape_of_describes hkind] using h
    exact hkind
  · simp [shape_of_entryDefect hdefect] at h

/-- Decoding reports exactly the complaint about the entry. In particular it has no other way to
fail. -/
theorem shape_eq_error_iff : entry.shape id = .error defect ↔ EntryDefect entry id defect := by
  refine ⟨fun h => ?_, shape_of_entryDefect⟩
  rcases describes_or_entryDefect entry id with ⟨kind, hkind⟩ | ⟨defect', hdefect⟩
  · simp [shape_of_describes hkind] at h
  · obtain rfl : defect' = defect := by simpa [shape_of_entryDefect hdefect] using h
    exact hdefect

/-- The node of an entry is the one that it describes: the shape, with names and description as
they stand in the entry. -/
theorem toNode_eq_ok_iff {node : Node} : entry.toNode id = .ok node ↔ DescribesNode entry node := by
  rw [Entry.toNode, map_eq_ok_iff]
  constructor
  · rintro ⟨kind, hkind, rfl⟩
    exact ⟨shape_eq_ok_iff.1 hkind, rfl, rfl, rfl⟩
  · intro h
    refine ⟨node.kind, shape_eq_ok_iff.2 h.kind, ?_⟩
    rw [h.names, h.inferred, h.description]

/-- An entry without a node is complained of. Names and descriptions are always in order, so the
complaint is one about the shape. -/
theorem toNode_eq_error_iff : entry.toNode id = .error defect ↔ EntryDefect entry id defect := by
  rw [Entry.toNode, map_eq_error_iff, shape_eq_error_iff]

/-- An entry describes a node exactly if it has the field that its kind requires and, as an enum,
repeats no case. Position 0 stands for any in the proof, since positions only come up in
complaints. -/
theorem exists_describesNode_iff :
    (∃ node, DescribesNode entry node) ↔
      (∀ field, ¬ entry.Lacks field) ∧ ∀ value, ¬ entry.Repeats value := by
  constructor
  · rintro ⟨node, hnode⟩
    -- Anything wrong with the entry would make decoding report it, but decoding finds the node.
    have hok : entry.toNode 0 = .ok node := toNode_eq_ok_iff.2 hnode
    refine ⟨fun field h => ?_, fun value h => ?_⟩
    · simp [toNode_eq_error_iff.2 (.missing h)] at hok
    · simp [toNode_eq_error_iff.2 (.repeated h)] at hok
  · rintro ⟨hlacks, hrepeats⟩
    cases htoNode : entry.toNode 0 with
    | ok node => exact ⟨node, toNode_eq_ok_iff.1 htoNode⟩
    | error defect =>
      cases toNode_eq_error_iff.1 htoNode with
      | missing h => exact absurd h (hlacks _)
      | repeated h => exact absurd h (hrepeats _)

/-! ### All entries -/

variable {entries : List Entry}

/-- The nodes of entries are the ones that they describe, whatever the positions. The list is as
long as that of the entries, so a type keeps its position as its number. -/
theorem nodesFrom_eq_ok_iff {nodes : List Node} :
    nodesFrom id entries = .ok nodes ↔ List.Forall₂ DescribesNode entries nodes := by
  induction entries generalizing id nodes with
  | nil => simp [nodesFrom, eq_comm]
  | cons entry rest ih =>
    -- One entry at a time. The position only goes into defects and does not matter here.
    rw [nodesFrom, bind_eq_ok_iff]
    constructor
    · rintro ⟨node, hnode, h⟩
      obtain ⟨nodes', hnodes, h⟩ := bind_eq_ok_iff.1 h
      obtain rfl : node :: nodes' = nodes := pure_eq_ok_iff.1 h
      exact .cons (toNode_eq_ok_iff.1 hnode) (ih.1 hnodes)
    · rintro ⟨⟩
      rename_i node nodes hnode hnodes
      exact ⟨node, toNode_eq_ok_iff.2 hnode, bind_eq_ok_iff.2 ⟨nodes, ih.2 hnodes, rfl⟩⟩

/-- Entries describe nodes exactly if each of them does. This is the condition under which `load`
gets as far as the check of the graph. -/
theorem exists_forall₂_describesNode_iff :
    (∃ nodes, List.Forall₂ DescribesNode entries nodes) ↔
      ∀ entry ∈ entries, (∀ field, ¬ entry.Lacks field) ∧ ∀ value, ¬ entry.Repeats value := by
  induction entries with
  | nil => simp
  | cons entry rest ih =>
    rw [List.forall_mem_cons, ← ih, ← exists_describesNode_iff]
    constructor
    · rintro ⟨_, ⟨⟩⟩
      rename_i node nodes hnode hnodes
      exact ⟨⟨node, hnode⟩, nodes, hnodes⟩
    · rintro ⟨⟨node, hnode⟩, nodes, hnodes⟩
      exact ⟨node :: nodes, .cons hnode hnodes⟩

/-- The complaint about entries is about the first of them, or if this one is complete, about
those after it. It is how `nodesFrom` goes through the entries. -/
theorem firstDefect_cons_iff :
    FirstDefect id (entry :: entries) defect ↔
      EntryDefect entry id defect ∨
        ((∀ field, ¬ entry.Lacks field) ∧ ∀ value, ¬ entry.Repeats value) ∧
          FirstDefect (id + 1) entries defect := by
  -- The position of an entry is counted from the front of the longer list here, and of the
  -- shorter one there.
  have hposition : ∀ n, id + (n + 1) = id + 1 + n := fun n => (Nat.add_right_comm id 1 n).symm
  constructor
  · rintro ⟨before, blamed, after, hsplit, hbefore, hblamed⟩
    cases before with
    | nil =>
      obtain ⟨rfl, rfl⟩ := List.cons.inj hsplit
      exact .inl hblamed
    | cons first before =>
      obtain ⟨rfl, rfl⟩ := List.cons.inj hsplit
      rw [List.forall_mem_cons] at hbefore
      rw [List.length_cons, hposition] at hblamed
      exact .inr ⟨hbefore.1, before, blamed, after, rfl, hbefore.2, hblamed⟩
  · rintro (h | ⟨hcomplete, before, blamed, after, rfl, hbefore, hblamed⟩)
    · exact ⟨[], entry, entries, rfl, by simp, h⟩
    · refine ⟨entry :: before, blamed, after, rfl, ?_, ?_⟩
      · rw [List.forall_mem_cons]
        exact ⟨hcomplete, hbefore⟩
      · rw [List.length_cons, hposition]
        exact hblamed

/-- The complaint about entries is the one about the first of them that is not complete. So
complaints about entries come before all those about the graph, and in the order of the entries.
-/
theorem nodesFrom_eq_error_iff :
    nodesFrom id entries = .error defect ↔ FirstDefect id entries defect := by
  induction entries generalizing id with
  | nil => simp [nodesFrom, FirstDefect]
  | cons entry rest ih =>
    rw [nodesFrom, bind_eq_error_iff, toNode_eq_error_iff, firstDefect_cons_iff, ← ih,
      ← exists_describesNode_iff]
    -- If the first entry is complete, the error is that of the others.
    refine or_congr_right ?_
    constructor
    · rintro ⟨node, hnode, h⟩
      obtain h | ⟨nodes, -, h⟩ := bind_eq_error_iff.1 h
      · exact ⟨⟨node, toNode_eq_ok_iff.1 hnode⟩, h⟩
      · -- Putting the nodes together does not fail.
        cases h
    · rintro ⟨⟨node, hnode⟩, h⟩
      exact ⟨node, toNode_eq_ok_iff.2 hnode, bind_eq_error_iff.2 (.inl h)⟩

end StateTree.Graph.Interchange
