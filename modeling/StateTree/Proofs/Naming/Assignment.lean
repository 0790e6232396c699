import StateTree.Naming.TypeNames
import StateTree.Proofs.Naming.Handles

/-!
# `StateTree.Proofs.Naming.Assignment`: which types get names

Names are assigned unless some class or enum has neither a proposed name nor an entry point. Where
they are, everything that a file refers to by name has one.

- `Nameless`: a class or an enum without a proposed name that is not the type of an entry point.
- `TypeNames.Covers`: every class, every enum and every entry point has a name, and every name an
  identifier.
- `TypeNames.assign_eq_error`, `TypeNames.assign_eq_ok`: the two outcomes.
- `TypeNames.typeName?_injective`: two types do not share a name.
-/

set_option autoImplicit false

namespace StateTree.Naming

open StateTree.Graph (Kind Node TopLevel TypeGraph TypeId kindAt)
open StateTree.Text (AcronymStyle)

/-- A class or an enum without a proposed name that is not the type of an entry point. This is the
one thing that names are refused for; unions and all other types can do without. -/
def Nameless (graph : TypeGraph) (id : TypeId) : Prop :=
  ∃ node, graph.node? id = some node ∧ (node.kind.isClass ∨ node.kind.isEnum) ∧ node.names = [] ∧
    ∀ top ∈ graph.topLevels, top.type ≠ id

/-- Where all classes and enums have proposed names, no type is nameless. It is how a graph is
shown to have names without a look at its entry points. -/
theorem not_nameless {graph : TypeGraph}
    (h : ∀ node ∈ graph.nodes, node.kind.isClass ∨ node.kind.isEnum → node.names ≠ [])
    (id : TypeId) : ¬ Nameless graph id := by
  rintro ⟨node, hnode, hkind, hempty, -⟩
  exact h node (List.mem_of_getElem? hnode) hkind hempty

/-! ### Entry points -/

variable {nodes : List Node} {registry : Registry NameKey}

/-- The key of an entry point is that of its type where the type takes part in naming. Then type
and entry point share one name; otherwise the entry point has a key of its own. -/
theorem topLevelKey_eq_type_iff {index : Nat} {top : TopLevel} {id : TypeId} :
    topLevelKey nodes index top = .type id ↔ top.type = id ∧ (kindAt nodes id).isNamed := by
  unfold topLevelKey
  split
  · rename_i hnamed
    constructor
    · rintro ⟨⟩
      exact ⟨rfl, hnamed⟩
    · rintro ⟨rfl, -⟩
      rfl
  · rename_i hnamed
    simp only [reduceCtorEq, false_iff]
    rintro ⟨rfl, h⟩
    exact hnamed h

/-- Requests for entry points leave handles as they are, one by one. -/
theorem get?_internTopLevels_of_some {topLevels : List TopLevel} {index : Nat} {key : NameKey}
    {id : NameId} (h : registry.get? key = some id) :
    (internTopLevels nodes registry index topLevels).get? key = some id := by
  induction topLevels generalizing registry index with
  | nil => exact h
  | cons top rest ih => exact ih (Registry.get?_intern_of_some h _ _)

/-- Every entry point has a handle. The position is counted on from `index`, so that the induction
can go along the list. -/
theorem get?_internTopLevels (nodes : List Node) (registry : Registry NameKey) (index : Nat)
    {topLevels : List TopLevel} {i : Nat} {top : TopLevel} (h : topLevels[i]? = some top) :
    ((internTopLevels nodes registry index topLevels).get?
      (topLevelKey nodes (index + i) top)).isSome := by
  induction topLevels generalizing registry index i with
  | nil => simp at h
  | cons first rest ih =>
    cases i with
    -- The first entry point has its handle at once, and keeps it.
    | zero =>
      obtain rfl : first = top := by simpa using h
      have hself := Registry.get?_intern_self registry (topLevelKey nodes index first)
        [first.name] topLevelRank
      obtain ⟨id, hid⟩ := Option.isSome_iff_exists.1 hself
      rw [internTopLevels]
      exact Option.isSome_iff_exists.2 ⟨id, get?_internTopLevels_of_some hid⟩
    | succ i =>
      rw [show index + (i + 1) = index + 1 + i by omega]
      exact ih _ _ (by simpa using h)

/-- Requests for entry points give a handle to a type only if an entry point has this type. So
a class that no entry point is of has to have a proposed name. -/
theorem get?_internTopLevels_type {topLevels : List TopLevel} {index : Nat} {id : TypeId}
    (h : ∀ top ∈ topLevels, top.type ≠ id) :
    (internTopLevels nodes registry index topLevels).get? (.type id) =
      registry.get? (.type id) := by
  induction topLevels generalizing registry index with
  | nil => rfl
  | cons top rest ih =>
    have hne : NameKey.type id ≠ topLevelKey nodes index top := fun heq =>
      h top (by simp) (topLevelKey_eq_type_iff.1 heq.symm).1
    exact (ih fun top htop => h top (by simp [htop])).trans (Registry.get?_intern_of_ne hne _ _)

/-! ### Types -/

/-- A class or an enum that has neither a proposed name nor a handle. It depends on what has been
requested so far; with the requests for all entry points it says the same as `Nameless`, by
`TypeNames.lacks_iff`. -/
def Lacks (registry : Registry NameKey) (id : TypeId) (node : Node) : Prop :=
  (node.kind.isClass ∨ node.kind.isEnum) ∧ node.names = [] ∧ registry.get? (.type id) = none

variable (declareUnions : Bool) {id : Nat}

/-- The kinds that names are requested for, whatever the settings are. Unions are added by a
setting. -/
theorem kindRank?_isSome {kind : Kind} (h : kind.isClass ∨ kind.isEnum) :
    ∃ rank, kindRank? declareUnions kind = some rank := by
  cases kind <;> simp_all [Kind.isClass, Kind.isEnum, kindRank?]

/-- A class or an enum is no union. -/
theorem isUnion_eq_false {kind : Kind} (h : kind.isClass ∨ kind.isEnum) : kind.isUnion = false := by
  cases kind <;> simp_all [Kind.isClass, Kind.isEnum, Kind.isUnion]

/-- A type that lacks a name is refused, with its position and the name of its kind. -/
theorem internNode_eq_error {node : Node} (h : Lacks registry id node) :
    internNode declareUnions registry id node = .error (.unnamed id node.kind.name) := by
  obtain ⟨hkind, hnames, hget⟩ := h
  obtain ⟨rank, hrank⟩ := kindRank?_isSome declareUnions hkind
  simp [internNode, hrank, hnames, hget, isUnion_eq_false hkind]

/-- Any other type is accepted. Handles stay, no other type gets one, and a class or an enum has
one afterwards. The three together are what the induction over all types needs. -/
theorem internNode_eq_ok {node : Node} (h : ¬ Lacks registry id node) :
    ∃ registry', internNode declareUnions registry id node = .ok registry' ∧
      (∀ key name, registry.get? key = some name → registry'.get? key = some name) ∧
      (∀ key, key ≠ .type id → registry'.get? key = registry.get? key) ∧
      (node.kind.isClass ∨ node.kind.isEnum → (registry'.get? (.type id)).isSome) := by
  unfold internNode
  split
  · -- No name is requested for a type of this kind.
    rename_i hrank
    refine ⟨registry, rfl, fun _ _ hkey => hkey, fun _ _ => rfl, fun hkind => ?_⟩
    obtain ⟨rank, hsome⟩ := kindRank?_isSome declareUnions hkind
    simp [hrank] at hsome
  · split
    · -- An entry point has given the type its handle.
      rename_i hget
      exact ⟨registry, rfl, fun _ _ hkey => hkey, fun _ _ => rfl, fun _ => hget⟩
    · rename_i hget
      split
      · rename_i hnames
        -- The type has no proposals, so it is no class and no enum.
        have hkind : ¬ (node.kind.isClass ∨ node.kind.isEnum) := fun hkind =>
          h ⟨hkind, hnames, by simpa using hget⟩
        have hunion : node.kind.isUnion := by
          rename_i rank hrank _
          cases hk : node.kind <;> simp_all [Kind.isClass, Kind.isEnum, Kind.isUnion, kindRank?]
        refine ⟨registry, by simp [hunion], fun _ _ hkey => hkey, fun _ _ => rfl, ?_⟩
        exact fun hk => absurd hk hkind
      · exact ⟨_, rfl, fun _ _ hkey => Registry.get?_intern_of_some hkey _ _,
          fun _ hne => Registry.get?_intern_of_ne hne _ _,
          fun _ => Registry.get?_intern_self _ _ _ _⟩

/-- Types at two positions have two keys, so the requests for one do not touch the other. -/
theorem type_ne_type {i j : Nat} (h : i ≠ j) : NameKey.type i ≠ .type j :=
  fun heq => h (NameKey.type.inj heq)

/-- The first type that lacks a name is refused. That those before it do not lack one is asked of
the registry as it is at the start, since what they request does not change what the later ones
lack. -/
theorem internNodes_eq_error {i : Nat} {node : Node} (hi : nodes[i]? = some node)
    (hlacks : Lacks registry (id + i) node)
    (hfirst : ∀ j < i, ∀ other, nodes[j]? = some other → ¬ Lacks registry (id + j) other) :
    internNodes declareUnions registry id nodes =
      .error (.unnamed (id + i) node.kind.name) := by
  induction nodes generalizing registry id i with
  | nil => simp at hi
  | cons first rest ih =>
    rw [internNodes]
    cases i with
    | zero =>
      obtain rfl : first = node := by simpa using hi
      rw [internNode_eq_error declareUnions (by simpa using hlacks)]
      rfl
    | succ i =>
      obtain ⟨registry', hok, -, hkeep, -⟩ :=
        internNode_eq_ok declareUnions (hfirst 0 (by omega) first rfl)
      -- What the first type requests makes no difference to the others.
      have hlater : ∀ j other, Lacks registry' (id + 1 + j) other ↔
          Lacks registry (id + (j + 1)) other := by
        intro j other
        rw [show id + (j + 1) = id + 1 + j by omega, Lacks, Lacks, hkeep]
        exact type_ne_type (by omega)
      rw [Nat.add_zero] at hok
      rw [hok, show id + (i + 1) = id + 1 + i by omega]
      exact ih (by simpa using hi) ((hlater i node).2 hlacks) fun j hj other hother =>
        mt (hlater j other).1 (hfirst (j + 1) (by omega) other (by simpa using hother))

/-- If no type lacks a name, all are accepted. Handles stay, and every class and every enum has
one afterwards. -/
theorem internNodes_eq_ok
    (h : ∀ i node, nodes[i]? = some node → ¬ Lacks registry (id + i) node) :
    ∃ registry', internNodes declareUnions registry id nodes = .ok registry' ∧
      (∀ key name, registry.get? key = some name → registry'.get? key = some name) ∧
      ∀ i node, nodes[i]? = some node → node.kind.isClass ∨ node.kind.isEnum →
        (registry'.get? (.type (id + i))).isSome := by
  induction nodes generalizing registry id with
  | nil => exact ⟨registry, rfl, fun _ _ hkey => hkey, by simp⟩
  | cons first rest ih =>
    obtain ⟨registry₁, hok, hstay, hkeep, hnamed⟩ :=
      internNode_eq_ok declareUnions (h 0 first rfl)
    rw [Nat.add_zero] at hok hnamed
    -- The condition is carried over to the registry with the requests of the first type.
    have hlater : ∀ i node, rest[i]? = some node → ¬ Lacks registry₁ (id + 1 + i) node := by
      intro i node hi hlacks
      refine h (i + 1) node (by simpa using hi) ⟨hlacks.1, hlacks.2.1, ?_⟩
      rw [← hlacks.2.2, show id + (i + 1) = id + 1 + i by omega]
      exact (hkeep _ (type_ne_type (by omega))).symm
    obtain ⟨registry₂, hok₂, hstay₂, hnamed₂⟩ := ih hlater
    refine ⟨registry₂, ?_, fun key name hkey => hstay₂ key name (hstay key name hkey), ?_⟩
    · rw [internNodes, hok]
      exact hok₂
    · intro i node hi hkind
      cases i with
      | zero =>
        obtain rfl : first = node := by simpa using hi
        obtain ⟨name, hname⟩ := Option.isSome_iff_exists.1 (hnamed hkind)
        exact Option.isSome_iff_exists.2 ⟨name, hstay₂ _ _ hname⟩
      | succ i =>
        rw [show id + (i + 1) = id + 1 + i by omega]
        exact hnamed₂ i node (by simpa using hi) hkind

/-! ### All names of a file -/

namespace TypeNames

/-- Two types do not share a name. It is about handles; that two handles do not share an
identifier is part of how names are assigned. -/
theorem typeName?_injective {names : TypeNames} {id id' : TypeId} {name : NameId}
    (h : names.typeName? id = some name) (h' : names.typeName? id' = some name) : id = id' := by
  simpa using Registry.get?_injective h h'

/-- Names for all that a file of the graph refers to by name. From this on no part of a generator
can fail for a missing name. -/
structure Covers (names : TypeNames) (graph : TypeGraph) : Prop where
  type : ∀ id, (graph.kind id).isClass ∨ (graph.kind id).isEnum →
    ∃ name, names.typeName? id = some name
  entry : ∀ index top, graph.topLevels[index]? = some top →
    ∃ name, names.topLevelName? graph index = some name
  resolves : ∀ key name, names.registry.get? key = some name →
    ∃ identifier, names.resolve name = .ok identifier

/-- The identifier of a name, with and without the error. Expressions are rendered with the one,
files are made with the other. -/
theorem resolve?_eq_some_iff {names : TypeNames} {id : NameId} {identifier : String} :
    names.names.resolve? id = some identifier ↔ names.resolve id = .ok identifier := by
  rw [resolve]
  cases names.names.resolve? id <;> simp

variable {graph : TypeGraph}

/-- The requests of entry points, with which assignment begins. -/
abbrev entryRequests (graph : TypeGraph) : Registry NameKey :=
  internTopLevels graph.nodes {} 0 graph.topLevels

/-- The shape of a node is found at its position. -/
theorem kind_of_node? {node : Node} (h : graph.node? id = some node) :
    graph.kind id = node.kind := by
  rw [TypeGraph.node?] at h
  simp [TypeGraph.kind, kindAt, h]

/-- Next to the entry points, the types that lack a name are the nameless ones. It ties what
assignment looks at, which is a registry, to a condition on the graph alone. -/
theorem lacks_iff {node : Node} (h : graph.node? id = some node) :
    Lacks (entryRequests graph) id node ↔ Nameless graph id := by
  constructor
  · rintro ⟨hkind, hnames, hget⟩
    refine ⟨node, h, hkind, hnames, fun top htop heq => ?_⟩
    -- An entry point of this type would have given it a handle.
    obtain ⟨i, hi⟩ := List.mem_iff_getElem?.1 htop
    have hnamed : (kindAt graph.nodes id).isNamed := by
      have hk : (kindAt graph.nodes id).isClass ∨ (kindAt graph.nodes id).isEnum := by
        rw [show kindAt graph.nodes id = node.kind from kind_of_node? h]
        exact hkind
      rcases hk with hk | hk <;> simp [Kind.isNamed, hk]
    have hsome := get?_internTopLevels graph.nodes {} 0 hi
    rw [topLevelKey_eq_type_iff.2 ⟨heq, hnamed⟩, hget] at hsome
    simp at hsome
  · rintro ⟨node', h', hkind, hnames, htop⟩
    obtain rfl : node = node' := by simpa [h] using h'
    exact ⟨hkind, hnames, by rw [get?_internTopLevels_type htop, Registry.get?_empty]⟩

/-- The first nameless type is refused. By position first, since the types are gone through in
order after all entry points. -/
theorem assign_eq_error (acronyms : AcronymStyle) (h : Nameless graph id)
    (hfirst : ∀ j < id, ¬ Nameless graph j) :
    assign graph declareUnions acronyms = .error (.unnamed id (graph.kind id).name) := by
  have ⟨node, hnode, _⟩ := h
  -- The requests of entry points are made before those of types. Next to these, a type lacks a
  -- name exactly if it is nameless in the graph.
  have hlacks : Lacks (entryRequests graph) (0 + id) node := by
    rw [Nat.zero_add]
    exact (lacks_iff hnode).2 h
  have hearlier : ∀ j < id, ∀ other, graph.nodes[j]? = some other →
      ¬ Lacks (entryRequests graph) (0 + j) other := by
    intro j hj other hother
    rw [Nat.zero_add, lacks_iff hother]
    exact hfirst j hj
  have herror := internNodes_eq_error declareUnions hnode hlacks hearlier
  rw [Nat.zero_add] at herror
  rw [assign, herror, kind_of_node? hnode]
  rfl

/-- Without nameless types names are assigned, and there is one for all that a file refers to.
With `assign_eq_error` this decides of every graph what assignment comes to. -/
theorem assign_eq_ok (acronyms : AcronymStyle) (h : ∀ id, ¬ Nameless graph id) :
    ∃ names, assign graph declareUnions acronyms = .ok names ∧ names.Covers graph := by
  have hlacks : ∀ i node, graph.nodes[i]? = some node →
      ¬ Lacks (entryRequests graph) (0 + i) node := by
    intro i node hi
    rw [Nat.zero_add, lacks_iff hi]
    exact h i
  obtain ⟨registry, hok, hstay, hnamed⟩ := internNodes_eq_ok declareUnions hlacks
  refine ⟨⟨registry, registry.assign .typeName acronyms⟩, by rw [assign, hok]; rfl, ?_⟩
  refine ⟨fun id hkind => ?_, fun index top hindex => ?_, fun key name hkey => ?_⟩
  · -- A class or an enum is a node, since past the end the shape is another one.
    have hlt : id < graph.nodes.length :=
      Graph.lt_length_of_kindAt (fun kind => kind.isClass ∨ kind.isEnum) (by decide) hkind
    have hnode := List.getElem?_eq_getElem hlt
    rw [kind_of_node? hnode] at hkind
    simpa [typeName?, Option.isSome_iff_exists] using hnamed id _ hnode hkind
  · have hentry := get?_internTopLevels graph.nodes {} 0 hindex
    obtain ⟨name, hname⟩ := Option.isSome_iff_exists.1 hentry
    rw [Nat.zero_add] at hname
    exact ⟨name, by simpa [topLevelName?, hindex] using hstay _ _ hname⟩
  · obtain ⟨identifier, hidentifier⟩ := Registry.resolve?_assign hkey .typeName acronyms
    exact ⟨identifier, resolve?_eq_some_iff.1 hidentifier⟩

/-- Where names are assigned no type is nameless, since the first one would have been refused. -/
theorem not_nameless_of_assign {declareUnions : Bool} {acronyms : AcronymStyle} {names : TypeNames}
    (h : assign graph declareUnions acronyms = .ok names) (id : TypeId) : ¬ Nameless graph id := by
  -- That no earlier type is nameless makes this one the first.
  induction id using Nat.strongRecOn with
  | ind id ih =>
    intro hnameless
    rw [assign_eq_error declareUnions acronyms hnameless ih] at h
    simp at h

/-- Assigned names are there for all that a file refers to. Everything after the assignment of
names is shown from this. -/
theorem covers_of_assign {declareUnions : Bool} {acronyms : AcronymStyle} {names : TypeNames}
    (h : assign graph declareUnions acronyms = .ok names) : names.Covers graph := by
  obtain ⟨names', hok, hcovers⟩ :=
    assign_eq_ok declareUnions acronyms (not_nameless_of_assign h)
  obtain rfl : names' = names := by simpa [hok] using h
  exact hcovers

end TypeNames

end StateTree.Naming
