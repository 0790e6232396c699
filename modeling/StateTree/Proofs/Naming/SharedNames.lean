import StateTree.Proofs.Naming.Requests

/-!
# `StateTree.Proofs.Naming.SharedNames`: which names a file has and what shares them

Names are requested under two families of keys. An entry point whose type takes part in naming makes
its request under the key of this type, so it shares the name with the type and with every other
entry point of it. Any other entry point makes a request under a key of its own. Which union has a
name depends on three things: whether an entry point is of this type, whether unions are declared,
and whether names are proposed for it.

- `fileKeys`, `TypeNames.mem_fileKeys_of_get?`: the keys that a file can have names for.
- `TypeNames.typeName?_isSome_iff`: which types have names.
- `TypeNames.topLevelName?_eq_topLevelName?_iff`: which entry points share a name.
- `TypeNames.Sharing`, `TypeNames.sharing_of_assign`: all that is known of the names of a file.
-/

set_option autoImplicit false

namespace StateTree.Naming

open StateTree.Graph
open StateTree.Text (AcronymStyle)

/-- The keys that a file can have names for: first those of entry points, then those of types. A
key can be in the list more than once, where several entry points are of one type. -/
def fileKeys (graph : TypeGraph) : List NameKey :=
  graph.topLevels.zipIdx.map (fun (top, i) => topLevelKey graph.nodes i top) ++
    graph.ids.map NameKey.type

/-- There is a request behind a key exactly if the key has a handle. Requests are what is known of
a file, handles are what is looked up. -/
theorem Registry.request?_isSome_iff {registry : Registry NameKey} {key : NameKey} :
    (registry.request? key).isSome ↔ (registry.get? key).isSome := by
  cases hget : registry.get? key with
  | none => simp [request?, hget]
  | some name =>
    obtain ⟨request, hrequest, -⟩ := exists_of_get? hget
    simp [request?, hget, hrequest]

namespace TypeNames

variable {graph : TypeGraph} {declareUnions : Bool} {acronyms : AcronymStyle} {names : TypeNames}

/-- The handles of a file, collected from all keys that it can have names for. There is one entry
for each key that was interned, so that two keys with one handle show up as two entries. -/
def collected (names : TypeNames) (graph : TypeGraph) : List (NameKey × NameId) :=
  (fileKeys graph).filterMap fun key => (names.registry.get? key).map fun name => (key, name)

/-- The name that something has of its own: a type, or an entry point whose type takes no part in
naming. All other entry points have the name of their type. -/
def ownName? (names : TypeNames) (graph : TypeGraph) : NameKey → Option NameId
  | .type id => names.typeName? id
  | .topLevel index => (graph.topLevels[index]?).bind fun top =>
    if (graph.kind top.type).isNamed then none else names.topLevelName? graph index

/-! ### Keys -/

/-- Only keys of the file have handles, those of entry points and those of types. With it
collecting the handles of all keys of the file misses none. -/
theorem mem_fileKeys_of_get? (h : assign graph declareUnions acronyms = .ok names) {key : NameKey}
    {name : NameId} (hkey : names.registry.get? key = some name) : key ∈ fileKeys graph := by
  have hrequest : (names.registry.request? key).isSome := by
    rw [Registry.request?_isSome_iff, hkey]
    rfl
  rw [request?_of_assign h, Option.isSome_or, Bool.or_eq_true] at hrequest
  rw [fileKeys, List.mem_append]
  rcases hrequest with hentry | htype
  · -- An entry point has made the request.
    rw [Registry.request?_isSome_iff, get?_internTopLevels_isSome_iff,
      Registry.get?_empty] at hentry
    obtain hnone | ⟨i, top, hi, rfl⟩ := hentry
    · cases hnone
    · rw [Nat.zero_add]
      exact .inl (List.mem_map.2 ⟨(top, i), List.mem_zipIdx_iff_getElem?.2 hi, rfl⟩)
  · -- The type has made the request for itself, so it is a node.
    cases key with
    | topLevel index => cases htype
    | type id =>
      obtain ⟨request, hproposed⟩ := Option.isSome_iff_exists.1 htype
      rw [proposedAt?, if_pos (Nat.zero_le id), Nat.sub_zero] at hproposed
      obtain ⟨node, hnode, -⟩ := Option.bind_eq_some_iff.1 hproposed
      have hlt : id < graph.size := (List.getElem?_eq_some_iff.1 hnode).1
      exact .inr (List.mem_map.2 ⟨id, List.mem_range.2 hlt, rfl⟩)

/-- Collecting the handles of all keys of the file misses none. -/
theorem mem_collected_iff (h : assign graph declareUnions acronyms = .ok names) {key : NameKey}
    {name : NameId} :
    (key, name) ∈ names.collected graph ↔ names.registry.get? key = some name := by
  rw [collected, List.mem_filterMap]
  constructor
  · rintro ⟨other, -, hother⟩
    obtain ⟨name', hname', heq⟩ := Option.map_eq_some_iff.1 hother
    obtain ⟨rfl, rfl⟩ := Prod.mk.inj heq
    exact hname'
  · intro hkey
    exact ⟨key, mem_fileKeys_of_get? h hkey, by rw [hkey]; rfl⟩

/-- An entry point whose type takes no part in naming has the handle of its own key, which no
other entry point and no type has. -/
theorem topLevelName?_of_not_isNamed {i : Nat} {top : TopLevel}
    (hi : graph.topLevels[i]? = some top) (hnamed : ¬ (graph.kind top.type).isNamed) :
    names.topLevelName? graph i = names.registry.get? (.topLevel i) := by
  have hkey : topLevelKey graph.nodes i top = .topLevel i := if_neg hnamed
  rw [topLevelName?, hi, Option.bind_some, hkey]

/-- What has a name of its own has the handle of its key. As keys do not share handles, it shares
the name with nothing else. -/
theorem get?_of_ownName? {key : NameKey} {name : NameId}
    (h : names.ownName? graph key = some name) : names.registry.get? key = some name := by
  cases key with
  | type id => exact h
  | topLevel index =>
    obtain ⟨top, hindex, hown⟩ := Option.bind_eq_some_iff.1 h
    split at hown
    · cases hown
    · rename_i hnamed
      rwa [topLevelName?_of_not_isNamed hindex hnamed] at hown

/-! ### Types -/

/-- The kinds that names are requested for. The setting for unions is about this request only: one
that is the type of an entry point has a name under either. -/
theorem kindRank?_isSome_iff {kind : Kind} : (kindRank? declareUnions kind).isSome ↔
    kind.isClass ∨ kind.isEnum ∨ kind.isUnion ∧ declareUnions = true := by
  cases kind <;> cases declareUnions <;> simp [kindRank?, Kind.isClass, Kind.isEnum, Kind.isUnion]

/-- Classes and enums have names, and so has a union that is the type of an entry point or, where
unions are declared, that names are proposed for. -/
theorem typeName?_isSome_iff (h : assign graph declareUnions acronyms = .ok names) {id : TypeId} :
    (names.typeName? id).isSome ↔ (graph.kind id).isClass ∨ (graph.kind id).isEnum ∨
      (graph.kind id).isUnion ∧ ((∃ top ∈ graph.topLevels, top.type = id) ∨
        declareUnions = true ∧ ∃ node, graph.node? id = some node ∧ node.names ≠ []) := by
  constructor
  · intro hsome
    obtain ⟨top, htop, htype, hnamed⟩ | ⟨node, hnode, hrank, hnames⟩ :=
      (exists_typeName_iff h).1 (Option.isSome_iff_exists.1 hsome)
    · simp only [Kind.isNamed, Bool.or_eq_true, or_assoc] at hnamed
      rcases hnamed with hclass | henum | hunion
      · exact .inl hclass
      · exact .inr (.inl henum)
      · exact .inr (.inr ⟨hunion, .inl ⟨top, htop, htype⟩⟩)
    · rw [kindRank?_isSome_iff, ← kind_of_node? hnode] at hrank
      rcases hrank with hclass | henum | ⟨hunion, hdeclare⟩
      · exact .inl hclass
      · exact .inr (.inl henum)
      · exact .inr (.inr ⟨hunion, .inr ⟨hdeclare, node, hnode, hnames⟩⟩)
  · intro hkind
    refine Option.isSome_iff_exists.2 ?_
    -- Classes and enums have been refused where they have no name; for unions the request is
    -- looked for.
    rcases hkind with hclass | henum |
      ⟨hunion, ⟨top, htop, htype⟩ | ⟨hdeclare, node, hnode, hnames⟩⟩
    · exact (covers_of_assign h).type id (.inl hclass)
    · exact (covers_of_assign h).type id (.inr henum)
    · exact (exists_typeName_iff h).2 (.inl ⟨top, htop, htype, by simp [Kind.isNamed, hunion]⟩)
    · rw [kind_of_node? hnode] at hunion
      exact (exists_typeName_iff h).2
        (.inr ⟨node, hnode, kindRank?_isSome_iff.2 (.inr (.inr ⟨hunion, hdeclare⟩)), hnames⟩)

/-! ### Entry points -/

/-- Every entry point has a name, and nothing else has one at a position of entry points. -/
theorem topLevelName?_isSome_iff (h : assign graph declareUnions acronyms = .ok names) {i : Nat} :
    (names.topLevelName? graph i).isSome ↔ i < graph.topLevels.length := by
  constructor
  · intro hsome
    obtain ⟨name, hname⟩ := Option.isSome_iff_exists.1 hsome
    obtain ⟨top, hi, -⟩ := Option.bind_eq_some_iff.1 hname
    exact (List.getElem?_eq_some_iff.1 hi).1
  · intro hlt
    have hi := List.getElem?_eq_getElem hlt
    exact Option.isSome_iff_exists.2 ((covers_of_assign h).entry i _ hi)

/-- Two entry points share a name if they have one type and this takes part in naming. Entry
points of a type that takes no part, such as a list, have two names also where the type is the
same. -/
theorem topLevelName?_eq_topLevelName?_iff (h : assign graph declareUnions acronyms = .ok names)
    {i j : Nat} {top top' : TopLevel} (hne : i ≠ j) (hi : graph.topLevels[i]? = some top)
    (hj : graph.topLevels[j]? = some top') :
    names.topLevelName? graph i = names.topLevelName? graph j ↔
      top.type = top'.type ∧ (graph.kind top.type).isNamed := by
  constructor
  · intro heq
    obtain ⟨name, hname⟩ := (covers_of_assign h).entry i top hi
    have hname' : names.topLevelName? graph j = some name := heq ▸ hname
    have htype := type_eq_of_topLevelName? hi hj hname hname'
    refine ⟨htype, ?_⟩
    -- Otherwise each of them has the name of its own position.
    by_contra hnamed
    rw [topLevelName?_of_not_isNamed hi hnamed] at hname
    rw [topLevelName?_of_not_isNamed hj (htype ▸ hnamed)] at hname'
    exact hne (NameKey.topLevel.inj (Registry.get?_injective hname hname'))
  · rintro ⟨htype, hnamed⟩
    rw [topLevelName?_eq_typeName? hi hnamed, topLevelName?_eq_typeName? hj (htype ▸ hnamed), htype]

/-! ### All names of a file -/

/-- Which names a file has, and what shares them. The fields are about look-ups by type, by entry
point and by key, and about the identifiers that the names lead to. -/
structure Sharing (graph : TypeGraph) (declareUnions : Bool) (names : TypeNames) : Prop where
  /-- Which types have names. -/
  type_iff : ∀ id, (names.typeName? id).isSome ↔
    (graph.kind id).isClass ∨ (graph.kind id).isEnum ∨
      (graph.kind id).isUnion ∧ ((∃ top ∈ graph.topLevels, top.type = id) ∨
        declareUnions = true ∧ ∃ node, graph.node? id = some node ∧ node.names ≠ [])
  /-- Entry points have names, and there are none past the last one. -/
  entry_iff : ∀ i, (names.topLevelName? graph i).isSome ↔ i < graph.topLevels.length
  /-- An entry point whose type takes part in naming has the name of the type. -/
  entry_eq : ∀ i top, graph.topLevels[i]? = some top → (graph.kind top.type).isNamed →
    names.topLevelName? graph i = names.typeName? top.type
  /-- Two entry points share a name exactly if they share such a type. -/
  entry_eq_iff : ∀ i j top top', i ≠ j → graph.topLevels[i]? = some top →
    graph.topLevels[j]? = some top' →
    (names.topLevelName? graph i = names.topLevelName? graph j ↔
      top.type = top'.type ∧ (graph.kind top.type).isNamed)
  /-- The names of types and those of entry points have identifiers. -/
  resolves : ∀ name, (∃ id, names.typeName? id = some name) ∨
    (∃ i, names.topLevelName? graph i = some name) →
    ∃ identifier, names.resolve name = .ok identifier
  /-- What has a name of its own shares the identifier with nothing else. -/
  distinct : ∀ key key' name name' identifier, names.ownName? graph key = some name →
    names.ownName? graph key' = some name' → names.resolve name = .ok identifier →
    names.resolve name' = .ok identifier → key = key'
  /-- Collecting the handles from all keys of the file gives each key the one that it has. -/
  collected_iff : ∀ key name,
    (key, name) ∈ names.collected graph ↔ names.registry.get? key = some name

/-- The names that are assigned are there for all that may have one, are shared by what is of one
type, and lead to distinct identifiers otherwise. -/
theorem sharing_of_assign (h : assign graph declareUnions acronyms = .ok names) :
    Sharing graph declareUnions names where
  type_iff _ := typeName?_isSome_iff h
  entry_iff _ := topLevelName?_isSome_iff h
  entry_eq _ _ hi hnamed := topLevelName?_eq_typeName? hi hnamed
  entry_eq_iff _ _ _ _ hne hi hj := topLevelName?_eq_topLevelName?_iff h hne hi hj
  resolves := by
    rintro name (⟨id, hname⟩ | ⟨i, hname⟩)
    · exact (covers_of_assign h).resolves (.type id) name hname
    · obtain ⟨top, -, hkey⟩ := Option.bind_eq_some_iff.1 hname
      exact (covers_of_assign h).resolves (topLevelKey graph.nodes i top) name hkey
  distinct := by
    intro key key' name name' identifier hkey hkey' hname hname'
    -- Two names that lead to one identifier are one name, and then one key.
    obtain rfl : name = name' := resolve_injective h hname hname'
    exact Registry.get?_injective (get?_of_ownName? hkey) (get?_of_ownName? hkey')
  collected_iff _ _ := mem_collected_iff h

/-- A class with two entry points, a list of it with two more, and two unions, of which one is the
type of an entry point and the other has a proposed name. -/
def roster : TypeGraph where
  nodes :=
    [{ kind := .primitive .string },
      { kind := .object ⟨[("nickname", { type := 0 })], by simp⟩, names := ["person"] },
      { kind := .array 1 }, { kind := .union [0, 1] },
      { kind := .union [1, 0], names := ["contact"] }]
  topLevels := [{ name := "Owner", type := 1 }, { name := "Guests", type := 2 },
    { name := "Tenant", type := 1 }, { name := "Staff", type := 2 }, { name := "Entry", type := 3 }]
  wellFormed := by decide +kernel

/-- In `roster` the entry points of the class share the name of the class, and those of the list
do not share one. Both unions have names where unions are declared: one of them as the type of an
entry point, the other because a name is proposed for it. -/
theorem sharing_roster :
    ∃ names, assign roster true .pascal = .ok names ∧ Sharing roster true names ∧
      names.topLevelName? roster 0 = names.topLevelName? roster 2 ∧
      names.topLevelName? roster 1 ≠ names.topLevelName? roster 3 ∧
      (names.typeName? 3).isSome ∧ (names.typeName? 4).isSome := by
  have hnames : ∀ id, ¬ Nameless roster id := not_nameless (by decide)
  obtain ⟨names, hassign, -⟩ := assign_eq_ok true .pascal hnames
  have hsharing : Sharing roster true names := sharing_of_assign hassign
  -- All of it is read off what holds of every graph, and no name is evaluated.
  refine ⟨names, hassign, hsharing, ?_, ?_, ?_, ?_⟩
  · exact (hsharing.entry_eq_iff 0 2 _ _ (by decide) rfl rfl).2 ⟨rfl, rfl⟩
  · intro heq
    have hnamed := ((hsharing.entry_eq_iff 1 3 _ _ (by decide) rfl rfl).1 heq).2
    cases hnamed
  · have hentry : ∃ top ∈ roster.topLevels, top.type = 3 :=
      ⟨{ name := "Entry", type := 3 }, by simp [roster], rfl⟩
    exact (hsharing.type_iff 3).2 (.inr (.inr ⟨rfl, .inl hentry⟩))
  · exact (hsharing.type_iff 4).2 (.inr (.inr ⟨rfl, .inr ⟨rfl, _, rfl, by simp⟩⟩))

end TypeNames

end StateTree.Naming
