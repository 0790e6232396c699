import StateTree.Proofs.Fallible
import StateTree.Proofs.Naming.Assignment
import StateTree.Proofs.Naming.Identifiers
import StateTree.Proofs.Naming.Resolution

/-!
# `StateTree.Proofs.Naming.Scope`: the names of one file

All names of a file are requested from one registry, first those of entry points, then those of
types. A request whose key is the type of an entry point shares its handle, and two requests share
one only if their keys are equal. So what two names are for can be told from the keys behind them,
and that their identifiers are distinct follows from how the registry gives them
(`Registry.assign_resolution`).

- `TypeNames.exists_typeName_iff`: which types have names.
- `TypeNames.type_eq_of_topLevelName?`: entry points with one name are of one type.
- `TypeNames.resolve_injective`, `TypeNames.notMem_reserved_of_resolve`: the identifiers of a file
  are distinct, and none is reserved.
- `TypeNames.exists_proposal_of_resolve`, `exists_proposal_of_mem_memberNames`: what identifiers are
  made from.
- `Convention.all_of_proposal`, `TypeNames.all_of_resolve`: which characters identifiers have.
-/

set_option autoImplicit false

namespace StateTree.Naming

open StateTree.Graph (Kind Node TopLevel TypeGraph TypeId kindAt)
open StateTree.Text (AcronymStyle CaseClosed isAlphanumeric)

/-! ### Which types have handles -/

variable {nodes : List Node} {registry registry' : Registry NameKey} {declareUnions : Bool}

/-- Requests for entry points give handles to the keys of these, and to no others. Positions are
counted on from `index`, for the induction. -/
theorem get?_internTopLevels_isSome_iff {topLevels : List TopLevel} {index : Nat} {key : NameKey} :
    ((internTopLevels nodes registry index topLevels).get? key).isSome ↔
      (registry.get? key).isSome ∨
        ∃ i top, topLevels[i]? = some top ∧ topLevelKey nodes (index + i) top = key := by
  induction topLevels generalizing registry index with
  | nil => simp [internTopLevels]
  | cons top rest ih =>
    have hfirst : ((registry.intern (topLevelKey nodes index top) [top.name]
        topLevelRank).2.get? key).isSome ↔
          (registry.get? key).isSome ∨ topLevelKey nodes index top = key := by
      by_cases hkey : topLevelKey nodes index top = key
      · subst hkey
        simp [Registry.get?_intern_self]
      · simp [Registry.get?_intern_of_ne (Ne.symm hkey), hkey]
    rw [internTopLevels, ih, hfirst, or_assoc]
    -- The entry points from `index` on are the first one and those from `index + 1` on.
    refine or_congr_right ⟨?_, ?_⟩
    · rintro (hkey | ⟨i, other, hi, hkey⟩)
      · exact ⟨0, top, rfl, hkey⟩
      · refine ⟨i + 1, other, hi, ?_⟩
        rw [← hkey, Nat.add_right_comm, Nat.add_assoc]
    · rintro ⟨i, other, hi, hkey⟩
      cases i with
      | zero =>
        obtain rfl : top = other := by simpa using hi
        exact .inl hkey
      | succ i =>
        refine .inr ⟨i, other, by simpa using hi, ?_⟩
        rw [← hkey, Nat.add_right_comm, Nat.add_assoc]

/-- A type gets a handle if its kind has a rank and it has proposals. Where an entry point has
made a request for it already it keeps that one. -/
theorem get?_internNode_isSome_iff {id k : Nat} {node : Node}
    (h : internNode declareUnions registry id node = .ok registry') :
    (registry'.get? (.type k)).isSome ↔ (registry.get? (.type k)).isSome ∨
      k = id ∧ (kindRank? declareUnions node.kind).isSome ∧ node.names ≠ [] := by
  unfold internNode at h
  split at h
  · rename_i hrank
    obtain rfl : registry = registry' := by simpa using h
    simp [hrank]
  · rename_i rank hrank
    split at h
    · -- An entry point has made the request.
      rename_i hget
      obtain rfl : registry = registry' := by simpa using h
      refine ⟨.inl, ?_⟩
      rintro (hk | ⟨rfl, -⟩)
      · exact hk
      · exact hget
    · split at h
      · rename_i hnames
        split at h
        · obtain rfl : registry = registry' := by simpa using h
          simp [hnames]
        · cases h
      · rename_i hnames
        obtain rfl : _ = registry' := by simpa using h
        have hne : node.names ≠ [] := hnames
        by_cases hk : k = id
        · subst hk
          simp [Registry.get?_intern_self, hrank, hne]
        · simp [Registry.get?_intern_of_ne (type_ne_type hk), hk]

/-- Requests for types give handles to those whose kind has a rank and that have proposals. A type
is known by its position, which counts on from `id`. -/
theorem get?_internNodes_isSome_iff {id k : Nat}
    (h : internNodes declareUnions registry id nodes = .ok registry') :
    (registry'.get? (.type k)).isSome ↔ (registry.get? (.type k)).isSome ∨
      ∃ i node, nodes[i]? = some node ∧ k = id + i ∧
        (kindRank? declareUnions node.kind).isSome ∧ node.names ≠ [] := by
  induction nodes generalizing registry id with
  | nil =>
    obtain rfl : registry = registry' := by simpa [internNodes] using h
    simp
  | cons first rest ih =>
    rw [internNodes] at h
    split at h
    · cases h
    · rename_i registry₁ hfirst
      rw [ih h, get?_internNode_isSome_iff hfirst, or_assoc]
      -- The nodes from `id` on are the first one and those from `id + 1` on.
      refine or_congr_right ⟨?_, ?_⟩
      · rintro (⟨rfl, hrank, hnames⟩ | ⟨i, node, hi, rfl, hnode⟩)
        · exact ⟨0, first, rfl, rfl, hrank, hnames⟩
        · exact ⟨i + 1, node, hi, by omega, hnode⟩
      · rintro ⟨i, node, hi, rfl, hnode⟩
        cases i with
        | zero =>
          obtain rfl : first = node := by simpa using hi
          exact .inl ⟨rfl, hnode⟩
        | succ i => exact .inr ⟨i, node, by simpa using hi, by omega, hnode⟩

namespace TypeNames

variable {graph : TypeGraph} {acronyms : AcronymStyle} {names : TypeNames}

/-- The two parts of assigned names: the requests of all types after those of the entry points,
and the names that these are given. -/
theorem parts_of_assign (h : assign graph declareUnions acronyms = .ok names) :
    internNodes declareUnions (entryRequests graph) 0 graph.nodes = .ok names.registry ∧
      names.names = names.registry.assign .typeName acronyms := by
  obtain ⟨registry, hregistry, rfl⟩ := Fallible.map_eq_ok_iff.1 h
  exact ⟨hregistry, rfl⟩

/-- A type has a name if it is an entry point's and takes part in naming, or if it has proposals
and its kind is one that names are requested for. -/
theorem exists_typeName_iff (h : assign graph declareUnions acronyms = .ok names) {id : TypeId} :
    (∃ name, names.typeName? id = some name) ↔
      (∃ top ∈ graph.topLevels, top.type = id ∧ (graph.kind id).isNamed) ∨
      ∃ node, graph.node? id = some node ∧ (kindRank? declareUnions node.kind).isSome ∧
        node.names ≠ [] := by
  -- An entry point makes its request under the key of its type if that takes part in naming.
  have hentries : (∃ i top, graph.topLevels[i]? = some top ∧
      topLevelKey graph.nodes (0 + i) top = .type id) ↔
        ∃ top ∈ graph.topLevels, top.type = id ∧ (graph.kind id).isNamed := by
    simp only [topLevelKey_eq_type_iff, List.mem_iff_getElem?]
    constructor
    · rintro ⟨i, top, hi, htop⟩
      exact ⟨top, ⟨i, hi⟩, htop⟩
    · rintro ⟨top, ⟨i, hi⟩, htop⟩
      exact ⟨i, top, hi, htop⟩
  rw [← Option.isSome_iff_exists, typeName?, get?_internNodes_isSome_iff (parts_of_assign h).1,
    get?_internTopLevels_isSome_iff, Registry.get?_empty, hentries]
  simp [TypeGraph.node?]

/-! ### Entry points -/

/-- An entry point whose type takes part in naming has the name of its type. Its file then
declares the type once, and no alias for it. -/
theorem topLevelName?_eq_typeName? {i : Nat} {top : TopLevel} (hi : graph.topLevels[i]? = some top)
    (hnamed : (graph.kind top.type).isNamed) :
    names.topLevelName? graph i = names.typeName? top.type := by
  rw [topLevelName?, hi, Option.bind_some, topLevelKey_eq_type_iff.2 ⟨rfl, hnamed⟩, typeName?]

/-- Entry points that share a name are of one type, since their keys are equal. -/
theorem type_eq_of_topLevelName? {i j : Nat} {top top' : TopLevel} {name : NameId}
    (hi : graph.topLevels[i]? = some top) (hj : graph.topLevels[j]? = some top')
    (h : names.topLevelName? graph i = some name) (h' : names.topLevelName? graph j = some name) :
    top.type = top'.type := by
  simp only [topLevelName?, hi, hj, Option.bind_some] at h h'
  have hkey := Registry.get?_injective h h'
  unfold topLevelKey at hkey
  -- Both keys are of types, or both of positions.
  split at hkey <;> split at hkey
  · exact NameKey.type.inj hkey
  · cases hkey
  · cases hkey
  · obtain rfl := NameKey.topLevel.inj hkey
    rw [Option.some.inj (hi.symm.trans hj)]

/-- An entry point that shares its name with a type is of this type. So an alias does not have the
name of a class or an enum. -/
theorem type_eq_of_typeName? {i : Nat} {top : TopLevel} {id : TypeId} {name : NameId}
    (hi : graph.topLevels[i]? = some top) (h : names.topLevelName? graph i = some name)
    (h' : names.typeName? id = some name) : top.type = id := by
  simp only [topLevelName?, hi, Option.bind_some] at h
  exact (topLevelKey_eq_type_iff.1 (Registry.get?_injective h h')).1

/-! ### Identifiers -/

/-- The identifier of a handle stands next to it in the list of names, of which
`assign_resolution` says everything. -/
theorem resolve_eq_ok_iff (h : assign graph declareUnions acronyms = .ok names) {id : NameId}
    {identifier : String} :
    names.resolve id = .ok identifier ↔
      (id, identifier) ∈ (names.registry.assign .typeName acronyms).entries := by
  rw [← Registry.resolve?_assign_eq_some_iff, ← (parts_of_assign h).2, resolve]
  cases names.names.resolve? id <;> simp

/-- Two handles do not share an identifier. So two declarations of a file have two names. -/
theorem resolve_injective (h : assign graph declareUnions acronyms = .ok names) {id id' : NameId}
    {identifier : String} (hid : names.resolve id = .ok identifier)
    (hid' : names.resolve id' = .ok identifier) : id = id' := by
  rw [resolve_eq_ok_iff h] at hid hid'
  have hdistinct := (names.registry.assign_resolution .typeName acronyms).distinct
  exact congrArg Prod.fst (List.inj_on_of_nodup_map hdistinct hid hid' rfl)

/-- No identifier is a word that a module must not declare, which is one of the things that
`closed_of_writtenOut` puts together. -/
theorem notMem_reserved_of_resolve (h : assign graph declareUnions acronyms = .ok names)
    {id : NameId} {identifier : String} (hid : names.resolve id = .ok identifier) :
    identifier ∉ Convention.moduleReserved :=
  (names.registry.assign_resolution .typeName acronyms).unreserved _ ((resolve_eq_ok_iff h).1 hid)

end TypeNames

/-- Every identifier of a file is that of a proposal, possibly with a number. From it the
characters of identifiers are known. -/
theorem TypeNames.exists_proposal_of_resolve {graph : TypeGraph} {acronyms : AcronymStyle}
    {names : TypeNames} (h : assign graph declareUnions acronyms = .ok names) {id : NameId}
    {identifier : String} (hid : names.resolve id = .ok identifier) :
    ∃ proposal, identifier = Convention.typeName.apply acronyms proposal ∨
      ∃ n : Nat, identifier = Convention.typeName.apply acronyms proposal ++ toString n := by
  obtain ⟨before, after, hsplit⟩ := List.append_of_mem ((resolve_eq_ok_iff h).1 hid)
  obtain ⟨request, -, hchosen⟩ :=
    (names.registry.assign_resolution .typeName acronyms).chosen before id identifier after hsplit
  obtain ⟨base, hbase, hname⟩ := hchosen.exists_base
  obtain ⟨proposal, rfl⟩ := Registry.exists_of_mem_styledProposals hbase
  exact ⟨proposal, hname⟩

/-- So is every identifier of a member of one declaration. -/
theorem exists_proposal_of_mem_memberNames {convention : Convention} {acronyms : AcronymStyle}
    {proposals : List String} {identifier : String}
    (h : identifier ∈ memberNames convention acronyms proposals) :
    ∃ proposal ∈ proposals, identifier = convention.apply acronyms proposal ∨
      ∃ n : Nat, identifier = convention.apply acronyms proposal ++ toString n := by
  obtain ⟨⟨id, _⟩, hentry, rfl⟩ := List.mem_map.1 h
  obtain ⟨before, after, hsplit⟩ := List.append_of_mem hentry
  -- A member proposes one name, so the candidate has a single proposal to be made from.
  obtain ⟨styled, hcandidate, hchosen⟩ := assignFrom_chosen (by
    intro candidate hcandidate
    obtain ⟨proposal, -, rfl⟩ := List.mem_map.1 hcandidate
    exact List.cons_ne_nil _ _) hsplit
  obtain ⟨⟨proposal, i⟩, hproposal, heq⟩ := List.mem_map.1 hcandidate
  obtain ⟨-, rfl⟩ := Prod.mk.inj heq
  obtain ⟨base, hbase, hname⟩ := hchosen.exists_base
  obtain rfl := List.mem_singleton.1 hbase
  exact ⟨proposal, List.fst_mem_of_mem_zipIdx hproposal, hname⟩

/-- The identifier of a proposal, possibly with a number, lies in every class of characters that
all letters, numbers and digits are in and that no change of case leaves. Classes that are used
are those of characters that do not stand around names, and of those that end no line. -/
theorem Convention.all_of_proposal {convention : Convention}
    (hconvention : convention ∈ [typeName, enumCase]) {acronyms : AcronymStyle} {p : Char → Bool}
    (hp : CaseClosed p) (halphanumeric : ∀ c, isAlphanumeric c = true → p c = true)
    {proposal identifier : String} (h : identifier = convention.apply acronyms proposal ∨
      ∃ n : Nat, identifier = convention.apply acronyms proposal ++ toString n) :
    identifier.toList.all p = true := by
  -- Letters and digits have the property, and with them the words that a convention adds of its
  -- own and the digits of a number.
  have hall : ∀ {cs : List Char}, cs.all isAlphanumeric = true → cs.all p = true := by
    intro cs hcs
    rw [List.all_eq_true] at hcs ⊢
    exact fun c hc => halphanumeric c (hcs c hc)
  have hproposal : (convention.apply acronyms proposal).toList.all p = true := by
    rw [Convention.all_apply hconvention acronyms proposal hp (hall (by decide)) (hall (by decide))]
    exact hall (by simp)
  have hdigits : ∀ n : Nat, (toString n).toList.all p = true := by
    intro n
    rw [Nat.toString_eq_repr, Nat.toList_repr]
    refine hall (List.all_eq_true.2 ?_)
    intro c hc
    exact isAlphanumeric_of_isDigit (Nat.isDigit_of_mem_toDigits (by decide) (by decide) hc)
  obtain rfl | ⟨n, rfl⟩ := h
  · exact hproposal
  · rw [String.toList_append, List.all_append, hproposal, hdigits]
    rfl

/-- So do the identifiers of a file, whichever of them it is. -/
theorem TypeNames.all_of_resolve {graph : TypeGraph} {acronyms : AcronymStyle} {names : TypeNames}
    (h : assign graph declareUnions acronyms = .ok names) {p : Char → Bool} (hp : CaseClosed p)
    (halphanumeric : ∀ c, isAlphanumeric c = true → p c = true) {id : NameId} {identifier : String}
    (hid : names.resolve id = .ok identifier) : identifier.toList.all p = true := by
  obtain ⟨proposal, hproposal⟩ := exists_proposal_of_resolve h hid
  exact Convention.all_of_proposal (by simp) hp halphanumeric hproposal

end StateTree.Naming
