import StateTree.Proofs.Graph.Renumbering
import StateTree.Proofs.Naming.FirstProposals
import StateTree.Proofs.Naming.Requests

/-!
# `StateTree.Proofs.Naming.Renumbering`: names of graphs whose nodes are numbered differently

Names are requested for types in the order of their numbers, so handles do depend on the order of
the nodes. The requests behind the keys do not: entry points come in one order, and after them each
type makes its own request. So where every request gets its first proposal, a type has one
identifier in both orders.

- `NameKey.rename`, `Request.rename`: keys and requests with other numbers in them.
- `TypeNames.request?_rename`: the requests behind the keys are the same.
- `Agree`: names with one identifier behind each key; `TypeNames.exists_agree`: where first
  proposals are uncontested, names are assigned in both orders and agree.
-/

set_option autoImplicit false

namespace StateTree.Naming

open StateTree.Graph (Kind Node TopLevel TypeGraph TypeId)
open StateTree.Text (AcronymStyle)

/-! ### Other numbers -/

variable {declareUnions : Bool}

/-- A key with another number for its type. Entry points keep their positions, since they come in
the same order. -/
def NameKey.rename (σ : TypeId → TypeId) : NameKey → NameKey
  | type id => type (σ id)
  | topLevel index => topLevel index

/-- A request with another number in its key. -/
def Request.rename (σ : TypeId → TypeId) (request : Request NameKey) : Request NameKey :=
  { request with key := request.key.rename σ }

/-- Two keys stay two keys. So whether a request is for a key does not hang on the numbers. -/
theorem NameKey.rename_inj {σ : Equiv.Perm TypeId} {key key' : NameKey} :
    key.rename σ = key'.rename σ ↔ key = key' := by
  cases key <;> cases key' <;> simp [rename]

/-- Every key is one with another number, since each type has one under the other numbers. -/
theorem NameKey.exists_rename (σ : Equiv.Perm TypeId) (key : NameKey) :
    ∃ key' : NameKey, key = key'.rename σ := by
  cases key with
  | type id => exact ⟨.type (σ.symm id), by rw [rename, σ.apply_symm_apply]⟩
  | topLevel index => exact ⟨.topLevel index, rfl⟩

@[simp]
theorem kindRank?_rename (declareUnions : Bool) (σ : TypeId → TypeId) (kind : Kind) :
    kindRank? declareUnions (kind.rename σ) = kindRank? declareUnions kind := by
  cases kind <;> rfl

/-- A type makes the same request for itself. What it proposes stands in its node, and the node
has no number in it but those it refers to. -/
theorem proposed?_rename (declareUnions : Bool) (σ : TypeId → TypeId) (id : TypeId) (node : Node) :
    proposed? declareUnions (σ id) (node.rename σ) =
      (proposed? declareUnions id node).map (Request.rename σ) := by
  have hrank : kindRank? declareUnions (node.rename σ).kind = kindRank? declareUnions node.kind :=
    kindRank?_rename declareUnions σ node.kind
  have hnames : (node.rename σ).names = node.names := rfl
  unfold proposed?
  rw [hrank, hnames]
  cases kindRank? declareUnions node.kind <;> cases node.names <;> rfl

section

variable {σ : Equiv.Perm TypeId} {nodes nodes' : List Node} (h : Graph.Renumbers σ nodes nodes')

include h

/-- The types make the same requests for themselves, wherever their nodes stand. -/
theorem proposedAt?_rename (declareUnions : Bool) (key : NameKey) :
    proposedAt? declareUnions 0 nodes' (key.rename σ) =
      (proposedAt? declareUnions 0 nodes key).map (Request.rename σ) := by
  cases key with
  | topLevel index => rfl
  | type id =>
    simp only [NameKey.rename, proposedAt?, Nat.zero_le, if_true, Nat.sub_zero, h id]
    cases nodes[id]? with
    | none => rfl
    | some node => exact proposed?_rename declareUnions σ id node

/-- An entry point has the same key. Whether its type takes part in naming depends on the kind of
type only. -/
theorem topLevelKey_rename (index : Nat) (top : TopLevel) :
    topLevelKey nodes' index (top.rename σ) = (topLevelKey nodes index top).rename σ := by
  rw [topLevelKey, topLevelKey, TopLevel.rename, h.kindAt_eq, Graph.Kind.isNamed_rename]
  split <;> rfl

/-- Entry points make the same requests, one after the other in the same order. The registries
they start from may be any whose requests are the same, which is what the induction hands on. -/
theorem request?_internTopLevels_rename {registry registry' : Registry NameKey}
    (hregistry : ∀ key,
      registry'.request? (key.rename σ) = (registry.request? key).map (Request.rename σ))
    (index : Nat) (tops : List TopLevel) (key : NameKey) :
    (internTopLevels nodes' registry' index (tops.map (TopLevel.rename σ))).request?
        (key.rename σ) =
      ((internTopLevels nodes registry index tops).request? key).map (Request.rename σ) := by
  -- The induction is on the entry points, with any registries whose requests are the same.
  induction tops generalizing registry registry' index with
  | nil => exact hregistry key
  | cons top rest ih =>
    have hfirst : ∀ key,
        (registry'.intern (topLevelKey nodes' index (top.rename σ)) [top.name]
          topLevelRank).2.request? (key.rename σ) =
        ((registry.intern (topLevelKey nodes index top) [top.name]
          topLevelRank).2.request? key).map (Request.rename σ) := by
      intro key
      let request : Request NameKey := ⟨topLevelKey nodes index top, [top.name], topLevelRank⟩
      have hown := registry.request?_intern request key
      have hown' := registry'.request?_intern (request.rename σ) (key.rename σ)
      rw [topLevelKey_rename h]
      refine hown'.trans (Eq.trans ?_ (congrArg _ hown.symm))
      rw [Option.map_or, hregistry, Request.rename]
      -- The request is for the key under both numbers or under neither.
      simp only [NameKey.rename_inj]
      split <;> rfl
    exact ih hfirst (index + 1)

end

/-! ### Names with one identifier -/

/-- Two handles have one identifier, each among its own names. The handles themselves may differ,
since requests are made in another order. -/
def SameName (names names' : TypeNames) (name name' : NameId) : Prop :=
  ∃ identifier, names.resolve name = .ok identifier ∧ names'.resolve name' = .ok identifier

/-- Behind every key both names have the same identifier, or none. This is all that the comparison
of two files needs to know of their names. -/
structure Agree (σ : TypeId → TypeId) (names names' : TypeNames) : Prop where
  key : ∀ key, Option.Rel (SameName names names') (names.registry.get? key)
    (names'.registry.get? (key.rename σ))
  biUnique : Relator.BiUnique (SameName names names')

namespace TypeNames

variable {graph graph' : TypeGraph} {acronyms : AcronymStyle} {names names' : TypeNames}

/-- Identifiers tell handles apart, so a handle has one identifier with one other handle only.
Comparing two names within one file is thereby comparing them within the other. -/
theorem biUnique_sameName (h : assign graph declareUnions acronyms = .ok names)
    (h' : assign graph' declareUnions acronyms = .ok names') :
    Relator.BiUnique (SameName names names') := by
  constructor
  · rintro name₁ name₂ name' ⟨identifier, hname₁, hname'⟩ ⟨identifier', hname₂, hname''⟩
    obtain rfl := Except.ok.inj (hname'.symm.trans hname'')
    exact resolve_injective h hname₁ hname₂
  · rintro name name₁ name₂ ⟨identifier, hname, hname₁⟩ ⟨identifier', hname', hname₂⟩
    obtain rfl := Except.ok.inj (hname.symm.trans hname')
    exact resolve_injective h' hname₁ hname₂

section

variable {σ : Equiv.Perm TypeId} (hgraph : graph.Renumbers σ graph')
  (h : assign graph declareUnions acronyms = .ok names)
  (h' : assign graph' declareUnions acronyms = .ok names')

include hgraph h h'

/-- The requests behind the keys are the same. An entry point's request goes first in both orders,
and otherwise each type makes its own. -/
theorem request?_rename (key : NameKey) :
    names'.registry.request? (key.rename σ) =
      (names.registry.request? key).map (Request.rename σ) := by
  have hempty : ∀ key, ({} : Registry NameKey).request? (key.rename σ) =
      (({} : Registry NameKey).request? key).map (Request.rename σ) := by
    intro key
    simp [Registry.request?]
  have htops := request?_internTopLevels_rename hgraph.nodes hempty 0 graph.topLevels key
  rw [request?_of_assign h, request?_of_assign h', Option.map_or, ← htops,
    proposedAt?_rename hgraph.nodes, entryRequests, hgraph.topLevels]

/-- If first proposals are uncontested, they still are: they are the same proposals. Their
requests are made in another order, which `Uncontested` does not speak of. -/
theorem uncontested_rename (huncontested : names.registry.Uncontested .typeName acronyms) :
    names'.registry.Uncontested .typeName acronyms := by
  -- Every request is one of the others, with another number in its key.
  have hsame : ∀ request' ∈ names'.registry.requests,
      ∃ request ∈ names.registry.requests, request.rename σ = request' := by
    intro request' hrequest'
    have hbehind := request?_of_mem h' hrequest'
    obtain ⟨key, hkey⟩ := request'.key.exists_rename σ
    rw [hkey, request?_rename hgraph h h', Option.map_eq_some_iff] at hbehind
    obtain ⟨request, hrequest, rfl⟩ := hbehind
    obtain ⟨name, -, hname⟩ := Option.bind_eq_some_iff.1 hrequest
    exact ⟨request, List.mem_of_getElem? hname, rfl⟩
  constructor
  · refine List.Nodup.map_on ?_ (nodup_keys h').of_map
    intro request₁ hrequest₁ request₂ hrequest₂ heq
    obtain ⟨request, hrequest, rfl⟩ := hsame _ hrequest₁
    obtain ⟨other, hother, rfl⟩ := hsame _ hrequest₂
    rw [List.inj_on_of_nodup_map huncontested.distinct hrequest hother heq]
  · intro request' hrequest'
    obtain ⟨request, hrequest, rfl⟩ := hsame _ hrequest'
    exact huncontested.unreserved request hrequest

/-- If first proposals are uncontested, every name has the same identifier. Without the hypothesis
a type could find its first proposal taken in one order and not in the other. -/
theorem agree_of_assign (huncontested : names.registry.Uncontested .typeName acronyms) :
    Agree σ names names' := by
  refine ⟨?_, biUnique_sameName h h'⟩
  intro key
  have hrequests := request?_rename hgraph h h' key
  rw [Registry.request?, Registry.request?] at hrequests
  cases hname : names.registry.get? key with
  | none =>
    cases hname' : names'.registry.get? (key.rename σ) with
    | none => exact .none
    | some name' =>
      -- There would be a request behind this handle, but there is none behind the key.
      obtain ⟨request', hrequest', -⟩ := Registry.exists_of_get? hname'
      simp [hname, hname', hrequest'] at hrequests
  | some name =>
    obtain ⟨request, hrequest, -⟩ := Registry.exists_of_get? hname
    rw [hname, Option.bind_some, hrequest, Option.map_some, Option.bind_eq_some_iff] at hrequests
    obtain ⟨name', hname', hrequest'⟩ := hrequests
    -- Both requests get their first proposals, which are the same.
    have huncontested' := uncontested_rename hgraph h h' huncontested
    have hresolve := resolve_eq_firstProposal h huncontested hrequest
    have hresolve' := resolve_eq_firstProposal h' huncontested' hrequest'
    rw [hname']
    exact .some ⟨_, hresolve, hresolve'⟩

end

/-- If first proposals are uncontested, names are assigned under other numbers as well, with the
same identifiers. No type becomes nameless by having another number. -/
theorem exists_agree {σ : Equiv.Perm TypeId} (hgraph : graph.Renumbers σ graph')
    (h : assign graph declareUnions acronyms = .ok names)
    (huncontested : names.registry.Uncontested .typeName acronyms) :
    ∃ names', assign graph' declareUnions acronyms = .ok names' ∧ Agree σ names names' := by
  have hnamed : ∀ id, ¬ Nameless graph' id := by
    intro id
    rw [← σ.apply_symm_apply id]
    rintro ⟨node', hnode', hkind, hproposals, htops⟩
    rw [TypeGraph.node?, hgraph.nodes, Option.map_eq_some_iff] at hnode'
    obtain ⟨node, hnode, rfl⟩ := hnode'
    -- The type would be nameless under its first number, too.
    have hkind : node.kind.isClass ∨ node.kind.isEnum := by
      simpa [Node.rename] using hkind
    refine not_nameless_of_assign h (σ.symm id) ⟨node, hnode, hkind, hproposals, ?_⟩
    intro top htop heq
    refine htops (top.rename σ) ?_ (congrArg σ heq)
    rw [hgraph.topLevels]
    exact List.mem_map_of_mem htop
  obtain ⟨names', h', -⟩ := assign_eq_ok declareUnions acronyms hnamed
  exact ⟨names', h', agree_of_assign hgraph h h' huncontested⟩

end TypeNames

namespace Agree

variable {graph graph' : TypeGraph} {names names' : TypeNames} {σ : Equiv.Perm TypeId}

/-- A type has the same identifier, or no name. Which of the two it is agrees as well. -/
theorem typeName? (h : Agree σ names names') (id : TypeId) :
    Option.Rel (SameName names names') (names.typeName? id) (names'.typeName? (σ id)) :=
  h.key (.type id)

/-- An entry point has the same identifier, or no name, as its key is the same. -/
theorem topLevelName? (h : Agree σ names names') (hgraph : graph.Renumbers σ graph')
    (index : Nat) : Option.Rel (SameName names names') (names.topLevelName? graph index)
      (names'.topLevelName? graph' index) := by
  rw [TypeNames.topLevelName?, TypeNames.topLevelName?, hgraph.topLevels, List.getElem?_map]
  cases graph.topLevels[index]? with
  | none => exact .none
  | some top =>
    rw [Option.map_some, Option.bind_some, Option.bind_some, topLevelKey_rename hgraph.nodes]
    exact h.key _

end Agree

end StateTree.Naming
