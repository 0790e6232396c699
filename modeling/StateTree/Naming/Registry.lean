import StateTree.Naming.Convention

/-!
# `StateTree.Naming.Registry`: requests for names and their resolution

A registry collects the requests for names in one scope. A request has a key, proposals and a rank;
the first request of a key decides, later ones return the same handle. Resolving a registry goes
through the requests by ascending rank, ties in the order of interning, and gives each its first
free proposal, or its first proposal with the least free number from two up.

- `Registry.intern`, `Registry.get?`, `Registry.size`: collecting requests.
- `Registry.assign`: one name for each request.
- `Names.resolve?`: the name of a handle.
-/

set_option autoImplicit false

namespace StateTree.Naming

open StateTree.Text (AcronymStyle)

/-- A handle to a name that is known once its registry is resolved: the position of its request. As
with types, the position has no bound here, which makes no difference to one that is kept in 32 bits
as long as a registry has fewer than `2 ^ 32` requests. -/
structure NameId where
  index : Nat
  deriving DecidableEq, Repr

/-- The text of a handle in messages and listings. -/
def NameId.text (id : NameId) : String :=
  "NameId(" ++ toString id.index ++ ")"

/-- A request for a name. Requests of lower rank choose first. -/
structure Request (κ : Type) where
  key : κ
  proposals : List String
  rank : Nat

/-- The requests of one scope in the order of interning, one for each key. -/
structure Registry (κ : Type) where
  requests : List (Request κ) := []

/-- The names of the requests of a registry. -/
structure Names where
  entries : List (NameId × String) := []

/-- The name of a handle. -/
def Names.resolve? (names : Names) (id : NameId) : Option String :=
  names.entries.lookup id

namespace Registry

variable {κ : Type} [DecidableEq κ]

/-- The number of requests. -/
def size (registry : Registry κ) : Nat :=
  registry.requests.length

/-- The handle of a key that has been interned. -/
def get? (registry : Registry κ) (key : κ) : Option NameId :=
  (registry.requests.findIdx? fun request => request.key = key).map NameId.mk

/-- Requests a name. A key that has been interned keeps its first request. -/
def intern (registry : Registry κ) (key : κ) (proposals : List String) (rank : Nat) :
    NameId × Registry κ :=
  match registry.get? key with
  | some id => (id, registry)
  | none => (⟨registry.size⟩, ⟨registry.requests ++ [⟨key, proposals, rank⟩]⟩)

/-- The styled proposals of a request; a request without proposals proposes the empty text. -/
def styledProposals (convention : Convention) (acronyms : AcronymStyle) (request : Request κ) :
    List String :=
  match request.proposals with
  | [] => [convention.apply acronyms ""]
  | proposals => proposals.map (convention.apply acronyms)

end Registry

/-- The name followed by the least number, from `n` up, for which the result is not in use. Each
step takes a name in use out of the list, so the search ends. -/
def firstNumbered (base : String) (used : List String) (n : Nat) : String :=
  let candidate := base ++ toString n
  if h : candidate ∈ used then firstNumbered base (used.erase candidate) (n + 1) else candidate
termination_by used.length
decreasing_by
  rw [List.length_erase_of_mem h]
  exact Nat.sub_lt (List.length_pos_of_mem h) (by decide)

/-- The first of the styled proposals that is not in use, or else the first one with a number. -/
def chooseName (used styled : List String) : String :=
  match styled.find? fun name => !used.contains name with
  | some name => name
  | none => firstNumbered (styled.headD "") used 2

/-- The position of a request and its styled proposals. -/
abbrev Candidate := NameId × List String

/-- Names the candidates one after the other; each name is in use for the candidates after it. -/
def assignFrom (used : List String) : List Candidate → List (NameId × String)
  | [] => []
  | (id, styled) :: rest =>
    let name := chooseName used styled
    (id, name) :: assignFrom (name :: used) rest

namespace Registry

variable {κ : Type} [DecidableEq κ]

/-- The requests with their handles, by ascending rank and then in the order of interning. -/
def ranked (registry : Registry κ) : List (Request κ × NameId) :=
  (registry.requests.zipIdx.map fun (request, i) => (request, NameId.mk i)).mergeSort
    fun a b => a.1.rank ≤ b.1.rank

/-- Gives every request a name of its own that is no reserved word. -/
def assign (registry : Registry κ) (convention : Convention) (acronyms : AcronymStyle) : Names :=
  ⟨assignFrom convention.reserved
    (registry.ranked.map fun (request, id) =>
      (id, styledProposals convention acronyms request))⟩

end Registry

end StateTree.Naming
