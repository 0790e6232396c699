import StateTree.Naming.Registry

/-!
# `StateTree.Proofs.Naming.Handles`: keys, handles and names

A key that has been interned has a handle, its own and for good, and every handle of a registry gets
a name.

- `Registry.get?_injective`: two keys do not share a handle.
- `Registry.get?_intern_self`, `Registry.get?_intern_of_ne`, `Registry.get?_intern_of_some`: what
  interning changes.
- `Registry.resolve?_assign`: every handle of a registry resolves.
-/

set_option autoImplicit false

namespace StateTree.Naming

open StateTree.Text (AcronymStyle)

namespace Registry

variable {κ : Type} [DecidableEq κ]

/-- The handle of a key is the position of a request for it. What is known of a key is read off
the request at its handle. -/
theorem exists_of_get? {registry : Registry κ} {key : κ} {id : NameId}
    (h : registry.get? key = some id) :
    ∃ request, registry.requests[id.index]? = some request ∧ request.key = key := by
  obtain ⟨i, hi, rfl⟩ := Option.map_eq_some_iff.1 h
  have hreq := List.of_findIdx?_eq_some hi
  split at hreq
  · rename_i request hat
    exact ⟨request, hat, by simpa using hreq⟩
  · simp at hreq

/-- Two keys do not share a handle: there is one request at a position, and it has one key. For
the names of a file this makes two types have two names. -/
theorem get?_injective {registry : Registry κ} {key key' : κ} {id : NameId}
    (h : registry.get? key = some id) (h' : registry.get? key' = some id) : key = key' := by
  obtain ⟨request, hat, rfl⟩ := exists_of_get? h
  obtain ⟨request', hat', rfl⟩ := exists_of_get? h'
  obtain rfl : request = request' := by simpa using hat.symm.trans hat'
  rfl

/-- A handle is a position among the requests, so no handle is given out before its request. -/
theorem index_lt_of_get? {registry : Registry κ} {key : κ} {id : NameId}
    (h : registry.get? key = some id) : id.index < registry.size := by
  obtain ⟨request, hat, -⟩ := exists_of_get? h
  exact (List.getElem?_eq_some_iff.1 hat).1

/-- A key has a handle exactly if there is a request for it. -/
theorem get?_isSome_iff {registry : Registry κ} {key : κ} :
    (registry.get? key).isSome ↔ ∃ request ∈ registry.requests, request.key = key := by
  rw [get?, Option.isSome_map, List.findIdx?_isSome]
  simp

/-- A registry without requests has no handles. -/
@[simp]
theorem get?_empty (key : κ) : ({} : Registry κ).get? key = none := by
  simp [get?]

/-- An interned key has a handle, the one from before if it had one. -/
theorem get?_intern_self (registry : Registry κ) (key : κ) (proposals : List String)
    (rank : Nat) : ((registry.intern key proposals rank).2.get? key).isSome := by
  unfold intern
  split
  · rename_i id h
    simp [h]
  · exact get?_isSome_iff.2 ⟨⟨key, proposals, rank⟩, by simp, rfl⟩

/-- Interning leaves handles as they are. A new request goes behind all others, so the positions
of those before it stay. -/
theorem get?_intern_of_some {registry : Registry κ} {key key' : κ} {id : NameId}
    (h : registry.get? key' = some id) (proposals : List String) (rank : Nat) :
    (registry.intern key proposals rank).2.get? key' = some id := by
  unfold intern
  split
  · exact h
  · obtain ⟨i, hi, rfl⟩ := Option.map_eq_some_iff.1 h
    simp [get?, List.findIdx?_append, hi]

/-- Interning a key gives no handle to another. So a type without a request is without a handle,
whatever is asked for other types. -/
theorem get?_intern_of_ne {registry : Registry κ} {key key' : κ} (hne : key' ≠ key)
    (proposals : List String) (rank : Nat) :
    (registry.intern key proposals rank).2.get? key' = registry.get? key' := by
  unfold intern
  split
  · rfl
  · have : ¬ key = key' := fun heq => hne heq.symm
    simp [get?, List.findIdx?_append, List.findIdx?_cons, this]

end Registry

/-! ### Names for all handles -/

/-- Every candidate gets a name, and the names are listed in the order of the candidates. -/
theorem map_fst_assignFrom (used : List String) (candidates : List Candidate) :
    (assignFrom used candidates).map Prod.fst = candidates.map Prod.fst := by
  -- The names that are used up grow from candidate to candidate.
  induction candidates generalizing used with
  | nil => rfl
  | cons candidate rest ih =>
    obtain ⟨id, styled⟩ := candidate
    simp [assignFrom, ih]

/-- There are as many names as candidates. -/
theorem length_assignFrom (used : List String) (candidates : List Candidate) :
    (assignFrom used candidates).length = candidates.length := by
  rw [← List.length_map Prod.fst, map_fst_assignFrom, List.length_map]

/-- The handle of every request is among the ranked ones. Ranking decides who chooses first, and
leaves no one out. -/
theorem Registry.mem_ranked {κ : Type} {registry : Registry κ} {id : NameId}
    (h : id.index < registry.requests.length) : ∃ request, (request, id) ∈ registry.ranked := by
  refine ⟨registry.requests[id.index], ?_⟩
  -- Ranking only changes the order of the requests.
  rw [ranked, List.mem_mergeSort]
  exact List.mem_map.2 ⟨(registry.requests[id.index], id.index),
    List.mem_zipIdx_iff_getElem?.2 (List.getElem?_eq_getElem h), rfl⟩

/-- Every handle of a registry gets a name. It is the second half of what `TypeNames.Covers` asks
for: a type that has a handle has an identifier. -/
theorem Registry.resolve?_assign {κ : Type} [DecidableEq κ] {registry : Registry κ} {key : κ}
    {id : NameId} (h : registry.get? key = some id) (convention : Convention)
    (acronyms : AcronymStyle) :
    ∃ name, (registry.assign convention acronyms).resolve? id = some name := by
  obtain ⟨request, hmem⟩ := mem_ranked (index_lt_of_get? h)
  -- The handle is one of those that names are listed for.
  have hfst : id ∈ ((registry.assign convention acronyms).entries).map Prod.fst := by
    rw [assign, map_fst_assignFrom, List.map_map]
    exact List.mem_map.2 ⟨_, hmem, rfl⟩
  obtain ⟨entry, hentry, rfl⟩ := List.mem_map.1 hfst
  rw [← Option.isSome_iff_exists, Names.resolve?, List.lookup_isSome_iff]
  exact ⟨entry, hentry, by simp⟩

end StateTree.Naming
