import StateTree.Proofs.Naming.Scope

/-!
# `StateTree.Proofs.Naming.FirstProposals`: names that nobody else asks for

Whether a request gets its first styled proposal may depend on its rank and on the requests made
before it. It does not where the first styled proposals of all requests differ from each other and
none of them is reserved: nobody has taken the first proposal of a request when its turn comes,
whenever that is. So the order of the requests does not show in their names.

- `Registry.Uncontested`: such requests.
- `assignFrom_eq_map`: candidates whose first proposals are free and distinct get them.
- `Registry.Uncontested.resolve?`, `TypeNames.resolve_eq_firstProposal`: the names of such requests,
  in a registry and in a file.
-/

set_option autoImplicit false

namespace StateTree.Naming

open StateTree.Text (AcronymStyle)

/-- The first proposal of a candidate, which it gets if nobody has taken it. -/
def Candidate.first (candidate : Candidate) : String :=
  candidate.2.headD ""

/-- A first proposal that is not in use is chosen, and the others are not looked at. -/
theorem chooseName_of_free {used styled : List String} (hstyled : styled ≠ [])
    (hfree : styled.headD "" ∉ used) : chooseName used styled = styled.headD "" := by
  obtain ⟨name, rest, rfl⟩ := List.exists_cons_of_ne_nil hstyled
  rw [List.headD_cons] at hfree ⊢
  simp [chooseName, hfree]

/-- Candidates with distinct first proposals that are not in use get these. None of them takes
what a later one would ask for first, so their order does not show in the names. -/
theorem assignFrom_eq_map {used : List String} {candidates : List Candidate}
    (hstyled : ∀ candidate ∈ candidates, candidate.2 ≠ [])
    (hdistinct : (candidates.map Candidate.first).Nodup)
    (hfree : ∀ candidate ∈ candidates, candidate.first ∉ used) :
    assignFrom used candidates =
      candidates.map fun candidate => (candidate.1, candidate.first) := by
  induction candidates generalizing used with
  | nil => rfl
  | cons candidate rest ih =>
    obtain ⟨id, styled⟩ := candidate
    obtain ⟨hother, hdistinct⟩ := List.nodup_cons.1 hdistinct
    have hname : chooseName used styled = styled.headD "" :=
      chooseName_of_free (hstyled _ List.mem_cons_self) (hfree _ List.mem_cons_self)
    rw [assignFrom, hname, List.map_cons]
    refine congrArg _ (ih (fun c hc => hstyled c (List.mem_cons_of_mem _ hc)) hdistinct ?_)
    intro c hc hused
    -- What has been taken since then is the first proposal of another candidate.
    rcases List.mem_cons.1 hused with heq | hused
    · have hmem : c.first ∈ rest.map Candidate.first := List.mem_map_of_mem hc
      rw [heq] at hmem
      exact hother hmem
    · exact hfree c (List.mem_cons_of_mem _ hc) hused

namespace Registry

variable {κ : Type}

/-- The first styled proposal of a request. The empty text does not come up, as every request has
a proposal after styling. -/
def firstProposal (convention : Convention) (acronyms : AcronymStyle) (request : Request κ) :
    String :=
  (styledProposals convention acronyms request).headD ""

/-- The first styled proposals of all requests differ, and none of them is reserved. This is what
`generate_renumbered` asks of a graph for its file not to hang on the order of the nodes. -/
structure Uncontested (registry : Registry κ) (convention : Convention)
    (acronyms : AcronymStyle) : Prop where
  distinct : (registry.requests.map (firstProposal convention acronyms)).Nodup
  unreserved : ∀ request ∈ registry.requests,
    firstProposal convention acronyms request ∉ convention.reserved

variable {registry : Registry κ} {convention : Convention} {acronyms : AcronymStyle}

/-- Without their handles, the requests are those of the registry, in the order in which they were
made. -/
theorem map_fst_handled (registry : Registry κ) :
    registry.handled.map Prod.fst = registry.requests := by
  have hpairs : registry.handled.map Prod.fst = registry.requests.zipIdx.map Prod.fst := by
    rw [handled, List.map_map]
    rfl
  rw [hpairs, List.zipIdx_map_fst]

/-- Every request gets its first proposal, in whatever order the requests choose. So of
uncontested names the order of interning is immaterial, which the renumbering of a graph relies
on. -/
theorem Uncontested.assign_eq (h : registry.Uncontested convention acronyms) :
    (registry.assign convention acronyms).entries =
      registry.ranked.map fun entry => (entry.2, firstProposal convention acronyms entry.1) := by
  have hranked : ∀ entry ∈ registry.ranked, entry.1 ∈ registry.requests := by
    intro entry hentry
    rw [← map_fst_handled]
    exact List.mem_map_of_mem (registry.ranked_perm.subset hentry)
  rw [assign, assignFrom_eq_map]
  · rw [List.map_map]
    rfl
  · intro candidate hcandidate
    obtain ⟨entry, -, rfl⟩ := List.mem_map.1 hcandidate
    exact styledProposals_ne_nil convention acronyms entry.1
  · -- Ranking changes the order of the requests only, and they are distinct in any order.
    have hperm : (registry.ranked.map fun entry => firstProposal convention acronyms entry.1).Perm
        (registry.requests.map (firstProposal convention acronyms)) := by
      rw [← map_fst_handled registry, List.map_map]
      exact registry.ranked_perm.map _
    rw [List.map_map]
    exact hperm.nodup_iff.2 h.distinct
  · intro candidate hcandidate
    obtain ⟨entry, hentry, rfl⟩ := List.mem_map.1 hcandidate
    exact h.unreserved entry.1 (hranked entry hentry)

/-- A handle resolves to the first proposal of its request. Nothing else in the registry matters
to it. -/
theorem Uncontested.resolve? (h : registry.Uncontested convention acronyms) {id : NameId}
    {request : Request κ} (hid : registry.requests[id.index]? = some request) :
    (registry.assign convention acronyms).resolve? id =
      some (firstProposal convention acronyms request) := by
  -- Handles keep the places of requests from before the ranking.
  rw [resolve?_assign_eq_some_iff, h.assign_eq]
  have hranked : (request, id) ∈ registry.ranked :=
    registry.ranked_perm.symm.subset (mem_handled_iff.2 hid)
  exact List.mem_map.2 ⟨(request, id), hranked, rfl⟩

end Registry

/-- The names of a file are first proposals where these differ and are not reserved. In particular
the identifier of a type can be told without the other types. -/
theorem TypeNames.resolve_eq_firstProposal {graph : Graph.TypeGraph} {declareUnions : Bool}
    {acronyms : AcronymStyle} {names : TypeNames}
    (h : TypeNames.assign graph declareUnions acronyms = .ok names)
    (huncontested : names.registry.Uncontested .typeName acronyms) {id : NameId}
    {request : Request NameKey} (hid : names.registry.requests[id.index]? = some request) :
    names.resolve id = .ok (Registry.firstProposal .typeName acronyms request) := by
  rw [resolve, (parts_of_assign h).2, huncontested.resolve? hid]

end StateTree.Naming
