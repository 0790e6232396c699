import StateTree.Proofs.Naming.Scope

/-!
# `StateTree.Proofs.Naming.Requests`: the requests of a file, key by key

The registry of a file has one request for each key. Entry points make theirs first, and behind a
key that they have in common the first of them decides. After them each type makes a request for
itself, which counts if no entry point has made one for it. So what stands behind the key of a type
depends on the entry points and on its own node, and not on where the other nodes stand.

- `proposed?`: the request that a type makes for itself.
- `internNode_cases`: what a type can do to the registry.
- `TypeNames.request?_of_assign`: the request behind each key of a file.
- `TypeNames.invariant`: what interning keeps holds of the registry of a file.
- `TypeNames.nodup_keys`, `TypeNames.request?_of_mem`: there is one request for each key.
-/

set_option autoImplicit false

namespace StateTree.Naming

open StateTree.Graph (Node TopLevel TypeGraph TypeId)
open StateTree.Text (AcronymStyle)

/-! ### The requests of types -/

/-- The request that a type makes for itself, if its kind has a rank and it has proposals.
Proposals that were inferred are of a higher rank than given ones. -/
def proposed? (declareUnions : Bool) (id : TypeId) (node : Node) : Option (Request NameKey) :=
  match kindRank? declareUnions node.kind, node.names with
  | some rank, first :: others =>
    some ⟨.type id, first :: others, if node.inferred then rank else givenRank⟩
  | _, _ => none

/-- The request behind a key that nodes make, which stand at the positions from `id` up. It is
read off the node of the key, without going through the others. -/
def proposedAt? (declareUnions : Bool) (id : TypeId) (nodes : List Node) :
    NameKey → Option (Request NameKey)
  | .type k => if id ≤ k then (nodes[k - id]?).bind (proposed? declareUnions k) else none
  | .topLevel _ => none

variable {declareUnions : Bool} {registry registry' : Registry NameKey}

/-- The request that a type makes is for itself, so it decides on no other name. -/
theorem key_of_proposed? {id : TypeId} {node : Node} {request : Request NameKey}
    (h : proposed? declareUnions id node = some request) : request.key = .type id := by
  unfold proposed? at h
  split at h
  · obtain rfl := Option.some.inj h
    rfl
  · cases h

/-- A node makes its request unless it has none or an entry point has made one for it. Every
statement about `internNode` below is shown by these two cases. -/
theorem internNode_cases {id : TypeId} {node : Node}
    (h : internNode declareUnions registry id node = .ok registry') :
    registry' = registry ∧
        (proposed? declareUnions id node = none ∨ (registry.get? (.type id)).isSome) ∨
      ∃ request, proposed? declareUnions id node = some request ∧
        registry' = (registry.intern request.key request.proposals request.rank).2 := by
  unfold internNode at h
  split at h
  · -- No name is requested for a type of this kind.
    rename_i hrank
    obtain rfl := Except.ok.inj h
    exact .inl ⟨rfl, .inl (by simp [proposed?, hrank])⟩
  · rename_i rank hrank
    split at h
    · -- An entry point has made a request for the type.
      rename_i hget
      obtain rfl := Except.ok.inj h
      exact .inl ⟨rfl, .inr hget⟩
    · split at h
      · rename_i hnames
        -- Of the types without proposals only a union is accepted.
        split at h
        · obtain rfl := Except.ok.inj h
          exact .inl ⟨rfl, .inl (by simp [proposed?, hrank, hnames])⟩
        · cases h
      · rename_i hnames
        obtain ⟨first, others, hcons⟩ := List.exists_cons_of_ne_nil hnames
        refine .inr ⟨⟨.type id, node.names, if node.inferred then rank else givenRank⟩, ?_,
          (Except.ok.inj h).symm⟩
        simp [proposed?, hrank, hcons]

/-- What a node requests counts if nobody has requested a name for it. This is the step of
`request?_internNodes`. -/
theorem request?_internNode {id : TypeId} {node : Node}
    (h : internNode declareUnions registry id node = .ok registry') (key : NameKey) :
    registry'.request? key = (registry.request? key).or
      (if .type id = key then proposed? declareUnions id node else none) := by
  obtain ⟨rfl, hnone | hget⟩ | ⟨request, hrequest, rfl⟩ := internNode_cases h
  · simp [hnone]
  · split
    · -- The request that was made before decides.
      rename_i hkey
      subst hkey
      obtain ⟨name, hname⟩ := Option.isSome_iff_exists.1 hget
      obtain ⟨request, hrequest, -⟩ := Registry.exists_of_get? hname
      simp [Registry.request?, hname, hrequest]
    · rw [Option.or_none]
  · rw [Registry.request?_intern, key_of_proposed? hrequest, hrequest]

/-- Nodes request names for themselves. What is behind a key after all of them is what was there
before or what its own node proposes. -/
theorem request?_internNodes {id : TypeId} {nodes : List Node}
    (h : internNodes declareUnions registry id nodes = .ok registry') (key : NameKey) :
    registry'.request? key =
      (registry.request? key).or (proposedAt? declareUnions id nodes key) := by
  induction nodes generalizing registry id with
  | nil =>
    obtain rfl := Except.ok.inj h
    cases key <;> simp [proposedAt?]
  | cons first rest ih =>
    rw [internNodes] at h
    split at h
    · cases h
    · rename_i registry₁ hfirst
      rw [ih h, request?_internNode hfirst, Option.or_assoc]
      -- What is behind the key already comes first on both sides; what is left are the requests
      -- of the nodes.
      refine congrArg _ ?_
      cases key with
      | topLevel index => simp [proposedAt?]
      | type k =>
        -- The nodes from `id` on are the first one and those from `id + 1` on.
        rw [proposedAt?, proposedAt?]
        rcases Nat.lt_trichotomy k id with hlt | rfl | hlt
        · have hne : NameKey.type id ≠ .type k := type_ne_type (Nat.ne_of_gt hlt)
          rw [if_neg hne, if_neg (Nat.not_le_of_lt (Nat.lt_succ_of_lt hlt)),
            if_neg (Nat.not_le_of_lt hlt), Option.none_or]
        · rw [if_pos rfl, if_neg (Nat.not_succ_le_self k), if_pos (Nat.le_refl k), Nat.sub_self,
            Option.or_none]
          rfl
        · have hne : NameKey.type id ≠ .type k := type_ne_type (Nat.ne_of_lt hlt)
          rw [if_neg hne, if_pos (Nat.succ_le_of_lt hlt), if_pos (Nat.le_of_lt hlt),
            Option.none_or, ← Nat.succ_pred_eq_of_pos (Nat.sub_pos_of_lt hlt)]
          rfl

/-! ### The requests of a file -/

namespace TypeNames

variable {graph : TypeGraph} {acronyms : AcronymStyle} {names : TypeNames}

/-- The request behind a key is that of an entry point, or else that of the type. As it depends on
the one node only, other numbers for the types lead to the same requests, in `request?_rename`. -/
theorem request?_of_assign (h : assign graph declareUnions acronyms = .ok names) (key : NameKey) :
    names.registry.request? key = ((entryRequests graph).request? key).or
      (proposedAt? declareUnions 0 graph.nodes key) :=
  request?_internNodes (parts_of_assign h).1 key

section

variable {P : Registry NameKey → Prop}
  (hintern : ∀ registry key proposals rank, P registry →
    P (registry.intern key proposals rank).2)

include hintern

/-- What interning keeps holds after the requests of entry points. The hypothesis `hintern` is the
step, for any request. -/
theorem invariant_internTopLevels (nodes : List Node) {registry : Registry NameKey}
    (hregistry : P registry) (index : Nat) (tops : List TopLevel) :
    P (internTopLevels nodes registry index tops) := by
  induction tops generalizing registry index with
  | nil => exact hregistry
  | cons top rest ih => exact ih (hintern registry _ _ _ hregistry) (index + 1)

/-- What interning keeps holds after the requests of types, some of which change nothing. -/
theorem invariant_internNodes {registry registry' : Registry NameKey} {id : TypeId}
    {nodes : List Node} (h : internNodes declareUnions registry id nodes = .ok registry')
    (hregistry : P registry) : P registry' := by
  induction nodes generalizing registry id with
  | nil =>
    obtain rfl := Except.ok.inj h
    exact hregistry
  | cons first rest ih =>
    rw [internNodes] at h
    split at h
    · cases h
    · rename_i registry₁ hfirst
      -- A node either makes no request or just one.
      refine ih h ?_
      obtain ⟨rfl, -⟩ | ⟨request, -, rfl⟩ := internNode_cases hfirst
      · exact hregistry
      · exact hintern registry _ _ _ hregistry

/-- What interning keeps holds of the requests of a file: it is enough to know it of an empty
registry. -/
theorem invariant (hempty : P {}) (h : assign graph declareUnions acronyms = .ok names) :
    P names.registry :=
  invariant_internNodes hintern (parts_of_assign h).1
    (invariant_internTopLevels hintern graph.nodes hempty 0 graph.topLevels)

end

/-- No two requests of a file have one key. Interning adds a request only where the key has no
handle. -/
theorem nodup_keys (h : assign graph declareUnions acronyms = .ok names) :
    (names.registry.requests.map Request.key).Nodup := by
  refine invariant (P := fun registry => (registry.requests.map Request.key).Nodup) ?_
    List.nodup_nil h
  intro registry key proposals rank hregistry
  unfold Registry.intern
  split
  · exact hregistry
  · rename_i hnone
    rw [List.map_append]
    refine List.nodup_append.2 ⟨hregistry, by simp, ?_⟩
    -- A request for the key would have given it a handle.
    intro other hother key' hkey' heq
    obtain ⟨request, hrequest, rfl⟩ := List.mem_map.1 hother
    obtain rfl : key' = key := by simpa using hkey'
    have hsome := Registry.get?_isSome_iff.2 ⟨request, hrequest, heq⟩
    rw [hnone] at hsome
    cases hsome

/-- Every request of a file is the one behind its key, since there is no second one. -/
theorem request?_of_mem (h : assign graph declareUnions acronyms = .ok names)
    {request : Request NameKey} (hrequest : request ∈ names.registry.requests) :
    names.registry.request? request.key = some request := by
  have hsome := Registry.get?_isSome_iff.2 ⟨request, hrequest, rfl⟩
  obtain ⟨name, hname⟩ := Option.isSome_iff_exists.1 hsome
  obtain ⟨other, hother, hkey⟩ := Registry.exists_of_get? hname
  obtain rfl : other = request :=
    List.inj_on_of_nodup_map (nodup_keys h) (List.mem_of_getElem? hother) hrequest hkey
  rw [Registry.request?, hname]
  exact hother

end TypeNames

end StateTree.Naming
