import StateTree.Proofs.Keyed
import StateTree.Proofs.Naming.Resolution

/-!
# `StateTree.Proofs.Naming.RepeatedRequests`: only the first request for a key counts

A request whose key has been interned is answered with the handle that the key has, and leaves the
registry as it is. So after any requests in turn the registry holds those whose key was new when
they were made (`unrepeated`), and handles count the keys in the order in which they came first
(`distinctKeys`). Requests that are made later add keys at the end, which moves none: a handle is
the same whenever it is asked for, and also where the repeated requests are left out.

- `Registry.requests_ofRequests_eq`, `Registry.ofRequests_unrepeated`: which requests a registry
  holds.
- `Registry.get?_ofRequests`: the handles that keys have.
- `Registry.answers_ofRequests`: the handles that requests are answered with.
- `Registry.repeated_requests_change_nothing`: all this of a whole run, with and without repeated
  requests.
-/

set_option autoImplicit false

namespace StateTree.Naming

variable {κ : Type} [DecidableEq κ]

/-- The keys that requests are for, in the order in which they come first. This is the list that
handles are positions in. -/
def distinctKeys (requests : List (Request κ)) : List κ :=
  (requests.map Request.key).eraseDups

/-- The requests whose key did not come before, where the keys `seen` came before all of them.
What a repeated request proposes makes no difference to which requests these are. -/
def unrepeated (seen : List κ) : List (Request κ) → List (Request κ)
  | [] => []
  | request :: rest =>
    if request.key ∈ seen then unrepeated seen rest
    else request :: unrepeated (request.key :: seen) rest

/-! ### Keys and requests that come first -/

/-- A key is among the distinct ones if there is a request for it. -/
theorem mem_distinctKeys_iff {requests : List (Request κ)} {key : κ} :
    key ∈ distinctKeys requests ↔ key ∈ requests.map Request.key :=
  List.mem_eraseDups

/-- One more request adds its key at the end if it is new. It is the step of the inductions below,
which go from the end as a registry is filled. -/
theorem distinctKeys_append_singleton (requests : List (Request κ)) (request : Request κ) :
    distinctKeys (requests ++ [request]) =
      if request.key ∈ requests.map Request.key then distinctKeys requests
      else distinctKeys requests ++ [request.key] := by
  rw [distinctKeys, List.map_append, List.map_singleton, eraseDups_append_singleton]
  rfl

/-- Requests that are made later leave the order of the keys before them as it is. So a handle
means the same key later on. -/
theorem distinctKeys_prefix_append (requests more : List (Request κ)) :
    distinctKeys requests <+: distinctKeys (requests ++ more) := by
  rw [distinctKeys, distinctKeys, List.map_append, List.eraseDups_append]
  exact List.prefix_append _ _

/-- One more request is repeated if there was one for its key, or if its key was seen before all
of them. -/
theorem unrepeated_append_singleton (seen : List κ) (requests : List (Request κ))
    (request : Request κ) :
    unrepeated seen (requests ++ [request]) =
      if request.key ∈ seen ∨ request.key ∈ requests.map Request.key then unrepeated seen requests
      else unrepeated seen requests ++ [request] := by
  induction requests generalizing seen with
  | nil => simp [unrepeated]
  | cons first rest ih =>
    rw [List.cons_append, unrepeated, unrepeated]
    by_cases hfirst : first.key ∈ seen
    · -- The first request adds nothing to the keys that have been seen.
      have hseen : request.key ∈ seen ∨ request.key ∈ (first :: rest).map Request.key ↔
          request.key ∈ seen ∨ request.key ∈ rest.map Request.key := by
        rw [List.map_cons, List.mem_cons]
        constructor
        · rintro (hmem | heq | hmem)
          · exact .inl hmem
          · exact .inl (heq ▸ hfirst)
          · exact .inr hmem
        · rintro (hmem | hmem)
          · exact .inl hmem
          · exact .inr (.inr hmem)
      rw [if_pos hfirst, if_pos hfirst, ih]
      simp only [hseen]
    · rw [if_neg hfirst, if_neg hfirst, ih]
      simp only [List.map_cons, List.mem_cons, or_assoc, or_left_comm]
      split <;> rfl

/-- The keys of the requests that are not repeated are the distinct ones, in the same order.
Positions among the one are positions among the other. -/
theorem map_key_unrepeated (requests : List (Request κ)) :
    (unrepeated [] requests).map Request.key = distinctKeys requests := by
  induction requests using List.reverseRecOn with
  | nil => rfl
  | append_singleton requests request ih =>
    rw [unrepeated_append_singleton, distinctKeys_append_singleton]
    by_cases h : request.key ∈ requests.map Request.key <;> simp [h, ih]

/-- Among requests that are not repeated none is. So leaving out repetitions twice is leaving them
out once. -/
theorem unrepeated_unrepeated (seen : List κ) (requests : List (Request κ)) :
    unrepeated seen (unrepeated seen requests) = unrepeated seen requests := by
  induction requests generalizing seen with
  | nil => rfl
  | cons request rest ih =>
    rw [unrepeated]
    split
    · exact ih seen
    · rename_i hnew
      rw [unrepeated, if_neg hnew, ih]

/-- Requests that are repeated add nothing to the distinct keys. The handles are the same without
them. -/
theorem distinctKeys_unrepeated (requests : List (Request κ)) :
    distinctKeys (unrepeated [] requests) = distinctKeys requests := by
  rw [← map_key_unrepeated, unrepeated_unrepeated, map_key_unrepeated]

namespace Registry

/-! ### What a registry holds -/

/-- After some requests in turn the registry holds those that are not repeated. From it everything
else about a registry is read off the list of requests. -/
theorem requests_ofRequests_eq (requests : List (Request κ)) :
    (ofRequests requests).requests = unrepeated [] requests := by
  induction requests using List.reverseRecOn with
  | nil => rfl
  | append_singleton requests request ih =>
    have hknown : ((ofRequests requests).get? request.key).isSome ↔
        request.key ∈ requests.map Request.key := by
      rw [get?_isSome_iff, ih, ← mem_distinctKeys_iff, ← map_key_unrepeated, List.mem_map]
    rw [ofRequests_append, unrepeated_append_singleton]
    -- The key has a handle if it has been requested, and then the request changes nothing.
    cases hget : (ofRequests requests).get? request.key with
    | some id =>
      rw [hget] at hknown
      rw [intern_of_some hget, ih, if_pos (.inr (hknown.1 rfl))]
    | none =>
      rw [hget] at hknown
      have hnew : request.key ∉ requests.map Request.key := fun hmem => by
        simpa using hknown.2 hmem
      rw [(intern_of_none hget).1, ih, if_neg (by simpa using hnew)]

/-- Leaving out repeated requests leads to the same registry, and so to the same names by every
convention. -/
theorem ofRequests_unrepeated (requests : List (Request κ)) :
    ofRequests (unrepeated [] requests) = ofRequests requests := by
  have hsame : (ofRequests (unrepeated [] requests)).requests = (ofRequests requests).requests := by
    rw [requests_ofRequests_eq, unrepeated_unrepeated, requests_ofRequests_eq]
  exact congrArg Registry.mk hsame

/-! ### The handles of keys -/

/-- The handle of a key is its position among the distinct keys, and a key that was not requested
has none. -/
theorem get?_ofRequests (requests : List (Request κ)) (key : κ) :
    (ofRequests requests).get? key = ((distinctKeys requests).idxOf? key).map NameId.mk := by
  rw [get?, requests_ofRequests_eq, ← map_key_unrepeated, List.idxOf?, List.findIdx?_map]
  rfl

/-- The handle of a key that one of the requests is for: its position among the distinct keys. It
is said of all requests of a run, also of those that come after the look-up. -/
def handleIn (requests : List (Request κ)) (key : κ) : NameId :=
  ⟨(distinctKeys requests).idxOf key⟩

/-- A key has its handle as soon as there is a request for it, and keeps it. The requests `more`
are those that are still to come. -/
theorem get?_ofRequests_of_append (requests more : List (Request κ)) (key : κ) :
    (ofRequests requests).get? key =
      if key ∈ requests.map Request.key then some (handleIn (requests ++ more) key) else none := by
  rw [get?_ofRequests]
  split
  · rename_i hmem
    have hkey : key ∈ distinctKeys requests := mem_distinctKeys_iff.2 hmem
    -- The key is among the first keys already, so its position is counted there.
    have hsame := (distinctKeys_prefix_append requests more).idxOf_eq_of_mem hkey
    obtain ⟨i, hi⟩ := Option.isSome_iff_exists.1 (List.isSome_idxOf?.2 hkey)
    have hindex : (distinctKeys requests).idxOf key = i := by
      rw [List.idxOf_eq_getD_idxOf?, hi, Option.getD_some]
    rw [hi, handleIn, ← hsame, hindex]
    rfl
  · rename_i hmem
    have hkey : key ∉ distinctKeys requests := mt mem_distinctKeys_iff.1 hmem
    rw [List.idxOf?_eq_none_iff.2 hkey]
    rfl

/-! ### What requests are answered with -/

/-- The handles that requests in turn are answered with. A request whose key was there before is
answered with the old handle. -/
def answers (registry : Registry κ) : List (Request κ) → List NameId
  | [] => []
  | request :: rest =>
    let (id, registry) := registry.intern request.key request.proposals request.rank
    id :: answers registry rest

/-- A request is answered with the handle that its key has afterwards, whether it is a new one or
not. -/
theorem get?_snd_intern (registry : Registry κ) (key : κ) (proposals : List String) (rank : Nat) :
    (registry.intern key proposals rank).2.get? key =
      some (registry.intern key proposals rank).1 := by
  cases hget : registry.get? key with
  | some id => simp [intern, hget]
  | none =>
    let request : Request κ := ⟨key, proposals, rank⟩
    have hnone : registry.get? request.key = none := hget
    obtain ⟨hnew, hindex⟩ := intern_of_none hnone
    rw [hnew, hindex]
    simp [intern, hget, size]

/-- Requests are answered with the positions of their keys among the distinct ones. The requests
`before` have been made by then, and belong to the run. -/
theorem answers_ofRequests (before after : List (Request κ)) :
    (ofRequests before).answers after =
      after.map fun request => handleIn (before ++ after) request.key := by
  induction after generalizing before with
  | nil => rfl
  | cons request rest ih =>
    have hsplit : before ++ request :: rest = before ++ [request] ++ rest := by simp
    have hanswer := get?_snd_intern (ofRequests before) request.key request.proposals request.rank
    rw [← ofRequests_append, get?_ofRequests_of_append _ rest, if_pos (by simp)] at hanswer
    rw [hsplit, List.map_cons, Option.some.inj hanswer, ← ih, ofRequests_append]
    rfl

/-- Whatever names are requested in turn, the handle of a key is its position among the distinct
keys in the order in which they come first. A look-up finds it after any number of requests, for the
keys requested so far and for no others; there are as many requests then as distinct keys; and every
request is answered with it. The requests that are held are those that are not repeated. So leaving
out all others changes no answer to those that remain, and no name by any convention. -/
theorem repeated_requests_change_nothing (requests : List (Request κ)) :
    (∀ n key, (ofRequests (requests.take n)).get? key =
      if key ∈ (requests.take n).map Request.key then some (handleIn requests key) else none) ∧
    (∀ n, (ofRequests (requests.take n)).size = (distinctKeys (requests.take n)).length) ∧
    answers {} requests = requests.map (fun request => handleIn requests request.key) ∧
    answers {} (unrepeated [] requests) =
      (unrepeated [] requests).map (fun request => handleIn requests request.key) ∧
    (ofRequests requests).requests = unrepeated [] requests ∧
    ∀ convention acronyms, (ofRequests (unrepeated [] requests)).assign convention acronyms =
      (ofRequests requests).assign convention acronyms := by
  refine ⟨?_, ?_, answers_ofRequests [] requests, ?_, requests_ofRequests_eq requests, ?_⟩
  · intro n key
    rw [get?_ofRequests_of_append _ (requests.drop n), List.take_append_drop]
  · intro n
    rw [size, requests_ofRequests_eq, ← map_key_unrepeated, List.length_map]
  · -- The distinct keys are the same without the repeated requests, and so are the handles.
    have hanswers := answers_ofRequests [] (unrepeated [] requests)
    rw [List.nil_append] at hanswers
    simp only [handleIn, distinctKeys_unrepeated] at hanswers
    exact hanswers
  · intro convention acronyms
    rw [ofRequests_unrepeated]

end Registry

end StateTree.Naming
