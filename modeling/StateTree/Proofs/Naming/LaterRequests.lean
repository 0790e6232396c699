import StateTree.Naming.TypeNames
import StateTree.Proofs.Naming.Resolution

/-!
# `StateTree.Proofs.Naming.LaterRequests`: a later request renames nothing that precedes it

Requests choose one after the other, so a name depends on the requests that choose before it and on
nothing else. A request that is made last chooses after all others of its own rank and of lower
ranks. It pushes itself between these and the requests of higher ranks, and only the latter may have
to take other names.

That the order is otherwise the same follows from what the order is: no two requests precede each
other, so there is only one way to arrange the requests such that each precedes those behind it.

- `assignFrom_append`: names do not depend on the candidates behind.
- `Registry.ranked_eq_of_pairwise`: there is one order by rank.
- `Registry.ranked_append`: where one more request goes in this order.
- `memberNames_eq`: names inside one declaration are those of requests of one rank.
- `Registry.later_request_keeps_names`: which names stay when a request is added.
-/

set_option autoImplicit false

namespace StateTree.Naming

open StateTree.Text (AcronymStyle)

/-- The first candidates get their names whatever candidates come behind them. Those behind find
the names of the first in use. -/
theorem assignFrom_append (used : List String) (front back : List Candidate) :
    assignFrom used (front ++ back) = assignFrom used front ++
      assignFrom (((assignFrom used front).map Prod.snd).reverse ++ used) back := by
  induction front generalizing used with
  | nil => rfl
  | cons candidate rest ih =>
    obtain ⟨id, styled⟩ := candidate
    simp [assignFrom, ih]

/-! ### The order by rank -/

section

variable {κ : Type} {requests : List (Request κ)}

/-- A request keeps its place where more requests are made. -/
theorem getElem?_append_of_some {i : Nat} {request : Request κ}
    (h : requests[i]? = some request) (more : List (Request κ)) :
    (requests ++ more)[i]? = some request := by
  rw [List.getElem?_append_left (List.getElem?_eq_some_iff.1 h).1, h]

/-- No two requests precede each other. This is what makes the order by rank the only one of its
kind. -/
theorem Precedes.asymm {id id' : NameId} (h : Precedes requests id id') :
    ¬ Precedes requests id' id := by
  obtain ⟨request, request', hid, hid', horder⟩ := h
  rintro ⟨other', other, hother', hother, horder'⟩
  obtain rfl := Option.some.inj (hid.symm.trans hother)
  obtain rfl := Option.some.inj (hid'.symm.trans hother')
  omega

/-- A request still precedes another one where more requests are made: both keep their positions
and ranks. -/
theorem Precedes.append {id id' : NameId} (h : Precedes requests id id')
    (more : List (Request κ)) : Precedes (requests ++ more) id id' := by
  obtain ⟨request, request', hid, hid', horder⟩ := h
  exact ⟨request, request', getElem?_append_of_some hid more, getElem?_append_of_some hid' more,
    horder⟩

namespace Registry

variable {registry : Registry κ}

/-- Requests of which each precedes those behind it are in the order by rank. To know the order
after one more request it is enough to write a list down that is in order; nothing has to be known
of sorting. -/
theorem ranked_eq_of_pairwise {entries : List (Request κ × NameId)}
    (hperm : entries.Perm registry.handled)
    (hsorted : entries.Pairwise fun a b => Precedes registry.requests a.2 b.2) :
    registry.ranked = entries := by
  have hranked := registry.pairwise_ranked
  rw [List.pairwise_map] at hranked
  refine List.Perm.eq_of_pairwise ?_ hranked hsorted (registry.ranked_perm.trans hperm.symm)
  intro a b _ _ hab hba
  exact absurd hba hab.asymm

/-- The requests up to a rank, in their order. A request that is made later at this rank chooses
after all of them. -/
def upTo (registry : Registry κ) (rank : Nat) : List (Request κ × NameId) :=
  registry.ranked.filter fun entry => entry.1.rank ≤ rank

/-- The requests past a rank, in their order. These may get other names by one more request of the
rank, and all others keep theirs. -/
def past (registry : Registry κ) (rank : Nat) : List (Request κ × NameId) :=
  registry.ranked.filter fun entry => !decide (entry.1.rank ≤ rank)

variable {rank : Nat} {entry : Request κ × NameId}

/-- The requests up to a rank are those of this rank and of lower ones. -/
theorem mem_upTo_iff : entry ∈ registry.upTo rank ↔
    registry.requests[entry.2.index]? = some entry.1 ∧ entry.1.rank ≤ rank := by
  rw [upTo, List.mem_filter, registry.ranked_perm.mem_iff, mem_handled_iff, decide_eq_true_eq]

/-- The requests past a rank are those of higher ones. -/
theorem mem_past_iff : entry ∈ registry.past rank ↔
    registry.requests[entry.2.index]? = some entry.1 ∧ rank < entry.1.rank := by
  rw [past, List.mem_filter, registry.ranked_perm.mem_iff, mem_handled_iff]
  simp

/-- All requests are up to a rank or past it, and each of them once. -/
theorem upTo_append_past_perm (registry : Registry κ) (rank : Nat) :
    (registry.upTo rank ++ registry.past rank).Perm registry.handled :=
  (List.filter_append_perm _ registry.ranked).trans registry.ranked_perm

/-- Requests up to a rank precede those past it, and on each side the order is the one of before.
-/
theorem pairwise_upTo_append_past (registry : Registry κ) (rank : Nat) :
    (registry.upTo rank ++ registry.past rank).Pairwise fun a b =>
      Precedes registry.requests a.2 b.2 := by
  have hranked := registry.pairwise_ranked
  rw [List.pairwise_map] at hranked
  refine List.pairwise_append.2 ⟨hranked.filter _, hranked.filter _, ?_⟩
  intro a ha b hb
  obtain ⟨hat, hle⟩ := mem_upTo_iff.1 ha
  obtain ⟨hbt, hlt⟩ := mem_past_iff.1 hb
  exact ⟨a.1, b.1, hat, hbt, .inl (Nat.lt_of_le_of_lt hle hlt)⟩

/-- First come the requests up to a rank and then those past it. -/
theorem ranked_eq_append (registry : Registry κ) (rank : Nat) :
    registry.ranked = registry.upTo rank ++ registry.past rank :=
  ranked_eq_of_pairwise (registry.upTo_append_past_perm rank)
    (registry.pairwise_upTo_append_past rank)

/-- One more request goes behind those up to its rank and before those past it. So those up to its
rank choose as if it were not there. -/
theorem ranked_append (registry : Registry κ) (request : Request κ) :
    ranked ⟨registry.requests ++ [request]⟩ = registry.upTo request.rank ++
      (request, ⟨registry.requests.length⟩) :: registry.past request.rank := by
  have hlast : (registry.requests ++ [request])[registry.requests.length]? = some request := by
    simp
  refine ranked_eq_of_pairwise ?_ ?_
  · have hhandled : handled ⟨registry.requests ++ [request]⟩ =
        registry.handled ++ [(request, ⟨registry.requests.length⟩)] := by
      simp [handled, List.zipIdx_append]
    rw [hhandled]
    exact List.perm_middle.trans (((registry.upTo_append_past_perm _).cons _).trans
      (List.perm_append_singleton _ _).symm)
  -- Without the new request the list is in order.
  · have hsorted := (registry.pairwise_upTo_append_past request.rank).imp
      fun h => h.append [request]
    obtain ⟨hupTo, hpast, hacross⟩ := List.pairwise_append.1 hsorted
    refine List.pairwise_append.2 ⟨hupTo, List.pairwise_cons.2 ⟨?_, hpast⟩, ?_⟩
    · intro b hb
      obtain ⟨hbt, hlt⟩ := mem_past_iff.1 hb
      exact ⟨request, b.1, hlast, getElem?_append_of_some hbt _, .inl hlt⟩
    · intro a ha b hb
      rcases List.mem_cons.1 hb with rfl | hb
      · -- The new request was made after all others, also after those of its own rank.
        obtain ⟨hat, hle⟩ := mem_upTo_iff.1 ha
        refine ⟨a.1, request, getElem?_append_of_some hat _, hlast, ?_⟩
        rcases Nat.lt_or_eq_of_le hle with hlt | heq
        · exact .inl hlt
        · exact .inr ⟨heq, (List.getElem?_eq_some_iff.1 hat).1⟩
      · exact hacross a ha b hb

/-! ### Names -/

/-- A request up to the rank of one more request keeps its name. The names of the requests up to
the rank are given first, and the same ones both times. -/
theorem resolve?_assign_append {request earlier : Request κ} {id : NameId}
    (hid : registry.requests[id.index]? = some earlier) (hrank : earlier.rank ≤ request.rank)
    (convention : Convention) (acronyms : AcronymStyle) :
    (assign ⟨registry.requests ++ [request]⟩ convention acronyms).resolve? id =
      (registry.assign convention acronyms).resolve? id := by
  let candidate : Request κ × NameId → Candidate := fun entry =>
    (entry.2, styledProposals convention acronyms entry.1)
  let early := assignFrom convention.reserved ((registry.upTo request.rank).map candidate)
  -- Both times the name is given among the requests up to the rank.
  have hmem : id ∈ early.map Prod.fst := by
    rw [map_fst_assignFrom, List.map_map]
    exact List.mem_map.2 ⟨(earlier, id), mem_upTo_iff.2 ⟨hid, hrank⟩, rfl⟩
  have hfound : ∀ others, (early ++ others).lookup id = early.lookup id := by
    intro others
    obtain ⟨entry, hentry, rfl⟩ := List.mem_map.1 hmem
    have hsome : (early.lookup entry.1).isSome :=
      List.lookup_isSome_iff.2 ⟨entry, hentry, by simp⟩
    rw [List.lookup_append, Option.or_of_isSome hsome]
  rw [Names.resolve?, Names.resolve?, assign, assign, ranked_append, ranked_eq_append registry
    request.rank, List.map_append, List.map_append, assignFrom_append, assignFrom_append]
  exact (hfound _).trans (hfound _).symm

/-- Requests of one rank stay in the order in which they were made. The members of a declaration
are such requests. -/
theorem ranked_eq_handled (h : ∀ request ∈ registry.requests, request.rank = rank) :
    registry.ranked = registry.handled := by
  refine ranked_eq_of_pairwise (List.Perm.refl _) (registry.pairwise_handled.imp_of_mem ?_)
  intro a b ha hb hlt
  have ha := mem_handled_iff.1 ha
  have hb := mem_handled_iff.1 hb
  have hsame : a.1.rank = b.1.rank :=
    (h a.1 (List.mem_of_getElem? ha)).trans (h b.1 (List.mem_of_getElem? hb)).symm
  exact ⟨a.1, b.1, ha, hb, .inr ⟨hsame, hlt⟩⟩

/-- Where no key comes twice, every request is kept. The keys of members are their positions, so
this is their case. -/
theorem requests_ofRequests [DecidableEq κ] (h : (requests.map Request.key).Nodup) :
    (ofRequests requests).requests = requests := by
  induction requests using List.reverseRecOn with
  | nil => rfl
  | append_singleton requests request ih =>
    rw [List.map_append, List.nodup_append] at h
    obtain ⟨hbefore, -, hnew⟩ := h
    have ih := ih hbefore
    -- The last key is new, so the request is put at the end as it is.
    have hnone : (ofRequests requests).get? request.key = none := by
      rw [← Option.not_isSome_iff_eq_none, get?_isSome_iff, ih]
      rintro ⟨other, hother, hkey⟩
      exact hnew other.key (List.mem_map_of_mem hother) request.key (by simp) hkey
    rw [ofRequests_append, (intern_of_none hnone).1, ih]

end Registry

end

/-! ### Names inside one declaration -/

/-- The requests for the members of one declaration, all of one rank and each under its position.
As the keys are positions, no request is dropped for one before it. -/
def memberRequests (members : List String) : List (Request Nat) :=
  members.zipIdx.map fun (member, i) => ⟨i, [member], 0⟩

/-- The names of the members of one declaration are those of their requests. So what is shown of
registries holds for them, although they are named without one. -/
theorem memberNames_eq (convention : Convention) (acronyms : AcronymStyle)
    (members : List String) :
    memberNames convention acronyms members =
      ((Registry.ofRequests (memberRequests members)).assign convention acronyms).entries.map
        Prod.snd := by
  have hkeys : (memberRequests members).map Request.key = List.range members.length := by
    have hpositions : (memberRequests members).map Request.key = members.zipIdx.map Prod.snd := by
      rw [memberRequests, List.map_map]
      rfl
    rw [hpositions, List.zipIdx_map_snd, List.range_eq_range']
  have hrequests : (Registry.ofRequests (memberRequests members)).requests =
      memberRequests members :=
    Registry.requests_ofRequests (by rw [hkeys]; exact List.nodup_range)
  have hrank : ∀ request ∈ (Registry.ofRequests (memberRequests members)).requests,
      request.rank = 0 := by
    rw [hrequests]
    intro request hrequest
    obtain ⟨_, -, rfl⟩ := List.mem_map.1 hrequest
    rfl
  -- A member stands at the same place among the members, their requests and the handles of these.
  have hcandidates : members.zipIdx.map (fun (member, i) =>
        ((⟨i⟩, [convention.apply acronyms member]) : Candidate)) =
      (memberRequests members).zipIdx.map fun (request, i) =>
        (⟨i⟩, Registry.styledProposals convention acronyms request) := by
    refine List.ext_getElem (by simp [memberRequests]) ?_
    intro i _ _
    simp [memberRequests, Registry.styledProposals]
  rw [memberNames, hcandidates, Registry.assign, Registry.ranked_eq_handled hrank,
    Registry.handled, hrequests, List.map_map]
  rfl

/-- A member that is added behind the others leaves their names as they are. All members are of
one rank, so the last one chooses last. -/
theorem memberNames_append (convention : Convention) (acronyms : AcronymStyle)
    (members : List String) (member : String) :
    ∃ name, memberNames convention acronyms (members ++ [member]) =
      memberNames convention acronyms members ++ [name] := by
  rw [memberNames, List.zipIdx_append, List.map_append, assignFrom_append, List.map_append]
  exact ⟨_, rfl⟩

/-! ### One request after all others -/

namespace Registry

variable {κ : Type} [DecidableEq κ]

/-- Whatever request is made after all others, every key of its rank or of a lower one keeps its
handle and its name. So do the cases of an enum and the properties of a class when one more is added
behind them, since their names are those of requests of one rank. -/
theorem later_request_keeps_names (requests : List (Request κ)) (request : Request κ)
    (convention : Convention) (acronyms : AcronymStyle) :
    (∀ key earlier, requests.find? (fun other => other.key = key) = some earlier →
      earlier.rank ≤ request.rank →
      ∃ id name, (ofRequests requests).get? key = some id ∧
        (ofRequests (requests ++ [request])).get? key = some id ∧
        ((ofRequests requests).assign convention acronyms).resolve? id = some name ∧
        ((ofRequests (requests ++ [request])).assign convention acronyms).resolve? id =
          some name) ∧
    (∀ members, memberNames convention acronyms members =
      ((ofRequests (memberRequests members)).assign convention acronyms).entries.map Prod.snd) ∧
    (∀ cases value, ∃ name, enumCaseNames acronyms (cases ++ [value]) =
      enumCaseNames acronyms cases ++ [name]) ∧
    ∀ properties property, ∃ name, nicePropertyNames acronyms (properties ++ [property]) =
      nicePropertyNames acronyms properties ++ [name] := by
  refine ⟨?_, memberNames_eq convention acronyms, memberNames_append .enumCase acronyms,
    memberNames_append .property acronyms⟩
  -- This is about any registry. The three other parts are about members, all of which have the
  -- same rank.
  intro key earlier hearlier hrank
  rw [← request?_ofRequests, request?, Option.bind_eq_some_iff] at hearlier
  obtain ⟨id, hid, hearlier⟩ := hearlier
  obtain ⟨name, hname⟩ := resolve?_assign hid convention acronyms
  refine ⟨id, name, hid, ?_, hname, ?_⟩
  · rw [ofRequests_append]
    exact get?_intern_of_some hid _ _
  · rw [ofRequests_append]
    cases hget : (ofRequests requests).get? request.key with
    -- A known key changes nothing. A new one is named after the earlier request, as its rank is
    -- no lower.
    | some other => rw [intern_of_some hget, hname]
    | none =>
      rw [(intern_of_none hget).1, resolve?_assign_append hearlier hrank convention acronyms,
        hname]

/-- Two requests that propose one name, the first at a lower rank. -/
def rivals : List (Request String) :=
  [⟨"first", ["item"], 10⟩, ⟨"second", ["Item"], 30⟩]

/-- A request that proposes the same name at the lower rank. -/
def newcomer : Request String :=
  ⟨"third", ["item"], 10⟩

/-- The requests of `rivals` come in the order of their ranks, as they were made. -/
theorem ranked_rivals : (ofRequests rivals).ranked = (ofRequests rivals).handled :=
  List.mergeSort_of_pairwise (by decide)

/-- The names of `rivals`: the second request finds the name it proposes in use. -/
theorem entries_rivals : ((ofRequests rivals).assign .enumCase .pascal).entries =
    [(⟨0⟩, "Item"), (⟨1⟩, "Item2")] := by
  rw [assign, ranked_rivals]
  decide +kernel

/-- The names of `rivals` and the newcomer, which chooses between them. -/
theorem entries_newcomer :
    ((ofRequests (rivals ++ [newcomer])).assign .enumCase .pascal).entries =
      [(⟨0⟩, "Item"), (⟨2⟩, "Item2"), (⟨1⟩, "Item3")] := by
  have hlast : ofRequests (rivals ++ [newcomer]) =
      ⟨(ofRequests rivals).requests ++ [newcomer]⟩ := rfl
  -- Where the newcomer goes is known from `ranked_append`, so nothing has to be sorted.
  rw [hlast, assign, ranked_append, upTo, past, ranked_rivals]
  decide +kernel

/-- The first of `rivals` keeps its name when the newcomer proposes it, too, at the same rank. The
second, of a higher rank, then has to take the next number. -/
theorem later_rival_keeps_names :
    rivals.find? (fun other => other.key = "first") = some ⟨"first", ["item"], 10⟩ ∧
      (∃ id name, (ofRequests rivals).get? "first" = some id ∧
        (ofRequests (rivals ++ [newcomer])).get? "first" = some id ∧
        ((ofRequests rivals).assign .enumCase .pascal).resolve? id = some name ∧
        ((ofRequests (rivals ++ [newcomer])).assign .enumCase .pascal).resolve? id = some name) ∧
      ((ofRequests rivals).assign .enumCase .pascal).resolve? ⟨1⟩ = some "Item2" ∧
      ((ofRequests (rivals ++ [newcomer])).assign .enumCase .pascal).resolve? ⟨1⟩ =
        some "Item3" := by
  have hfirst : rivals.find? (fun other => other.key = "first") = some ⟨"first", ["item"], 10⟩ :=
    rfl
  refine ⟨hfirst, ?_, ?_, ?_⟩
  · exact (later_request_keeps_names rivals newcomer .enumCase .pascal).1 "first" _ hfirst
      (Nat.le_refl 10)
  -- The request of the higher rank does not keep its name: its number goes from two to three.
  · rw [Names.resolve?, entries_rivals]
    rfl
  · rw [Names.resolve?, entries_newcomer]
    rfl

end Registry

end StateTree.Naming
