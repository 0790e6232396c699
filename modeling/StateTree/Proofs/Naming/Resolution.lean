import Mathlib.Data.List.Induction
import Mathlib.Data.List.Nodup
import StateTree.Proofs.Naming.Handles

/-!
# `StateTree.Proofs.Naming.Resolution`: every request gets the first name it may have

Requests are named one after the other, those of lower rank first and those of one rank in the order
in which they were made. A name that is given away is held from then on. Each request gets the first
of its styled proposals that is neither reserved nor held. If there is none, it gets the first one
with the least number from two up.

The search for a number ends although it has no bound. Every name that it passes over leaves the
list of names in use, and no later number makes that name again, because decimals are injective. So
the list with all names in use and the list that is left have the same numbers from there on.

Sorting by rank is stable, which is what decides between requests of one rank: those of each rank
stand in the sorted list as they stand in the registry (`Registry.filter_ranked`).

- `Chosen`: the name that a request gets, given which names are free.
- `firstNumbered_eq`, `chooseName_chosen`: how one name is found.
- `assignFrom_chosen`, `notMem_of_mem_assignFrom`, `nodup_assignFrom`: how names are given one after
  the other.
- `Registry.filter_ranked`, `Registry.pairwise_ranked`: who chooses first.
- `Registry.assign_resolution`: all this of one registry.
- `Registry.assign_ofRequests`: all this of any requests made one after the other.
-/

set_option autoImplicit false

namespace StateTree.Naming

open StateTree.Text (AcronymStyle)

/-! ### One name -/

/-- The name that styled proposals lead to, where `free` says which names may still be given. It
says which name is the right one, and nothing of how it is looked for. -/
inductive Chosen (free : String → Prop) (styled : List String) : String → Prop
  /-- The first free proposal. -/
  | proposal {before after : List String} {name : String}
    (hstyled : styled = before ++ name :: after) (hfree : free name)
    (htaken : ∀ other ∈ before, ¬ free other) : Chosen free styled name
  /-- Where no proposal is free, the first one with the least number that makes it so. -/
  | numbered {base : String} {rest : List String} {n : Nat} (hstyled : styled = base :: rest)
    (htaken : ∀ other ∈ styled, ¬ free other) (hn : 2 ≤ n) (hfree : free (base ++ toString n))
    (hleast : ∀ k, 2 ≤ k → k < n → ¬ free (base ++ toString k)) :
    Chosen free styled (base ++ toString n)

/-- A chosen name is free. -/
theorem Chosen.free {free : String → Prop} {styled : List String} {name : String}
    (h : Chosen free styled name) : free name := by
  cases h with
  | proposal _ hfree => exact hfree
  | numbered _ _ _ hfree => exact hfree

/-- A chosen name is a styled proposal, possibly with a number. What is known of the characters of
styled proposals is thereby known of names. -/
theorem Chosen.exists_base {free : String → Prop} {styled : List String} {name : String}
    (h : Chosen free styled name) :
    ∃ base ∈ styled, name = base ∨ ∃ n : Nat, name = base ++ toString n := by
  cases h with
  | proposal hstyled => exact ⟨name, by simp [hstyled], .inl rfl⟩
  | @numbered base _ n hstyled => exact ⟨base, by simp [hstyled], .inr ⟨n, rfl⟩⟩

/-- Two numbers make two names of one text. So of the numbered names only one is taken by each
name that is in use, and the search for a free one comes to an end. -/
theorem numbered_injective (base : String) {m n : Nat}
    (h : base ++ toString m = base ++ toString n) : m = n := by
  -- The digits can be read off behind the text, and a number off its digits.
  have hdigits : Nat.toDigits 10 m = Nat.toDigits 10 n := by
    simpa [Nat.toString_eq_repr, Nat.toList_repr] using congrArg String.toList h
  have hvalue := congrArg (fun digits => Nat.ofDigitChars 10 digits 0) hdigits
  simpa [Nat.ofDigitChars_toDigits] using hvalue

/-- The search for a number stops at the least one from `n` up whose name is not in use. Every
name that is passed over is taken off the list, which is what ends the search; the statement is
about the list at the start. -/
theorem firstNumbered_eq (base : String) (used : List String) (n : Nat) :
    ∃ m, n ≤ m ∧ firstNumbered base used n = base ++ toString m ∧ base ++ toString m ∉ used ∧
      ∀ k, n ≤ k → k < m → base ++ toString k ∈ used := by
  fun_induction firstNumbered base used n with
  | case1 used n candidate hused ih =>
    obtain ⟨m, hm, heq, hfree, hpassed⟩ := ih
    -- The name that is passed over has left the list, but no later number makes it again.
    have hne : base ++ toString m ≠ candidate := by
      intro h
      have hmn : m = n := numbered_injective base h
      omega
    refine ⟨m, by omega, heq, ?_, ?_⟩
    · intro hmem
      exact hfree ((List.mem_erase_of_ne hne).2 hmem)
    · intro k hk hkm
      rcases Nat.eq_or_lt_of_le hk with rfl | hk
      · exact hused
      · exact List.mem_of_mem_erase (hpassed k hk hkm)
  | case2 used n candidate hfree =>
    refine ⟨n, Nat.le_refl n, rfl, hfree, ?_⟩
    intro k hk hkn
    omega

variable {used styled : List String}

/-- The name for some styled proposals is the one that they lead to. Without a proposal there is
nothing to put a number to, so `hstyled` is asked for. -/
theorem chooseName_chosen (hstyled : styled ≠ []) :
    Chosen (fun name => name ∉ used) styled (chooseName used styled) := by
  unfold chooseName
  split
  · rename_i name hfind
    obtain ⟨hfree, before, after, rfl, htaken⟩ := List.find?_eq_some_iff_append.1 hfind
    refine .proposal rfl (by simpa using hfree) ?_
    intro other hother
    simpa using htaken other hother
  · -- No proposal is free, so the first of them is numbered, beginning with two.
    rename_i hfind
    have htaken : ∀ name ∈ styled, ¬ name ∉ used := by simpa using hfind
    obtain ⟨base, rest, rfl⟩ := List.exists_cons_of_ne_nil hstyled
    obtain ⟨n, hn, heq, hfree, hpassed⟩ := firstNumbered_eq base used 2
    rw [List.headD_cons, heq]
    refine .numbered rfl htaken hn hfree ?_
    intro k hk hkn hnot
    exact hnot (hpassed k hk hkn)

/-! ### Names one after the other -/

variable {candidates : List Candidate}

/-- Every name is the one that the styled proposals of its candidate lead to, when the names given
before it are in use. What is in use grows by each name that is given. -/
theorem assignFrom_chosen (hstyled : ∀ candidate ∈ candidates, candidate.2 ≠ [])
    {before after : List (NameId × String)} {id : NameId} {name : String}
    (h : assignFrom used candidates = before ++ (id, name) :: after) :
    ∃ styled, (id, styled) ∈ candidates ∧
      Chosen (fun name => name ∉ used ∧ name ∉ before.map Prod.snd) styled name := by
  induction candidates generalizing used before with
  | nil => simp [assignFrom] at h
  | cons candidate rest ih =>
    obtain ⟨first, styled⟩ := candidate
    rw [assignFrom] at h
    cases before with
    | nil =>
      -- The candidate chooses first, when only the given names are in use.
      obtain ⟨hentry, -⟩ := List.cons.inj h
      obtain ⟨rfl, rfl⟩ := Prod.mk.inj hentry
      have hchosen : Chosen (fun name => name ∉ used) styled (chooseName used styled) :=
        chooseName_chosen (hstyled (first, styled) (by simp))
      exact ⟨styled, by simp, by simpa using hchosen⟩
    | cons entry before =>
      -- The rest of the names is chosen when that of the first candidate is in use, too.
      obtain ⟨rfl, htail⟩ := List.cons.inj h
      have hrest : ∀ other ∈ rest, other.2 ≠ [] := fun other hother =>
        hstyled other (by simp [hother])
      obtain ⟨styled', hmem, hchosen⟩ := ih hrest htail
      refine ⟨styled', by simp [hmem], ?_⟩
      simpa [and_assoc, and_comm, and_left_comm] using hchosen

/-- No name is given that is in use. For the first candidates these are the reserved names, for
later ones the names of those before as well. -/
theorem notMem_of_mem_assignFrom (hstyled : ∀ candidate ∈ candidates, candidate.2 ≠ [])
    {entry : NameId × String} (h : entry ∈ assignFrom used candidates) : entry.2 ∉ used := by
  obtain ⟨before, after, hsplit⟩ := List.append_of_mem h
  obtain ⟨styled, -, hchosen⟩ := assignFrom_chosen hstyled hsplit
  exact hchosen.free.1

/-- No name is given twice: it is in use for all candidates after the first one that gets it. The
names that are in use from the start are not given either. -/
theorem nodup_assignFrom (hstyled : ∀ candidate ∈ candidates, candidate.2 ≠ []) :
    ((assignFrom used candidates).map Prod.snd).Nodup := by
  induction candidates generalizing used with
  | nil => simp [assignFrom]
  | cons candidate rest ih =>
    obtain ⟨id, styled⟩ := candidate
    have hrest : ∀ other ∈ rest, other.2 ≠ [] := fun other hother =>
      hstyled other (by simp [hother])
    rw [assignFrom, List.map_cons, List.nodup_cons]
    refine ⟨?_, ih hrest⟩
    intro hmem
    -- A later candidate with the same name would have been given one that is in use.
    obtain ⟨entry, hentry, heq⟩ := List.mem_map.1 hmem
    have hfree := notMem_of_mem_assignFrom hrest hentry
    rw [heq] at hfree
    exact hfree List.mem_cons_self

/-! ### Requests by rank -/

section

variable {κ : Type}

/-- Whether the request of one handle chooses before that of another: its rank is lower, or else
it was made first. -/
def Precedes (requests : List (Request κ)) (id id' : NameId) : Prop :=
  ∃ request request', requests[id.index]? = some request ∧ requests[id'.index]? = some request' ∧
    (request.rank < request'.rank ∨ request.rank = request'.rank ∧ id.index < id'.index)

namespace Registry

/-- The requests with their handles, in the order of interning. Names are assigned in another
order, of which this is a permutation. -/
def handled (registry : Registry κ) : List (Request κ × NameId) :=
  registry.requests.zipIdx.map fun (request, i) => (request, NameId.mk i)

/-- A handle is the position of its request, and every request stands next to its handle. -/
theorem mem_handled_iff {registry : Registry κ} {request : Request κ} {id : NameId} :
    (request, id) ∈ registry.handled ↔ registry.requests[id.index]? = some request := by
  rw [handled, List.mem_map]
  constructor
  · rintro ⟨⟨request', i⟩, hmem, heq⟩
    obtain ⟨rfl, rfl⟩ := Prod.mk.inj heq
    exact List.mem_zipIdx_iff_getElem?.1 hmem
  · intro h
    exact ⟨(request, id.index), List.mem_zipIdx_iff_getElem?.2 h, rfl⟩

/-- Handles are the positions in order. -/
theorem map_snd_handled (registry : Registry κ) :
    registry.handled.map Prod.snd = (List.range registry.requests.length).map NameId.mk := by
  have hpositions :
      registry.requests.zipIdx.map Prod.snd = List.range registry.requests.length := by
    rw [List.zipIdx_map_snd, List.range_eq_range']
  rw [← hpositions, handled, List.map_map, List.map_map]
  rfl

/-- Ranking changes the order of the requests only. No request is lost, so every handle has a
name. -/
theorem ranked_perm (registry : Registry κ) : registry.ranked.Perm registry.handled :=
  List.mergeSort_perm _ _

/-- The order that requests are sorted by is transitive. -/
theorem rank_trans (a b c : Request κ × NameId) (hab : decide (a.1.rank ≤ b.1.rank))
    (hbc : decide (b.1.rank ≤ c.1.rank)) : decide (a.1.rank ≤ c.1.rank) := by
  simp only [decide_eq_true_eq] at hab hbc ⊢
  exact Nat.le_trans hab hbc

/-- The order that requests are sorted by is total. -/
theorem rank_total (a b : Request κ × NameId) :
    decide (a.1.rank ≤ b.1.rank) || decide (b.1.rank ≤ a.1.rank) := by
  simpa using Nat.le_total a.1.rank b.1.rank

/-- Requests of one rank stay in the order of interning: the sort is stable. With it ranks and
positions together decide the order. -/
theorem filter_ranked (registry : Registry κ) (rank : Nat) :
    registry.ranked.filter (fun entry => entry.1.rank = rank) =
      registry.handled.filter fun entry => entry.1.rank = rank := by
  have hsorted : (registry.handled.filter fun entry => entry.1.rank = rank).Pairwise
      fun a b => decide (a.1.rank ≤ b.1.rank) := by
    refine List.pairwise_of_forall_mem_list ?_
    intro a ha b hb
    simp only [List.mem_filter, decide_eq_true_eq] at ha hb
    simp [ha.2, hb.2]
  -- Sorting keeps what stands in order already, and here nothing else has the rank.
  have hsub := List.sublist_mergeSort rank_trans rank_total hsorted List.filter_sublist
  have hfilter := hsub.filter fun entry : Request κ × NameId => decide (entry.1.rank = rank)
  simp only [List.filter_filter, Bool.and_self] at hfilter
  have hlength := (registry.ranked_perm.filter fun entry => entry.1.rank = rank).length_eq
  exact (hfilter.eq_of_length hlength.symm).symm

/-- Handles are in ascending order, so the order of interning is that of the handles. -/
theorem pairwise_handled (registry : Registry κ) :
    registry.handled.Pairwise fun a b => a.2.index < b.2.index := by
  have hpositions : (registry.handled.map Prod.snd).Pairwise fun a b => a.index < b.index := by
    rw [map_snd_handled, List.pairwise_map]
    exact List.pairwise_lt_range
  rwa [List.pairwise_map] at hpositions

/-- Requests are taken by ascending rank, and those of one rank in the order of interning. This is
the order that `Resolution.ranked` promises. -/
theorem pairwise_ranked (registry : Registry κ) :
    (registry.ranked.map Prod.snd).Pairwise (Precedes registry.requests) := by
  rw [List.pairwise_map, List.pairwise_iff_forall_sublist]
  intro a b hsub
  have hrequest : ∀ entry ∈ [a, b], registry.requests[entry.2.index]? = some entry.1 := by
    intro entry hentry
    exact mem_handled_iff.1 (registry.ranked_perm.subset (hsub.subset hentry))
  have hle : decide (a.1.rank ≤ b.1.rank) :=
    List.pairwise_iff_forall_sublist.1 (List.pairwise_mergeSort rank_trans rank_total _) hsub
  refine ⟨a.1, b.1, hrequest a (by simp), hrequest b (by simp), ?_⟩
  rcases Nat.lt_or_eq_of_le (of_decide_eq_true hle) with hlt | heq
  · exact .inl hlt
  · -- Two requests of one rank stand in the sorted list as they stand in the registry.
    have hsame : [a, b].Sublist (registry.handled.filter fun entry => entry.1.rank = b.1.rank) := by
      rw [← filter_ranked]
      simpa [heq] using hsub.filter fun entry : Request κ × NameId =>
        decide (entry.1.rank = b.1.rank)
    have hlt : a.2.index < b.2.index :=
      List.pairwise_iff_forall_sublist.1 registry.pairwise_handled
        (hsame.trans List.filter_sublist)
    exact .inr ⟨heq, hlt⟩

/-- The styled proposals of a request are not none. A request without proposals stands for the
empty text, which a convention makes an identifier of. -/
theorem styledProposals_ne_nil (convention : Convention) (acronyms : AcronymStyle)
    (request : Request κ) : styledProposals convention acronyms request ≠ [] := by
  unfold styledProposals
  split
  · simp
  · rename_i hproposals
    simpa using hproposals

/-- A styled proposal is the identifier of some proposal, so the convention says which characters
are in it. -/
theorem exists_of_mem_styledProposals {convention : Convention} {acronyms : AcronymStyle}
    {request : Request κ} {styled : String}
    (h : styled ∈ styledProposals convention acronyms request) :
    ∃ proposal, styled = convention.apply acronyms proposal := by
  unfold styledProposals at h
  split at h
  · exact ⟨"", by simpa using h⟩
  · obtain ⟨proposal, -, rfl⟩ := List.mem_map.1 h
    exact ⟨proposal, rfl⟩

/-- The handles of names are those of the ranked requests. -/
theorem map_fst_assign (registry : Registry κ) (convention : Convention)
    (acronyms : AcronymStyle) :
    (registry.assign convention acronyms).entries.map Prod.fst = registry.ranked.map Prod.snd := by
  rw [assign, map_fst_assignFrom, List.map_map]
  rfl

end Registry

/-- Names for requests as a convention gives them: everything that is known of the names of a
registry, said of the list of names alone. -/
structure Resolution (convention : Convention) (acronyms : AcronymStyle)
    (requests : List (Request κ)) (entries : List (NameId × String)) : Prop where
  /-- There is one name for each request. -/
  complete : (entries.map Prod.fst).Perm ((List.range requests.length).map NameId.mk)
  distinct : (entries.map Prod.snd).Nodup
  unreserved : ∀ entry ∈ entries, entry.2 ∉ convention.reserved
  ranked : (entries.map Prod.fst).Pairwise (Precedes requests)
  /-- Each request gets the name that its proposals lead to, after the requests before it. -/
  chosen : ∀ before id name after, entries = before ++ (id, name) :: after →
    ∃ request, requests[id.index]? = some request ∧
      Chosen (fun name => name ∉ convention.reserved ∧ name ∉ before.map Prod.snd)
        (Registry.styledProposals convention acronyms request) name

/-- No handle stands next to two names. So looking a handle up finds its name, whichever entry is
found first. -/
theorem Resolution.nodup_handles {convention : Convention} {acronyms : AcronymStyle}
    {requests : List (Request κ)} {entries : List (NameId × String)}
    (h : Resolution convention acronyms requests entries) : (entries.map Prod.fst).Nodup := by
  have hinjective : Function.Injective NameId.mk := fun _ _ heq => NameId.mk.inj heq
  exact h.complete.nodup_iff.2 (List.nodup_range.map hinjective)

/-- A registry gives its requests names as its convention does. The parts have been shown of lists
of candidates, and the candidates are the ranked requests. -/
theorem Registry.assign_resolution (registry : Registry κ) (convention : Convention)
    (acronyms : AcronymStyle) :
    Resolution convention acronyms registry.requests
      (registry.assign convention acronyms).entries := by
  have hstyled : ∀ candidate ∈ registry.ranked.map fun entry =>
      ((entry.2, styledProposals convention acronyms entry.1) : Candidate), candidate.2 ≠ [] := by
    intro candidate hcandidate
    obtain ⟨entry, -, rfl⟩ := List.mem_map.1 hcandidate
    exact styledProposals_ne_nil convention acronyms entry.1
  refine ⟨?_, nodup_assignFrom hstyled, fun entry => notMem_of_mem_assignFrom hstyled, ?_, ?_⟩
  · rw [map_fst_assign, ← map_snd_handled]
    exact registry.ranked_perm.map _
  · rw [map_fst_assign]
    exact registry.pairwise_ranked
  · intro before id name after hsplit
    obtain ⟨styled, hmem, hchosen⟩ := assignFrom_chosen hstyled hsplit
    -- The candidate is a ranked request, and the request of its handle.
    obtain ⟨entry, hentry, heq⟩ := List.mem_map.1 hmem
    obtain ⟨rfl, rfl⟩ := Prod.mk.inj heq
    have hrequest := mem_handled_iff.1 (registry.ranked_perm.subset hentry)
    exact ⟨entry.1, hrequest, hchosen⟩

/-- The name of a handle is the one that stands next to it. What is shown of the list of names is
thereby known of look-ups. -/
theorem Registry.resolve?_assign_eq_some_iff {registry : Registry κ} {convention : Convention}
    {acronyms : AcronymStyle} {id : NameId} {name : String} :
    (registry.assign convention acronyms).resolve? id = some name ↔
      (id, name) ∈ (registry.assign convention acronyms).entries := by
  have hnodup := (registry.assign_resolution convention acronyms).nodup_handles
  rw [Names.resolve?, List.lookup_eq_some_iff]
  constructor
  · rintro ⟨before, after, hsplit, -⟩
    simp [hsplit]
  · intro hmem
    obtain ⟨before, after, hsplit⟩ := List.append_of_mem hmem
    refine ⟨before, after, hsplit, ?_⟩
    intro entry hentry
    -- An earlier entry of the same handle would be a second one.
    rw [hsplit, List.map_append, List.nodup_append] at hnodup
    have hne := hnodup.2.2 entry.1 (List.mem_map_of_mem hentry) id (by simp)
    simpa using Ne.symm hne

end

/-! ### Requests in turn -/

namespace Registry

variable {κ : Type} [DecidableEq κ]

/-- The registry after some requests in turn. Every registry that the program makes is one of
these. -/
def ofRequests (requests : List (Request κ)) : Registry κ :=
  requests.foldl
    (fun registry request => (registry.intern request.key request.proposals request.rank).2) {}

/-- The registry after one more request. -/
theorem ofRequests_append (requests : List (Request κ)) (request : Request κ) :
    ofRequests (requests ++ [request]) =
      ((ofRequests requests).intern request.key request.proposals request.rank).2 := by
  simp [ofRequests]

/-- A request for a key that has been interned changes nothing, whatever it proposes. -/
theorem intern_of_some {registry : Registry κ} {request : Request κ} {id : NameId}
    (h : registry.get? request.key = some id) :
    (registry.intern request.key request.proposals request.rank).2 = registry := by
  simp [intern, h]

/-- A request for a new key comes last, and its handle is its position. -/
theorem intern_of_none {registry : Registry κ} {request : Request κ}
    (h : registry.get? request.key = none) :
    (registry.intern request.key request.proposals request.rank).2 =
        ⟨registry.requests ++ [request]⟩ ∧
      (⟨registry.requests ++ [request]⟩ : Registry κ).get? request.key =
        some ⟨registry.requests.length⟩ := by
  have hnone : registry.requests.findIdx? (fun other => other.key = request.key) = none := by
    simpa [get?] using h
  exact ⟨by simp [intern, h], by simp [get?, List.findIdx?_append, hnone]⟩

/-- The request behind a key, which is the one that decides on its name. Requests for the same key
that came later are not looked at. -/
def request? (registry : Registry κ) (key : κ) : Option (Request κ) :=
  (registry.get? key).bind fun id => registry.requests[id.index]?

/-- A request changes nothing behind other keys, nor behind its own key if there was one before.
It is the step of `request?_ofRequests`. -/
theorem request?_intern (registry : Registry κ) (request : Request κ) (key : κ) :
    (registry.intern request.key request.proposals request.rank).2.request? key =
      (registry.request? key).or (if request.key = key then some request else none) := by
  cases hget : registry.get? request.key with
  | some id =>
    rw [intern_of_some hget]
    -- There is a request behind the key, so the new one is not looked at.
    by_cases hkey : request.key = key
    · obtain ⟨first, hfirst, -⟩ := exists_of_get? hget
      simp [request?, ← hkey, hget, hfirst]
    · simp [hkey]
  | none =>
    obtain ⟨hnew, hindex⟩ := intern_of_none hget
    by_cases hkey : request.key = key
    · subst hkey
      rw [hnew]
      simp [request?, hindex, hget]
    · have hother : (registry.intern request.key request.proposals request.rank).2.get? key =
          registry.get? key := get?_intern_of_ne (Ne.symm hkey) request.proposals request.rank
      rw [request?, hother, hnew, request?]
      -- A handle that was given before is not that of the last request.
      cases hget' : registry.get? key with
      | none => simp [hkey]
      | some id =>
        have hlt : id.index < registry.requests.length := index_lt_of_get? hget'
        simp [hkey, List.getElem?_append_left hlt]

/-- The first request for a key decides. Later ones may propose other names or a lower rank, and
are not looked at. -/
theorem request?_ofRequests (requests : List (Request κ)) (key : κ) :
    (ofRequests requests).request? key = requests.find? fun request => request.key = key := by
  induction requests using List.reverseRecOn with
  | nil => simp [ofRequests, request?]
  | append_singleton requests request ih =>
    rw [ofRequests_append, request?_intern, ih, List.find?_append]
    by_cases hkey : request.key = key <;> simp [hkey]

/-- Every request that is kept has the handle of its key. So names are given to nothing but keys
that were requested. -/
theorem get?_of_getElem? {requests : List (Request κ)} {id : NameId} {request : Request κ}
    (h : (ofRequests requests).requests[id.index]? = some request) :
    (ofRequests requests).get? request.key = some id := by
  induction requests using List.reverseRecOn with
  | nil => simp [ofRequests] at h
  | append_singleton requests last ih =>
    rw [ofRequests_append] at h ⊢
    cases hget : (ofRequests requests).get? last.key with
    | some other =>
      rw [intern_of_some hget] at h ⊢
      exact ih h
    | none =>
      obtain ⟨hnew, hindex⟩ := intern_of_none hget
      rw [hnew] at h
      -- It is one of the requests before, or the one that has just been made.
      rcases Nat.lt_or_ge id.index (ofRequests requests).requests.length with hlt | hge
      · -- The request was there before, and keeps its handle.
        rw [List.getElem?_append_left hlt] at h
        exact get?_intern_of_some (ih h) _ _
      · -- The request is the new one.
        rw [List.getElem?_append_right hge, List.getElem?_singleton] at h
        split at h
        · obtain rfl : last = request := by simpa using h
          have hlength : (ofRequests requests).requests.length = id.index := by omega
          rw [hnew, hindex, hlength]
        · simp at h

/-- Whatever names are requested in turn, resolving them gives every key one name, the name that the
first request for the key leads to. The names are distinct, none is reserved, and by ascending rank,
and then in the order of interning, each request has its first styled proposal that is neither
reserved nor held, or else the first of all with the least number. -/
theorem assign_ofRequests (requests : List (Request κ)) (convention : Convention)
    (acronyms : AcronymStyle) :
    let registry := ofRequests requests
    let names := registry.assign convention acronyms
    (∀ request ∈ requests, ∃ id name, registry.get? request.key = some id ∧
      names.resolve? id = some name ∧ ∀ other, (id, other) ∈ names.entries → other = name) ∧
    (∀ entry ∈ names.entries, ∃ request ∈ requests, registry.get? request.key = some entry.1) ∧
    (∀ key, registry.request? key = requests.find? fun request => request.key = key) ∧
    Resolution convention acronyms registry.requests names.entries := by
  intro registry names
  have hresolution : Resolution convention acronyms registry.requests names.entries :=
    registry.assign_resolution convention acronyms
  refine ⟨?_, ?_, request?_ofRequests requests, hresolution⟩
  · intro request hrequest
    -- Some request for the key is the first one, and its handle has a name.
    have hfirst : (requests.find? fun other => other.key = request.key).isSome := by
      simpa using ⟨request, hrequest, rfl⟩
    rw [← request?_ofRequests] at hfirst
    obtain ⟨first, hfirst⟩ := Option.isSome_iff_exists.1 hfirst
    obtain ⟨id, hid, -⟩ := Option.bind_eq_some_iff.1 hfirst
    obtain ⟨name, hname⟩ := resolve?_assign hid convention acronyms
    refine ⟨id, name, hid, hname, ?_⟩
    intro other hother
    have hother : names.resolve? id = some other := resolve?_assign_eq_some_iff.2 hother
    exact Option.some.inj (hother.symm.trans hname)
  · intro entry hentry
    obtain ⟨before, after, hsplit⟩ := List.append_of_mem hentry
    obtain ⟨request, hrequest, -⟩ := hresolution.chosen before entry.1 entry.2 after hsplit
    have hget := get?_of_getElem? hrequest
    have hfirst : (ofRequests requests).request? request.key = some request := by
      rw [request?, hget]
      exact hrequest
    rw [request?_ofRequests] at hfirst
    exact ⟨request, List.mem_of_find?_eq_some hfirst, hget⟩

end Registry

end StateTree.Naming
