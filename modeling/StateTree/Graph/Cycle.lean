import StateTree.Graph.Basic

/-!
# `StateTree.Graph.Cycle`: the search for cycles

A depth-first search over a graph given by its successor function, as a loop over an explicit path.
A node is unvisited, in progress while it is on the path, or settled once all its successors are. A
successor that is in progress closes a cycle.

- `Search.step`: one step of the search; `Search.Moves`: the kinds of steps that go on.
- `Search.run`: all steps up to the end; `findCycle?`: a search from all of some nodes.
- `Search.Ends`, `Search.ends_run`: every search comes to an end.
- `Search.Sound`: what every step keeps. It ties the nodes in progress to the path and the settled
  nodes to their successors.
- `wellFounded_of_findCycle?_eq_none`: where the search finds nothing, no chain of successors is
  infinite.
- `cycle_of_findCycle?_eq_some`: what the search finds lies on a cycle.
-/

set_option autoImplicit false

namespace StateTree.Graph

/-- A node on the path, and those of its successors that the search has not looked at. The
successors it has looked at are settled or further up on the path, which is what `OnPath` says. -/
structure Frame where
  node : TypeId
  rest : List TypeId

/-- How far a search has come with a node. -/
inductive Mark where
  | unvisited | inProgress | settled
  deriving DecidableEq, Repr

/-- How far a search has come. The path holds, for each node in progress, the successors that are
still to be looked at, so that no recursion is needed to come back to them. -/
structure Search where
  /-- The nodes that the search is still to be started from. -/
  starts : List TypeId
  unvisited : List TypeId
  /-- The settled nodes, the latest first. -/
  settled : List TypeId := []
  /-- The path to the current node, the current node first. -/
  path : List Frame := []

namespace Search

/-- How far the search has come with a node. A node that is neither settled nor unvisited has been
entered and not yet left, so it is on the path. -/
def mark (search : Search) (v : TypeId) : Mark :=
  if v ∈ search.settled then .settled
  else if v ∈ search.unvisited then .unvisited
  else .inProgress

/-- What a step leads to. -/
inductive Outcome where
  | running (search : Search)
  /-- The search ends, with a node on a cycle or without one. -/
  | ended (answer : Option TypeId)

variable (next : TypeId → List TypeId)

/-- Puts a node on the path, with all its successors still to be looked at. -/
def enter (search : Search) (v : TypeId) : Search :=
  { search with
    unvisited := search.unvisited.erase v
    path := ⟨v, next v⟩ :: search.path }

/-- One step of the search: a look at the next successor of the current node, or the end of the
current node if there is none, or the next start if the path is empty. A successor in progress
ends the search, since the path leads back to it. -/
def step (search : Search) : Outcome :=
  match search.path with
  | [] =>
    match search.starts with
    | [] => .ended none
    | v :: starts =>
      match search.mark v with
      | .unvisited => .running ({ search with starts := starts }.enter next v)
      | _ => .running { search with starts := starts }
  | ⟨v, []⟩ :: path => .running { search with settled := v :: search.settled, path := path }
  | ⟨v, w :: rest⟩ :: path =>
    match search.mark w with
    | .unvisited => .running ({ search with path := ⟨v, rest⟩ :: path }.enter next w)
    | .inProgress => .ended (some w)
    | .settled => .running { search with path := ⟨v, rest⟩ :: path }

/-- The steps after which the search goes on. -/
inductive Moves : Search → Search → Prop where
  /-- The search starts from a node. -/
  | start {v : TypeId} {starts unvisited settled : List TypeId} (hv : v ∈ unvisited) :
      Moves ⟨v :: starts, unvisited, settled, []⟩
        ⟨starts, unvisited.erase v, settled, [⟨v, next v⟩]⟩
  /-- The search has been at a node from which it was to start. -/
  | skip {v : TypeId} {starts unvisited settled : List TypeId} (hv : v ∈ settled ∨ v ∉ unvisited) :
      Moves ⟨v :: starts, unvisited, settled, []⟩ ⟨starts, unvisited, settled, []⟩
  /-- The current node has no more successors. -/
  | settle {v : TypeId} {starts unvisited settled : List TypeId} {path : List Frame} :
      Moves ⟨starts, unvisited, settled, ⟨v, []⟩ :: path⟩
        ⟨starts, unvisited, v :: settled, path⟩
  /-- The next successor is settled already. -/
  | pass {v w : TypeId} {rest starts unvisited settled : List TypeId} {path : List Frame}
      (hw : w ∈ settled) :
      Moves ⟨starts, unvisited, settled, ⟨v, w :: rest⟩ :: path⟩
        ⟨starts, unvisited, settled, ⟨v, rest⟩ :: path⟩
  /-- The search goes on to the next successor. -/
  | descend {v w : TypeId} {rest starts unvisited settled : List TypeId} {path : List Frame}
      (hw : w ∈ unvisited) :
      Moves ⟨starts, unvisited, settled, ⟨v, w :: rest⟩ :: path⟩
        ⟨starts, unvisited.erase w, settled, ⟨w, next w⟩ :: ⟨v, rest⟩ :: path⟩

variable {next}

/-- The three answers of `mark`, each as what it says of the two lists. With them a step can be
told from the lists alone, as the moves below have it. -/
theorem mark_eq_unvisited {search : Search} {v : TypeId} (h : search.mark v = .unvisited) :
    v ∈ search.unvisited := by
  unfold mark at h
  split at h
  · simp at h
  · split at h
    · assumption
    · simp at h

theorem mark_eq_settled {search : Search} {v : TypeId} (h : search.mark v = .settled) :
    v ∈ search.settled := by
  unfold mark at h
  split at h
  · assumption
  · split at h <;> simp at h

theorem mark_eq_inProgress {search : Search} {v : TypeId} (h : search.mark v = .inProgress) :
    v ∉ search.settled ∧ v ∉ search.unvisited := by
  unfold mark at h
  split at h
  · simp at h
  · split at h
    · simp at h
    · exact ⟨‹_›, ‹_›⟩

/-- A step that goes on is one of the moves. The definition of `step` is opened here and in
`ended_cases` only; whatever else is said of the search is by cases on the moves. -/
theorem moves_of_step {search search' : Search} (h : search.step next = .running search') :
    Moves next search search' := by
  obtain ⟨starts, unvisited, settled, path⟩ := search
  -- The cases are those of `step`: an empty path, a node without more successors, and a successor
  -- to look at, the first and the last by how far the search has come with the node.
  match path with
  | [] =>
    match starts with
    | [] => simp [step] at h
    | v :: starts =>
      cases hm : mark ⟨v :: starts, unvisited, settled, []⟩ v with
      | unvisited =>
        obtain rfl := by simpa [step, hm] using h
        exact .start (mark_eq_unvisited hm)
      | inProgress =>
        obtain rfl := by simpa [step, hm] using h
        exact .skip (.inr (mark_eq_inProgress hm).2)
      | settled =>
        obtain rfl := by simpa [step, hm] using h
        exact .skip (.inl (mark_eq_settled hm))
  | ⟨v, []⟩ :: path =>
    obtain rfl := by simpa [step] using h
    exact .settle
  | ⟨v, w :: rest⟩ :: path =>
    cases hm : mark ⟨starts, unvisited, settled, ⟨v, w :: rest⟩ :: path⟩ w with
    | unvisited =>
      obtain rfl := by simpa [step, hm] using h
      exact .descend (mark_eq_unvisited hm)
    | inProgress => simp [step, hm] at h
    | settled =>
      obtain rfl := by simpa [step, hm] using h
      exact .pass (mark_eq_settled hm)

variable (next)

/-- The steps that the search takes at a node it has entered, each with the node it is about: one to
settle the node itself, and a look at each successor. -/
def visit (v : TypeId) : List TypeId :=
  v :: next v

/-- A bound on the steps that are due: for the nodes to start from, for the nodes on the path with
their successors, and for the nodes that may still be entered. It is one number, so that `run` is
by recursion on a number and can be evaluated. -/
def due (search : Search) : Nat :=
  search.starts.length + (search.path.length + (search.path.flatMap Frame.rest).length) +
    (search.unvisited.flatMap (visit next)).length

variable {next}

/-- What entering a node takes out of the steps due for unvisited nodes: exactly the steps that come
back with the node on the path, and the one to settle it. -/
theorem length_flatMap_visit_eq {unvisited : List TypeId} {v : TypeId} (h : v ∈ unvisited) :
    (unvisited.flatMap (visit next)).length =
      (next v).length + 1 + ((unvisited.erase v).flatMap (visit next)).length := by
  rw [((List.perm_cons_erase h).flatMap_right _).length_eq, List.flatMap_cons, List.length_append,
    visit, List.length_cons]

/-- Every move leaves fewer steps due. Where a node is entered, its successors become due as looks,
but its visit is no longer due, and the start or the look that led to it is done. -/
theorem Moves.due_lt {search search' : Search} (h : Moves next search search') :
    search'.due next < search.due next := by
  -- Every move takes one type off the starts or the path, or off the unvisited types. What is put
  -- on the path is what the unvisited type was counted for.
  cases h with
  | start hv =>
    simp only [due, length_flatMap_visit_eq hv, List.length_cons, List.length_nil,
      List.flatMap_cons, List.flatMap_nil, List.length_append]
    omega
  | skip => simp [due]
  | settle => simp [due]
  | pass => simp [due]
  | descend hw =>
    simp only [due, length_flatMap_visit_eq hw, List.length_cons, List.flatMap_cons,
      List.length_append]
    omega

variable (next)

/-- All steps up to the end of a search. By `Moves.due_lt` each step that goes on leaves fewer
steps due, so there is an end. -/
def run (search : Search) : Option TypeId :=
  match h : search.step next with
  | .running search' =>
    have := (moves_of_step h).due_lt
    run search'
  | .ended answer => answer
termination_by search.due next

/-- A search comes to its end, with an answer, after finitely many steps. This says of the steps
alone what `run` computes, and inductions on a whole search are on this relation. -/
inductive Ends : Search → Option TypeId → Prop where
  | last {search : Search} {answer : Option TypeId} (h : search.step next = .ended answer) :
      Ends search answer
  | more {search search' : Search} {answer : Option TypeId}
      (h : search.step next = .running search') (hends : Ends search' answer) :
      Ends search answer

/-- Every search comes to its end, and the answer is the one that `run` gives. What is proved
about `Ends` is thus true of the search that validation runs. -/
theorem ends_run (search : Search) : Ends next search (search.run next) := by
  rw [run]
  split
  · rename_i search' h
    have := (moves_of_step h).due_lt
    exact .more h (ends_run search')
  · rename_i answer h
    exact .last h
termination_by search.due next

end Search

/-! ### What every step keeps -/

variable (next : TypeId → List TypeId)

/-- The successor relation, from a node back to the node that leads to it. -/
abbrev Follows (w v : TypeId) : Prop := w ∈ next v

/-- Every node of the list comes before all its successors. The latest settled node is first, so
this is an order in which no chain of successors can go on for ever (`acc_of_settled`). -/
def Settled : List TypeId → Prop
  | [] => True
  | v :: settled => (∀ w ∈ next v, w ∈ settled) ∧ Settled settled

/-- A path below the node `above`, if there is one. Each node leads to the one above it, and its
other successors are settled unless the search has still to look at them. Without a node above, as
at the front of the path, a successor that has been looked at is settled. -/
def OnPath (settled : List TypeId) : Option TypeId → List Frame → Prop
  | _, [] => True
  | above, ⟨v, rest⟩ :: path =>
    (∀ w ∈ rest, w ∈ next v) ∧ (∀ w ∈ above, w ∈ next v) ∧
      (∀ w ∈ next v, w ∈ rest ∨ w ∈ settled ∨ w ∈ above) ∧ OnPath settled (some v) path

/-- What is true of a search among `nodes` after every step. The first two parts are about the
successors of settled nodes and of nodes on the path, the last two tie the lists of the search to
the nodes. Both answers of the search follow from it, in `Ends.settled` and `Ends.cycle`. -/
structure Search.Sound (nodes : List TypeId) (search : Search) : Prop where
  settled : Settled next search.settled
  path : OnPath next search.settled none search.path
  /-- The nodes in progress are on the path. -/
  marked : ∀ v ∈ nodes,
    v ∈ search.unvisited ∨ v ∈ search.settled ∨ v ∈ search.path.map Frame.node
  /-- The search has been at a node unless it is still to start from it. -/
  covered : ∀ v ∈ nodes,
    v ∈ search.starts ∨ v ∈ search.settled ∨ v ∈ search.path.map Frame.node

variable {next}

/-- A path stays one when more nodes are settled. The lists of settled nodes only grow in a
search, so this keeps the lower part of a path as it is when a node above it is settled. -/
theorem OnPath.mono {settled settled' : List TypeId} (hsub : ∀ w ∈ settled, w ∈ settled')
    {above : Option TypeId} {path : List Frame} (h : OnPath next settled above path) :
    OnPath next settled' above path := by
  induction path generalizing above with
  | nil => trivial
  | cons frame path ih =>
    obtain ⟨hrest, habove, hcover, hpath⟩ := h
    exact ⟨hrest, habove, fun w hw => (hcover w hw).imp_right (Or.imp_left (hsub w)), ih hpath⟩

/-- Once the node above a path is settled, the path can do without it. This is the step in which a
node leaves the path: for the node below, it changes from the one above to a settled one. -/
theorem OnPath.settle {settled : List TypeId} {v : TypeId} {path : List Frame}
    (h : OnPath next settled (some v) path) : OnPath next (v :: settled) none path := by
  have hsub : ∀ w ∈ settled, w ∈ v :: settled := fun w => List.mem_cons_of_mem v
  cases path with
  | nil => trivial
  | cons frame path =>
    obtain ⟨hrest, -, hcover, hpath⟩ := h
    -- The node above was the one successor of this node that need not be settled, and now it is.
    refine ⟨hrest, by simp, fun w hw => ?_, hpath.mono hsub⟩
    rcases hcover w hw with hw | hw | hw
    · exact .inl hw
    · exact .inr (.inl (hsub w hw))
    · exact .inr (.inl (by simp_all))

/-- The node above a path is reached from every node on the path. So a successor of that node that
is itself on the path closes a cycle. -/
theorem OnPath.reaches {settled : List TypeId} {v u : TypeId} {path : List Frame}
    (h : OnPath next settled (some v) path) (hu : u ∈ path.map Frame.node) :
    Relation.TransGen (Follows next) v u := by
  -- By induction on the path downwards: the next node leads to the one above it, and those below
  -- lead to the next node.
  induction path generalizing v with
  | nil => simp at hu
  | cons frame path ih =>
    obtain ⟨-, habove, -, hpath⟩ := h
    have hstep : Relation.TransGen (Follows next) v frame.node := .single (habove v rfl)
    rcases List.mem_cons.1 hu with rfl | hu
    · exact hstep
    · exact hstep.trans (ih hpath hu)

namespace Search

/-- Every move keeps what is true of a search. This is the step lemma of the search;
`Ends.settled` and `Ends.cycle` carry it along a whole run. -/
theorem Moves.sound {nodes : List TypeId} {search search' : Search}
    (h : Moves next search search') (hs : Sound next nodes search) : Sound next nodes search' := by
  obtain ⟨hsettled, hpath, hmarked, hcovered⟩ := hs
  cases h with
  | @start v starts unvisited settled hv =>
    -- The new path is one node with all its successors still to be looked at, so nothing is asked
    -- of them. The node is no longer a start or unvisited, but it is on the path.
    refine ⟨hsettled, ⟨fun w hw => hw, by simp, fun w hw => .inl hw, trivial⟩, fun u hu => ?_,
      fun u hu => ?_⟩
    · by_cases huv : u = v
      · simp [huv]
      · simpa [huv, List.mem_erase_of_ne huv] using hmarked u hu
    · by_cases huv : u = v
      · simp [huv]
      · simpa [huv] using hcovered u hu
  | @skip v starts unvisited settled hv =>
    refine ⟨hsettled, hpath, hmarked, fun u hu => ?_⟩
    -- Nothing is in progress between two starts, so the node that is skipped is settled.
    by_cases huv : u = v
    · subst huv
      rcases hv with hv | hv
      · exact .inr (.inl hv)
      · exact .inr ((hmarked u hu).resolve_left hv)
    · simpa [huv] using hcovered u hu
  | @settle v starts unvisited settled path =>
    -- All successors of the node have been looked at, and nothing is above it: they are settled.
    obtain ⟨-, -, hcover, hpath⟩ := hpath
    refine ⟨⟨fun w hw => by simpa using hcover w hw, hsettled⟩, hpath.settle, fun u hu => ?_,
      fun u hu => ?_⟩
    · have := hmarked u hu
      simp only [List.map_cons, List.mem_cons] at this ⊢
      grind
    · have := hcovered u hu
      simp only [List.map_cons, List.mem_cons] at this ⊢
      grind
  | @pass v w rest starts unvisited settled path hw =>
    obtain ⟨hrest, -, hcover, hpath⟩ := hpath
    -- The successor that is passed over goes from those to be looked at to the settled ones.
    refine ⟨hsettled, ⟨fun u hu => hrest u (List.mem_cons_of_mem w hu), by simp, fun u hu => ?_,
      hpath⟩, hmarked, hcovered⟩
    have := hcover u hu
    simp only [List.mem_cons] at this
    grind
  | @descend v w rest starts unvisited settled path hw =>
    -- The successor goes on top of the path; the node below it is where it is reached from.
    obtain ⟨hrest, -, hcover, hpath⟩ := hpath
    refine ⟨hsettled, ⟨fun u hu => hu, by simp, fun u hu => .inl hu,
      fun u hu => hrest u (List.mem_cons_of_mem w hu), ?_, fun u hu => ?_, hpath⟩, fun u hu => ?_,
      fun u hu => ?_⟩
    · intro u hu
      obtain rfl : w = u := by simpa using hu
      exact hrest w (by simp)
    · have := hcover u hu
      simp only [List.mem_cons, Option.mem_def, Option.some.injEq] at this ⊢
      grind
    · by_cases huw : u = w
      · simp [huw]
      · simpa [huw, List.mem_erase_of_ne huw] using hmarked u hu
    · have := hcovered u hu
      simp only [List.map_cons, List.mem_cons] at this ⊢
      grind

/-- A search ends with every start behind it and an empty path, or at a successor in progress. In
the first case it has no answer, in the second the answer is that successor. -/
theorem ended_cases {search : Search} {answer : Option TypeId}
    (h : search.step next = .ended answer) :
    (answer = none ∧ search.starts = [] ∧ search.path = []) ∨
      ∃ v w rest path, answer = some w ∧ search.path = ⟨v, w :: rest⟩ :: path ∧
        w ∉ search.settled ∧ w ∉ search.unvisited := by
  obtain ⟨starts, unvisited, settled, path⟩ := search
  -- The search ends where nothing is left to do, or at a type that is in progress.
  match path with
  | [] =>
    match starts with
    | [] => exact .inl ⟨by simpa [step] using h.symm, rfl, rfl⟩
    | v :: starts =>
      cases hm : mark ⟨v :: starts, unvisited, settled, []⟩ v <;> simp [step, hm] at h
  | ⟨v, []⟩ :: path => simp [step] at h
  | ⟨v, w :: rest⟩ :: path =>
    cases hm : mark ⟨starts, unvisited, settled, ⟨v, w :: rest⟩ :: path⟩ w with
    | inProgress =>
      obtain rfl : some w = answer := by simpa [step, hm] using h
      exact .inr ⟨v, w, rest, path, rfl, rfl, mark_eq_inProgress hm⟩
    | unvisited => simp [step, hm] at h
    | settled => simp [step, hm] at h

/-- A search that ends without an answer has settled all nodes, each after its successors. The
induction is on the steps, with `Sound` carried along. -/
theorem Ends.settled {nodes : List TypeId} {search : Search} (h : Ends next search none)
    (hs : Sound next nodes search) :
    ∃ settled, Settled next settled ∧ ∀ v ∈ nodes, v ∈ settled := by
  generalize ha : (none : Option TypeId) = answer at h
  induction h with
  | last h =>
    subst ha
    rcases ended_cases h with ⟨-, hstarts, hpath⟩ | ⟨v, w, rest, path, hw, -⟩
    · exact ⟨_, hs.settled, fun v hv => by simpa [hstarts, hpath] using hs.covered v hv⟩
    · simp at hw
  | more h _ ih => exact ih ((moves_of_step h).sound hs) ha

/-- The node that a search ends with lies on a cycle. No successor leads out of the nodes, by
`hn`, so a successor that is neither unvisited nor settled can only be on the path. -/
theorem Ends.cycle {nodes : List TypeId} (hn : ∀ v, ∀ w ∈ next v, w ∈ nodes) {search : Search}
    {w : TypeId} (h : Ends next search (some w)) (hs : Sound next nodes search) :
    Relation.TransGen (Follows next) w w := by
  generalize ha : some w = answer at h
  induction h with
  | @last search answer h =>
    subst ha
    rcases ended_cases h with ⟨hw, -⟩ | ⟨v, w', rest, path, hw, hpath, hsettled, hunvisited⟩
    · simp at hw
    · obtain rfl : w = w' := by simpa using hw
      have hon := hs.path
      rw [hpath] at hon
      have hvw : w ∈ next v := hon.1 w (by simp)
      -- A node that is neither unvisited nor settled is on the path, so it leads to `v`.
      have hmem : w ∈ search.path.map Frame.node :=
        ((hs.marked w (hn v w hvw)).resolve_left hunvisited).resolve_left hsettled
      rw [hpath] at hmem
      rcases List.mem_cons.1 hmem with heq | hmem
      · exact .single (show w ∈ next w from heq ▸ hvw)
      · exact (Relation.TransGen.single hvw).trans (hon.2.2.2.reaches hmem)
  | more h _ ih => exact ih ((moves_of_step h).sound hs) ha

/-- A search that has not begun. -/
def start (nodes : List TypeId) : Search where
  starts := nodes
  unvisited := nodes

/-- A search that has not begun has nothing on its path and nothing settled, and every node is a
start. From here `Moves.sound` leads to every later state. -/
theorem sound_start (nodes : List TypeId) : Sound next nodes (start nodes) where
  settled := trivial
  path := trivial
  marked := fun _ hv => .inl hv
  covered := fun _ hv => .inl hv

end Search

/-- No settled node begins an infinite chain of successors. By induction on the order of settling:
all successors of a node come after it in the list. -/
theorem acc_of_settled {settled : List TypeId} (h : Settled next settled) :
    ∀ v ∈ settled, Acc (Follows next) v := by
  induction settled with
  | nil => simp
  | cons u settled ih =>
    have ih := ih h.2
    intro v hv
    rcases List.mem_cons.1 hv with rfl | hv
    · exact ⟨_, fun w hw => ih w (h.1 w hw)⟩
    · exact ih v hv

variable (next) in
/-- A node on a cycle of successors, or none. The search starts from each of the nodes in order. -/
def findCycle? (nodes : List TypeId) : Option TypeId :=
  (Search.start nodes).run next

/-- Where the search finds no cycle there are no infinite chains of successors. Nodes outside of
the list are never looked at, so `hnext` asks that they have no successors. -/
theorem wellFounded_of_findCycle?_eq_none {nodes : List TypeId}
    (hnext : ∀ v, v ∉ nodes → next v = []) (h : findCycle? next nodes = none) :
    WellFounded (Follows next) := by
  have hends := Search.ends_run next (Search.start nodes)
  rw [← findCycle?, h] at hends
  obtain ⟨settled, hsettled, hall⟩ := hends.settled (Search.sound_start nodes)
  refine ⟨fun v => ?_⟩
  by_cases hv : v ∈ nodes
  · exact acc_of_settled hsettled v (hall v hv)
  · -- The search does not go to other nodes, but those have no successors.
    refine ⟨_, fun w hw => ?_⟩
    rw [Follows, hnext v hv] at hw
    simp at hw

/-- A node that the search finds lies on a cycle. Here `hn` asks that no successor lies outside of
the list, or it would count as being in progress. -/
theorem cycle_of_findCycle?_eq_some {nodes : List TypeId} (hn : ∀ v, ∀ w ∈ next v, w ∈ nodes)
    {v : TypeId} (h : findCycle? next nodes = some v) :
    Relation.TransGen (Follows next) v v := by
  have hends := Search.ends_run next (Search.start nodes)
  rw [← findCycle?, h] at hends
  exact hends.cycle hn (Search.sound_start nodes)

end StateTree.Graph
