import Mathlib.Data.Finset.Card
import Mathlib.Data.Finset.Range
import StateTree.Graph.Order
import StateTree.Proofs.Expr.Eagerness
import StateTree.Proofs.Graph.FinishingOrder
import StateTree.Proofs.Naming.Scope

/-!
# `StateTree.Proofs.Expr.Depth`: translation ends, and looks at nodes only

Translating a type asks for the shapes of types by their positions, and calls itself for the types
that are written inside the type. Nothing in the way it does so tells that it comes to an end, or
that there is a node wherever it looks. So the recursion is written out here once more, on nodes of
which nothing is known. It stops where it looks for a node that is not there, and where more calls
stand one inside the other than a given depth.

On the nodes of a graph it does neither. A class ends every chain of calls, and without classes no
type is written inside itself, so each call has fewer types inside its own than the call around it.
A depth of as many calls as there are nodes is enough. The names may be those of any graph: what a
type is called is looked up, and a class or an enum that is not found is what translation fails for.

- `translateWithin`, `unionWithin`: the recursion with its look-ups and its depth.
- `card_insideOf_lt`: what gets smaller with every call.
- `translateWithin_eq`, `unionWithin_eq`: on the nodes of a graph the recursion ends with the
  expression of the type.
- `Outcome`: an expression whose names all have identifiers, or a class or an enum without a name.
- `translation_ends`: both of any type, with any names.
-/

set_option autoImplicit false

namespace StateTree.Expr

open StateTree.Fallible
open StateTree.Graph
open StateTree.Naming (NameId TypeNames)
open StateTree.Text (AcronymStyle)

/-! ### The recursion -/

/-- Why the recursion comes to no expression. Only the last one is an error of the translation;
the other two are what the recursion is shown not to come to. -/
inductive Stop where
  /-- There are more calls inside each other than allowed. -/
  | tooDeep
  /-- There is no node at a position. -/
  | missing (id : TypeId)
  /-- A name is missing. -/
  | naming (error : Naming.Error)
  deriving DecidableEq

section

variable (nodes : List Node) (names : TypeNames) (written : List TypeId)
  (call : TypeId → Except Stop Expr)

/-- The shape at a position, if there is a node. Every look-up of the recursion goes through here,
so none is made that the recursion does not answer for. -/
def lookUp (id : TypeId) : Except Stop Kind :=
  match nodes[id]? with
  | some node => .ok node.kind
  | none => .error (.missing id)

/-- A reference to a declaration, unless that is still to come and may not be referred to before.
Only a class may. -/
def reference? (id : TypeId) (kind : Kind) (name : NameId) : Option Expr :=
  if id ∈ written then some (.reference name)
  else if isForwardable kind then some (.late name)
  else none

/-- The expressions of members of a union, those of equal primitive types but once. -/
def membersStep (seen : List Primitive) : List TypeId → Except Stop (List Expr)
  | [] => .ok []
  | member :: rest => do
    let kind ← lookUp nodes member
    match kind.primitive? with
    | none =>
      let expr ← call member
      let exprs ← membersStep seen rest
      return expr :: exprs
    | some type =>
      if type ∈ seen then membersStep seen rest
      else
        let expr ← call member
        let exprs ← membersStep (type :: seen) rest
        return expr :: exprs

/-- A union written out, with a call for each member. -/
def unionStep (id : TypeId) : Except Stop Expr := do
  let kind ← lookUp nodes id
  match kind with
  | .union members => (membersStep nodes call [] members).map .union
  | _ => call id

/-- One call of the recursion, given what it calls. It looks up the type itself, and a union that
is written out looks up its members as well. -/
def translateStep (id : TypeId) : Except Stop Expr := do
  let kind ← lookUp nodes id
  match kind with
  | .primitive type => .ok (.scalar (scalarOf type))
  | .array items => (call items).map .array
  | .map _ => .ok (.scalar .any)
  | .object _ =>
    let name ← (nameOf names id kind).mapError .naming
    match reference? written id kind name with
    | some expr => .ok expr
    -- A class can always be referred to, so this does not come about.
    | none => .error (.naming (.unresolved name))
  | .enumeration _ =>
    let name ← (nameOf names id kind).mapError .naming
    return .enumeration name
  | .union _ =>
    match (names.typeName? id).bind (reference? written id kind) with
    | some expr => .ok expr
    -- The union is written out, by calls for its members.
    | none => unionStep nodes call id

/-- The recursion, with at most so many calls inside each other. It is by recursion on this number
and not on the graph, so it is there for any list of nodes, with references out of range too. -/
def translateWithin : Nat → TypeId → Except Stop Expr
  | 0, _ => .error .tooDeep
  | depth + 1, id => translateStep nodes names written (translateWithin depth) id

/-- A union written out, with at most so many calls inside each other. -/
def unionWithin (depth : Nat) (id : TypeId) : Except Stop Expr :=
  unionStep nodes (translateWithin nodes names written depth) id

end

/-! ### What gets smaller -/

/-- The types that are written inside a type, at any depth. Their number is what a call has less
of than the call around it. -/
noncomputable def insideOf (graph : TypeGraph) (id : TypeId) : Finset TypeId :=
  haveI := Classical.decPred fun part => Relation.TransGen (Inside graph.nodes) part id
  (Finset.range graph.size).filter fun part => Relation.TransGen (Inside graph.nodes) part id

variable {graph : TypeGraph} {id part : TypeId}

/-- What is written inside a type is in range, and is reached by going into the type. -/
theorem mem_insideOf_iff : part ∈ insideOf graph id ↔
    part < graph.size ∧ Relation.TransGen (Inside graph.nodes) part id := by
  simp [insideOf]

/-- No type is written inside itself, which is what the check of graphs for cycles is for. -/
theorem notMem_insideOf_self (graph : TypeGraph) (id : TypeId) : id ∉ insideOf graph id := by
  intro h
  exact graph.wellFormed.acyclic id (mem_insideOf_iff.1 h).2

/-- What is written inside a type has fewer types inside. This is why the recursion ends: each
call is for a part of the type of the call around it. -/
theorem card_insideOf_lt (h : Inside graph.nodes part id) :
    (insideOf graph part).card < (insideOf graph id).card := by
  refine Finset.card_lt_card (Finset.ssubset_iff_subset_ne.2 ⟨?_, ?_⟩)
  · intro inner hinner
    obtain ⟨hlt, hinner⟩ := mem_insideOf_iff.1 hinner
    exact mem_insideOf_iff.2 ⟨hlt, hinner.tail h⟩
  · -- The part itself is inside the type and not inside the part.
    intro heq
    have hpart : part ∈ insideOf graph id :=
      mem_insideOf_iff.2 ⟨inlinedAt_lt graph.wellFormed.child_lt id part h, .single h⟩
    exact notMem_insideOf_self graph part (heq ▸ hpart)

/-- A node has fewer types inside than there are nodes, since it is not inside of itself. So the
number of nodes is a depth that is enough for any type. -/
theorem card_insideOf_lt_size (hid : id < graph.size) :
    (insideOf graph id).card < graph.size := by
  have hlt : insideOf graph id ⊂ Finset.range graph.size := by
    refine (Finset.ssubset_iff_of_subset ?_).2
      ⟨id, Finset.mem_range.2 hid, notMem_insideOf_self graph id⟩
    intro inner hinner
    exact Finset.mem_range.2 (mem_insideOf_iff.1 hinner).1
  simpa using Finset.card_lt_card hlt

/-! ### The recursion on the nodes of a graph -/

variable {names : TypeNames} {written : List TypeId} {call : TypeId → Except Stop Expr}

/-- There is a node at every position of a graph. The recursion only looks up what is in range, by
`child_lt_of_kind`, and so never stops here. -/
theorem lookUp_eq (hid : id < graph.size) : lookUp graph.nodes id = .ok (graph.kind id) := by
  obtain ⟨node, hnode⟩ : ∃ node, graph.nodes[id]? = some node :=
    ⟨graph.nodes[id], List.getElem?_eq_getElem hid⟩
  rw [lookUp, hnode, Naming.TypeNames.kind_of_node? hnode]

/-- Members in range are called one after the other, but for the repeated ones. The look-ups
succeed, and what is left is a call for each member that is kept. -/
theorem membersStep_eq (seen : List Primitive) {members : List TypeId}
    (hrange : ∀ member ∈ members, member < graph.size) :
    membersStep graph.nodes call seen members =
      (distinctMembers graph.kind seen members).mapM call := by
  induction members generalizing seen with
  | nil => rfl
  | cons member rest ih =>
    have hrest : ∀ member ∈ rest, member < graph.size := fun m hm => hrange m (by simp [hm])
    rw [membersStep, distinctMembers, lookUp_eq (hrange member (by simp)), ok_bind]
    -- Both leave out the same members, those of a primitive type that was seen.
    cases (graph.kind member).primitive? with
    | none => simp only [List.mapM_cons, ih _ hrest]
    | some type =>
      by_cases hseen : type ∈ seen
      · simp only [hseen, if_true, ih _ hrest]
      · simp only [hseen, if_false, List.mapM_cons, ih _ hrest]

/-- A union in range is written out as it is without look-ups and depth, if its members are. The
error of a member is the same but for being told from the errors of the recursion. -/
theorem unionStep_eq {members : List TypeId} (hkind : graph.kind id = .union members)
    (hid : id < graph.size)
    (hcall : ∀ member ∈ members,
      call member = (translate graph names written member).mapError .naming) :
    unionStep graph.nodes call id = (unionExpression graph names written id).mapError .naming := by
  have hrange : ∀ member ∈ members, member < graph.size := fun _ hmember =>
    TypeGraph.child_lt_of_kind hkind hmember
  -- The errors of the calls are those of the translation, so they can be changed at the end as
  -- well.
  have hcalls : (distinctMembers graph.kind [] members).mapM call =
      ((distinctMembers graph.kind [] members).mapM (translate graph names written)).mapError
        .naming := by
    rw [← mapM_mapError]
    exact mapM_congr fun member hmember => hcall member (mem_of_mem_distinctMembers hmember)
  rw [unionStep, lookUp_eq hid, ok_bind, hkind, unionExpression_union hkind]
  simp only [membersStep_eq [] hrange, hcalls, map_mapError]

/-- A class can always be referred to, late if it is not written. So the case that `translateStep`
has for a class without a reference does not come about. -/
theorem reference?_object {properties : Keyed Graph.Property} {name : NameId} :
    reference? written id (.object properties) name =
      some (if id ∈ written then .reference name else .late name) := by
  unfold reference?
  split <;> rfl

/-- A union can be referred to where its declaration is written, and has a name. Otherwise the
recursion goes on with its members, as translation does. -/
theorem bind_reference?_union {members : List TypeId} :
    (names.typeName? id).bind (reference? written id (.union members)) =
      (writtenName? names written id).map .reference := by
  unfold writtenName? reference?
  cases names.typeName? id <;> split <;> rfl

/-- A depth of one call more than there are types inside a type is enough for the type. The
recursion then comes to what translation comes to, whether this is an expression or a missing
name. -/
theorem translateWithin_eq {depth : Nat} (hid : id < graph.size)
    (hdepth : (insideOf graph id).card < depth) :
    translateWithin graph.nodes names written depth id =
      (translate graph names written id).mapError .naming := by
  -- On the depth, which is spent by one with each call. The type changes, and has less inside.
  induction depth generalizing id with
  | zero => exact absurd hdepth (Nat.not_lt_zero _)
  | succ depth ih =>
    -- The next call is for a type with fewer types inside.
    have hcall : ∀ {kind : Kind}, graph.kind id = kind → ∀ part ∈ kind.inlined,
        translateWithin graph.nodes names written depth part =
          (translate graph names written part).mapError .naming := by
      intro kind hkind part hpart
      have hlt := card_insideOf_lt (inside_of_mem hkind hpart)
      have hrange := TypeGraph.child_lt_of_kind hkind (inlined_subset_children kind part hpart)
      exact ih hrange (by omega)
    rw [translateWithin, translateStep, lookUp_eq hid, ok_bind]
    cases hkind : graph.kind id with
    | primitive type => rw [translate_primitive hkind]; rfl
    | map values => rw [translate_map hkind]; rfl
    | array items =>
      have hitems := hcall hkind items (List.mem_singleton_self items)
      simp only [translate_array hkind, hitems, map_mapError]
    | object properties =>
      rw [translate_object hkind]
      cases hname : nameOf names id (.object properties) with
      | error error => rfl
      | ok name => simp only [reference?_object, Except.mapError, ok_bind, Except.map]
    | enumeration cases =>
      rw [translate_enumeration hkind]
      cases hname : nameOf names id (.enumeration cases) with
      | error error => rfl
      | ok name => rfl
    | union members =>
      rw [translate_union hkind]
      simp only [bind_reference?_union]
      cases writtenName? names written id with
      | some name => rfl
      | none => exact unionStep_eq hkind hid (hcall hkind)

/-- A depth of as many calls as there are nodes is enough for writing out a union. This is not a
call for the union itself, so it begins one level deeper than `translateWithin_eq`. -/
theorem unionWithin_eq {depth : Nat} (hid : id < graph.size) (hdepth : graph.size ≤ depth) :
    unionWithin graph.nodes names written depth id =
      (unionExpression graph names written id).mapError .naming := by
  have hcall : ∀ part < graph.size, translateWithin graph.nodes names written depth part =
      (translate graph names written part).mapError .naming := fun part hpart =>
    translateWithin_eq hpart (Nat.lt_of_lt_of_le (card_insideOf_lt_size hpart) hdepth)
  -- A union calls for its members, and anything else for itself. Both are in range.
  unfold unionWithin
  cases hkind : graph.kind id with
  | union members =>
    refine unionStep_eq hkind hid fun member hmember => ?_
    exact hcall member (TypeGraph.child_lt_of_kind hkind hmember)
  | _ => simp only [unionStep, lookUp_eq hid, ok_bind, hkind, unionExpression, hcall id hid]

/-! ### What translation comes to -/

/-- The results of translating a type: an expression whose names all have identifiers once it is
written, or a class or an enum, the type itself or inside it, that has no name. -/
inductive Outcome (graph : TypeGraph) (names : TypeNames) (vocabulary : Vocabulary) (id : TypeId) :
    Except Naming.Error Expr → Prop where
  | word {expr : Expr} (h : ∀ name, .name name ∈ (word vocabulary expr).parts →
      ∃ identifier, names.resolve name = .ok identifier) :
    Outcome graph names vocabulary id (.ok expr)
  | unnamed {type : TypeId} (hinside : Relation.ReflTransGen (Inside graph.nodes) type id)
    (hkind : (graph.kind type).isClass ∨ (graph.kind type).isEnum)
    (hname : names.typeName? type = none) :
    Outcome graph names vocabulary id (.error (.unnamed type (graph.kind type).name))

variable {vocabulary : Vocabulary} {part : TypeId}

/-- A part without a name is inside of all that the part is inside of. So the complaint goes up
through the calls as it is. -/
theorem Outcome.inside {error : Naming.Error}
    (h : Outcome graph names vocabulary part (.error error)) (hpart : Inside graph.nodes part id) :
    Outcome graph names vocabulary id (.error error) := by
  cases h with
  | unnamed hinside hkind hname => exact .unnamed (hinside.tail hpart) hkind hname

/-- The name of a class or an enum is missing. This is where every error of translation comes
from. -/
theorem outcome_of_nameOf {kind : Kind} {error : Naming.Error} (hkind : graph.kind id = kind)
    (hnamed : kind.isClass ∨ kind.isEnum) (h : nameOf names id kind = .error error) :
    Outcome graph names vocabulary id (.error error) := by
  subst hkind
  unfold nameOf at h
  split at h
  · cases h
  · rename_i hname
    obtain rfl : _ = error := by simpa using h
    exact .unnamed .refl hnamed hname

/-- A union that is written out fails as one of its members does. The condition is on members,
since the union is either translated or declared. -/
theorem outcome_of_members {members : List TypeId} {error : Naming.Error}
    (hkind : graph.kind id = .union members)
    (hmember : ∀ member ∈ members, translate graph names written member = .error error →
      Outcome graph names vocabulary member (.error error))
    (h : unionExpression graph names written id = .error error) :
    Outcome graph names vocabulary id (.error error) := by
  rw [unionExpression_union hkind, map_eq_error_iff] at h
  obtain ⟨member, hdistinct, herror⟩ := exists_of_mapM_eq_error h
  have hmem := mem_of_mem_distinctMembers hdistinct
  exact (hmember member hmem herror).inside (inside_of_mem hkind hmem)

/-- Where translation fails, a class or an enum has no name, and it is the type itself or inside
of it. -/
theorem outcome_of_translate_eq_error {error : Naming.Error}
    (h : translate graph names written id = .error error) :
    Outcome graph names vocabulary id (.error error) := by
  -- Along what is written inside what, as the calls go.
  induction id using graph.inside_wellFounded.induction with
  | _ id ih =>
    cases hkind : graph.kind id with
    | primitive type => simp [translate_primitive hkind] at h
    | map values => simp [translate_map hkind] at h
    | array items =>
      have hinside := inside_of_mem hkind (List.mem_singleton_self items)
      rw [translate_array hkind, map_eq_error_iff] at h
      exact (ih items hinside h).inside hinside
    | object properties =>
      rw [translate_object hkind, map_eq_error_iff] at h
      exact outcome_of_nameOf hkind (.inl rfl) h
    | enumeration cases =>
      rw [translate_enumeration hkind, map_eq_error_iff] at h
      exact outcome_of_nameOf hkind (.inr rfl) h
    | union members =>
      rw [translate_union hkind] at h
      cases hname : writtenName? names written id with
      | some name => simp [hname] at h
      | none =>
        rw [hname] at h
        exact outcome_of_members hkind
          (fun member hmember => ih member (inside_of_mem hkind hmember)) h

/-- An expression whose names belong to types is written with names that have identifiers. The
names may be those of another graph: a name that is found for a type has been assigned. -/
theorem outcome_of_uses {other : TypeGraph} {declareUnions : Bool} {acronyms : AcronymStyle}
    (h : TypeNames.assign other declareUnions acronyms = .ok names) {expr : Expr}
    (huses : ∀ use ∈ expr.uses, ∃ type, names.typeName? type = some use.name) :
    Outcome graph names vocabulary id (.ok expr) := by
  refine .word fun name hname => ?_
  obtain ⟨use, huse, rfl⟩ := exists_use_of_name_mem vocabulary false hname
  rw [usesIn_word] at huse
  obtain ⟨type, htype⟩ := huses use huse
  exact (TypeNames.covers_of_assign h).resolves (.type type) use.name htype

/-- Translation has one of its results. The word of the expression may be in any vocabulary, and
the names may be those of any other graph. -/
theorem outcome_translate {other : TypeGraph} {declareUnions : Bool} {acronyms : AcronymStyle}
    (h : TypeNames.assign other declareUnions acronyms = .ok names) (graph : TypeGraph)
    (written : List TypeId) (vocabulary : Vocabulary) (id : TypeId) :
    Outcome graph names vocabulary id (translate graph names written id) := by
  cases htranslate : translate graph names written id with
  | error error => exact outcome_of_translate_eq_error htranslate
  | ok expr =>
    refine outcome_of_uses h fun use huse => ?_
    -- Each name in the expression was found for a type.
    obtain ⟨type, htype, -⟩ := use_of_translate htranslate use huse
    exact ⟨type, htype⟩

/-- Writing out a union has one of the results, too, and for what is no union it is translation.
-/
theorem outcome_unionExpression {other : TypeGraph} {declareUnions : Bool}
    {acronyms : AcronymStyle} (h : TypeNames.assign other declareUnions acronyms = .ok names)
    (graph : TypeGraph) (written : List TypeId) (vocabulary : Vocabulary) (id : TypeId) :
    Outcome graph names vocabulary id (unionExpression graph names written id) := by
  -- The members of a union are written out even where `translate` would give its name, so
  -- `outcome_translate` does not apply to it. Everything else is translated as it is.
  cases hkind : graph.kind id with
  | union members =>
    cases hunion : unionExpression graph names written id with
    | error error =>
      exact outcome_of_members hkind (fun _ _ => outcome_of_translate_eq_error) hunion
    | ok expr =>
      refine outcome_of_uses h fun use huse => ?_
      obtain ⟨member, -, inner, hinner, huse⟩ := use_of_unionExpression hkind hunion huse
      obtain ⟨type, htype, -⟩ := use_of_translate hinner use huse
      exact ⟨type, htype⟩
  | _ =>
    have hsame : unionExpression graph names written id = translate graph names written id := by
      simp only [unionExpression, hkind]
    rw [hsame]
    exact outcome_translate h graph written vocabulary id

/-- Translation of a type in range ends, whatever has been written and whatever graph the names are
of. It looks up no node that is not there, with as many calls inside each other as there are nodes,
and what it comes to is an expression whose names all have identifiers or a class or an enum without
a name. The same holds where a union is written out. -/
theorem translation_ends {other : TypeGraph} {declareUnions : Bool} {acronyms : AcronymStyle}
    (h : TypeNames.assign other declareUnions acronyms = .ok names) (graph : TypeGraph)
    (written : List TypeId) (vocabulary : Vocabulary) {id : TypeId} (hid : id < graph.size) :
    (∀ depth, graph.size ≤ depth →
      translateWithin graph.nodes names written depth id =
          (translate graph names written id).mapError .naming ∧
        unionWithin graph.nodes names written depth id =
          (unionExpression graph names written id).mapError .naming) ∧
      Outcome graph names vocabulary id (translate graph names written id) ∧
      Outcome graph names vocabulary id (unionExpression graph names written id) := by
  refine ⟨fun depth hdepth => ⟨?_, unionWithin_eq hid hdepth⟩,
    outcome_translate h graph written vocabulary id,
    outcome_unionExpression h graph written vocabulary id⟩
  exact translateWithin_eq hid (Nat.lt_of_lt_of_le (card_insideOf_lt_size hid) hdepth)

/-- A list of an enum. -/
def statuses : TypeGraph where
  nodes := [{ kind := .array 1 },
    { kind := .enumeration ⟨["open", "closed"], by simp⟩, names := ["Status"] }]
  topLevels := []
  wellFormed := by decide +kernel

/-- A text, which needs no name. -/
def plainText : TypeGraph where
  nodes := [{ kind := .primitive .string }]
  topLevels := []
  wellFormed := by decide +kernel

/-- The names of `plainText`, of which there are none. -/
def noNames : TypeNames where
  registry := {}
  names := ({} : Naming.Registry Naming.NameKey).assign .typeName .pascal

/-- With the names of another graph translation of the list ends as well. The enum has no name. -/
theorem translation_ends_elsewhere :
    TypeNames.assign plainText false .pascal = .ok noNames ∧ 0 < statuses.size ∧
      translateWithin statuses.nodes noNames [] 2 0 = .error (.naming (.unnamed 1 "enum")) ∧
      Outcome statuses noNames .standard 0 (.error (.unnamed 1 "enum")) := by
  have hnames : TypeNames.assign plainText false .pascal = .ok noNames := rfl
  have hsize : 0 < statuses.size := by decide
  have hfails : translate statuses noNames [] 0 = .error (.unnamed 1 "enum") := by
    rw [translate_array rfl, translate_enumeration rfl]
    rfl
  -- Two calls are enough: one for the list, one for its items.
  obtain ⟨hdepth, houtcome, -⟩ := translation_ends hnames statuses [] .standard hsize
  have hwithin := (hdepth 2 (by decide)).1
  rw [hfails] at hwithin houtcome
  exact ⟨hnames, hsize, hwithin, houtcome⟩

/-- On other nodes the recursion may stop: a list of itself is never written. -/
example (names : TypeNames) :
    translateWithin [{ kind := .array 0 }] names [] 3 0 = .error .tooDeep :=
  rfl

/-- Nor is a list of what is not there. -/
example (names : TypeNames) :
    translateWithin [{ kind := .array 7 }] names [] 3 0 = .error (.missing 7) :=
  rfl

end StateTree.Expr
