import StateTree.Proofs.Expr.Plainness
import StateTree.Proofs.Outline.Exports
import StateTree.Proofs.Outline.WrittenMeaning

/-!
# `StateTree.Proofs.Outline.LateReferences`: late references are for cycles only

What lies below a type on no cycle is finished before the type, however many entry points and other
paths lead to it. So the declaration of the type finds everything written that it refers to, and the
same goes for aliases, which come after all declarations. Only on a cycle is there a class to look
up late or a declared union to write out.

All rests on one property of the search for the order. When it finishes a type, whatever the type
refers to is finished or is still being searched, and what is still being searched leads back to the
type. On no cycle nothing leads back, so all children are finished, and so are theirs.

- `TypeGraph.before_of_below`: what lies below a type on no cycle comes before it.
- `TypeGraph.not_onCycle_of_lt`: a graph whose references all go to smaller positions has no cycle.
- `Outline.Declaration.defers`: the names that a declaration looks up late.
- `Outline.Declaration.IsPlain`: the declaration refers to all that is declared by name.
- `Outline.isPlain_of_not_onCycle`, `Outline.plain_alias`: where this holds.
- `generate_late_onCycle`: all this of a file.
-/

set_option autoImplicit false

namespace StateTree

open StateTree.Expr (Plain Vocabulary distinctMembers plain_of_translate translate)
open StateTree.Fallible
open StateTree.Graph
open StateTree.Naming (NameId TypeNames)

/-! ### Below a type -/

namespace Graph.TypeGraph

/-- `Below graph id part`: a path of one or more references leads from the type to the part. -/
abbrev Below (graph : TypeGraph) : TypeId → TypeId → Prop :=
  Relation.TransGen fun a b => b ∈ graph.children a

/-- All that lies below a type on no cycle is finished before the type. The induction is along the
path: each node on it refers to nodes before the type, or else a path back closes a cycle. -/
theorem before_of_below {graph : TypeGraph} {before after : List TypeId} {this part : TypeId}
    (hcycle : ¬ OnCycle graph this) (horder : graph.finishingOrder = before ++ this :: after)
    (hpart : Below graph this part) : part ∈ before := by
  -- What lies below the type and leads back to it would make a cycle, and this is the one way for
  -- it to be finished later.
  have hback : ∀ {w}, Below graph this w → ¬ Reaches graph.children w this := by
    intro w hw hreaches
    exact hcycle (hw.trans_left hreaches)
  induction hpart with
  | single hchild =>
    have hcome := before_or_reaches horder (.inr rfl) hchild
    exact hcome.resolve_right (hback (.single hchild))
  | tail hpath hchild ih =>
    have hcome := before_or_reaches horder (.inl ih) hchild
    exact hcome.resolve_right (hback (hpath.tail hchild))

/-- There is no cycle where every reference is to a smaller position. It is how a graph that was
put together bottom up is shown to have no late references. -/
theorem not_onCycle_of_lt {graph : TypeGraph}
    (h : ∀ id, ∀ child ∈ graph.children id, child < id) (id : TypeId) : ¬ OnCycle graph id := by
  have hlt : ∀ {part}, Below graph id part → part < id := by
    intro part hpart
    induction hpart with
    | single hchild => exact h _ _ hchild
    | tail _ hchild ih => exact Nat.lt_trans (h _ _ hchild) ih
  intro hcycle
  exact Nat.lt_irrefl id (hlt hcycle)

end Graph.TypeGraph

namespace Outline

/-! ### Plain declarations -/

/-- The names that stand in late references in what a declaration is written as. They are read off
the written pieces, where a late name is known by the text in front of it. -/
def Declaration.defers (vocabulary : Vocabulary) (made : Declaration) : List NameId :=
  ((made.body.exprs.flatMap fun expr =>
    Expr.usesIn vocabulary false (expr.word vocabulary).parts).filter Expr.Use.late).map
      Expr.Use.name

/-- A declaration refers by name to all that is declared: a model in the types of its properties,
which are those of the class, and the constant of a union in its distinct members. -/
def Declaration.IsPlain (graph : TypeGraph) (names : TypeNames) (declared written : TypeId → Prop)
    (this : Declaration) : Prop :=
  match this.body with
  | .model members =>
    (∃ properties, graph.kind this.type = .object properties ∧
      members.map Property.type = properties.values.map Graph.Property.type) ∧
    ∀ member ∈ members, Plain graph names declared written member.type member.expr
  | .enumeration _ => (graph.kind this.type).isEnum
  | .constant expr => ∃ members exprs, graph.kind this.type = .union members ∧
      expr = .union exprs ∧
      List.Forall₂ (Plain graph names declared written) (distinctMembers graph.kind [] members)
        exprs

variable {profile : Profile} {graph : TypeGraph} {names : TypeNames} {outline : Outline}

/-- A declaration defers nothing exactly if its expressions look nothing up late. What is written
has the names of the expression, so the question is one about expressions. -/
theorem defers_eq_nil_iff {vocabulary : Vocabulary} {made : Declaration} :
    made.defers vocabulary = [] ↔
      ∀ expr ∈ made.body.exprs, ∀ use ∈ expr.uses, use.late = false := by
  simp only [Declaration.defers, List.map_eq_nil_iff, List.filter_eq_nil_iff, List.mem_flatMap,
    Expr.usesIn_word, Bool.not_eq_true]
  constructor
  · intro h expr hexpr use huse
    exact h use ⟨expr, hexpr, huse⟩
  · rintro h use ⟨expr, hexpr, huse⟩
    exact h expr hexpr use huse

/-- A plain declaration defers nothing, whatever was declared and written: a plain expression has
no place for a late name. -/
theorem Declaration.IsPlain.defers_eq_nil {declared written : TypeId → Prop} {this : Declaration}
    (h : this.IsPlain graph names declared written) (vocabulary : Vocabulary) :
    this.defers vocabulary = [] := by
  refine defers_eq_nil_iff.2 ?_
  intro expr hexpr use huse
  -- The expressions of a body are those of its properties, none for an enum, and for a constant
  -- one whose uses come from the members.
  unfold IsPlain at h
  split at h <;> rename_i hbody
  · obtain ⟨member, hmember, rfl⟩ := List.mem_map.1 (by simpa [hbody, Body.exprs] using hexpr)
    exact ((h.2 member hmember).looks_back use huse).1
  · simp [hbody, Body.exprs] at hexpr
  · obtain ⟨members, exprs, -, rfl, hplain⟩ := h
    obtain rfl : expr = .union exprs := by simpa [hbody, Body.exprs] using hexpr
    obtain ⟨inner, hinner, huse⟩ := Expr.mem_usesOf_iff.1 huse
    obtain ⟨member, -, hmember⟩ := exists_left_of_forall₂ hplain hinner
    exact (hmember.looks_back use huse).1

/-- A class with a property of its own type defers its name: inside its own declaration the class
has not been written yet. So where the cycle is one step long, there is a late reference indeed. -/
theorem defers_ne_nil_of_mem_children (h : Outline.ofGraph profile graph names = .ok outline)
    (vocabulary : Vocabulary) {this : Declaration} (hthis : this ∈ outline.declarations)
    (hclass : (graph.kind this.type).isClass) (hself : this.type ∈ graph.children this.type) :
    this.defers vocabulary ≠ [] := by
  obtain ⟨before, after, hsplit⟩ := List.append_of_mem hthis
  have hdeclaration := declaration_of_split h hsplit
  obtain ⟨properties, hkind⟩ : ∃ properties, graph.kind this.type = .object properties := by
    cases hkind : graph.kind this.type <;> simp_all [Kind.isClass]
  -- The declarations before it are those of other types.
  have hunwritten : this.type ∉ (before.map Declaration.type).reverse := by
    have hnodup := nodup_types h
    rw [hsplit, List.map_append, List.map_cons, List.nodup_append] at hnodup
    exact fun hmem => hnodup.2.2 _ (List.mem_reverse.1 hmem) _ List.mem_cons_self rfl
  have hlate : translate graph names (before.map Declaration.type).reverse this.type =
      .ok (.late this.name) := by
    rw [Expr.translate_object hkind, Expr.nameOf_eq_ok_iff.2 (declaration_eq_ok hdeclaration).2.1]
    simp [Except.map, hunwritten]
  -- The expression of the property is the late reference, and it stands in the declaration.
  obtain ⟨inner, hinner, expr, hexpr, huses⟩ :=
    uses_subset_declaration hdeclaration hself (by rw [hkind]; rfl)
  obtain rfl := Except.ok.inj (hlate.symm.trans hinner)
  intro hnil
  have huse := defers_eq_nil_iff.1 hnil expr hexpr _ (huses _ (List.mem_singleton_self _))
  exact Bool.noConfusion huse

/-! ### What is declared before a type -/

/-- What is declared and finished before a type is declared before it. It takes what is known of
the search for the order to the order of declarations. -/
theorem mem_before_of_declares (h : Outline.ofGraph profile graph names = .ok outline)
    {before after : List Declaration} {this : Declaration}
    (hsplit : outline.declarations = before ++ this :: after) :
    ∃ before' after', graph.finishingOrder = before' ++ this.type :: after' ∧
      ∀ id ∈ before', outline.Declares id → id ∈ before.map Declaration.type := by
  obtain ⟨types, types', horder, hbefore, -⟩ := order_split h hsplit
  obtain ⟨before', after', hfinishing, hmem⟩ := TypeGraph.declarationOrder_split horder
  refine ⟨before', after', hfinishing, ?_⟩
  intro id hid hdeclares
  rw [Declares, (declareAll_eq_ok (ofGraph_eq_ok h).1).1, List.mem_filter,
    TypeGraph.mem_declarationOrder_iff] at hdeclares
  rw [← hbefore, List.mem_filter, hmem]
  exact ⟨⟨hid, hdeclares.1.2⟩, hdeclares.2⟩

/-! ### Declarations and aliases -/

/-- The declaration of a type on no cycle is plain. All that it refers to lies below the type, and
so is finished and written before it. -/
theorem isPlain_of_not_onCycle (h : Outline.ofGraph profile graph names = .ok outline)
    {before after : List Declaration} {this : Declaration}
    (hsplit : outline.declarations = before ++ this :: after)
    (hcycle : ¬ OnCycle graph this.type) :
    this.IsPlain graph names outline.Declares (· ∈ before.map Declaration.type) := by
  obtain ⟨before', after', hfinishing, hbefore⟩ := mem_before_of_declares h hsplit
  have hplain : ∀ {child expr}, child ∈ graph.children this.type →
      translate graph names (before.map Declaration.type).reverse child = .ok expr →
        Plain graph names outline.Declares (· ∈ before.map Declaration.type) child expr := by
    intro child expr hchild hexpr
    have hwritten : ∀ id, TypeGraph.Below graph this.type id → outline.Declares id →
        id ∈ (before.map Declaration.type).reverse := by
      intro id hbelow hdeclares
      -- What lies below the type is finished before it, so its declaration comes first.
      have hfinished := TypeGraph.before_of_below hcycle hfinishing hbelow
      exact List.mem_reverse.2 (hbefore id hfinished hdeclares)
    have hreverse := plain_of_translate (fun _ hbelow _ hnext => hbelow.tail hnext) hwritten
      (fun _ => declares_of_kind h) (fun _ => exists_name_of_declares h) (.single hchild) hexpr
    simpa only [List.mem_reverse] using hreverse
  -- The three kinds of declarations; in each the expressions are those of children of the type.
  unfold Declaration.IsPlain
  obtain ⟨properties, members, hkind, hbody, htypes, hmembers⟩ | ⟨cases, members, hkind, hbody⟩ |
    ⟨members, expr, hkind, hbody, hunion⟩ :=
      body_cases (declaration_eq_ok (declaration_of_split h hsplit)).2.2
  · rw [hbody]
    refine ⟨⟨properties, hkind, htypes⟩, ?_⟩
    intro member hmember
    have hchild : member.type ∈ graph.children this.type := by
      rw [TypeGraph.children, hkind, Kind.children, ← htypes]
      exact List.mem_map_of_mem hmember
    exact hplain hchild (hmembers member hmember)
  · rw [hbody]
    simp [hkind, Kind.isEnum]
  · rw [hbody]
    rw [Expr.unionExpression_union hkind] at hunion
    obtain ⟨exprs, hexprs, rfl⟩ := map_eq_ok_iff.1 hunion
    -- The constant of a union is written out, whether or not the union itself is written.
    refine ⟨members, exprs, hkind, rfl, (forall₂_of_mapM hexprs ?_).imp fun _ _ hmember =>
      hmember.2⟩
    intro member hmember inner hinner
    have hchild : member ∈ graph.children this.type := by
      rw [TypeGraph.children, hkind]
      exact Expr.mem_of_mem_distinctMembers hmember
    exact hplain hchild hinner

/-- The expression of an alias is plain, since all declarations come before it. So in an alias
nothing is ever referred to late. -/
theorem plain_alias (h : Outline.ofGraph profile graph names = .ok outline) {this : Declaration}
    (hthis : this ∈ outline.aliases) : ∃ expr, this.body = .constant expr ∧
      Plain graph names outline.Declares outline.Declares this.type expr := by
  obtain ⟨_, top, _, htype, _, _, expr, hbody, hexpr⟩ :=
    aliasAll_eq_ok (ofGraph_eq_ok h).2.1 this hthis
  refine ⟨expr, hbody, ?_⟩
  rw [htype]
  -- Nothing has to lie below anything here: whatever is declared is written.
  exact plain_of_translate (fun _ (_ : True) _ _ => trivial) (fun _ _ hdeclares => hdeclares)
    (fun _ => declares_of_kind h) (fun _ => exists_name_of_declares h) trivial hexpr

/-- An alias defers nothing, also where its type is on a cycle. -/
theorem defers_alias (h : Outline.ofGraph profile graph names = .ok outline)
    (vocabulary : Vocabulary) {this : Declaration} (hthis : this ∈ outline.aliases) :
    this.defers vocabulary = [] := by
  obtain ⟨expr, hbody, hplain⟩ := plain_alias h hthis
  refine defers_eq_nil_iff.2 ?_
  intro expr' hexpr use huse
  obtain rfl : expr' = expr := by simpa [hbody, Body.exprs] using hexpr
  exact (hplain.looks_back use huse).1

end Outline

open Outline

variable {profile : Profile} {graph : TypeGraph}

/-! ### Files -/

/-- In every file late references are for cycles only. A declaration that looks a name up late is of
a type on a cycle of references. The declaration of any other type refers by name to every class,
enum and declared union in it, each being declared earlier, and so does every alias. Where no type
is on a cycle, nothing in the whole file is looked up late, and no declared union is written out
but in its own declaration. -/
theorem generate_late_onCycle {text : String} (h : generate profile graph = .ok text) :
    ∃ names outline file,
      TypeNames.assign graph profile.settings.declareUnions profile.settings.acronyms = .ok names ∧
      Outline.ofGraph profile graph names = .ok outline ∧
      outline.file profile names = .ok file ∧ file.render = text ∧
      (∀ id, outline.Declares id ↔ id < graph.size ∧ ((graph.kind id).isClass ∨
        (graph.kind id).isEnum ∨ profile.settings.declareUnions ∧ (graph.kind id).isUnion ∧
          ∃ name, names.typeName? id = some name)) ∧
      (∀ this ∈ outline.declarations, this.defers profile.vocabulary ≠ [] →
        OnCycle graph this.type) ∧
      (∀ before this after, outline.declarations = before ++ this :: after →
        ¬ OnCycle graph this.type →
          this.IsPlain graph names outline.Declares (· ∈ before.map Declaration.type)) ∧
      (∀ this ∈ outline.aliases, this.defers profile.vocabulary = [] ∧
        ∃ expr, this.body = .constant expr ∧
          Plain graph names outline.Declares outline.Declares this.type expr) ∧
      ((∀ id, ¬ OnCycle graph id) →
        (∀ this ∈ outline.items, this.defers profile.vocabulary = []) ∧
        ∀ before this after, outline.declarations = before ++ this :: after →
          this.IsPlain graph names outline.Declares (· ∈ before.map Declaration.type)) := by
  obtain ⟨names, outline, file, hnames, houtline, hfile, htext⟩ := generate_eq_ok_iff.1 h
  have hplain : ∀ this ∈ outline.declarations, ¬ OnCycle graph this.type →
      this.defers profile.vocabulary = [] := by
    intro this hthis hcycle
    obtain ⟨before, after, hsplit⟩ := List.append_of_mem hthis
    exact (isPlain_of_not_onCycle houtline hsplit hcycle).defers_eq_nil profile.vocabulary
  refine ⟨names, outline, file, hnames, houtline, hfile, htext, fun _ => declares_iff houtline,
    ?_, ?_, ?_, ?_⟩
  · intro this hthis hdefers
    by_contra hcycle
    exact hdefers (hplain this hthis hcycle)
  · intro before this after hsplit hcycle
    exact isPlain_of_not_onCycle houtline hsplit hcycle
  · intro this hthis
    exact ⟨defers_alias houtline profile.vocabulary hthis, plain_alias houtline hthis⟩
  -- Without cycles the declarations are those of the second case, and aliases are plain anyway.
  · intro hacyclic
    constructor
    · intro this hthis
      rcases List.mem_append.1 hthis with hthis | hthis
      · exact hplain this hthis (hacyclic this.type)
      · exact defers_alias houtline profile.vocabulary hthis
    · intro before this after hsplit
      exact isPlain_of_not_onCycle houtline hsplit (hacyclic this.type)

/-- A class with a property of its own type. -/
def chain : TypeGraph where
  nodes := [{ kind := .object ⟨[("next", { type := 0 })], by simp⟩, names := ["Link"] }]
  topLevels := [{ name := "Link", type := 0 }]
  wellFormed := by decide +kernel

/-- The file of `holder`, whose references all go to smaller positions, defers nothing. In the file
of `chain` the class looks its own name up late, and it is on a cycle. -/
theorem generate_holder_defers_nothing :
    (∃ text, generate (.ofSettings { declareUnions := true }) holder = .ok text ∧
      ∃ names outline, TypeNames.assign holder true .pascal = .ok names ∧
        Outline.ofGraph (.ofSettings { declareUnions := true }) holder names = .ok outline ∧
        ∀ this ∈ outline.items,
          this.defers (Profile.ofSettings { declareUnions := true }).vocabulary = []) ∧
    ∃ text, generate (.ofSettings {}) chain = .ok text ∧
      ∃ names outline, TypeNames.assign chain false .pascal = .ok names ∧
        Outline.ofGraph (.ofSettings {}) chain names = .ok outline ∧
        ∃ this ∈ outline.declarations, this.defers (Profile.ofSettings {}).vocabulary ≠ [] ∧
          OnCycle chain this.type := by
  constructor
  · have hnames : ∀ id, ¬ Naming.Nameless holder id := Naming.not_nameless (by decide)
    obtain ⟨text, htext⟩ := exists_generate (.ofSettings { declareUnions := true }) hnames
    obtain ⟨names, outline, -, hassign, houtline, -, -, -, -, -, -, hacyclic⟩ :=
      generate_late_onCycle htext
    -- In this graph children come before their parents, so no type is on a cycle.
    have hnode : ∀ id < holder.size, ∀ child ∈ holder.children id, child < id := by decide
    have hsmaller : ∀ id, ∀ child ∈ holder.children id, child < id := by
      intro id child hchild
      by_cases hid : id < holder.size
      · exact hnode id hid child hchild
      · exact Nat.lt_of_lt_of_le (holder.children_lt id child hchild) (Nat.le_of_not_lt hid)
    exact ⟨text, htext, names, outline, hassign, houtline,
      (hacyclic (TypeGraph.not_onCycle_of_lt hsmaller)).1⟩
  · have hnames : ∀ id, ¬ Naming.Nameless chain id := Naming.not_nameless (by decide)
    obtain ⟨text, htext⟩ := exists_generate (.ofSettings {}) hnames
    obtain ⟨names, outline, -, hassign, houtline, -, -, -, honCycle, -⟩ :=
      generate_late_onCycle htext
    have hclass : (chain.kind 0).isClass := by decide
    obtain ⟨this, hthis, htype⟩ := exists_declaration_of_kind houtline (.inl hclass)
    -- The class is a child of itself and was not written when its body was.
    have hdefers := defers_ne_nil_of_mem_children houtline (Profile.ofSettings {}).vocabulary hthis
      (by rw [htype]; decide) (by rw [htype]; decide)
    exact ⟨text, htext, names, outline, hassign, houtline, this, hthis, hdefers,
      honCycle this hthis hdefers⟩

end StateTree
