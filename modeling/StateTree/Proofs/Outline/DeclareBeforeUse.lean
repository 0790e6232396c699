import StateTree.Proofs.Outline.Verdict

/-!
# `StateTree.Proofs.Outline.DeclareBeforeUse`: what a declaration evaluates comes before it

Every name that an expression evaluates, so every name outside a late reference, is the name of an
earlier declaration or of an enum. Classes that come later are referred to late, and unions that
come later are written out. An enum is written by its name wherever it is, so it has to come first;
and it does, unless a union that the search for the order is still inside of has it as a member that
the search has not come to.

- `Outline.DeclaredBeforeUse`: every evaluated name is declared earlier.
- `EnumsInTime`: every enum that a declared type spells out is finished before it.
- `generate_declaredBeforeUse`: the first holds of a file exactly if the second holds of the order.
-/

set_option autoImplicit false

namespace StateTree

open StateTree.Expr (SpellsOut Use Vocabulary translate)
open StateTree.Graph
open StateTree.Naming (NameId TypeNames)

namespace Outline

/-- The declarations of a file in the order in which they are written: first those of types, then
the aliases of entry points. -/
def items (outline : Outline) : List Declaration :=
  outline.declarations ++ outline.aliases

/-- The names that stand outside late references in what a declaration is written as. They are
looked up while the file is being run, where a late one waits until it has been. -/
def Declaration.evaluates (vocabulary : Vocabulary) (made : Declaration) : List NameId :=
  ((made.body.exprs.flatMap fun expr =>
    Expr.usesIn vocabulary false (expr.word vocabulary).parts).filter fun use => !use.late).map
      Use.name

/-- Every name that a declaration evaluates is the name of an earlier one. Names in late
references are not evaluated in the declaration, so they do not count. -/
def DeclaredBeforeUse (vocabulary : Vocabulary) (outline : Outline) : Prop :=
  ∀ before this after, outline.items = before ++ this :: after →
    ∀ name ∈ this.evaluates vocabulary, ∃ earlier ∈ before, earlier.name = name

end Outline

/-- Every enum that a type with a declaration spells out is declared before the type. It is a
condition on the graph and the order of its types alone, and nothing else can make a declaration
come too late. -/
def EnumsInTime (graph : TypeGraph) (names : TypeNames) (declareUnions : Bool) : Prop :=
  ∀ before this after, graph.declarationOrder declareUnions = before ++ this :: after →
    ¬ Outline.isAnonymousUnion graph names this → ∀ child ∈ graph.children this,
      ∀ enum, SpellsOut graph child enum → enum ∈ before

open Outline

variable {profile : Profile} {graph : TypeGraph} {names : TypeNames} {outline : Outline}

/-- A declaration evaluates the names that its expressions use eagerly. What is written and the
expression have the same names, so from here on only expressions are looked at. -/
theorem mem_evaluates_iff {vocabulary : Vocabulary} {made : Declaration} {name : NameId} :
    name ∈ made.evaluates vocabulary ↔
      ∃ expr ∈ made.body.exprs, ∃ use ∈ expr.uses, use.late = false ∧ use.name = name := by
  simp only [Declaration.evaluates, List.mem_map, List.mem_filter, List.mem_flatMap,
    Expr.usesIn_word, Bool.not_eq_true']
  constructor
  · rintro ⟨use, ⟨⟨expr, hexpr, huse⟩, hlate⟩, hname⟩
    exact ⟨expr, hexpr, use, huse, hlate, hname⟩
  · rintro ⟨expr, hexpr, use, huse, hlate, hname⟩
    exact ⟨use, ⟨⟨expr, hexpr, huse⟩, hlate⟩, hname⟩

/-! ### Declarations and the order of types -/

/-- A class or an enum is no anonymous union, so it is not left out of the declarations. -/
theorem isAnonymousUnion_eq_false {id : TypeId}
    (h : (graph.kind id).isClass ∨ (graph.kind id).isEnum) :
    isAnonymousUnion graph names id = false := by
  simp [isAnonymousUnion, Naming.isUnion_eq_false h]

/-- No type has two declarations, since none comes twice in the order. -/
theorem nodup_types (h : Outline.ofGraph profile graph names = .ok outline) :
    (outline.declarations.map Declaration.type).Nodup := by
  rw [(declareAll_eq_ok (ofGraph_eq_ok h).1).1]
  exact (graph.nodup_declarationOrder _).filter _

/-- The declarations before one are those of the types before it, anonymous unions left out. It
takes a place in the file to a place in the order of types, where the search for the order can be
used. -/
theorem order_split (h : Outline.ofGraph profile graph names = .ok outline)
    {before after : List Declaration} {this : Declaration}
    (hsplit : outline.declarations = before ++ this :: after) :
    ∃ before' after', graph.declarationOrder profile.settings.declareUnions =
        before' ++ this.type :: after' ∧
      before'.filter (fun id => !isAnonymousUnion graph names id) =
        before.map Declaration.type ∧ ¬ isAnonymousUnion graph names this.type := by
  have htypes := (declareAll_eq_ok (ofGraph_eq_ok h).1).1
  have hthis : this.type ∈ outline.declarations.map Declaration.type := by simp [hsplit]
  rw [htypes, List.mem_filter] at hthis
  rw [hsplit, List.map_append, List.map_cons] at htypes
  obtain ⟨before', after', horder, hbefore⟩ := TypeGraph.exists_split_of_filter htypes.symm
  exact ⟨before', after', horder, hbefore, by simpa using hthis.2⟩

/-- A type that is no anonymous union has its declaration after those of the types before it; the
other direction of `order_split`. -/
theorem declarations_split (h : Outline.ofGraph profile graph names = .ok outline)
    {before after : List TypeId} {id : TypeId}
    (horder : graph.declarationOrder profile.settings.declareUnions = before ++ id :: after)
    (hid : ¬ isAnonymousUnion graph names id) :
    ∃ before' this after', outline.declarations = before' ++ this :: after' ∧ this.type = id ∧
      before'.map Declaration.type =
        before.filter fun id => !isAnonymousUnion graph names id := by
  have htypes := (declareAll_eq_ok (ofGraph_eq_ok h).1).1
  rw [horder, List.filter_append, List.filter_cons_of_pos (by simpa using hid)] at htypes
  obtain ⟨before', rest, hsplit, hbefore, hrest⟩ := List.map_eq_append_iff.1 htypes
  obtain ⟨this, after', rfl, hthis, _⟩ := List.map_eq_cons_iff.1 hrest
  exact ⟨before', this, after', hsplit, hthis, hbefore⟩

/-- The declaration of an item, made when those before it had been written. What it refers to by
name is thereby among these. -/
theorem declaration_of_split (h : Outline.ofGraph profile graph names = .ok outline)
    {before after : List Declaration} {this : Declaration}
    (hsplit : outline.declarations = before ++ this :: after) :
    declaration profile graph names (before.map Declaration.type).reverse this.type = .ok this := by
  have hthis := (declareAll_eq_ok (ofGraph_eq_ok h).1).2 before this after hsplit
  rwa [List.append_nil] at hthis

/-- Every declaration has the name of its type, as aliases need not. -/
theorem name_of_mem (h : Outline.ofGraph profile graph names = .ok outline) {made : Declaration}
    (hmade : made ∈ outline.declarations) : names.typeName? made.type = some made.name := by
  obtain ⟨before, after, hsplit⟩ := List.append_of_mem hmade
  exact (declaration_eq_ok (declaration_of_split h hsplit)).2.1

/-- The name of a type is that of its declaration, so a reference to the type leads to the
declaration. -/
theorem name_eq_of_mem (h : Outline.ofGraph profile graph names = .ok outline) {made : Declaration}
    (hmade : made ∈ outline.declarations) {name : NameId}
    (hname : names.typeName? made.type = some name) : made.name = name := by
  rw [name_of_mem h hmade] at hname
  exact Option.some.inj hname

/-- Every class and every enum is declared, whether an entry point reaches it or not. The order of
declarations has all types, and only unions may be left out. -/
theorem exists_declaration_of_kind (h : Outline.ofGraph profile graph names = .ok outline)
    {id : TypeId} (hkind : (graph.kind id).isClass ∨ (graph.kind id).isEnum) :
    ∃ made ∈ outline.declarations, made.type = id := by
  have hlt : id < graph.size :=
    lt_length_of_kindAt (fun kind => kind.isClass ∨ kind.isEnum) (by decide) hkind
  have hdeclarable : isDeclarable profile.settings.declareUnions (graph.kind id) := by
    rcases hkind with hkind | hkind <;> simp [isDeclarable, hkind]
  -- So it is in the order of types, and no anonymous union that would be left out.
  have hmem : id ∈ outline.declarations.map Declaration.type := by
    rw [(declareAll_eq_ok (ofGraph_eq_ok h).1).1, List.mem_filter,
      TypeGraph.mem_declarationOrder_iff]
    exact ⟨⟨hlt, hdeclarable⟩, by simp [isAnonymousUnion_eq_false hkind]⟩
  exact List.mem_map.1 hmem

/-- An item is a declaration, or an alias that comes after all declarations. An alias can thus
refer to any declaration of a type. -/
theorem item_cases {before after : List Declaration} {this : Declaration}
    (h : outline.items = before ++ this :: after) :
    (∃ after', outline.declarations = before ++ this :: after') ∨
      outline.declarations ⊆ before ∧ this ∈ outline.aliases := by
  rcases List.append_eq_append_iff.1 h with ⟨others, rfl, haliases⟩ | ⟨others, hbefore, hrest⟩
  · exact .inr ⟨by simp, by simp [haliases]⟩
  · -- The declarations go as far as the place or further. If no further, this is the first alias.
    cases others with
    | nil =>
      have hthis : this ∈ [] ++ outline.aliases := by
        rw [← hrest]
        exact List.mem_cons_self
      exact .inr ⟨by simp [hbefore], hthis⟩
    | cons first others =>
      obtain ⟨rfl, rfl⟩ := List.cons.inj hrest
      exact .inl ⟨others, hbefore⟩

/-! ### Names that are evaluated -/

/-- A name that an item evaluates is the name of an earlier item, or the item is a declaration and
the name that of an enum that the type of the item spells out. Enums are the only names that are
evaluated without a look at what has been written. -/
theorem earlier_or_spelled (h : Outline.ofGraph profile graph names = .ok outline)
    {before after : List Declaration} {this : Declaration}
    (hsplit : outline.items = before ++ this :: after) {vocabulary : Vocabulary} {name : NameId}
    (hname : name ∈ this.evaluates vocabulary) :
    (∃ earlier ∈ before, earlier.name = name) ∨
      ∃ after', outline.declarations = before ++ this :: after' ∧
        ∃ child ∈ graph.children this.type, ∃ enum, SpellsOut graph child enum ∧
          names.typeName? enum = some name := by
  obtain ⟨expr, hexpr, use, huse, hlate, rfl⟩ := mem_evaluates_iff.1 hname
  rcases item_cases hsplit with ⟨after', hdeclarations⟩ | ⟨hbefore, hthis⟩
  · have hdeclaration := declaration_of_split h hdeclarations
    obtain ⟨child, hchild, inner, hinner, huse⟩ := use_of_declaration hdeclaration hexpr huse
    obtain ⟨type, htypeName, htype⟩ := Expr.use_of_translate hinner use huse
    rcases htype hlate with hwritten | hspells
    · -- What has been written is declared earlier, under the name of its type.
      obtain ⟨made, hmade, rfl⟩ := List.mem_map.1 (List.mem_reverse.1 hwritten)
      have hmem : made ∈ outline.declarations := by simp [hdeclarations, hmade]
      exact .inl ⟨made, hmade, name_eq_of_mem h hmem htypeName⟩
    · exact .inr ⟨after', hdeclarations, child, hchild, type, hspells, htypeName⟩
  · -- The item is an alias, made when all enums had been declared.
    obtain ⟨_, top, _, _, _, _, expr', hbody, hexpr'⟩ :=
      aliasAll_eq_ok (ofGraph_eq_ok h).2.1 this hthis
    obtain rfl : expr = expr' := by simpa [hbody, Body.exprs] using hexpr
    obtain ⟨type, htypeName, htype⟩ := Expr.use_of_translate hexpr' use huse
    have hdeclared : ∃ made ∈ outline.declarations, made.type = type := by
      rcases htype hlate with hwritten | hspells
      · exact List.mem_map.1 hwritten
      · exact exists_declaration_of_kind h (.inr hspells.isEnum)
    obtain ⟨made, hmade, rfl⟩ := hdeclared
    exact .inl ⟨made, hbefore hmade, name_eq_of_mem h hmade htypeName⟩

/-- If enums come in time, then so does every name that is evaluated: what is no enum has been
written before anyway. -/
theorem declaredBeforeUse_of_enumsInTime (h : Outline.ofGraph profile graph names = .ok outline)
    (vocabulary : Vocabulary) (henums : EnumsInTime graph names profile.settings.declareUnions) :
    outline.DeclaredBeforeUse vocabulary := by
  intro before this after hsplit name hname
  -- Only a name of an enum that is spelled where it is used can come too early, and of these the
  -- condition speaks.
  rcases earlier_or_spelled h hsplit hname with hearlier |
    ⟨after', hdeclarations, child, hchild, enum, hspells, henumName⟩
  · exact hearlier
  · obtain ⟨types, types', horder, hbefore, hthis⟩ := order_split h hdeclarations
    have hmem := henums types this.type types' horder hthis child hchild enum hspells
    have hdeclared : enum ∈ before.map Declaration.type := by
      rw [← hbefore, List.mem_filter]
      exact ⟨hmem, by simp [isAnonymousUnion_eq_false (.inr hspells.isEnum)]⟩
    obtain ⟨made, hmade, rfl⟩ := List.mem_map.1 hdeclared
    have hmem : made ∈ outline.declarations := by simp [hdeclarations, hmade]
    exact ⟨made, hmade, name_eq_of_mem h hmem henumName⟩

/-- If every name that is evaluated comes in time, then so do enums. The induction is on the number
of types before: what a type spells out in the place of a reference to a union before it, that union
spells out as well. -/
theorem enumsInTime_of_declaredBeforeUse (h : Outline.ofGraph profile graph names = .ok outline)
    {vocabulary : Vocabulary} (hdeclared : outline.DeclaredBeforeUse vocabulary) :
    EnumsInTime graph names profile.settings.declareUnions := by
  intro before
  induction hlength : before.length using Nat.strongRecOn generalizing before with
  | ind n ih =>
    intro this after horder hthis child hchild enum hspells
    obtain ⟨before', made, after', hdeclarations, rfl, hbefore⟩ := declarations_split h horder hthis
    have hmem : ∀ type ∈ before'.map Declaration.type,
        type ∈ before ∧ ¬ isAnonymousUnion graph names type := by
      intro type htype
      rw [hbefore, List.mem_filter] at htype
      simpa using htype
    obtain ⟨inner, hinner, expr, hexpr, huses⟩ := uses_subset_declaration
      (declaration_of_split h hdeclarations) hchild hspells.primitive?_eq_none
    -- The enum is written here by its name, or by way of a reference to a union that spells it
    -- out.
    rcases Expr.spelled_use_of_translate hspells inner hinner with
      ⟨use, huse, hlate, hname⟩ | ⟨union, hunion, hkind, hunionSpells⟩
    · -- The name of the enum is evaluated here, so it has been declared.
      have hevaluates : use.name ∈ made.evaluates vocabulary :=
        mem_evaluates_iff.2 ⟨expr, hexpr, use, huses use huse, hlate, rfl⟩
      obtain ⟨earlier, hearlier, hsame⟩ := hdeclared before' made (after' ++ outline.aliases)
        (by simp [items, hdeclarations]) use.name hevaluates
      have hown := name_of_mem h
        (show earlier ∈ outline.declarations by simp [hdeclarations, hearlier])
      rw [hsame] at hown
      rw [TypeNames.typeName?_injective hname hown]
      exact (hmem earlier.type (List.mem_map_of_mem hearlier)).1
    · -- A union before this one spells the enum out, so the enum is before the union already.
      obtain ⟨hunion, hanonymous⟩ := hmem union (List.mem_reverse.1 hunion)
      obtain ⟨before₁, before₂, rfl⟩ := List.append_of_mem hunion
      have hmember : ∃ member ∈ graph.children union, SpellsOut graph member enum := by
        cases hunionSpells with
        | enumeration hkind' => simp [hkind', Kind.isUnion] at hkind
        | array hkind' => simp [hkind', Kind.isUnion] at hkind
        | union hkind' hmember hspells =>
          exact ⟨_, by rw [TypeGraph.children, hkind']; exact hmember, hspells⟩
      obtain ⟨member, hmember, hmemberSpells⟩ := hmember
      have hmem := ih before₁.length (by simp [← hlength]) before₁ rfl union
        (before₂ ++ made.type :: after) (by simp [horder]) hanonymous member hmember enum
        hmemberSpells
      exact List.mem_append_left _ hmem

/-! ### Unions on cycles -/

/-- A path of references leads from a type back to it. For unions this is what can keep an enum
from coming in time. -/
def OnCycle (graph : TypeGraph) (id : TypeId) : Prop :=
  Relation.TransGen (fun a b => b ∈ graph.children a) id id

/-- An enum that is spelled out below a type is finished before the type if no union is on a cycle:
then nothing on the way to the enum leads back. -/
theorem spelled_before (hcycle : ∀ union, (graph.kind union).isUnion → ¬ OnCycle graph union)
    {before after : List TypeId} {this id enum : TypeId}
    (horder : graph.finishingOrder = before ++ this :: after)
    (hthis : (graph.kind this).isClass ∨ (graph.kind this).isUnion)
    (hspells : SpellsOut graph id enum)
    (hpath : Relation.TransGen (fun a b => b ∈ graph.children a) this id)
    (hid : id ∈ before ∨ Reaches graph.children id this) : enum ∈ before := by
  -- Along the path to the enum. Each type on it is finished before `this`, or leads back to
  -- `this`; only a union could do the latter and have the path go on, and that would put it on a
  -- cycle.
  induction hspells with
  | @enumeration enum cases hkind =>
    rcases hid with hid | hid
    · exact hid
    · rcases Relation.ReflTransGen.cases_head hid with rfl | ⟨next, hnext, _⟩
      · simp [hkind, Kind.isClass, Kind.isUnion] at hthis
      · simp [TypeGraph.children, hkind, Kind.children] at hnext
  | @array id items enum hkind _ ih =>
    have hchild : items ∈ graph.children id := by simp [TypeGraph.children, hkind, Kind.children]
    refine ih (hpath.tail hchild) ?_
    rcases hid with hid | hid
    · exact TypeGraph.before_or_reaches horder (.inl hid) hchild
    · rcases Relation.ReflTransGen.cases_head hid with rfl | ⟨next, hnext, hreaches⟩
      · simp [hkind, Kind.isClass, Kind.isUnion] at hthis
      · obtain rfl : next = items := by
          simpa [TypeGraph.children, hkind, Kind.children] using hnext
        exact .inr hreaches
  | @union id member enum members hkind hmember _ ih =>
    have hchild : member ∈ graph.children id := by
      rw [TypeGraph.children, hkind]
      exact hmember
    refine ih (hpath.tail hchild) ?_
    rcases hid with hid | hid
    · exact TypeGraph.before_or_reaches horder (.inl hid) hchild
    · -- A path from the union to the type closes a cycle with the path to the union.
      exact absurd (Relation.TransGen.trans_right hid hpath)
        (hcycle id (by simp [hkind, Kind.isUnion]))

/-- Enums come in time if no union is on a cycle. The condition is not a necessary one, as a union
on a cycle may spell out no enum. -/
theorem enumsInTime_of_acyclic
    (hcycle : ∀ union, (graph.kind union).isUnion → ¬ OnCycle graph union)
    (names : TypeNames) (declareUnions : Bool) : EnumsInTime graph names declareUnions := by
  intro before this after horder _ child hchild enum hspells
  obtain ⟨before', after', hfinishing, hbefore⟩ := TypeGraph.declarationOrder_split horder
  have hthis : isDeclarable declareUnions (graph.kind this) :=
    (TypeGraph.mem_declarationOrder_iff.1 (by simp [horder])).2
  -- An enum refers to nothing, so the type is a class or a union.
  have hkind : (graph.kind this).isClass ∨ (graph.kind this).isUnion := by
    cases hk : graph.kind this <;>
      simp_all [isDeclarable, Kind.isClass, Kind.isEnum, Kind.isUnion, TypeGraph.children,
        Kind.children]
  have hstart := TypeGraph.before_or_reaches hfinishing (.inr rfl) hchild
  refine (hbefore enum).2 ⟨?_, by simp [isDeclarable, hspells.isEnum]⟩
  exact spelled_before hcycle hfinishing hkind hspells (.single hchild) hstart

/-! ### Files -/

/-- Every name that a file evaluates is declared earlier in it or is the name of an enum that the
type of the declaration spells out. It is always declared earlier exactly if every enum comes in
time in the order of declarations, as it does where no union is on a cycle of references. -/
theorem generate_declaredBeforeUse {text : String} (h : generate profile graph = .ok text) :
    ∃ names outline file,
      TypeNames.assign graph profile.settings.declareUnions profile.settings.acronyms = .ok names ∧
      Outline.ofGraph profile graph names = .ok outline ∧
      outline.file profile names = .ok file ∧ file.render = text ∧
      (∀ before this after, outline.items = before ++ this :: after →
        ∀ name ∈ this.evaluates profile.vocabulary,
          (∃ earlier ∈ before, earlier.name = name) ∨
          ∃ child ∈ graph.children this.type, ∃ enum, SpellsOut graph child enum ∧
            names.typeName? enum = some name) ∧
      (outline.DeclaredBeforeUse profile.vocabulary ↔
        EnumsInTime graph names profile.settings.declareUnions) ∧
      ((∀ union, (graph.kind union).isUnion → ¬ OnCycle graph union) →
        outline.DeclaredBeforeUse profile.vocabulary) := by
  obtain ⟨names, outline, file, hnames, houtline, hfile, htext⟩ := generate_eq_ok_iff.1 h
  refine ⟨names, outline, file, hnames, houtline, hfile, htext, ?_, ?_, ?_⟩
  · intro before this after hsplit name hname
    refine (earlier_or_spelled houtline hsplit hname).imp_right ?_
    rintro ⟨_, _, hspelled⟩
    exact hspelled
  · exact ⟨enumsInTime_of_declaredBeforeUse houtline,
      declaredBeforeUse_of_enumsInTime houtline profile.vocabulary⟩
  -- Without unions on cycles the order is a good one, and the equivalence gives the rest.
  · intro hcycle
    exact declaredBeforeUse_of_enumsInTime houtline profile.vocabulary
      (enumsInTime_of_acyclic hcycle names profile.settings.declareUnions)

/-- A union of a class and an enum, and the class with a property of this union. From the union the
search for the order gets to the class, back to the union, and only then to the enum. -/
def crossing : TypeGraph where
  nodes :=
    [{ kind := .union [1, 2] },
      { kind := .object ⟨[("parent", { type := 0 })], by simp⟩, names := ["Group"] },
      { kind := .enumeration ⟨["on", "off"], by simp⟩, names := ["Status"] }]
  topLevels := [{ name := "Entry", type := 0 }]
  wellFormed := by decide +kernel

/-- The file of `crossing` evaluates the name of the enum in the class, which comes first. The
union has no declaration of its own here, so the class spells the enum out. -/
theorem crossing_not_declaredBeforeUse :
    ∃ text names outline, generate (.ofSettings { justTypes := true }) crossing = .ok text ∧
      TypeNames.assign crossing false .pascal = .ok names ∧
      Outline.ofGraph (.ofSettings { justTypes := true }) crossing names = .ok outline ∧
      ¬ outline.DeclaredBeforeUse (Profile.ofSettings { justTypes := true }).vocabulary := by
  have hnames : ∀ id, ¬ Naming.Nameless crossing id := Naming.not_nameless (by decide)
  obtain ⟨text, htext⟩ := exists_generate (.ofSettings { justTypes := true }) hnames
  obtain ⟨names, outline, file, hassign, houtline, -, -, -, hiff, -⟩ :=
    generate_declaredBeforeUse htext
  refine ⟨text, names, outline, htext, hassign, houtline, fun hdeclared => ?_⟩
  -- The class is finished before the enum, since the search comes to it first.
  have horder : crossing.declarationOrder false = [] ++ 1 :: [2] := by
    simp [TypeGraph.declarationOrder, TypeGraph.finishingOrder, TypeGraph.ids, TypeGraph.size,
      TypeGraph.children, TypeGraph.kind, crossing, finishAll, finish, kindAt, Kind.children,
      Keyed.values, isDeclarable, Kind.isClass, Kind.isEnum, List.range, List.range.loop]
  have hchild : 0 ∈ crossing.children 1 := by decide
  have hkind : crossing.kind 0 = .union [1, 2] := rfl
  have hspells : SpellsOut crossing 0 2 := .union hkind (by simp) (.enumeration rfl)
  have hmem := hiff.1 hdeclared [] 1 [2] horder Bool.false_ne_true 0 hchild 2 hspells
  simp at hmem

end StateTree
