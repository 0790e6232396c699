import StateTree.Outline.File
import StateTree.Proofs.Expr.Eagerness

/-!
# `StateTree.Proofs.Outline.Stages`: what an outline is made of

- `body_cases`, `declaration_eq_ok`: what a declaration is made of.
- `use_of_declaration`, `uses_subset_declaration`: the names in it.
- `declareAll_eq_ok`: the declarations of types, each made from those before it.
- `aliasAll_eq_ok`: the aliases, each made from all declarations.
- `targetsOf_eq_ok`: the types to convert.
- `ofGraph_eq_ok`, `generate_eq_ok_iff`: the outline and the text of a graph's file.
-/

set_option autoImplicit false

namespace StateTree

open StateTree.Expr (translate unionExpression nameOf_eq_ok_iff)
open StateTree.Fallible
open StateTree.Graph (TypeGraph TypeId Kind TopLevel)
open StateTree.Naming (NameId TypeNames)

namespace Outline

variable {profile : Profile} {graph : TypeGraph} {names : TypeNames} {written : List TypeId}
  {id : TypeId}

/-- The expressions in a body. Everything that a declaration evaluates or looks up late stands in
one of these. -/
def Body.exprs : Body → List Expr
  | model properties => properties.map Property.expr
  | enumeration _ => []
  | constant expr => [expr]

/-! ### One declaration -/

/-- There is one name for each proposal, so members and names can be taken together. -/
theorem length_memberNames (convention : Naming.Convention) (acronyms : Text.AcronymStyle)
    (proposals : List String) :
    (Naming.memberNames convention acronyms proposals).length = proposals.length := by
  rw [Naming.memberNames, List.length_map, Naming.length_assignFrom, List.length_map,
    List.length_zipIdx]

/-- There is one key for each property, with nice names as without. -/
theorem length_propertyKeys (profile : Profile) (properties : List String) :
    (propertyKeys profile properties).length = properties.length := by
  unfold propertyKeys
  split <;> simp [Naming.nicePropertyNames, length_memberNames]

/-- The properties of a class with their keys are all its properties. None is lost by taking the
two lists together, since they are of one length. -/
theorem map_fst_zip_propertyKeys (profile : Profile) (properties : Keyed Graph.Property) :
    (properties.values.zip (propertyKeys profile properties.names)).map Prod.fst =
      properties.values := by
  refine List.map_fst_zip (Nat.le_of_eq ?_)
  rw [length_propertyKeys, Keyed.values, Keyed.names, List.length_map, List.length_map]

/-- A class has a model of all its properties, an enum its members, and a union the expression of
its members; other types have no declaration. Whatever is said of declarations below is said by
these three cases. -/
theorem body_cases {content : Body} (h : body profile graph names written id = .ok content) :
    (∃ properties members, graph.kind id = .object properties ∧ content = .model members ∧
      members.map Property.type = properties.values.map Graph.Property.type ∧
      ∀ member ∈ members, translate graph names written member.type = .ok member.expr) ∨
    (∃ cases members, graph.kind id = .enumeration cases ∧ content = .enumeration members) ∨
    (∃ members expr, graph.kind id = .union members ∧ content = .constant expr ∧
      unionExpression graph names written id = .ok expr) := by
  unfold body at h
  split at h
  · rename_i properties hkind
    obtain ⟨members, hmembers, rfl⟩ := map_eq_ok_iff.1 h
    have hpair := forall₂_of_mapM (P := fun source member =>
        member.type = source.1.type ∧ translate graph names written member.type = .ok member.expr)
      hmembers fun source _ member hmember => by
        obtain ⟨expr, hexpr, rfl⟩ := map_eq_ok_iff.1 hmember
        exact ⟨rfl, hexpr⟩
    refine .inl ⟨properties, members, hkind, rfl, ?_, fun member hmember => ?_⟩
    · -- The properties are taken together with their keys, of which there are as many.
      have htypes : List.Forall₂ (fun type source => type = Graph.Property.type source)
          (members.map Property.type) properties.values := by
        rw [← map_fst_zip_propertyKeys profile properties, List.forall₂_map_left_iff,
          List.forall₂_map_right_iff]
        exact hpair.flip.imp fun _ _ hsource => hsource.2.1
      rw [← List.forall₂_eq_eq_eq, List.forall₂_map_right_iff]
      exact htypes
    · obtain ⟨_, _, _, _, hexpr⟩ := exists_left_of_forall₂ hpair hmember
      exact hexpr
  · rename_i cases hkind
    obtain rfl : _ = content := by simpa using h
    exact .inr (.inl ⟨cases, _, hkind, rfl⟩)
  · rename_i members hkind
    obtain ⟨expr, hexpr, rfl⟩ := map_eq_ok_iff.1 h
    exact .inr (.inr ⟨members, expr, hkind, rfl, hexpr⟩)
  · simp at h

/-- A declaration has the name of its type, and the body that is made for the type. Its
description is left aside here. -/
theorem declaration_eq_ok {made : Declaration}
    (h : declaration profile graph names written id = .ok made) :
    made.type = id ∧ names.typeName? id = some made.name ∧
      body profile graph names written id = .ok made.body := by
  obtain ⟨name, hname, h⟩ := bind_eq_ok_iff.1 h
  obtain ⟨content, hcontent, h⟩ := bind_eq_ok_iff.1 h
  obtain rfl : _ = made := pure_eq_ok_iff.1 h
  exact ⟨rfl, nameOf_eq_ok_iff.1 hname, hcontent⟩

/-- The names in a declaration are those in the expressions of the types that its type refers to.
So what a declaration needs is known from the references of the graph. -/
theorem use_of_declaration {made : Declaration}
    (h : declaration profile graph names written id = .ok made) {expr : Expr}
    (hexpr : expr ∈ made.body.exprs) {use : Expr.Use} (huse : use ∈ expr.uses) :
    ∃ child ∈ graph.children id, ∃ inner, translate graph names written child = .ok inner ∧
      use ∈ inner.uses := by
  -- A model uses what its properties do, an enum nothing, and a union what the members in its own
  -- expression do.
  obtain ⟨properties, members, hkind, hbody, htypes, hmembers⟩ | ⟨cases, members, hkind, hbody⟩ |
    ⟨members, written, hkind, hbody, hunion⟩ := body_cases (declaration_eq_ok h).2.2
  · rw [hbody] at hexpr
    obtain ⟨member, hmember, rfl⟩ := List.mem_map.1 hexpr
    refine ⟨member.type, ?_, member.expr, hmembers member hmember, huse⟩
    rw [TypeGraph.children, hkind, Kind.children, ← htypes]
    exact List.mem_map_of_mem hmember
  · simp [hbody, Body.exprs] at hexpr
  · obtain rfl : expr = written := by simpa [hbody, Body.exprs] using hexpr
    obtain ⟨member, hmember, inner, htranslate, huse⟩ :=
      Expr.use_of_unionExpression hkind hunion huse
    refine ⟨member, ?_, inner, htranslate, huse⟩
    rw [TypeGraph.children, hkind]
    exact hmember

/-- The names in the expressions of the types that a class or a union refers to are in its
declaration, except for those of primitive types, which a union has once. This is the converse of
`use_of_declaration`, as far as it holds. -/
theorem uses_subset_declaration {made : Declaration}
    (h : declaration profile graph names written id = .ok made) {child : TypeId}
    (hchild : child ∈ graph.children id) (hprimitive : (graph.kind child).primitive? = none) :
    ∃ inner, translate graph names written child = .ok inner ∧
      ∃ expr ∈ made.body.exprs, ∀ use ∈ inner.uses, use ∈ expr.uses := by
  obtain ⟨properties, members, hkind, hbody, htypes, hmembers⟩ | ⟨cases, members, hkind, hbody⟩ |
    ⟨members, expr, hkind, hbody, hunion⟩ := body_cases (declaration_eq_ok h).2.2
  · rw [TypeGraph.children, hkind, Kind.children, ← htypes] at hchild
    obtain ⟨member, hmember, rfl⟩ := List.mem_map.1 hchild
    refine ⟨member.expr, hmembers member hmember, member.expr, ?_, fun _ huse => huse⟩
    rw [hbody]
    exact List.mem_map_of_mem hmember
  · simp [TypeGraph.children, hkind, Kind.children] at hchild
  · rw [TypeGraph.children, hkind] at hchild
    rw [Expr.unionExpression_union hkind] at hunion
    obtain ⟨exprs, hexprs, rfl⟩ := map_eq_ok_iff.1 hunion
    -- What is not primitive is not left out of a union.
    have hkept := Expr.mem_distinctMembers [] hchild hprimitive
    obtain ⟨inner, hinner, htranslate⟩ := exists_right_of_forall₂ (mapM_eq_ok_iff.1 hexprs) hkept
    refine ⟨inner, htranslate, .union exprs, by simp [hbody, Body.exprs], fun use huse => ?_⟩
    exact Expr.mem_usesOf_iff.2 ⟨inner, hinner, huse⟩

/-! ### All declarations -/

/-- All types but the anonymous unions are declared in order, each after those before it have been
written. The list `written` has the latest first, as the recursion puts it together. -/
theorem declareAll_eq_ok {order : List TypeId} {made : List Declaration}
    (h : declareAll profile graph names written order = .ok made) :
    made.map Declaration.type = order.filter (fun id => !isAnonymousUnion graph names id) ∧
      ∀ before this after, made = before ++ this :: after →
        declaration profile graph names ((before.map Declaration.type).reverse ++ written)
          this.type = .ok this := by
  induction order generalizing written made with
  | nil =>
    obtain rfl : [] = made := by simpa [declareAll] using h
    exact ⟨rfl, by simp⟩
  | cons id rest ih =>
    rw [declareAll] at h
    by_cases hanonymous : isAnonymousUnion graph names id
    · rw [if_pos hanonymous] at h
      simpa [hanonymous] using ih h
    · rw [if_neg hanonymous] at h
      obtain ⟨first, hfirst, h⟩ := bind_eq_ok_iff.1 h
      obtain ⟨others, hothers, h⟩ := bind_eq_ok_iff.1 h
      obtain rfl : first :: others = made := pure_eq_ok_iff.1 h
      obtain ⟨htypes, hsplit⟩ := ih hothers
      have htype := (declaration_eq_ok hfirst).1
      refine ⟨by simp [hanonymous, htypes, htype], fun before this after heq => ?_⟩
      -- The declaration is the first one, or one of the others, which come after it.
      cases before with
      | nil =>
        obtain ⟨rfl, rfl⟩ := List.cons.inj heq
        rw [htype]
        exact hfirst
      | cons head before =>
        obtain ⟨rfl, htail⟩ := List.cons.inj heq
        simpa [htype] using hsplit before this after htail

/-- The name of an entry point comes from its position. -/
theorem topLevelName_eq_ok_iff {index : Nat} {top : TopLevel} {name : NameId} :
    topLevelName graph names index top = .ok name ↔
      names.topLevelName? graph index = some name := by
  unfold topLevelName
  cases names.topLevelName? graph index <;> simp

/-- An alias stands for an entry point whose type is not written. Entry points that share a name
have one alias, so not every entry point has its own. -/
theorem aliasAll_eq_ok {seen : List NameId} {index : Nat} {topLevels : List TopLevel}
    {made : List Declaration} (h : aliasAll graph names written seen index topLevels = .ok made) :
    ∀ this ∈ made, ∃ i top, topLevels[i]? = some top ∧ this.type = top.type ∧
      top.type ∉ written ∧ names.topLevelName? graph (index + i) = some this.name ∧
      ∃ expr, this.body = .constant expr ∧ translate graph names written top.type = .ok expr := by
  induction topLevels generalizing seen index made with
  | nil =>
    obtain rfl : [] = made := by simpa [aliasAll] using h
    simp
  | cons top rest ih =>
    -- Whether the first entry point has an alias or not, those of the others are as they are.
    have hrest : ∀ {seen others}, aliasAll graph names written seen (index + 1) rest = .ok others →
        ∀ this ∈ others, ∃ i later, (top :: rest)[i]? = some later ∧ this.type = later.type ∧
          later.type ∉ written ∧ names.topLevelName? graph (index + i) = some this.name ∧
          ∃ expr, this.body = .constant expr ∧
            translate graph names written later.type = .ok expr := by
      intro seen others hothers this hthis
      obtain ⟨i, later, hi, htype, hwritten, hname, hexpr⟩ := ih hothers this hthis
      rw [show index + 1 + i = index + (i + 1) by omega] at hname
      exact ⟨i + 1, later, by simpa using hi, htype, hwritten, hname, hexpr⟩
    rw [aliasAll] at h
    by_cases hwritten : top.type ∈ written
    · rw [if_pos hwritten] at h
      exact hrest h
    · rw [if_neg hwritten] at h
      obtain ⟨name, hname, h⟩ := bind_eq_ok_iff.1 h
      by_cases hseen : name ∈ seen
      · rw [if_pos hseen] at h
        exact hrest h
      · rw [if_neg hseen] at h
        obtain ⟨expr, hexpr, h⟩ := bind_eq_ok_iff.1 h
        obtain ⟨others, hothers, h⟩ := bind_eq_ok_iff.1 h
        obtain rfl : _ :: others = made := pure_eq_ok_iff.1 h
        intro this hthis
        rcases List.mem_cons.1 hthis with rfl | hthis
        · exact ⟨0, top, rfl, rfl, hwritten, topLevelName_eq_ok_iff.1 hname, expr, rfl, hexpr⟩
        · exact hrest hothers this hthis

/-- The types to convert of entry points have the names of these. Positions are counted on from
`index`, as names are looked up by position. -/
theorem topLevelTargets_eq_ok {index : Nat} {topLevels : List TopLevel}
    {pairs : List (NameId × TypeId)}
    (h : topLevelTargets graph names index topLevels = .ok pairs) :
    ∀ pair ∈ pairs, ∃ i top, topLevels[i]? = some top ∧ pair.2 = top.type ∧
      names.topLevelName? graph (index + i) = some pair.1 := by
  -- The index runs along with the list, so it has to be open in the induction.
  induction topLevels generalizing index pairs with
  | nil =>
    obtain rfl : [] = pairs := by simpa [topLevelTargets] using h
    simp
  | cons top rest ih =>
    obtain ⟨name, hname, h⟩ := bind_eq_ok_iff.1 h
    obtain ⟨others, hothers, h⟩ := bind_eq_ok_iff.1 h
    obtain rfl : (name, top.type) :: others = pairs := pure_eq_ok_iff.1 h
    intro pair hpair
    rcases List.mem_cons.1 hpair with rfl | hpair
    · exact ⟨0, top, rfl, rfl, topLevelName_eq_ok_iff.1 hname⟩
    · obtain ⟨i, later, hi, htype, hlater⟩ := ih hothers pair hpair
      rw [show index + 1 + i = index + (i + 1) by omega] at hlater
      exact ⟨i + 1, later, by simpa using hi, htype, hlater⟩

/-- The classes to convert have their own names, and come from the order of declarations. -/
theorem mem_classTargets {order : List TypeId} {pair : NameId × TypeId}
    (h : pair ∈ classTargets graph names order) :
    pair.2 ∈ order ∧ (graph.kind pair.2).isClass ∧ names.typeName? pair.2 = some pair.1 := by
  obtain ⟨id, hid, hpair⟩ := List.mem_filterMap.1 h
  obtain ⟨name, hname, rfl⟩ := Option.map_eq_some_iff.1 hpair
  exact ⟨(List.mem_filter.1 hid).1, (List.mem_filter.1 hid).2, hname⟩

/-- Leaving out names that came before adds none, so every type to convert is one of those that
were asked for. -/
theorem mem_distinctTargets {seen : List NameId} {pairs : List (NameId × TypeId)} {target : Target}
    (h : target ∈ distinctTargets graph seen pairs) : ∃ pair ∈ pairs, pair.1 = target.name := by
  induction pairs generalizing seen with
  | nil => simp [distinctTargets] at h
  | cons pair rest ih =>
    obtain ⟨name, id⟩ := pair
    rw [distinctTargets] at h
    -- A pair whose name was seen is left out, so the target is of a later one.
    split at h
    · obtain ⟨pair, hpair, hname⟩ := ih h
      exact ⟨pair, by simp [hpair], hname⟩
    · rcases List.mem_cons.1 h with rfl | h
      · exact ⟨(name, id), by simp, rfl⟩
      · obtain ⟨pair, hpair, hname⟩ := ih h
        exact ⟨pair, by simp [hpair], hname⟩

/-- The types to convert have names of entry points or of classes. Which of the two it is, the
settings say; without converters there are none. -/
theorem targetsOf_eq_ok {settings : Settings} {order : List TypeId} {targets : List Target}
    (h : targetsOf settings graph names order = .ok targets) :
    ∀ target ∈ targets, (∃ index, names.topLevelName? graph index = some target.name) ∨
      ∃ type, (graph.kind type).isClass ∧ names.typeName? type = some target.name := by
  intro target htarget
  unfold targetsOf at h
  -- With entry points the names are theirs; without, every class is a target.
  split at h
  · obtain rfl : [] = targets := by simpa using h
    simp at htarget
  · split at h
    · obtain ⟨pairs, hpairs, rfl⟩ := map_eq_ok_iff.1 h
      obtain ⟨pair, hpair, hname⟩ := mem_distinctTargets htarget
      obtain ⟨i, _, _, _, htop⟩ := topLevelTargets_eq_ok hpairs pair hpair
      exact .inl ⟨0 + i, by rw [← hname]; exact htop⟩
    · obtain rfl : _ = targets := by simpa using h
      obtain ⟨pair, hpair, hname⟩ := mem_distinctTargets htarget
      exact .inr ⟨pair.2, by rw [← hname]; exact (mem_classTargets hpair).2⟩

/-! ### The whole file -/

/-- The stages of an outline. -/
theorem ofGraph_eq_ok {outline : Outline} (h : ofGraph profile graph names = .ok outline) :
    declareAll profile graph names [] (graph.declarationOrder profile.settings.declareUnions) =
        .ok outline.declarations ∧
      aliasAll graph names (outline.declarations.map Declaration.type) [] 0 graph.topLevels =
        .ok outline.aliases ∧
      targetsOf profile.settings graph names
        (graph.declarationOrder profile.settings.declareUnions) = .ok outline.targets := by
  obtain ⟨declarations, hdeclarations, h⟩ := bind_eq_ok_iff.1 h
  obtain ⟨aliases, haliases, h⟩ := bind_eq_ok_iff.1 h
  obtain ⟨targets, htargets, h⟩ := bind_eq_ok_iff.1 h
  obtain rfl : _ = outline := pure_eq_ok_iff.1 h
  exact ⟨hdeclarations, haliases, htargets⟩

/-- Whatever the expressions of a declaration or an alias refer to is the name of a type. So all of
them can be written out where every type that is named has an identifier. -/
theorem typeName_of_use {outline : Outline} (h : ofGraph profile graph names = .ok outline)
    {made : Declaration} (hmade : made ∈ outline.declarations ++ outline.aliases) {expr : Expr}
    (hexpr : expr ∈ made.body.exprs) {use : Expr.Use} (huse : use ∈ expr.uses) :
    ∃ type, names.typeName? type = some use.name := by
  obtain ⟨hdeclarations, haliases, -⟩ := ofGraph_eq_ok h
  -- A declaration is made from the children of its type, an alias from the type itself.
  rcases List.mem_append.1 hmade with hmade | hmade
  · obtain ⟨before, after, hsplit⟩ := List.append_of_mem hmade
    have hmade := (declareAll_eq_ok hdeclarations).2 before made after hsplit
    obtain ⟨child, _, inner, hinner, huse⟩ := use_of_declaration hmade hexpr huse
    obtain ⟨type, hname, _⟩ := Expr.use_of_translate hinner use huse
    exact ⟨type, hname⟩
  · obtain ⟨_, _, _, _, _, _, aliased, hbody, haliased⟩ := aliasAll_eq_ok haliases made hmade
    obtain rfl : expr = aliased := by simpa [hbody, Body.exprs] using hexpr
    obtain ⟨type, hname, _⟩ := Expr.use_of_translate haliased use huse
    exact ⟨type, hname⟩

end Outline

/-- The stages of a file: its names, its outline and the outline written out. -/
theorem generate_eq_ok_iff {profile : Profile} {graph : TypeGraph} {text : String} :
    generate profile graph = .ok text ↔ ∃ names outline file,
      TypeNames.assign graph profile.settings.declareUnions profile.settings.acronyms = .ok names ∧
      Outline.ofGraph profile graph names = .ok outline ∧
      outline.file profile names = .ok file ∧ file.render = text := by
  rw [generate, map_eq_ok_iff]
  constructor
  · rintro ⟨file, hfile, rfl⟩
    obtain ⟨names, hnames, hfile⟩ := bind_eq_ok_iff.1 hfile
    obtain ⟨outline, houtline, hfile⟩ := bind_eq_ok_iff.1 hfile
    exact ⟨names, outline, file, hnames, houtline, hfile, rfl⟩
  · rintro ⟨names, outline, file, hnames, houtline, hfile, rfl⟩
    refine ⟨file, bind_eq_ok_iff.2 ⟨names, hnames, ?_⟩, rfl⟩
    exact bind_eq_ok_iff.2 ⟨outline, houtline, hfile⟩

end StateTree
