import StateTree.Proofs.Naming.Scope
import StateTree.Proofs.Outline.DeclareBeforeUse

/-!
# `StateTree.Proofs.Outline.Exports`: the names that an outline declares

A declaration has the name of its type, an alias that of its entry point. The names of entry points
lead to types where these take part in naming, so no alias has the name of a declaration. Every name
that anything in the file refers to is among those declared.

Aliases are made in a loop that remembers the names it has seen. `aliasAll_cons_eq_ok` says what one
entry point adds, and the results about all aliases are inductions over it.

- `Outline.Declares`, `Outline.declares_iff`: which types have declarations.
- `Outline.nodup_names`: no two items share a name.
- `Outline.count_type`: a type with a declaration has no second one and no alias.
- `Outline.exists_item_of_topLevel`: every entry point has its item.
- `Outline.exists_item_of_name`: every name in an expression has its item.
- `Outline.exists_item_of_target`: every type to convert has its item.
-/

set_option autoImplicit false

namespace StateTree.Outline

open StateTree.Expr (Vocabulary translate)
open StateTree.Fallible
open StateTree.Graph
open StateTree.Naming (NameId TypeNames)

variable {profile : Profile} {graph : TypeGraph} {names : TypeNames} {outline : Outline}

/-! ### Declarations -/

/-- Whether a type has a declaration. An alias of an entry point is none: it stands for a type
that has no declaration. -/
def Declares (outline : Outline) (id : TypeId) : Prop :=
  id ∈ outline.declarations.map Declaration.type

/-- All classes and enums have declarations, and so have the named unions where unions are
declared. This is the description of what is declared in terms of the graph, which the statements
about files give. -/
theorem declares_iff (h : Outline.ofGraph profile graph names = .ok outline) {id : TypeId} :
    outline.Declares id ↔ id < graph.size ∧ ((graph.kind id).isClass ∨ (graph.kind id).isEnum ∨
      profile.settings.declareUnions ∧ (graph.kind id).isUnion ∧
        ∃ name, names.typeName? id = some name) := by
  rw [Declares, (declareAll_eq_ok (ofGraph_eq_ok h).1).1, List.mem_filter,
    TypeGraph.mem_declarationOrder_iff, and_assoc]
  refine and_congr_right fun _ => ?_
  cases hkind : graph.kind id <;>
    simp [isDeclarable, isAnonymousUnion, hkind, Kind.isClass, Kind.isEnum, Kind.isUnion,
      Option.isSome_iff_exists]

/-- What is declared has a name, since it is written under it. -/
theorem exists_name_of_declares (h : Outline.ofGraph profile graph names = .ok outline)
    {id : TypeId} (hid : outline.Declares id) : ∃ name, names.typeName? id = some name := by
  obtain ⟨made, hmade, rfl⟩ := List.mem_map.1 hid
  exact ⟨made.name, name_of_mem h hmade⟩

/-- Every class and every enum is declared. -/
theorem declares_of_kind (h : Outline.ofGraph profile graph names = .ok outline) {id : TypeId}
    (hkind : (graph.kind id).isClass ∨ (graph.kind id).isEnum) : outline.Declares id :=
  List.mem_map.2 (exists_declaration_of_kind h hkind)

/-- What is declared takes part in naming, so an entry point of its type has the name of the
declaration. -/
theorem isNamed_of_declares (h : Outline.ofGraph profile graph names = .ok outline) {id : TypeId}
    (hid : outline.Declares id) : (graph.kind id).isNamed := by
  obtain ⟨-, hkind | hkind | ⟨-, hkind, -⟩⟩ := (declares_iff h).1 hid <;>
    simp [Kind.isNamed, hkind]

/-! ### Aliases -/

/-- The first entry point is passed over, or has an alias whose name none of the later ones has.
It is passed over if its type is written, or if its name has been seen. -/
theorem aliasAll_cons_eq_ok {written : List TypeId} {seen : List NameId} {index : Nat}
    {top : TopLevel} {rest : List TopLevel} {made : List Declaration}
    (h : aliasAll graph names written seen index (top :: rest) = .ok made) :
    (top.type ∈ written ∧ aliasAll graph names written seen (index + 1) rest = .ok made) ∨
    top.type ∉ written ∧ ∃ name, names.topLevelName? graph index = some name ∧
      (name ∈ seen ∧ aliasAll graph names written seen (index + 1) rest = .ok made ∨
      name ∉ seen ∧ ∃ this others, made = this :: others ∧ this.name = name ∧
        aliasAll graph names written (name :: seen) (index + 1) rest = .ok others) := by
  rw [aliasAll] at h
  -- An entry point is passed over for one of two reasons, which are tested in this order.
  by_cases hwritten : top.type ∈ written
  · rw [if_pos hwritten] at h
    exact .inl ⟨hwritten, h⟩
  · rw [if_neg hwritten] at h
    obtain ⟨name, hname, h⟩ := bind_eq_ok_iff.1 h
    refine .inr ⟨hwritten, name, topLevelName_eq_ok_iff.1 hname, ?_⟩
    by_cases hseen : name ∈ seen
    · rw [if_pos hseen] at h
      exact .inl ⟨hseen, h⟩
    · rw [if_neg hseen] at h
      obtain ⟨expr, -, h⟩ := bind_eq_ok_iff.1 h
      obtain ⟨others, hothers, h⟩ := bind_eq_ok_iff.1 h
      obtain rfl : _ :: others = made := pure_eq_ok_iff.1 h
      exact .inr ⟨hseen, _, others, rfl, rfl, hothers⟩

/-- No two aliases share a name, and none has one that has been seen. Both are carried along, as
the names of aliases are added to those seen. -/
theorem nodup_aliasAll {written : List TypeId} {seen : List NameId} {index : Nat}
    {topLevels : List TopLevel} {made : List Declaration}
    (h : aliasAll graph names written seen index topLevels = .ok made) :
    (made.map Declaration.name).Nodup ∧ ∀ this ∈ made, this.name ∉ seen := by
  induction topLevels generalizing seen index made with
  | nil =>
    obtain rfl : [] = made := by simpa [aliasAll] using h
    simp
  | cons top rest ih =>
    obtain ⟨-, hrest⟩ | ⟨-, name, -, ⟨-, hrest⟩ | ⟨hseen, this, others, rfl, rfl, hothers⟩⟩ :=
      aliasAll_cons_eq_ok h
    · exact ih hrest
    · exact ih hrest
    · -- The name of the first alias has been seen when the others are made.
      obtain ⟨hnodup, hnew⟩ := ih hothers
      have hfirst : this.name ∉ others.map Declaration.name := by
        intro hmem
        obtain ⟨other, hother, hname⟩ := List.mem_map.1 hmem
        exact hnew other hother (by simp [hname])
      refine ⟨List.nodup_cons.2 ⟨hfirst, hnodup⟩, ?_⟩
      intro other hother
      rcases List.mem_cons.1 hother with rfl | hother
      · exact hseen
      · intro hmem
        exact hnew other hother (List.mem_cons_of_mem _ hmem)

/-- Every entry point whose type is not written has a name that has been seen or an alias. To
begin with nothing has been seen, so there is an alias of its name. -/
theorem exists_alias {written : List TypeId} {seen : List NameId} {index : Nat}
    {topLevels : List TopLevel} {made : List Declaration}
    (h : aliasAll graph names written seen index topLevels = .ok made) {i : Nat} {top : TopLevel}
    (hi : topLevels[i]? = some top) (hwritten : top.type ∉ written) :
    ∃ name, names.topLevelName? graph (index + i) = some name ∧
      (name ∈ seen ∨ ∃ this ∈ made, this.name = name) := by
  induction topLevels generalizing seen index made i with
  | nil => simp at hi
  | cons first rest ih =>
    cases i with
    | zero =>
      obtain rfl : first = top := by simpa using hi
      -- The entry point is the first one, about which `aliasAll_cons_eq_ok` says all.
      obtain ⟨hmem, -⟩ | ⟨-, name, hname, ⟨hseen, -⟩ | ⟨-, this, others, rfl, rfl, -⟩⟩ :=
        aliasAll_cons_eq_ok h
      · exact absurd hmem hwritten
      · exact ⟨name, hname, .inl hseen⟩
      · exact ⟨this.name, hname, .inr ⟨this, by simp, rfl⟩⟩
    | succ i =>
      have hi : rest[i]? = some top := by simpa using hi
      rw [show index + (i + 1) = index + 1 + i by omega]
      obtain ⟨-, hrest⟩ | ⟨-, name, -, ⟨-, hrest⟩ | ⟨-, this, others, rfl, rfl, hothers⟩⟩ :=
        aliasAll_cons_eq_ok h
      · exact ih hrest hi
      · exact ih hrest hi
      · obtain ⟨name, hname, hcases⟩ := ih hothers hi
        refine ⟨name, hname, ?_⟩
        -- What has been seen from here on is the name of the first alias, too.
        rcases hcases with hseen | ⟨other, hother, hother'⟩
        · rcases List.mem_cons.1 hseen with rfl | hseen
          · exact .inr ⟨this, by simp, rfl⟩
          · exact .inl hseen
        · exact .inr ⟨other, by simp [hother], hother'⟩

/-! ### Items -/

/-- The name of a declaration is the name of no alias. If it were, the entry point would be of the
type of the declaration, which is written, and then it has no alias. -/
theorem name_ne_name (h : Outline.ofGraph profile graph names = .ok outline)
    {made this : Declaration} (hmade : made ∈ outline.declarations)
    (hthis : this ∈ outline.aliases) : made.name ≠ this.name := by
  intro heq
  obtain ⟨i, top, hi, -, hwritten, hname, -⟩ := aliasAll_eq_ok (ofGraph_eq_ok h).2.1 this hthis
  rw [Nat.zero_add, ← heq] at hname
  have htype := TypeNames.type_eq_of_typeName? hi hname (name_of_mem h hmade)
  exact hwritten (htype ▸ List.mem_map_of_mem hmade)

/-- No two items share a name. With identifiers being distinct, this is why the exports of a file
do not clash. -/
theorem nodup_names (h : Outline.ofGraph profile graph names = .ok outline) :
    (outline.items.map Declaration.name).Nodup := by
  have htypes := nodup_types h
  have hdeclared : (outline.declarations.map Declaration.name).Nodup := by
    refine List.Nodup.map_on ?_ htypes.of_map
    intro made hmade made' hmade' heq
    -- Two declarations of one name are of one type, and so they are one.
    have hname := name_of_mem h hmade'
    rw [← heq] at hname
    exact List.inj_on_of_nodup_map htypes hmade hmade'
      (TypeNames.typeName?_injective (name_of_mem h hmade) hname)
  rw [items, List.map_append]
  refine List.nodup_append.2 ⟨hdeclared, (nodup_aliasAll (ofGraph_eq_ok h).2.1).1, ?_⟩
  intro name hname name' hname'
  obtain ⟨made, hmade, rfl⟩ := List.mem_map.1 hname
  obtain ⟨this, hthis, rfl⟩ := List.mem_map.1 hname'
  exact name_ne_name h hmade hthis

/-- A type with a declaration has one item: there is no second declaration, and no alias for what
is written. -/
theorem count_type (h : Outline.ofGraph profile graph names = .ok outline) {made : Declaration}
    (hmade : made ∈ outline.declarations) :
    (outline.items.map Declaration.type).count made.type = 1 := by
  have haliases : made.type ∉ outline.aliases.map Declaration.type := by
    intro hmem
    obtain ⟨this, hthis, htype⟩ := List.mem_map.1 hmem
    obtain ⟨_, top, -, htop, hwritten, -⟩ := aliasAll_eq_ok (ofGraph_eq_ok h).2.1 this hthis
    exact hwritten (htop ▸ htype ▸ List.mem_map_of_mem hmade)
  rw [items, List.map_append, List.count_append, List.count_eq_zero_of_not_mem haliases,
    List.count_eq_one_of_mem (nodup_types h) (List.mem_map_of_mem hmade)]

/-- Exactly one item of an outline has the name, and it is for the type. Both parts are said of
the list of all items with the name. -/
def DeclaresOnce (outline : Outline) (name : NameId) (type : TypeId) : Prop :=
  (outline.items.filter fun item => item.name = name).map Declaration.type = [type]

/-- An item is the only one of its name, as no two share one. -/
theorem declaresOnce_of_mem (h : Outline.ofGraph profile graph names = .ok outline)
    {item : Declaration} (hitem : item ∈ outline.items) :
    outline.DeclaresOnce item.name item.type := by
  obtain ⟨before, after, hsplit⟩ := List.append_of_mem hitem
  -- No two items have the same name, so of those with this one only the item itself is left.
  have hnodup := nodup_names h
  rw [hsplit, List.map_append, List.map_cons, List.nodup_append, List.nodup_cons] at hnodup
  obtain ⟨-, ⟨hafter, -⟩, hbefore⟩ := hnodup
  have hbefore : before.filter (fun other => other.name = item.name) = [] := by
    refine List.filter_eq_nil_iff.2 ?_
    intro other hother
    simpa using hbefore other.name (List.mem_map_of_mem hother) item.name (by simp)
  have hafter : after.filter (fun other => other.name = item.name) = [] := by
    refine List.filter_eq_nil_iff.2 ?_
    intro other hother
    have hne : other.name ≠ item.name := fun heq => hafter (heq ▸ List.mem_map_of_mem hother)
    simpa using hne
  rw [DeclaresOnce, hsplit, List.filter_append, hbefore, List.filter_cons_of_pos (by simp), hafter]
  rfl

/-! ### Names that are referred to -/

/-- Every entry point has an item of its name and for its type. This is the declaration of the
type if there is one, and an alias if not. -/
theorem exists_item_of_topLevel (h : Outline.ofGraph profile graph names = .ok outline)
    {index : Nat} {top : TopLevel} (hindex : graph.topLevels[index]? = some top) :
    ∃ item ∈ outline.items, names.topLevelName? graph index = some item.name ∧
      item.type = top.type := by
  by_cases hwritten : outline.Declares top.type
  · -- The declaration of the type has the name of the entry point.
    obtain ⟨made, hmade, htype⟩ := List.mem_map.1 hwritten
    refine ⟨made, List.mem_append_left _ hmade, ?_, htype⟩
    rw [TypeNames.topLevelName?_eq_typeName? hindex (isNamed_of_declares h hwritten), ← htype]
    exact name_of_mem h hmade
  · obtain ⟨name, hname, hcases⟩ := exists_alias (ofGraph_eq_ok h).2.1 hindex hwritten
    rw [Nat.zero_add] at hname
    obtain ⟨this, hthis, rfl⟩ := hcases.resolve_left (List.not_mem_nil)
    refine ⟨this, List.mem_append_right _ hthis, hname, ?_⟩
    -- The alias may be that of an earlier entry point, which is then of the same type.
    obtain ⟨i, top', hi, htype, -, hname', -⟩ := aliasAll_eq_ok (ofGraph_eq_ok h).2.1 this hthis
    rw [Nat.zero_add] at hname'
    exact htype.trans (TypeNames.type_eq_of_topLevelName? hi hindex hname' hname)

/-- Every name in an expression is the name of an item. So a file refers to nothing that it does
not declare, in its expressions. -/
theorem exists_item_of_name (h : Outline.ofGraph profile graph names = .ok outline)
    (vocabulary : Vocabulary) {item : Declaration} (hitem : item ∈ outline.items) {expr : Expr}
    (hexpr : expr ∈ item.body.exprs) {name : NameId}
    (hname : .name name ∈ (expr.word vocabulary).parts) :
    ∃ other ∈ outline.items, other.name = name := by
  obtain ⟨use, huse, rfl⟩ := Expr.exists_use_of_name_mem vocabulary false hname
  rw [Expr.usesIn_word] at huse
  -- The expression of some type has the name, made when some declarations had been written.
  have htranslate : ∃ written id inner, (∀ type ∈ written,
      ∃ made ∈ outline.declarations, made.type = type) ∧
      translate graph names written id = .ok inner ∧ use ∈ inner.uses := by
    rcases List.mem_append.1 hitem with hitem | hitem
    · obtain ⟨before, after, hsplit⟩ := List.append_of_mem hitem
      obtain ⟨child, -, inner, hinner, huse⟩ :=
        use_of_declaration (declaration_of_split h hsplit) hexpr huse
      refine ⟨_, child, inner, ?_, hinner, huse⟩
      intro type htype
      obtain ⟨made, hmade, rfl⟩ := List.mem_map.1 (List.mem_reverse.1 htype)
      exact ⟨made, by simp [hsplit, hmade], rfl⟩
    · obtain ⟨_, top, -, -, -, -, inner, hbody, hinner⟩ :=
        aliasAll_eq_ok (ofGraph_eq_ok h).2.1 item hitem
      obtain rfl : expr = inner := by simpa [hbody, Body.exprs] using hexpr
      exact ⟨_, top.type, expr, fun type htype => List.mem_map.1 htype, hinner, huse⟩
  obtain ⟨written, id, inner, hwritten, hinner, huse⟩ := htranslate
  -- The name is that of a written type, of a class or of an enum, so of a declared type.
  have hdeclared : ∃ type, names.typeName? type = some use.name ∧
      ∃ made ∈ outline.declarations, made.type = type := by
    cases hlate : use.late with
    | true =>
      obtain ⟨type, hclass, htype⟩ := Expr.late_use_of_translate hinner use huse hlate
      exact ⟨type, htype, exists_declaration_of_kind h (.inl hclass)⟩
    | false =>
      obtain ⟨type, htype, hcases⟩ := Expr.use_of_translate hinner use huse
      rcases hcases hlate with hmem | hspells
      · exact ⟨type, htype, hwritten type hmem⟩
      · exact ⟨type, htype, exists_declaration_of_kind h (.inr hspells.isEnum)⟩
  obtain ⟨type, htype, made, hmade, rfl⟩ := hdeclared
  exact ⟨made, List.mem_append_left _ hmade, name_eq_of_mem h hmade htype⟩

/-- Every type to convert has the name of an item, that of its entry point or of the class. -/
theorem exists_item_of_target (h : Outline.ofGraph profile graph names = .ok outline)
    {target : Target} (htarget : target ∈ outline.targets) :
    ∃ item ∈ outline.items, item.name = target.name := by
  rcases targetsOf_eq_ok (ofGraph_eq_ok h).2.2 target htarget with
    ⟨index, hname⟩ | ⟨type, hclass, hname⟩
  · obtain ⟨top, hindex, -⟩ := Option.bind_eq_some_iff.1 hname
    obtain ⟨item, hitem, hname', -⟩ := exists_item_of_topLevel h hindex
    exact ⟨item, hitem, Option.some.inj (hname'.symm.trans hname)⟩
  · obtain ⟨made, hmade, rfl⟩ := exists_declaration_of_kind h (.inl hclass)
    exact ⟨made, List.mem_append_left _ hmade, name_eq_of_mem h hmade hname⟩

end StateTree.Outline
