import StateTree.Proofs.Expr.Rendering
import StateTree.Proofs.Outline.Verdict

/-!
# `StateTree.Proofs.Outline.Unambiguous`: types with one text are alike

Two types are alike if what is written for them is built alike: from one scalar, from items that are
alike, from distinct members that are alike one by one, or from the name of one and the same type.
Types that are alike have one expression, and an expression tells what it was translated from, since
no two types share a name. With the texts of expressions being unambiguous, types have one text
exactly if they are alike.

- `Alike`: types that are built alike where the declarations of some types have been written.
- `Origin`: what an expression tells about its type.
- `alike_of_translate`, `translate_eq_of_alike`: types are alike if they have one expression, and
  only then.
- `typeText_eq_iff_alike`: the same for texts.
-/

set_option autoImplicit false

namespace StateTree

open StateTree.Expr
open StateTree.Fallible
open StateTree.Graph
open StateTree.Naming (NameId TypeNames)
open StateTree.Text (AcronymStyle)

/-- The text of a type where the declarations of some types have been written. It is what stands
in the file wherever the type is used at that point. -/
def Outline.typeText (vocabulary : Vocabulary) (graph : TypeGraph) (names : TypeNames)
    (written : List TypeId) (id : TypeId) : Except Naming.Error String :=
  translate graph names written id >>= Outline.exprText vocabulary names

/-- The scalar of a kind that is written as one. A map is written as any value. -/
def Graph.Kind.scalar? : Kind → Option Scalar
  | .primitive type => some (scalarOf type)
  | .map _ => some .any
  | _ => none

namespace Expr

variable (graph : TypeGraph) (names : TypeNames) (written : List TypeId)

/-- A type that is written by its name: a class, an enum, or a union with a written declaration.
Such a type is alike to itself only. -/
def ByName (id : TypeId) : Prop :=
  (graph.kind id).isClass ∨ (graph.kind id).isEnum ∨
    (graph.kind id).isUnion ∧ ∃ name, writtenName? names written id = some name

/-- Types that are built alike where the declarations of `written` have been written. It follows
the kinds of the two types side by side, and says nothing of expressions. -/
inductive Alike : TypeId → TypeId → Prop
  | scalar {a b : TypeId} {type : Scalar} (ha : (graph.kind a).scalar? = some type)
      (hb : (graph.kind b).scalar? = some type) : Alike a b
  | array {a b items items' : TypeId} (ha : graph.kind a = .array items)
      (hb : graph.kind b = .array items') (hitems : Alike items items') : Alike a b
  /-- Two unions without written declarations, whose distinct members are alike one by one. -/
  | union {a b : TypeId} {members members' : List TypeId} (ha : graph.kind a = .union members)
      (hb : graph.kind b = .union members') (hwritten : writtenName? names written a = none)
      (hwritten' : writtenName? names written b = none)
      (hmembers : List.Forall₂ Alike (distinctMembers graph.kind [] members)
        (distinctMembers graph.kind [] members')) : Alike a b
  /-- One and the same type. -/
  | named {id : TypeId} (h : ByName graph names written id) : Alike id id

/-- What an expression tells about the type that it was translated from. A name tells which type
it is; everything else tells how the type is built. -/
def Origin (id : TypeId) : Expr → Prop
  | .scalar type => (graph.kind id).scalar? = some type
  | .array items => ∃ type, graph.kind id = .array type ∧
      translate graph names written type = .ok items
  | .union exprs => ∃ members, graph.kind id = .union members ∧
      writtenName? names written id = none ∧
      List.Forall₂ (fun member expr => translate graph names written member = .ok expr)
        (distinctMembers graph.kind [] members) exprs
  | .enumeration name | .reference name | .late name => names.typeName? id = some name

variable {graph names written} {id a b : TypeId}

/-- Every type is what its expression tells. The cases are those of translation, each read
backwards. -/
theorem origin_of_translate {expr : Expr} (h : translate graph names written id = .ok expr) :
    Origin graph names written id expr := by
  -- The translation goes by the kind of the type, and the expression it gives shows the kind.
  -- With a written union the name is the origin, and only without one the members are.
  cases hkind : graph.kind id with
  | primitive type =>
    obtain rfl := Except.ok.inj ((translate_primitive hkind).symm.trans h)
    rw [Origin, hkind]
    rfl
  | map values =>
    obtain rfl := Except.ok.inj ((translate_map hkind).symm.trans h)
    rw [Origin, hkind]
    rfl
  | array items =>
    rw [translate_array hkind] at h
    obtain ⟨inner, hinner, rfl⟩ := map_eq_ok_iff.1 h
    exact ⟨items, hkind, hinner⟩
  | object properties =>
    rw [translate_object hkind] at h
    obtain ⟨name, hname, rfl⟩ := map_eq_ok_iff.1 h
    split <;> exact nameOf_eq_ok_iff.1 hname
  | enumeration cases =>
    rw [translate_enumeration hkind] at h
    obtain ⟨name, hname, rfl⟩ := map_eq_ok_iff.1 h
    exact nameOf_eq_ok_iff.1 hname
  | union members =>
    rw [translate_union hkind] at h
    split at h
    · rename_i name hname
      obtain rfl := Except.ok.inj h
      exact (writtenName?_eq_some_iff.1 hname).2
    · rename_i hnone
      rw [unionExpression_union hkind] at h
      obtain ⟨exprs, hexprs, rfl⟩ := map_eq_ok_iff.1 h
      exact ⟨members, hkind, hnone, mapM_eq_ok_iff.1 hexprs⟩

/-- Types that have one expression are alike. The induction is on how the first one is translated,
and what the expression tells is then known of the second. -/
theorem alike_of_translate {expr : Expr} (ha : translate graph names written a = .ok expr)
    (hb : translate graph names written b = .ok expr) : Alike graph names written a b := by
  -- Two types that are written by one name are one type.
  have hnamed : ∀ {id name}, ByName graph names written id → names.typeName? id = some name →
      ∀ b, names.typeName? b = some name → Alike graph names written id b := by
    intro id name hid hname b hb
    obtain rfl := TypeNames.typeName?_injective hname hb
    exact .named hid
  refine translate_induction (P := fun a expr => ∀ b, translate graph names written b = .ok expr →
    Alike graph names written a b) ?primitive ?map ?array ?object ?enumeration ?reference ?union
    a expr ha b hb
  case primitive =>
    intro a type hkind b hb
    exact .scalar (by rw [hkind]; rfl) (origin_of_translate hb)
  case map =>
    intro a values hkind b hb
    exact .scalar (by rw [hkind]; rfl) (origin_of_translate hb)
  case array =>
    intro a items expr hkind ih b hb
    obtain ⟨items', hkind', hitems'⟩ := origin_of_translate hb
    exact .array hkind hkind' (ih items' hitems')
  case object =>
    intro a properties name hkind hname b hb
    -- Written or not, the class is referred to by its name.
    refine hnamed (.inl (by rw [hkind]; rfl)) hname b ?_
    split at hb <;> exact origin_of_translate hb
  case enumeration =>
    intro a cases name hkind hname b hb
    exact hnamed (.inr (.inl (by rw [hkind]; rfl))) hname b (origin_of_translate hb)
  case reference =>
    intro a members name hkind hwritten hname b hb
    have hdeclared := writtenName?_eq_some_iff.2 ⟨hwritten, hname⟩
    exact hnamed (.inr (.inr ⟨by rw [hkind]; rfl, name, hdeclared⟩)) hname b
      (origin_of_translate hb)
  case union =>
    intro a members exprs hkind hwritten hmembers b hb
    obtain ⟨members', hkind', hwritten', hmembers'⟩ := origin_of_translate hb
    refine .union hkind hkind' hwritten hwritten' (forall₂_comp ?_ hmembers hmembers'.flip)
    intro member expr member' hmember hmember'
    exact hmember.2 member' hmember'

/-- Types that are alike have one expression. In particular both are translated or neither is, so
this needs no names to be there. -/
theorem translate_eq_of_alike (h : Alike graph names written a b) :
    translate graph names written a = translate graph names written b := by
  -- Along what is written inside `a`; what is written inside `b` comes with the relation.
  induction a using graph.inside_wellFounded.induction generalizing b with
  | _ a ih =>
    cases h with
    | @scalar _ _ type ha hb =>
      -- A scalar is written alike for all types that have it, primitive or not.
      have hscalar : ∀ {id}, (graph.kind id).scalar? = some type →
          translate graph names written id = .ok (.scalar type) := by
        intro id hid
        cases hkind : graph.kind id with
        | primitive type =>
          rw [hkind] at hid
          obtain rfl := Option.some.inj hid
          exact translate_primitive hkind
        | map values =>
          rw [hkind] at hid
          obtain rfl := Option.some.inj hid
          exact translate_map hkind
        | _ =>
          rw [hkind] at hid
          cases hid
      rw [hscalar ha, hscalar hb]
    | @array _ _ items items' ha hb hitems =>
      have hinside := inside_of_mem ha (List.mem_singleton_self items)
      rw [translate_array ha, translate_array hb, ih items hinside hitems]
    | @union _ _ members members' ha hb hwritten hwritten' hmembers =>
      have hsame : List.Forall₂ (fun member member' => translate graph names written member =
          translate graph names written member') (distinctMembers graph.kind [] members)
          (distinctMembers graph.kind [] members') := by
        -- What is distinct among the members is among the members, hence inside `a`.
        have hboth := (List.forall₂_and_left _ _).2
          ⟨fun member hmember => mem_of_mem_distinctMembers hmember, hmembers⟩
        exact hboth.imp fun member member' hmember =>
          ih member (inside_of_mem ha hmember.1) hmember.2
      rw [translate_union ha, translate_union hb, hwritten, hwritten', unionExpression_union ha,
        unionExpression_union hb, mapM_eq_of_forall₂ hsame]
    | named => rfl

end Expr

/-! ### Texts -/

/-- An expression that only uses names of types has them all assigned, since every name of a type
has an identifier. -/
theorem assigned_of_typeNames {graph : TypeGraph} {names : TypeNames} (hnames : names.Covers graph)
    {expr : Expr} (h : ∀ use ∈ expr.uses, ∃ type, names.typeName? type = some use.name) :
    Assigned names.names expr := by
  intro use huse
  obtain ⟨type, hname⟩ := h use huse
  obtain ⟨identifier, hidentifier⟩ := Outline.resolve_typeName hnames hname
  exact ⟨identifier, TypeNames.resolve?_eq_some_iff.2 hidentifier⟩

/-- The names in the expression of a type are assigned, as they are names of types. -/
theorem assigned_of_translate {graph : TypeGraph} {names : TypeNames} (hnames : names.Covers graph)
    {written : List TypeId} {id : TypeId} {expr : Expr}
    (h : translate graph names written id = .ok expr) : Assigned names.names expr := by
  refine assigned_of_typeNames hnames fun use huse => ?_
  obtain ⟨type, hname, -⟩ := use_of_translate h use huse
  exact ⟨type, hname⟩

/-- Every type has a text, and two types have one text exactly if they are alike. -/
theorem typeText_eq_iff_alike {graph : TypeGraph} {declareUnions : Bool} {acronyms : AcronymStyle}
    {names : TypeNames} (h : TypeNames.assign graph declareUnions acronyms = .ok names)
    (module : String) (written : List TypeId) (a b : TypeId) :
    ∃ text text',
      Outline.typeText (Vocabulary.standard.withModule module) graph names written a = .ok text ∧
      Outline.typeText (Vocabulary.standard.withModule module) graph names written b = .ok text' ∧
      (text = text' ↔ Alike graph names written a b) := by
  have hnames := TypeNames.covers_of_assign h
  obtain ⟨expr, hexpr⟩ := exists_translate hnames written a
  obtain ⟨expr', hexpr'⟩ := exists_translate hnames written b
  have hassigned := assigned_of_translate hnames hexpr
  have hassigned' := assigned_of_translate hnames hexpr'
  obtain ⟨text, htext⟩ := exists_render_word hassigned
  obtain ⟨text', htext'⟩ := exists_render_word hassigned'
  refine ⟨text, text', bind_eq_ok_iff.2 ⟨expr, hexpr, htext⟩,
    bind_eq_ok_iff.2 ⟨expr', hexpr', htext'⟩, ?_⟩
  constructor
  · rintro rfl
    -- One text, so one expression.
    obtain rfl := render_injective (TypeNames.spelling_of_assign h) hassigned hassigned' htext
      htext'
    exact alike_of_translate hexpr hexpr'
  · intro halike
    obtain rfl := Except.ok.inj (hexpr.symm.trans ((translate_eq_of_alike halike).trans hexpr'))
    exact Except.ok.inj (htext.symm.trans htext')

/-- A class with two unions, of whole numbers with the class and of numbers with the class, and a
list of the first. The two kinds of numbers have one scalar, so the unions differ in their members
and not in their texts. -/
def balances : TypeGraph where
  nodes :=
    [{ kind := .primitive .integer }, { kind := .primitive .double }, { kind := .union [0, 5] },
      { kind := .union [1, 5] }, { kind := .array 2 },
      { kind := .object ⟨[("count", { type := 2 }), ("amount", { type := 3 }),
          ("history", { type := 4 })], by simp⟩
        names := ["Balance"] }]
  topLevels := [{ name := "Balance", type := 5 }]
  wellFormed := by decide +kernel

/-- By default the unions of `balances` have one text, and the list has another. -/
theorem typeText_balances :
    ∃ names, TypeNames.assign balances false .pascal = .ok names ∧ ∃ text text',
      Outline.typeText (Profile.ofSettings {}).vocabulary balances names [] 2 = .ok text ∧
      Outline.typeText (Profile.ofSettings {}).vocabulary balances names [] 3 = .ok text ∧
      Outline.typeText (Profile.ofSettings {}).vocabulary balances names [] 4 = .ok text' ∧
      text ≠ text' := by
  have hnameless : ∀ id, ¬ Naming.Nameless balances id := Naming.not_nameless (by decide)
  obtain ⟨names, hnames, -⟩ := TypeNames.assign_eq_ok false .pascal hnameless
  have hunions : Alike balances names [] 2 3 :=
    .union rfl rfl rfl rfl (.cons (.scalar rfl rfl) (.cons (.named (.inl rfl)) .nil))
  -- A union is alike to no array, since no rule relates the two.
  have hlist : ¬ Alike balances names [] 2 4 := by
    intro h
    cases h with
    | scalar ha => cases ha
    | array ha => cases ha
    | union _ hb => cases hb
  obtain ⟨text, text₃, htext, htext₃, hsame⟩ :=
    typeText_eq_iff_alike hnames standardModule [] 2 3
  obtain ⟨text₂, text₄, htext₂, htext₄, hother⟩ :=
    typeText_eq_iff_alike hnames standardModule [] 2 4
  obtain rfl := hsame.2 hunions
  obtain rfl := Except.ok.inj (htext.symm.trans htext₂)
  exact ⟨names, hnames, text, text₄, htext, htext₃, htext₄, mt hother.1 hlist⟩

end StateTree
