import StateTree.Proofs.Expr.Translation
import StateTree.Proofs.Expr.Uses

/-!
# `StateTree.Proofs.Expr.Plainness`: expressions that only look back

An expression is plain where every class, every enum and every declared union that it refers to
stands there under its name, because its declaration is written already. Then nothing in it is
looked up late, and no union that has a declaration is written out.

- `Plain`: an expression that says what a type is in this way.
- `Plain.looks_back`: all its names are those of written types, none of them late.
- `plain_of_translate`: a type has a plain expression where all declarations below it are written.
-/

set_option autoImplicit false

namespace StateTree.Expr

open StateTree.Fallible
open StateTree.Graph
open StateTree.Naming (NameId TypeNames)

/-- `Plain graph names declared written id expr`: the expression says what the type is, and refers
by name to what has a declaration. The `declared` types are all that have one, the `written` types
those whose declarations come before. There is no case for a late reference. -/
inductive Plain (graph : TypeGraph) (names : TypeNames) (declared written : TypeId → Prop) :
    TypeId → Expr → Prop where
  | primitive {id : TypeId} {type : Primitive} (hkind : graph.kind id = .primitive type) :
    Plain graph names declared written id (.scalar (scalarOf type))
  | map {id values : TypeId} (hkind : graph.kind id = .map values) :
    Plain graph names declared written id (.scalar .any)
  | array {id items : TypeId} {expr : Expr} (hkind : graph.kind id = .array items)
    (hitems : Plain graph names declared written items expr) :
    Plain graph names declared written id (.array expr)
  | object {id : TypeId} {name : NameId} (hkind : (graph.kind id).isClass)
    (hname : names.typeName? id = some name) (hwritten : written id) :
    Plain graph names declared written id (.reference name)
  | enumeration {id : TypeId} {name : NameId} (hkind : (graph.kind id).isEnum)
    (hname : names.typeName? id = some name) (hwritten : written id) :
    Plain graph names declared written id (.enumeration name)
  | union {id : TypeId} {name : NameId} (hkind : (graph.kind id).isUnion)
    (hname : names.typeName? id = some name) (hwritten : written id) :
    Plain graph names declared written id (.reference name)
  /-- Only a union without a declaration is written out. -/
  | writtenOut {id : TypeId} {members : List TypeId} {exprs : List Expr}
    (hkind : graph.kind id = .union members) (hdeclared : ¬ declared id)
    (hmembers : List.Forall₂ (Plain graph names declared written)
      (distinctMembers graph.kind [] members) exprs) :
    Plain graph names declared written id (.union exprs)

variable {graph : TypeGraph} {names : TypeNames} {declared : TypeId → Prop}

/-- All names in a plain expression are those of written types, and none is looked up late. So a
declaration that is made of plain expressions has no reference forward, in
`IsPlain.defers_eq_nil`. -/
theorem Plain.looks_back {written : TypeId → Prop} {id : TypeId} {expr : Expr}
    (h : Plain graph names declared written id expr) :
    ∀ use ∈ expr.uses, use.late = false ∧
      ∃ type, written type ∧ names.typeName? type = some use.name := by
  intro use huse
  cases h with
  | primitive | map => simp [uses] at huse
  | array _ hitems => exact hitems.looks_back use huse
  | object _ hname hwritten | union _ hname hwritten =>
    obtain rfl : use = ⟨_, false⟩ := by simpa [uses] using huse
    exact ⟨rfl, id, hwritten, hname⟩
  | enumeration _ hname hwritten =>
    obtain rfl : use = ⟨_, false⟩ := by simpa [uses] using huse
    exact ⟨rfl, id, hwritten, hname⟩
  | writtenOut _ _ hmembers =>
    -- The name is in the expression of a member, which is smaller.
    obtain ⟨inner, hinner, huse⟩ := mem_usesOf_iff.1 huse
    obtain ⟨member, -, hplain⟩ := exists_left_of_forall₂ hmembers hinner
    exact hplain.looks_back use huse
termination_by sizeOf expr
decreasing_by
  all_goals subst_vars
  · simp
  · have := List.sizeOf_lt_of_mem hinner
    simp
    omega

/-- The expression of a type is plain where everything with a declaration below the type is
written. What is below is any property of types that passes from a type to those that it refers
to. The uses of it take what can be reached from a type that is on no cycle, since that is
declared before the type. -/
theorem plain_of_translate {below : TypeId → Prop} {written : List TypeId}
    (hbelow : ∀ id, below id → ∀ child ∈ graph.children id, below child)
    (hwritten : ∀ id, below id → declared id → id ∈ written)
    (hdeclared : ∀ id, (graph.kind id).isClass ∨ (graph.kind id).isEnum → declared id)
    (hnamed : ∀ id, declared id → ∃ name, names.typeName? id = some name)
    {id : TypeId} {expr : Expr} (hid : below id)
    (h : translate graph names written id = .ok expr) :
    Plain graph names declared (· ∈ written) id expr := by
  refine translate_induction (P := fun id expr => below id →
      Plain graph names declared (· ∈ written) id expr)
    ?primitive ?map ?array ?object ?enumeration ?reference ?union id expr h hid
  case primitive => exact fun id type hkind _ => .primitive hkind
  case map => exact fun id values hkind _ => .map hkind
  case array =>
    intro id items expr hkind ih hid
    have hitems : items ∈ graph.children id := by
      simp [TypeGraph.children, hkind, Kind.children]
    exact .array hkind (ih (hbelow id hid items hitems))
  case object =>
    intro id properties name hkind hname hid
    have hclass : (graph.kind id).isClass := by simp [hkind, Kind.isClass]
    have hmem : id ∈ written := hwritten id hid (hdeclared id (.inl hclass))
    rw [if_pos hmem]
    exact .object hclass hname hmem
  case enumeration =>
    intro id cases name hkind hname hid
    have henum : (graph.kind id).isEnum := by simp [hkind, Kind.isEnum]
    exact .enumeration henum hname (hwritten id hid (hdeclared id (.inr henum)))
  case reference =>
    intro id members name hkind hmem hname _
    exact .union (by simp [hkind, Kind.isUnion]) hname hmem
  case union =>
    intro id members exprs hkind hnone hmembers hid
    have hchildren : ∀ member ∈ distinctMembers graph.kind [] members, below member := by
      intro member hmember
      refine hbelow id hid member ?_
      rw [TypeGraph.children, hkind]
      exact mem_of_mem_distinctMembers hmember
    have hplain : List.Forall₂ (Plain graph names declared (· ∈ written))
        (distinctMembers graph.kind [] members) exprs :=
      -- Each member is below the type, and its expression is plain by the induction.
      ((List.forall₂_and_left _ _).2 ⟨hchildren, hmembers⟩).imp fun _ _ hmember =>
        hmember.2.2 hmember.1
    refine .writtenOut hkind ?_ hplain
    intro hmem
    -- A declared union would be written by now, and so have been referred to.
    obtain ⟨name, hname⟩ := hnamed id hmem
    have hsome := writtenName?_eq_some_iff.2 ⟨hwritten id hid hmem, hname⟩
    rw [hnone] at hsome
    cases hsome

end StateTree.Expr
