import StateTree.Proofs.Expr.Translation
import StateTree.Proofs.Expr.Uses

/-!
# `StateTree.Proofs.Expr.Eagerness`: what the expression of a type evaluates

The expression of a type evaluates the names of declarations that are written before it, and the
names of the enums that it spells out. An enum is spelled out wherever it is not inside a class or a
map, also where its own declaration is still to come.

- `SpellsOut`: the enums that are written out in the expression of a type.
- `use_of_translate`: every name in an expression belongs to a type, and an eager one to a written
  type or to an enum that is spelled out.
- `use_of_unionExpression`: every name in a union written out comes from one of its members.
- `late_use_of_translate`: a late name belongs to a class.
- `spelled_use_of_translate`: every enum that is spelled out is evaluated, either by the expression
  itself or by the declaration of a union that it refers to.
-/

set_option autoImplicit false

namespace StateTree.Expr

open StateTree.Fallible
open StateTree.Graph
open StateTree.Naming (NameId TypeNames)

/-- `SpellsOut graph id enum`: the enum is the type itself, or is written out inside it. Classes
and maps do not spell out what they hold, since they are referred to or are of any value. -/
inductive SpellsOut (graph : TypeGraph) : TypeId → TypeId → Prop where
  | enumeration {enum : TypeId} {cases : Distinct} (h : graph.kind enum = .enumeration cases) :
    SpellsOut graph enum enum
  | array {id items enum : TypeId} (h : graph.kind id = .array items)
    (hitems : SpellsOut graph items enum) : SpellsOut graph id enum
  | union {id member enum : TypeId} {members : List TypeId} (h : graph.kind id = .union members)
    (hmember : member ∈ members) (hspells : SpellsOut graph member enum) :
    SpellsOut graph id enum

variable {graph : TypeGraph} {names : TypeNames} {written : List TypeId} {id enum : TypeId}

/-- What is spelled out is an enum. -/
theorem SpellsOut.isEnum (h : SpellsOut graph id enum) : (graph.kind enum).isEnum := by
  -- The path ends in an enum, and nothing but its end is looked at.
  induction h with
  | enumeration h => simp [h, Kind.isEnum]
  | array _ _ ih => exact ih
  | union _ _ _ ih => exact ih

/-- A primitive type spells out nothing. So of the members of a union that spell out an enum none
is left out as repeated. -/
theorem SpellsOut.primitive?_eq_none (h : SpellsOut graph id enum) :
    (graph.kind id).primitive? = none := by
  cases h <;> simp [*, Kind.primitive?]

/-- Members that are not primitive are kept, since only primitive types are compared with those
before them. -/
theorem mem_distinctMembers {kind : TypeId → Kind} (seen : List Primitive) {members : List TypeId}
    {member : TypeId} (h : member ∈ members) (hkind : (kind member).primitive? = none) :
    member ∈ distinctMembers kind seen members := by
  induction members generalizing seen with
  | nil => simp at h
  | cons first rest ih =>
    rw [distinctMembers]
    rcases List.mem_cons.1 h with rfl | h
    · -- The member itself is kept whatever was seen, as it has no primitive type.
      simp [hkind]
    · split
      · exact List.mem_cons_of_mem _ (ih _ h)
      · split
        · exact ih _ h
        · exact List.mem_cons_of_mem _ (ih _ h)

/-- Every name in the expression of a type is the name of a type. An eager one is the name of a
written type or of an enum that is spelled out: a class that is still to come is referred to late,
and a union that is still to come is written out, but an enum has its name in the file in either
case. This is one half of what `generate_declaredBeforeUse` decides; `spelled_use_of_translate` is
the other. -/
theorem use_of_translate {expr : Expr} (h : translate graph names written id = .ok expr) :
    ∀ use ∈ expr.uses, ∃ type, names.typeName? type = some use.name ∧
      (use.late = false → type ∈ written ∨ SpellsOut graph id type) := by
  refine translate_induction (P := fun id expr => ∀ use ∈ expr.uses, ∃ type,
      names.typeName? type = some use.name ∧
        (use.late = false → type ∈ written ∨ SpellsOut graph id type))
    ?primitive ?map ?array ?object ?enumeration ?reference ?union id expr h
  case primitive => simp [uses]
  case map => simp [uses]
  case array =>
    intro id items expr hkind ih use huse
    obtain ⟨type, hname, hlate⟩ := ih use huse
    exact ⟨type, hname, fun h => (hlate h).imp_right (.array hkind)⟩
  case object =>
    intro id properties name _ hname use huse
    -- The name of a class is an eager one if the class is written, and a late one if not.
    by_cases hwritten : id ∈ written
    · obtain rfl : use = ⟨name, false⟩ := by simpa [hwritten, uses] using huse
      exact ⟨id, hname, fun _ => .inl hwritten⟩
    · obtain rfl : use = ⟨name, true⟩ := by simpa [hwritten, uses] using huse
      exact ⟨id, hname, by simp⟩
  case enumeration =>
    intro id cases name hkind hname use huse
    obtain rfl : use = ⟨name, false⟩ := by simpa [uses] using huse
    exact ⟨id, hname, fun _ => .inr (.enumeration hkind)⟩
  case reference =>
    intro id members name _ hwritten hname use huse
    obtain rfl : use = ⟨name, false⟩ := by simpa [uses] using huse
    exact ⟨id, hname, fun _ => .inl hwritten⟩
  case union =>
    intro id members exprs hkind _ hmembers use huse
    obtain ⟨expr, hexpr, huse⟩ := mem_usesOf_iff.1 huse
    obtain ⟨member, hmember, _, ih⟩ := exists_left_of_forall₂ hmembers hexpr
    obtain ⟨type, hname, hlate⟩ := ih use huse
    exact ⟨type, hname, fun h =>
      (hlate h).imp_right (.union hkind (mem_of_mem_distinctMembers hmember))⟩

/-- Every name in a union written out is in the expression of one of its members. The declaration
of a union is its members written out, so this leads from the declaration to types that are
translated. -/
theorem use_of_unionExpression {members : List TypeId} {expr : Expr} {use : Use}
    (hkind : graph.kind id = .union members)
    (h : unionExpression graph names written id = .ok expr) (huse : use ∈ expr.uses) :
    ∃ member ∈ members, ∃ inner, translate graph names written member = .ok inner ∧
      use ∈ inner.uses := by
  rw [unionExpression_union hkind] at h
  obtain ⟨exprs, hexprs, rfl⟩ := map_eq_ok_iff.1 h
  obtain ⟨inner, hinner, huse⟩ := mem_usesOf_iff.1 huse
  obtain ⟨member, hmember, htranslate⟩ := exists_left_of_forall₂ (mapM_eq_ok_iff.1 hexprs) hinner
  exact ⟨member, mem_of_mem_distinctMembers hmember, inner, htranslate, huse⟩

/-- A late name in the expression of a type is the name of a class. No alias and no enum is ever
looked up late. -/
theorem late_use_of_translate {expr : Expr} (h : translate graph names written id = .ok expr) :
    ∀ use ∈ expr.uses, use.late = true →
      ∃ type, (graph.kind type).isClass ∧ names.typeName? type = some use.name := by
  refine translate_induction (P := fun _ expr => ∀ use ∈ expr.uses, use.late = true →
      ∃ type, (graph.kind type).isClass ∧ names.typeName? type = some use.name)
    ?primitive ?map ?array ?object ?enumeration ?reference ?union id expr h
  case primitive => simp [uses]
  case map => simp [uses]
  case array => exact fun _ _ _ _ ih => ih
  -- The only place where a reference is written late. The other cases have none of their own.
  case object =>
    intro id properties name hkind hname use huse _
    have huse : use.name = name := by
      split at huse <;> simp_all [uses]
    exact ⟨id, by simp [hkind, Kind.isClass], by rw [huse, hname]⟩
  case enumeration => simp [uses]
  case reference => simp [uses]
  case union =>
    intro id members exprs _ _ hmembers use huse
    obtain ⟨expr, hexpr, huse⟩ := mem_usesOf_iff.1 huse
    obtain ⟨member, -, -, ih⟩ := exists_left_of_forall₂ hmembers hexpr
    exact ih use huse

/-- An enum that a type spells out is evaluated where the expression of the type is, unless the
expression refers to a written union instead, which spells the enum out. In the second case the
declaration of that union comes earlier and evaluates the enum, so the question is passed on to
it. -/
theorem spelled_use_of_translate (hspells : SpellsOut graph id enum) :
    ∀ expr, translate graph names written id = .ok expr →
      (∃ use ∈ expr.uses, use.late = false ∧ names.typeName? enum = some use.name) ∨
        ∃ union ∈ written, (graph.kind union).isUnion ∧ SpellsOut graph union enum := by
  -- Along the path from the type to the enum.
  induction hspells with
  | enumeration hkind =>
    intro expr h
    rw [translate_enumeration hkind] at h
    obtain ⟨name, hname, rfl⟩ := map_eq_ok_iff.1 h
    exact .inl ⟨⟨name, false⟩, by simp [uses], rfl, nameOf_eq_ok_iff.1 hname⟩
  | array hkind _ ih =>
    intro expr h
    rw [translate_array hkind] at h
    obtain ⟨inner, hinner, rfl⟩ := map_eq_ok_iff.1 h
    exact ih inner hinner
  | @union id member enum members hkind hmember hspells ih =>
    intro expr h
    rw [translate_union hkind] at h
    cases hname : writtenName? names written id with
    | some name =>
      have hwritten := (writtenName?_eq_some_iff.1 hname).1
      exact .inr ⟨id, hwritten, by simp [hkind, Kind.isUnion], .union hkind hmember hspells⟩
    | none =>
      rw [hname, unionExpression_union hkind] at h
      obtain ⟨exprs, hexprs, rfl⟩ := map_eq_ok_iff.1 h
      -- A member that spells out an enum is not primitive, so no other one stands for it.
      have hkept := mem_distinctMembers [] hmember hspells.primitive?_eq_none
      obtain ⟨expr, hexpr, hmember⟩ := exists_right_of_forall₂ (mapM_eq_ok_iff.1 hexprs) hkept
      refine (ih expr hmember).imp_left ?_
      rintro ⟨use, huse, hlate⟩
      exact ⟨use, mem_usesOf_iff.2 ⟨expr, hexpr, huse⟩, hlate⟩

end StateTree.Expr
