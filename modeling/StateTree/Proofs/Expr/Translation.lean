import StateTree.Expr.Translate
import StateTree.Proofs.Fallible
import StateTree.Proofs.Naming.Assignment

/-!
# `StateTree.Proofs.Expr.Translation`: what translation does, kind by kind

- `translate_union`, `unionExpression_union`: a union is referred to or written out.
- `translate_induction`: what holds of every expression that a type is translated to follows from
  one case for each kind.
- `exists_translate`, `exists_unionExpression`: where classes and enums have names, every type has
  an expression.
-/

set_option autoImplicit false

namespace StateTree.Expr

open StateTree.Fallible
open StateTree.Graph
open StateTree.Naming (NameId TypeNames)

variable {graph : TypeGraph} {names : TypeNames} {written : List TypeId} {id : TypeId}

/-! ### One equation for each kind -/

theorem translate_primitive {type : Primitive} (h : graph.kind id = .primitive type) :
    translate graph names written id = .ok (.scalar (scalarOf type)) := by
  rw [translate]
  split <;> simp_all

theorem translate_map {values : TypeId} (h : graph.kind id = .map values) :
    translate graph names written id = .ok (.scalar .any) := by
  rw [translate]
  split <;> simp_all

theorem translate_array {items : TypeId} (h : graph.kind id = .array items) :
    translate graph names written id = (translate graph names written items).map .array := by
  rw [translate]
  split <;> simp_all

theorem translate_object {properties : Keyed Graph.Property}
    (h : graph.kind id = .object properties) :
    translate graph names written id = (nameOf names id (.object properties)).map fun name =>
      if id ∈ written then .reference name else .late name := by
  rw [translate]
  split <;> simp_all

theorem translate_enumeration {cases : Distinct} (h : graph.kind id = .enumeration cases) :
    translate graph names written id =
      (nameOf names id (.enumeration cases)).map .enumeration := by
  rw [translate]
  split <;> simp_all

/-- A union is referred to by the name of its declaration if that is written, or else written out.
A union has no late reference: it would be looked up as a value, and not as a type. -/
theorem translate_union {members : List TypeId} (h : graph.kind id = .union members) :
    translate graph names written id =
      match writtenName? names written id with
      | some name => .ok (.reference name)
      | none => unionExpression graph names written id := by
  cases hname : writtenName? names written id <;>
    (rw [translate, unionExpression]; split <;> simp_all)

/-- A union written out has the expressions of its distinct members, in their order. -/
theorem unionExpression_union {members : List TypeId} (h : graph.kind id = .union members) :
    unionExpression graph names written id =
      ((distinctMembers graph.kind [] members).mapM (translate graph names written)).map
        .union := by
  simp [unionExpression, h]

/-! ### Induction over translation -/

/-- The name of a type that cannot do without. It is the assigned one, and translation fails where
there is none. -/
theorem nameOf_eq_ok_iff {kind : Kind} {name : NameId} :
    nameOf names id kind = .ok name ↔ names.typeName? id = some name := by
  unfold nameOf
  cases names.typeName? id <;> simp

/-- The name of a union whose declaration is written. A union that is written and has no name is
written out, so both conditions are there. -/
theorem writtenName?_eq_some_iff {name : NameId} :
    writtenName? names written id = some name ↔
      id ∈ written ∧ names.typeName? id = some name := by
  simp [writtenName?]

/-- What holds of every expression that a type is translated to, one case for each kind. The
hypothesis for a union written out speaks of each of its distinct members with its expression.
Statements about successful translations are shown by this, and need no word about termination. -/
theorem translate_induction {P : TypeId → Expr → Prop}
    (primitive : ∀ id type, graph.kind id = .primitive type → P id (.scalar (scalarOf type)))
    (map : ∀ id values, graph.kind id = .map values → P id (.scalar .any))
    (array : ∀ id items expr, graph.kind id = .array items → P items expr → P id (.array expr))
    (object : ∀ id properties name, graph.kind id = .object properties →
      names.typeName? id = some name → P id (if id ∈ written then .reference name else .late name))
    (enumeration : ∀ id cases name, graph.kind id = .enumeration cases →
      names.typeName? id = some name → P id (.enumeration name))
    (reference : ∀ id members name, graph.kind id = .union members → id ∈ written →
      names.typeName? id = some name → P id (.reference name))
    (union : ∀ id members exprs, graph.kind id = .union members →
      writtenName? names written id = none →
      List.Forall₂ (fun member expr => translate graph names written member = .ok expr ∧
        P member expr) (distinctMembers graph.kind [] members) exprs → P id (.union exprs))
    (id : TypeId) (expr : Expr) (h : translate graph names written id = .ok expr) : P id expr := by
  -- Along what is written inside what, which goes round no cycle: a class ends it.
  induction id using graph.inside_wellFounded.induction generalizing expr with
  | _ id ih =>
    cases hkind : graph.kind id with
    | primitive type =>
      rw [translate_primitive hkind] at h
      obtain rfl : _ = expr := by simpa using h
      exact primitive id type hkind
    | map values =>
      rw [translate_map hkind] at h
      obtain rfl : _ = expr := by simpa using h
      exact map id values hkind
    | array items =>
      rw [translate_array hkind] at h
      obtain ⟨inner, hinner, rfl⟩ := map_eq_ok_iff.1 h
      exact array id items inner hkind
        (ih items (inside_of_mem hkind (List.mem_singleton_self items)) inner hinner)
    | object properties =>
      rw [translate_object hkind] at h
      obtain ⟨name, hname, rfl⟩ := map_eq_ok_iff.1 h
      exact object id properties name hkind (nameOf_eq_ok_iff.1 hname)
    | enumeration cases =>
      rw [translate_enumeration hkind] at h
      obtain ⟨name, hname, rfl⟩ := map_eq_ok_iff.1 h
      exact enumeration id cases name hkind (nameOf_eq_ok_iff.1 hname)
    | union members =>
      rw [translate_union hkind] at h
      cases hname : writtenName? names written id with
      | some name =>
        obtain rfl : Expr.reference name = expr := by simpa [hname] using h
        obtain ⟨hwritten, hname⟩ := writtenName?_eq_some_iff.1 hname
        exact reference id members name hkind hwritten hname
      | none =>
        rw [hname, unionExpression_union hkind] at h
        obtain ⟨exprs, hexprs, rfl⟩ := map_eq_ok_iff.1 h
        -- The members are translated one by one, and each of them is written inside the union.
        refine union id members exprs hkind hname (forall₂_of_mapM hexprs ?_)
        intro member hmember expr hexpr
        exact ih member (inside_of_mem hkind (mem_of_mem_distinctMembers hmember)) expr hexpr

/-! ### Success -/

/-- Where classes and enums have names, every type has an expression. The names of a graph cover
it by `covers_of_assign`, so with them nothing is left to fail. -/
theorem exists_translate (hnames : names.Covers graph) (written : List TypeId) (id : TypeId) :
    ∃ expr, translate graph names written id = .ok expr := by
  induction id using graph.inside_wellFounded.induction with
  | _ id ih =>
    cases hkind : graph.kind id with
    | primitive type => exact ⟨_, translate_primitive hkind⟩
    | map values => exact ⟨_, translate_map hkind⟩
    | array items =>
      -- The item of an array is written inside it.
      obtain ⟨expr, hexpr⟩ := ih items (inside_of_mem hkind (List.mem_singleton_self items))
      exact ⟨.array expr, by rw [translate_array hkind, hexpr]; rfl⟩
    | object properties =>
      obtain ⟨name, hname⟩ := hnames.type id (.inl (by simp [hkind, Kind.isClass]))
      exact ⟨_, by rw [translate_object hkind, nameOf_eq_ok_iff.2 hname]; rfl⟩
    | enumeration cases =>
      obtain ⟨name, hname⟩ := hnames.type id (.inr (by simp [hkind, Kind.isEnum]))
      exact ⟨_, by rw [translate_enumeration hkind, nameOf_eq_ok_iff.2 hname]; rfl⟩
    | union members =>
      rw [translate_union hkind]
      cases writtenName? names written id with
      | some name => exact ⟨_, rfl⟩
      | none =>
        have hmembers : ∀ member ∈ distinctMembers graph.kind [] members,
            ∃ expr, translate graph names written member = .ok expr := fun member hmember =>
          ih member (inside_of_mem hkind (mem_of_mem_distinctMembers hmember))
        obtain ⟨exprs, hexprs⟩ := exists_mapM_eq_ok hmembers
        exact ⟨.union exprs, by simp only [unionExpression_union hkind, hexprs]; rfl⟩

/-- Where classes and enums have names, every union can be written out. What is no union is
translated as usual. -/
theorem exists_unionExpression (hnames : names.Covers graph) (written : List TypeId)
    (id : TypeId) : ∃ expr, unionExpression graph names written id = .ok expr := by
  cases hkind : graph.kind id with
  | union members =>
    obtain ⟨exprs, hexprs⟩ := exists_mapM_eq_ok fun member _ =>
      exists_translate hnames written member
    exact ⟨.union exprs, by rw [unionExpression_union hkind, hexprs]; rfl⟩
  | _ =>
    obtain ⟨expr, hexpr⟩ := exists_translate hnames written id
    exact ⟨expr, by simp [unionExpression, hkind, hexpr]⟩

end StateTree.Expr
