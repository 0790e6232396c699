import Mathlib.Data.List.Nodup
import StateTree.Proofs.Expr.Meaning
import StateTree.Proofs.Outline.DeclareBeforeUse

/-!
# `StateTree.Proofs.Outline.Reading`: expressions stand for what their types stand for

An expression is read next to the declarations of its file. A late reference is read as any other,
a reference to a model or to an enum as the type that was declared, and a reference to a constant as
the expression of the constant. Reading an expression gives the meaning of the type that it was made
for, whichever unions have declarations and wherever those stand.

- `Reads`: what an expression is read as; `ReadsAs`: it is read as what a type stands for.
- `reads_translate`: the expression of a type, where the unions written before it are read as what
  they stand for.
- `reads_reference`: the name of a declared union, by induction on its place in the file.
-/

set_option autoImplicit false

namespace StateTree

open StateTree.Expr (Meaning keptMembers meaning translate unionExpression distinctMembers)
open StateTree.Fallible
open StateTree.Graph
open StateTree.Naming (NameId TypeNames)
open StateTree.Outline

/-- What a scalar is read as. The scalars are fewer than the primitive types, so a reader finds no
more than this. -/
def Expr.Scalar.meaning : Expr.Scalar → Meaning
  | .any => .any
  | .null => .null
  | .boolean => .boolean
  | .number => .number
  | .string => .string
  | .date => .date

/-- What an expression is read as next to declarations. Names stand for what their declarations
say, and the expression of a constant is read in its place. It goes by the declarations only and
does not mention the graph. -/
inductive Reads (declarations : List Declaration) : Expr → Meaning → Prop where
  | scalar (type : Expr.Scalar) : Reads declarations (.scalar type) type.meaning
  | array {items : Expr} {content : Meaning} (h : Reads declarations items content) :
    Reads declarations (.array items) (.array content)
  | union {members : List Expr} {contents : List Meaning}
    (h : List.Forall₂ (Reads declarations) members contents) :
    Reads declarations (.union members) (.union contents)
  | enumeration {made : Declaration} (hmade : made ∈ declarations)
    {members : List (String × String)} (hbody : made.body = .enumeration members) :
    Reads declarations (.enumeration made.name) (.enumeration made.type)
  | model {made : Declaration} (hmade : made ∈ declarations) {properties : List Outline.Property}
    (hbody : made.body = .model properties) :
    Reads declarations (.reference made.name) (.object made.type)
  | constant {made : Declaration} (hmade : made ∈ declarations) {expr : Expr} {content : Meaning}
    (hbody : made.body = .constant expr) (h : Reads declarations expr content) :
    Reads declarations (.reference made.name) content
  /-- A late reference is one. -/
  | late {name : NameId} {content : Meaning} (h : Reads declarations (.reference name) content) :
    Reads declarations (.late name) content

/-- An expression is read as what a type stands for, and as nothing else. The second half is
needed as reading is a relation. -/
def ReadsAs (declarations : List Declaration) (graph : TypeGraph) (expr : Expr) (id : TypeId) :
    Prop :=
  ∀ content, Reads declarations expr content ↔ content = meaning graph id

variable {profile : Profile} {graph : TypeGraph} {names : TypeNames} {outline : Outline}

/-! ### Declared names -/

/-- The declarations of two types are two. So what is declared under a name is known from the type
of the name. -/
theorem eq_of_type_eq (h : Outline.ofGraph profile graph names = .ok outline)
    {made made' : Declaration} (hmade : made ∈ outline.declarations)
    (hmade' : made' ∈ outline.declarations) (htype : made.type = made'.type) : made = made' :=
  List.inj_on_of_nodup_map (nodup_types h) hmade hmade' htype

/-- The name of a type is the name of its own declaration only. A reader who looks a name up among
the declarations finds nothing else. -/
theorem type_of_name (h : Outline.ofGraph profile graph names = .ok outline)
    {made : Declaration} (hmade : made ∈ outline.declarations) {id : TypeId}
    (hname : names.typeName? id = some made.name) : made.type = id :=
  TypeNames.typeName?_injective (name_of_mem h hmade) hname

/-- The body of a declaration is that of its type. Which declarations had been written by then is
left open. -/
theorem body_of_mem (h : Outline.ofGraph profile graph names = .ok outline)
    {made : Declaration} (hmade : made ∈ outline.declarations) :
    ∃ written, body profile graph names written made.type = .ok made.body := by
  obtain ⟨before, after, hsplit⟩ := List.append_of_mem hmade
  exact ⟨_, (declaration_eq_ok (declaration_of_split h hsplit)).2.2⟩

/-- The name of a class is read as the class. Of the declarations only the one of the class has
the name, and it is a model. -/
theorem reads_class (h : Outline.ofGraph profile graph names = .ok outline) {id : TypeId}
    {properties : Keyed Graph.Property} (hkind : graph.kind id = .object properties)
    {name : NameId} (hname : names.typeName? id = some name) :
    ReadsAs outline.declarations graph (.reference name) id := by
  intro content
  rw [Expr.meaning_object hkind]
  constructor
  · intro hreads
    cases hreads with
    | model hmade hbody => rw [type_of_name h hmade hname]
    | constant hmade hbody _ =>
      -- The declaration of a class is no constant.
      obtain ⟨written, hcontent⟩ := body_of_mem h hmade
      rw [type_of_name h hmade hname] at hcontent
      have hcases := body_cases hcontent
      simp [hkind, hbody] at hcases
  · rintro rfl
    have hclass : (graph.kind id).isClass := by simp [hkind, Kind.isClass]
    obtain ⟨made, hmade, rfl⟩ := exists_declaration_of_kind h (.inl hclass)
    obtain ⟨written, hcontent⟩ := body_of_mem h hmade
    obtain ⟨_, members, _, hbody, _⟩ | ⟨_, _, hother, _⟩ | ⟨_, _, hother, _⟩ := body_cases hcontent
    · rw [← name_eq_of_mem h hmade hname]
      exact .model hmade hbody
    · simp [hkind] at hother
    · simp [hkind] at hother

/-- The name of an enum is read as the enum, with the members that it has in its declaration. -/
theorem reads_enum (h : Outline.ofGraph profile graph names = .ok outline) {id : TypeId}
    {cases : Distinct} (hkind : graph.kind id = .enumeration cases)
    {name : NameId} (hname : names.typeName? id = some name) :
    ReadsAs outline.declarations graph (.enumeration name) id := by
  intro content
  rw [Expr.meaning_enumeration hkind]
  constructor
  · intro hreads
    cases hreads with
    | enumeration hmade hbody => rw [type_of_name h hmade hname]
  · rintro rfl
    have henum : (graph.kind id).isEnum := by simp [hkind, Kind.isEnum]
    obtain ⟨made, hmade, rfl⟩ := exists_declaration_of_kind h (.inr henum)
    obtain ⟨written, hcontent⟩ := body_of_mem h hmade
    -- The declaration of an enum has the body of one; the two others are of other kinds.
    obtain ⟨_, _, hother, _⟩ | ⟨_, members, _, hbody⟩ | ⟨_, _, hother, _⟩ := body_cases hcontent
    · simp [hkind] at hother
    · rw [← name_eq_of_mem h hmade hname]
      exact .enumeration hmade hbody
    · simp [hkind] at hother

/-! ### Translated expressions -/

/-- Expressions that are read as what types stand for are, one after the other, read as the list
of that. In both directions: the members of a union are read as this list and as no other. -/
theorem forall₂_reads_iff {declarations : List Declaration} {types : List TypeId}
    {exprs : List Expr} (h : List.Forall₂ (fun id expr => ReadsAs declarations graph expr id)
      types exprs) (contents : List Meaning) :
    List.Forall₂ (Reads declarations) exprs contents ↔ contents = types.map (meaning graph) := by
  induction h generalizing contents with
  | nil => simp
  | @cons id expr types exprs hexpr _ ih =>
    rw [List.forall₂_cons_left_iff, List.map_cons]
    constructor
    · rintro ⟨content, rest, hcontent, hrest, rfl⟩
      rw [(hexpr content).1 hcontent, (ih rest).1 hrest]
    · rintro rfl
      exact ⟨_, _, (hexpr _).2 rfl, (ih _).2 rfl, rfl⟩

/-- The distinct members of a union written out are read as what the union stands for. Translation
and meaning leave out the same members, by `distinctMembers_eq_keptMembers`. -/
theorem reads_union {declarations : List Declaration} {id : TypeId} {members : List TypeId}
    {exprs : List Expr} (hkind : graph.kind id = .union members)
    (hexprs : List.Forall₂ (fun member expr => ReadsAs declarations graph expr member)
      (distinctMembers graph.kind [] members) exprs) :
    ReadsAs declarations graph (.union exprs) id := by
  -- The translation passes over repeated members by what it has seen, the meaning by what comes
  -- before.
  have hkept : distinctMembers graph.kind [] members = keptMembers graph.kind [] members :=
    Expr.distinctMembers_eq_keptMembers graph.kind (by simp)
  intro content
  rw [Expr.meaning_union hkind, ← hkept]
  constructor
  · intro hreads
    cases hreads with
    | union hreads => rw [(forall₂_reads_iff hexprs _).1 hreads]
  · rintro rfl
    exact .union ((forall₂_reads_iff hexprs _).2 rfl)

/-- The expression of a type is read as what the type stands for, if the names of the unions
written before it are. Classes and enums need no such condition: they stand for themselves,
whatever their declarations say. -/
theorem reads_translate (h : Outline.ofGraph profile graph names = .ok outline)
    {written : List TypeId}
    (hwritten : ∀ union ∈ written, (graph.kind union).isUnion → ∀ name,
      names.typeName? union = some name →
        ReadsAs outline.declarations graph (.reference name) union)
    {id : TypeId} {expr : Expr} (hexpr : translate graph names written id = .ok expr) :
    ReadsAs outline.declarations graph expr id := by
  refine Expr.translate_induction (P := fun id expr => ReadsAs outline.declarations graph expr id)
    ?primitive ?map ?array ?object ?enumeration ?reference ?union id expr hexpr
  case primitive =>
    intro id type hkind content
    rw [Expr.meaning_primitive hkind]
    -- Translation and meaning take primitive types to scalars in the same way.
    have hscalar : (Expr.scalarOf type).meaning = .ofPrimitive type := by
      cases type with
      | formatted format => cases format <;> rfl
      | _ => rfl
    constructor
    · rintro ⟨⟩
      exact hscalar
    · rintro rfl
      rw [← hscalar]
      exact .scalar _
  case map =>
    intro id values hkind content
    rw [Expr.meaning_map hkind]
    constructor
    · rintro ⟨⟩
      rfl
    · rintro rfl
      exact .scalar .any
  case array =>
    intro id items expr hkind ih content
    rw [Expr.meaning_array hkind]
    constructor
    · rintro ⟨⟩
      rename_i content hitems
      rw [(ih content).1 hitems]
    · rintro rfl
      exact .array ((ih _).2 rfl)
  case object =>
    intro id properties name hkind hname content
    have hclass := reads_class h hkind hname content
    split
    · exact hclass
    · -- A late reference is read as the reference that it puts off.
      rw [← hclass]
      exact ⟨fun hlate => by cases hlate; assumption, .late⟩
  case enumeration =>
    intro id cases name hkind hname
    exact reads_enum h hkind hname
  case reference =>
    intro id members name hkind hmem hname
    exact hwritten id hmem (by simp [hkind, Kind.isUnion]) name hname
  case union =>
    intro id members exprs hkind _ hexprs
    exact reads_union hkind (hexprs.imp fun _ _ hmember => hmember.2)

/-- The members of a union written out are read as what the union stands for. This is the body of
its declaration, whose own name is not among those written before. -/
theorem reads_unionExpression (h : Outline.ofGraph profile graph names = .ok outline)
    {written : List TypeId}
    (hwritten : ∀ union ∈ written, (graph.kind union).isUnion → ∀ name,
      names.typeName? union = some name →
        ReadsAs outline.declarations graph (.reference name) union)
    {id : TypeId} {members : List TypeId} (hkind : graph.kind id = .union members) {expr : Expr}
    (hexpr : unionExpression graph names written id = .ok expr) :
    ReadsAs outline.declarations graph expr id := by
  rw [Expr.unionExpression_union hkind] at hexpr
  obtain ⟨exprs, hexprs, rfl⟩ := map_eq_ok_iff.1 hexpr
  exact reads_union hkind ((mapM_eq_ok_iff.1 hexprs).imp fun _ _ hmember =>
    reads_translate h hwritten hmember)

/-! ### Declared unions -/

/-- The name of a constant is read as its expression, and as nothing else. -/
theorem reads_constant (h : Outline.ofGraph profile graph names = .ok outline)
    {made : Declaration} (hmade : made ∈ outline.declarations) {expr : Expr}
    (hbody : made.body = .constant expr) (content : Meaning) :
    Reads outline.declarations (.reference made.name) content ↔
      Reads outline.declarations expr content := by
  -- No other declaration has the name, so there is nothing else to read it as.
  have hsame : ∀ other ∈ outline.declarations, other.name = made.name → other = made := by
    intro other hother hname
    have htype := type_of_name h hother (hname.symm ▸ name_of_mem h hmade)
    exact eq_of_type_eq h hother hmade htype
  constructor
  · intro hreads
    generalize hname : made.name = name at hreads
    cases hreads with
    | model hother hmodel =>
      rw [hsame _ hother hname.symm, hbody] at hmodel
      simp at hmodel
    | constant hother hconstant hreads =>
      rw [hsame _ hother hname.symm, hbody] at hconstant
      rwa [Body.constant.inj hconstant]
  · exact .constant hmade hbody

/-- The names of the unions among some declarations are read as what the unions stand for, if that
holds of each declaration. It is the hypothesis of `reads_translate` in terms of declarations. -/
theorem reads_written (h : Outline.ofGraph profile graph names = .ok outline)
    {before : List Declaration} (hsub : ∀ made ∈ before, made ∈ outline.declarations)
    (hbefore : ∀ made ∈ before, (graph.kind made.type).isUnion →
      ReadsAs outline.declarations graph (.reference made.name) made.type) :
    ∀ union ∈ before.map Declaration.type, (graph.kind union).isUnion → ∀ name,
      names.typeName? union = some name →
        ReadsAs outline.declarations graph (.reference name) union := by
  intro union hunion hkind name hname
  obtain ⟨made, hmade, rfl⟩ := List.mem_map.1 hunion
  rw [← name_eq_of_mem h (hsub made hmade) hname]
  exact hbefore made hmade hkind

/-- The name of a declared union is read as what the union stands for. The induction is on the
number of declarations before: the expression of the union refers only to unions among them. -/
theorem reads_reference (h : Outline.ofGraph profile graph names = .ok outline)
    {before after : List Declaration} {this : Declaration}
    (hsplit : outline.declarations = before ++ this :: after)
    (hkind : (graph.kind this.type).isUnion) :
    ReadsAs outline.declarations graph (.reference this.name) this.type := by
  induction hlength : before.length using Nat.strongRecOn generalizing before this after with
  | ind n ih =>
    have hbefore : ∀ made ∈ before, (graph.kind made.type).isUnion →
        ReadsAs outline.declarations graph (.reference made.name) made.type := by
      intro made hmade hunion
      obtain ⟨before₁, before₂, rfl⟩ := List.append_of_mem hmade
      rw [List.append_assoc] at hsplit
      exact ih before₁.length (by simp [← hlength]) hsplit hunion rfl
    have hwritten := reads_written h (fun made hmade => by simp [hsplit, hmade]) hbefore
    have hthis : this ∈ outline.declarations := by simp [hsplit]
    obtain ⟨_, _, hother, _⟩ | ⟨_, _, hother, _⟩ | ⟨members, expr, hmembers, hbody, hexpr⟩ :=
      body_cases (declaration_eq_ok (declaration_of_split h hsplit)).2.2
    -- The declaration of a union is neither a model nor an enum.
    · simp [hother, Kind.isUnion] at hkind
    · simp [hother, Kind.isUnion] at hkind
    · intro content
      rw [reads_constant h hthis hbody]
      exact reads_unionExpression h (fun union hunion => hwritten union (List.mem_reverse.1 hunion))
        hmembers hexpr content

/-- The names of the unions that are declared first are read as what the unions stand for. With
all declarations in the place of `before` this is the case of an alias. -/
theorem reads_declared (h : Outline.ofGraph profile graph names = .ok outline)
    {before rest : List Declaration} (hsplit : outline.declarations = before ++ rest) :
    ∀ union ∈ before.map Declaration.type, (graph.kind union).isUnion → ∀ name,
      names.typeName? union = some name →
        ReadsAs outline.declarations graph (.reference name) union := by
  refine reads_written h (fun made hmade => by simp [hsplit, hmade]) fun made hmade hkind => ?_
  obtain ⟨before₁, before₂, rfl⟩ := List.append_of_mem hmade
  rw [List.append_assoc] at hsplit
  exact reads_reference h hsplit hkind

end StateTree
