import Mathlib.Data.Nat.Find
import StateTree.Proofs.Outline.Range

/-!
# `StateTree.Proofs.Outline.Verdict`: which graphs have a file

A graph has a file unless some class or enum is nameless. The names decide: once they are assigned,
every declaration, every alias and every type to convert has its name, every expression can be
translated, and every name in what is written has an identifier.

- `exists_ofGraph`, `exists_file`: after the names are assigned nothing fails.
- `generate_eq_error`, `exists_generate`: the two outcomes.
- `generate_verdict`: the outcomes as one, whatever the profile is.
-/

set_option autoImplicit false

namespace StateTree

open StateTree.Expr (Vocabulary)
open StateTree.Fallible
open StateTree.Graph
open StateTree.Naming (NameId TypeNames Nameless)

namespace Outline

variable {graph : TypeGraph} {names : TypeNames} (hnames : names.Covers graph) {id : TypeId}

include hnames

/-! ### Outlines -/

/-- Every declarable type that is no anonymous union has a declaration. A class or an enum has its
name by `hnames`, and a union that is not anonymous has one anyway. -/
theorem exists_declaration (profile : Profile) (written : List TypeId) {declareUnions : Bool}
    (hdeclarable : isDeclarable declareUnions (graph.kind id))
    (hnamed : ¬ isAnonymousUnion graph names id) :
    ∃ made, declaration profile graph names written id = .ok made := by
  have hname : ∃ name, names.typeName? id = some name := by
    by_cases hunion : (graph.kind id).isUnion
    · simpa [isAnonymousUnion, hunion, Option.ne_none_iff_exists'] using hnamed
    · refine hnames.type id ?_
      simpa [isDeclarable, hunion] using hdeclarable
  have hbody : ∃ content, body profile graph names written id = .ok content := by
    unfold body
    split
    · exact exists_map_eq_ok _ (exists_mapM_eq_ok fun source _ =>
        exists_map_eq_ok _ (Expr.exists_translate hnames written source.1.type))
    · exact ⟨_, rfl⟩
    · exact exists_map_eq_ok _ (Expr.exists_unionExpression hnames written id)
    · -- Only classes, enums and unions are declarable.
      cases hkind : graph.kind id <;>
        simp_all [isDeclarable, Kind.isClass, Kind.isEnum, Kind.isUnion]
  obtain ⟨name, hname⟩ := hname
  exact exists_bind_eq_ok ⟨name, Expr.nameOf_eq_ok_iff.2 hname⟩ fun _ _ =>
    exists_bind_eq_ok hbody fun _ _ => ⟨_, rfl⟩

/-- All declarable types have their declarations, whatever has been written before them. -/
theorem exists_declareAll (profile : Profile) (written : List TypeId) {declareUnions : Bool}
    {order : List TypeId} (horder : ∀ id ∈ order, isDeclarable declareUnions (graph.kind id)) :
    ∃ made, declareAll profile graph names written order = .ok made := by
  induction order generalizing written with
  | nil => exact ⟨[], rfl⟩
  | cons id rest ih =>
    have hrest : ∀ id ∈ rest, isDeclarable declareUnions (graph.kind id) := fun other hother =>
      horder other (by simp [hother])
    rw [declareAll]
    -- A union without a name gets no declaration, so nothing is asked of the names.
    by_cases hanonymous : isAnonymousUnion graph names id
    · rw [if_pos hanonymous]
      exact ih written hrest
    · rw [if_neg hanonymous]
      have hfirst := exists_declaration hnames profile written (horder id (by simp)) hanonymous
      exact exists_bind_eq_ok hfirst fun _ _ =>
        exists_bind_eq_ok (ih (id :: written) hrest) fun _ _ => ⟨_, rfl⟩

/-- All entry points have names, by `hnames`. -/
theorem exists_topLevelName {top : TopLevel} {index : Nat}
    (h : graph.topLevels[index]? = some top) :
    ∃ name, topLevelName graph names index top = .ok name := by
  obtain ⟨name, hname⟩ := hnames.entry index top h
  exact ⟨name, topLevelName_eq_ok_iff.2 hname⟩

/-- What is left of the entry points from `index` on begins with the one at the index, which has a
name. It is the step of both inductions over entry points. -/
theorem exists_topLevelName_of_drop {top : TopLevel} {rest : List TopLevel} {index : Nat}
    (htops : top :: rest = graph.topLevels.drop index) :
    (∃ name, topLevelName graph names index top = .ok name) ∧
      rest = graph.topLevels.drop (index + 1) := by
  have htop : graph.topLevels[index]? = some top := by
    rw [← List.head?_drop, ← htops, List.head?_cons]
  have hrest : rest = graph.topLevels.drop (index + 1) := by
    rw [← List.tail_drop, ← htops, List.tail_cons]
  exact ⟨exists_topLevelName hnames htop, hrest⟩

variable {topLevels : List TopLevel} {index : Nat}

/-- All entry points have their aliases. The list is what is left of the entry points from `index`
on, so the names are found at the right positions. -/
theorem exists_aliasAll (written : List TypeId) (seen : List NameId)
    (htops : topLevels = graph.topLevels.drop index) :
    ∃ made, aliasAll graph names written seen index topLevels = .ok made := by
  induction topLevels generalizing seen index with
  | nil => exact ⟨[], rfl⟩
  | cons top rest ih =>
    obtain ⟨hname, hrest⟩ := exists_topLevelName_of_drop hnames htops
    rw [aliasAll]
    -- The name is only looked up, and the type only translated, where an alias may be needed.
    by_cases hwritten : top.type ∈ written
    · rw [if_pos hwritten]
      exact ih seen hrest
    · rw [if_neg hwritten]
      refine exists_bind_eq_ok hname fun name _ => ?_
      by_cases hseen : name ∈ seen
      · rw [if_pos hseen]
        exact ih seen hrest
      · rw [if_neg hseen]
        exact exists_bind_eq_ok (Expr.exists_translate hnames written top.type) fun _ _ =>
          exists_bind_eq_ok (ih (name :: seen) hrest) fun _ _ => ⟨_, rfl⟩

/-- All entry points can be converted, since each of them has a name. -/
theorem exists_topLevelTargets (htops : topLevels = graph.topLevels.drop index) :
    ∃ pairs, topLevelTargets graph names index topLevels = .ok pairs := by
  induction topLevels generalizing index with
  | nil => exact ⟨[], rfl⟩
  | cons top rest ih =>
    obtain ⟨hname, hrest⟩ := exists_topLevelName_of_drop hnames htops
    exact exists_bind_eq_ok hname fun _ _ =>
      exists_bind_eq_ok (ih hrest) fun _ _ => ⟨_, rfl⟩

/-- Every graph whose names are assigned has an outline. Nothing in an outline fails but for a
missing name. -/
theorem exists_ofGraph (profile : Profile) :
    ∃ outline, Outline.ofGraph profile graph names = .ok outline := by
  -- Targets are names of entry points, which exist, or of classes that are known to have one.
  have htargets : ∃ targets, targetsOf profile.settings graph names
      (graph.declarationOrder profile.settings.declareUnions) = .ok targets := by
    unfold targetsOf
    split
    · exact ⟨[], rfl⟩
    · split
      · exact exists_map_eq_ok _ (exists_topLevelTargets hnames rfl)
      · exact ⟨_, rfl⟩
  refine exists_bind_eq_ok (exists_declareAll hnames profile [] fun _ hid =>
    (TypeGraph.mem_declarationOrder_iff.1 hid).2) fun _ _ => ?_
  exact exists_bind_eq_ok (exists_aliasAll hnames _ [] rfl) fun _ _ =>
    exists_bind_eq_ok htargets fun _ _ => ⟨_, rfl⟩

/-! ### What is written -/

/-- The name of a type has an identifier. Names that were looked up can always be written. -/
theorem resolve_typeName {name : NameId} (h : names.typeName? id = some name) :
    ∃ identifier, names.resolve name = .ok identifier :=
  hnames.resolves (.type id) name h

/-- The name of an entry point has an identifier. -/
theorem resolve_topLevelName {index : Nat} {name : NameId}
    (h : names.topLevelName? graph index = some name) :
    ∃ identifier, names.resolve name = .ok identifier := by
  obtain ⟨top, -, hname⟩ := Option.bind_eq_some_iff.1 h
  exact hnames.resolves _ name hname

/-- A translated expression can be written out. Its names are those of types, which `h` says and
translation guarantees. -/
theorem exists_exprText (vocabulary : Vocabulary) {expr : Expr}
    (h : ∀ use ∈ expr.uses, ∃ type, names.typeName? type = some use.name) :
    ∃ text, exprText vocabulary names expr = .ok text := by
  refine Expr.exists_render_word fun use huse => ?_
  obtain ⟨type, hname⟩ := h use huse
  obtain ⟨identifier, hidentifier⟩ := resolve_typeName hnames hname
  exact ⟨identifier, TypeNames.resolve?_eq_some_iff.2 hidentifier⟩

/-- A declaration can be written out if its name has an identifier and its expressions use names
of types. -/
theorem exists_source (vocabulary : Vocabulary) {made : Declaration}
    (hname : ∃ identifier, names.resolve made.name = .ok identifier)
    (huses : ∀ expr ∈ made.body.exprs, ∀ use ∈ expr.uses,
      ∃ type, names.typeName? type = some use.name) :
    ∃ source, made.source vocabulary names = .ok source := by
  refine exists_bind_eq_ok hname fun identifier _ => ?_
  -- Members of an enum are texts and need no names.
  cases hbody : made.body with
  | model properties =>
    have hproperty : ∀ property ∈ properties,
        ∃ source, Property.source vocabulary names property = .ok source := by
      intro property hproperty
      have hexpr : property.expr ∈ made.body.exprs := by
        rw [hbody]
        exact List.mem_map_of_mem hproperty
      exact exists_map_eq_ok _ (exists_exprText hnames vocabulary (huses property.expr hexpr))
    exact exists_bind_eq_ok (exists_mapM_eq_ok hproperty) fun _ _ => ⟨_, rfl⟩
  | enumeration members => exact ⟨_, rfl⟩
  | constant expr =>
    have hexpr : expr ∈ made.body.exprs := by simp [hbody, Body.exprs]
    exact exists_bind_eq_ok (exists_exprText hnames vocabulary (huses expr hexpr)) fun _ _ =>
      ⟨_, rfl⟩

/-- Every outline of a graph whose names are assigned can be written out: its declarations, its
aliases and its converters. -/
theorem exists_file {profile : Profile} {outline : Outline}
    (h : Outline.ofGraph profile graph names = .ok outline) :
    ∃ file, outline.file profile names = .ok file := by
  obtain ⟨hdeclarations, haliases, htargets⟩ := ofGraph_eq_ok h
  have hdeclared : ∀ made ∈ outline.declarations,
      ∃ source, made.source profile.vocabulary names = .ok source := by
    intro made hmade
    obtain ⟨before, after, hsplit⟩ := List.append_of_mem hmade
    have hdeclaration := (declareAll_eq_ok hdeclarations).2 before made after hsplit
    have hname := resolve_typeName hnames (declaration_eq_ok hdeclaration).2.1
    exact exists_source hnames _ hname fun expr hexpr use huse =>
      typeName_of_use h (List.mem_append_left _ hmade) hexpr huse
  have haliased : ∀ made ∈ outline.aliases,
      ∃ source, made.source profile.vocabulary names = .ok source := by
    intro made hmade
    obtain ⟨_, _, _, _, _, hname, _⟩ := aliasAll_eq_ok haliases made hmade
    exact exists_source hnames _ (resolve_topLevelName hnames hname) fun expr hexpr use huse =>
      typeName_of_use h (List.mem_append_right _ hmade) hexpr huse
  have hclients : ∀ target ∈ outline.targets,
      ∃ client, Target.client names target = .ok client := by
    intro target htarget
    refine exists_map_eq_ok _ ?_
    rcases targetsOf_eq_ok htargets target htarget with ⟨index, hname⟩ | ⟨type, -, hname⟩
    · exact resolve_topLevelName hnames hname
    · exact resolve_typeName hnames hname
  refine exists_bind_eq_ok (exists_mapM_eq_ok hdeclared) fun declared _ => ?_
  refine exists_bind_eq_ok (exists_mapM_eq_ok haliased) fun aliased _ => ?_
  refine exists_bind_eq_ok (exists_mapM_eq_ok hclients) fun clients _ => ?_
  -- What follows is the layout of the file.
  split <;> exact ⟨_, rfl⟩

end Outline

/-! ### Files -/

variable {graph : TypeGraph}

/-- The first nameless type is what a graph without a file is refused for. The profile has no part
in it, as names come first. -/
theorem generate_eq_error (profile : Profile) {id : Nat} (h : Nameless graph id)
    (hfirst : ∀ j < id, ¬ Nameless graph j) :
    generate profile graph = .error (.unnamed id (graph.kind id).name) := by
  unfold generate generateFile
  rw [TypeNames.assign_eq_error _ _ h hfirst]
  rfl

/-- A graph without nameless types has a file, by every profile. With `generate_eq_error` there is
no third outcome. -/
theorem exists_generate (profile : Profile) (h : ∀ id, ¬ Nameless graph id) :
    ∃ text, generate profile graph = .ok text := by
  obtain ⟨names, hassign, hnames⟩ :=
    TypeNames.assign_eq_ok profile.settings.declareUnions profile.settings.acronyms h
  refine exists_map_eq_ok _ (exists_bind_eq_ok ⟨names, hassign⟩ fun names' hassign' => ?_)
  obtain rfl : names = names' := by simpa [hassign] using hassign'
  exact exists_bind_eq_ok (Outline.exists_ofGraph hnames profile) fun _ houtline =>
    Outline.exists_file hnames houtline

/-- A type is the first nameless one, by position. It is the one that an error is about. -/
def FirstNameless (graph : TypeGraph) (id : TypeId) : Prop :=
  Nameless graph id ∧ ∀ j < id, ¬ Nameless graph j

/-- Where there are nameless types there is a first one, so a graph that is refused is refused for
one type. -/
theorem exists_firstNameless {id : TypeId} (h : Nameless graph id) :
    ∃ first, FirstNameless graph first := by
  classical
  exact ⟨Nat.find ⟨id, h⟩, Nat.find_spec ⟨id, h⟩, fun _ hj => Nat.find_min _ hj⟩

/-- There is only one first nameless type, so the error is determined by the graph. -/
theorem FirstNameless.unique {id id' : Nat} (h : FirstNameless graph id)
    (h' : FirstNameless graph id') : id = id' := by
  rcases Nat.lt_trichotomy id id' with hlt | heq | hlt
  · exact absurd h.1 (h'.2 id hlt)
  · exact heq
  · exact absurd h'.1 (h.2 id' hlt)

/-- Whatever the profile is, a graph has a file unless some class or enum is nameless, and the
error is about the first of these: two profiles lead to the same verdict. Nothing is looked up past
the end of the graph, whose file stays the same with other nodes there to look at. -/
theorem generate_verdict (profile : Profile) (graph : TypeGraph) :
    (∀ error, generate profile graph = .error error ↔
      ∃ id, FirstNameless graph id ∧ error = .unnamed id (graph.kind id).name) ∧
    ((∃ text, generate profile graph = .ok text) ↔ ∀ id, ¬ Nameless graph id) ∧
    (∀ other : Profile, (generate other graph).map (fun _ => ()) =
      (generate profile graph).map fun _ => ()) ∧
    ∀ wide : TypeGraph, wide.Extends graph →
      generateOver wide profile graph = generate profile graph := by
  have hwide := fun (wide : TypeGraph) (h : wide.Extends graph) => generateOver_eq h profile
  -- Either there is a first nameless type, and every profile is refused for it, or every profile
  -- has a file.
  by_cases hnameless : ∃ id, Nameless graph id
  · obtain ⟨id, hid⟩ := hnameless
    obtain ⟨first, hfirst⟩ := exists_firstNameless hid
    have herror : ∀ profile, generate profile graph =
        .error (.unnamed first (graph.kind first).name) := fun profile =>
      generate_eq_error profile hfirst.1 hfirst.2
    refine ⟨fun error => ?_, ?_, fun other => by rw [herror, herror], hwide⟩
    · constructor
      · intro h
        exact ⟨first, hfirst, by simpa [herror] using h.symm⟩
      · rintro ⟨id', hid', rfl⟩
        rw [herror, hfirst.unique hid']
    · refine iff_of_false ?_ fun hnone => hnone id hid
      rintro ⟨text, htext⟩
      simp [herror] at htext
  · have hnone : ∀ id, ¬ Nameless graph id := fun id hid => hnameless ⟨id, hid⟩
    obtain ⟨text, htext⟩ := exists_generate profile hnone
    refine ⟨fun error => ?_, iff_of_true ⟨text, htext⟩ hnone, fun other => ?_, hwide⟩
    · refine iff_of_false (by simp [htext]) ?_
      rintro ⟨id, hid, _⟩
      exact hnone id hid.1
    · obtain ⟨text', htext'⟩ := exists_generate other hnone
      rw [htext, htext']
      rfl

end StateTree
