import StateTree.Proofs.Graph.Descriptions
import StateTree.Proofs.Layout.DocComments
import StateTree.Proofs.Outline.Verdict
import StateTree.Proofs.Source.Documentation

/-!
# `StateTree.Proofs.Outline.Descriptions`: descriptions stay in comments

A description ends up in a documentation comment, which it cannot end, and nowhere else. To see the
second, a file is generated from a graph without its descriptions. At each stage this gives what
comes from the graph itself, with the documentation taken out: names and expressions are the same,
declarations lose their documentation, and of the file the same code is left. So two graphs that
differ in descriptions only have files with the same code.

- `translate_undescribed`, `declaration_undescribed`, `ofGraph_undescribed`: the stages.
- `generateFile_undescribed`: the file of a graph without descriptions.
- `descriptions_stay_in_comments`: comments end where they should, and code is free of descriptions.
-/

set_option autoImplicit false

namespace StateTree

open StateTree.Expr (Vocabulary translate unionExpression distinctMembers writtenName?)
open StateTree.Fallible
open StateTree.Graph
open StateTree.Layout (Buffer ClosesOnce Fragment)
open StateTree.Naming (NameId NameKey Registry TypeNames internNode internNodes internTopLevels
  topLevelKey)

open StateTree.Layout.Fragment (undocumentedAll)

/-! ### Names and expressions -/

/-- A type asks for its name without its description: proposals come from its names and its kind,
and whether it asks at all comes from its kind. -/
theorem internNode_undescribed (declareUnions : Bool) (registry : Registry NameKey) (id : TypeId)
    (node : Node) : internNode declareUnions registry id node.undescribed =
      internNode declareUnions registry id node := by
  obtain ⟨kind, names, inferred, description⟩ := node
  cases kind <;> rfl

/-- So do all types, and in the same order. -/
theorem internNodes_undescribed (declareUnions : Bool) (registry : Registry NameKey) (id : TypeId)
    (nodes : List Node) : internNodes declareUnions registry id (nodes.map Node.undescribed) =
      internNodes declareUnions registry id nodes := by
  induction nodes generalizing registry id with
  | nil => rfl
  | cons node rest ih => simp only [List.map_cons, internNodes, internNode_undescribed, ih]

section

variable (graph : TypeGraph) (names : TypeNames)

/-- An entry point has the key that it has without descriptions. It is that of its type if the
type has a name of its own, and its own key otherwise. -/
theorem topLevelKey_undescribed (index : Nat) (top : TopLevel) :
    topLevelKey graph.undescribed.nodes index top = topLevelKey graph.nodes index top := by
  simp only [topLevelKey, TypeGraph.undescribed, kindAt_map_undescribed, Kind.isNamed_undescribed]

/-- Entry points ask for their names without descriptions. They do so before the types, so this
comes first in `assign_undescribed`. -/
theorem internTopLevels_undescribed (registry : Registry NameKey) (index : Nat)
    (topLevels : List TopLevel) :
    internTopLevels graph.undescribed.nodes registry index topLevels =
      internTopLevels graph.nodes registry index topLevels := by
  induction topLevels generalizing registry index with
  | nil => rfl
  | cons top rest ih => simp only [internTopLevels, topLevelKey_undescribed, ih]

/-- A file has the same names without descriptions. The two files can so be compared with one set
of names, which all lemmas below are about. -/
theorem assign_undescribed (declareUnions : Bool) (acronyms : Text.AcronymStyle) :
    TypeNames.assign graph.undescribed declareUnions acronyms =
      TypeNames.assign graph declareUnions acronyms := by
  rw [TypeNames.assign, TypeNames.assign, internTopLevels_undescribed]
  exact congrArg (Except.map _) (internNodes_undescribed declareUnions _ 0 graph.nodes)

/-- A union has the same distinct members without descriptions. Which of them are written comes
from their kinds. -/
theorem distinctMembers_undescribed (seen : List Primitive) (members : List TypeId) :
    distinctMembers graph.undescribed.kind seen members =
      distinctMembers graph.kind seen members := by
  induction members generalizing seen with
  | nil => rfl
  | cons member rest ih =>
    simp only [distinctMembers, TypeGraph.kind_undescribed, Kind.primitive?_undescribed, ih]

/-- The name of a type does not depend on descriptions, nor does its absence. The error, too,
names the kind of the type only. -/
theorem nameOf_undescribed (id : TypeId) (kind : Kind) :
    Expr.nameOf names id kind.undescribed = Expr.nameOf names id kind := by
  simp only [Expr.nameOf, Kind.name_undescribed]

variable (written : List TypeId)

/-- A union written out, given that its members have the same expressions. It stands alone since
unions are written out in two places: inside another type, and in their own declaration. -/
theorem unionExpression_undescribed {id : TypeId} {members : List TypeId}
    (hkind : graph.kind id = .union members)
    (hmembers : ∀ member ∈ members, translate graph.undescribed names written member =
      translate graph names written member) :
    unionExpression graph.undescribed names written id =
      unionExpression graph names written id := by
  have hkind' : graph.undescribed.kind id = .union members := by
    rw [TypeGraph.kind_undescribed, hkind]
    rfl
  rw [Expr.unionExpression_union hkind, Expr.unionExpression_union hkind',
    distinctMembers_undescribed]
  refine congrArg (Except.map Expr.union) (mapM_congr ?_)
  intro member hmember
  exact hmembers member (Expr.mem_of_mem_distinctMembers hmember)

/-- Types have the same expressions without descriptions. Expressions refer to types by their
names, and to no text of a type. -/
theorem translate_undescribed (id : TypeId) :
    translate graph.undescribed names written id = translate graph names written id := by
  -- Along what is written inside what, case by case as translation goes.
  induction id using graph.inside_wellFounded.induction with
  | _ id ih =>
    have hkind' := graph.kind_undescribed id
    cases hkind : graph.kind id with
    | primitive type =>
      rw [hkind] at hkind'
      rw [Expr.translate_primitive hkind, Expr.translate_primitive hkind']
    | map values =>
      rw [hkind] at hkind'
      rw [Expr.translate_map hkind, Expr.translate_map hkind']
    | array items =>
      rw [hkind] at hkind'
      rw [Expr.translate_array hkind, Expr.translate_array hkind',
        ih items (Expr.inside_of_mem hkind (List.mem_singleton_self items))]
    | object properties =>
      rw [hkind] at hkind'
      rw [Expr.translate_object hkind, Expr.translate_object hkind']
      exact congrArg (Except.map _) (nameOf_undescribed names id (.object properties))
    | enumeration cases =>
      rw [hkind] at hkind'
      rw [Expr.translate_enumeration hkind, Expr.translate_enumeration hkind']
    | union members =>
      have hunion := unionExpression_undescribed graph names written hkind fun member hmember =>
        ih member (Expr.inside_of_mem hkind hmember)
      rw [hkind] at hkind'
      rw [Expr.translate_union hkind, Expr.translate_union hkind', hunion]

end

/-! ### Declarations -/

namespace Outline

/-- A property without documentation. Its key, its expression and whether it may be missing stay.
-/
def Property.undocumented (property : Property) : Property :=
  { property with doc := none }

/-- A body without documentation. Only the properties of a model have any of their own. -/
def Body.undocumented : Body → Body
  | .model properties => .model (properties.map Property.undocumented)
  | content => content

/-- A declaration without documentation, neither its own nor that of its properties. -/
def Declaration.undocumented (declaration : Declaration) : Declaration :=
  { declaration with doc := none, body := declaration.body.undocumented }

section

variable (profile : Profile) (graph : TypeGraph) (names : TypeNames) (written : List TypeId)

/-- A body without descriptions, or the same error. Of the shapes that have a body, only a class
has descriptions in it. -/
theorem body_undescribed (id : TypeId) :
    body profile graph.undescribed names written id =
      (body profile graph names written id).map Body.undocumented := by
  unfold body
  rw [TypeGraph.kind_undescribed]
  cases hkind : graph.kind id with
  | primitive type => rfl
  | array items => rfl
  | map values => rfl
  | object properties =>
    -- The keys come from the names of the properties, which stay.
    have hsources : (properties.map Graph.Property.undescribed).values.zip
          (propertyKeys profile (properties.map Graph.Property.undescribed).names) =
        (properties.values.zip (propertyKeys profile properties.names)).map fun source =>
          (source.1.undescribed, source.2) := by
      rw [Keyed.values_map, Keyed.names_map, List.zip_map_left]
      rfl
    -- Each property becomes the same member, but for its documentation.
    have hmembers : ((properties.values.zip (propertyKeys profile properties.names)).map
          fun source => (source.1.undescribed, source.2)).mapM
          (property graph.undescribed names written) =
        (properties.values.zip (propertyKeys profile properties.names)).mapM fun source =>
          (property graph names written source).map Property.undocumented := by
      refine mapM_eq_of_forall₂ ?_
      rw [List.forall₂_map_left_iff, List.forall₂_same]
      intro source _
      rw [property, property, map_map, Graph.Property.undescribed, translate_undescribed]
      rfl
    simp only [Kind.undescribed]
    rw [hsources, hmembers, mapM_map_result, map_map, map_map]
    rfl
  | enumeration cases => rfl
  | union members =>
    have hunion := unionExpression_undescribed graph names written hkind fun member _ =>
      translate_undescribed graph names written member
    simp only [Kind.undescribed]
    rw [hunion, map_map]
    rfl

/-- A declaration without descriptions, or the same error. Its type, its handle and its body have
nothing to do with the description of the type. -/
theorem declaration_undescribed (id : TypeId) :
    declaration profile graph.undescribed names written id =
      (declaration profile graph names written id).map Declaration.undocumented := by
  unfold declaration
  rw [TypeGraph.kind_undescribed, nameOf_undescribed, body_undescribed,
    TypeGraph.description?_undescribed, map_bind]
  simp only [map_bind, bind_map]
  rfl

/-- The same unions stay without a declaration, so the same types count as written at each step.
-/
theorem isAnonymousUnion_undescribed (id : TypeId) :
    isAnonymousUnion graph.undescribed names id = isAnonymousUnion graph names id := by
  rw [isAnonymousUnion, isAnonymousUnion, TypeGraph.kind_undescribed, Kind.isUnion_undescribed]

/-- All declarations without descriptions, or the same error. It is stated for any types written
before, since these grow from one declaration to the next. -/
theorem declareAll_undescribed (order : List TypeId) :
    declareAll profile graph.undescribed names written order =
      (declareAll profile graph names written order).map (List.map Declaration.undocumented) := by
  induction order generalizing written with
  | nil => rfl
  | cons id rest ih =>
    rw [declareAll, declareAll, isAnonymousUnion_undescribed]
    -- Whether a union is anonymous does not depend on its description, so the same types are left
    -- out.
    split
    · exact ih written
    · rw [declaration_undescribed, ih, bind_map, map_bind]
      simp only [map_bind, bind_map]
      rfl

/-- The name of an entry point does not depend on descriptions, nor does its absence. -/
theorem topLevelName_undescribed (index : Nat) (top : TopLevel) :
    topLevelName graph.undescribed names index top = topLevelName graph names index top := by
  have hname : names.topLevelName? graph.undescribed index = names.topLevelName? graph index := by
    simp only [TypeNames.topLevelName?, topLevelKey_undescribed]
    rfl
  rw [topLevelName, topLevelName, hname, TypeGraph.kind_undescribed, Kind.name_undescribed]

/-- All aliases without descriptions, or the same error. An alias has the description of its type
as documentation, and no other text. -/
theorem aliasAll_undescribed (seen : List NameId) (index : Nat) (topLevels : List TopLevel) :
    aliasAll graph.undescribed names written seen index topLevels =
      (aliasAll graph names written seen index topLevels).map
        (List.map Declaration.undocumented) := by
  induction topLevels generalizing seen index with
  | nil => rfl
  | cons top rest ih =>
    rw [aliasAll, aliasAll]
    split
    · exact ih seen (index + 1)
    · rw [topLevelName_undescribed, map_bind]
      -- The name is looked up in both, so what follows may be compared for one name.
      refine bind_congr fun name => ?_
      split
      · exact ih seen (index + 1)
      · rw [translate_undescribed, ih, TypeGraph.description?_undescribed, map_bind]
        simp only [map_bind, bind_map]
        rfl

/-- The same types are converted. None of the three choices of types looks at a description. -/
theorem targetsOf_undescribed (settings : Settings) (order : List TypeId) :
    targetsOf settings graph.undescribed names order = targetsOf settings graph names order := by
  have hdistinct : distinctTargets graph.undescribed = distinctTargets graph := by
    funext seen pairs
    induction pairs generalizing seen with
    | nil => rfl
    | cons pair rest ih =>
      simp only [distinctTargets, TypeGraph.kind_undescribed, Kind.isEnum_undescribed, ih]
  -- Entry points are looked at one after the other, with their index.
  have htops : ∀ index tops, topLevelTargets graph.undescribed names index tops =
      topLevelTargets graph names index tops := by
    intro index tops
    induction tops generalizing index with
    | nil => rfl
    | cons top rest ih => simp only [topLevelTargets, topLevelName_undescribed, ih]
  have hclasses : classTargets graph.undescribed names order = classTargets graph names order := by
    simp only [classTargets, TypeGraph.kind_undescribed, Kind.isClass_undescribed]
  rw [targetsOf, targetsOf, hdistinct, htops, hclasses]
  rfl

end

/-! ### Outlines and files -/

/-- An outline without documentation. The types to convert have none. -/
def undocumented (outline : Outline) : Outline where
  declarations := outline.declarations.map Declaration.undocumented
  aliases := outline.aliases.map Declaration.undocumented
  targets := outline.targets

/-- The outline of a graph without descriptions, or the same error. -/
theorem ofGraph_undescribed (profile : Profile) (graph : TypeGraph) (names : TypeNames) :
    ofGraph profile graph.undescribed names =
      (ofGraph profile graph names).map undocumented := by
  unfold ofGraph
  dsimp only
  rw [TypeGraph.declarationOrder_undescribed, declareAll_undescribed, bind_map, map_bind]
  refine bind_congr fun declarations => ?_
  -- Aliases are made for types that are not declared. Which these are does not hang on
  -- documentation.
  have htypes : (declarations.map Declaration.undocumented).map Declaration.type =
      declarations.map Declaration.type := by
    rw [List.map_map]
    rfl
  rw [htypes, aliasAll_undescribed, targetsOf_undescribed]
  simp only [map_bind, bind_map]
  rfl

variable (vocabulary : Vocabulary) (names : TypeNames)

/-- A declaration without documentation, written out. Writing looks up identifiers, which fails
with or without documentation alike. -/
theorem source_undocumented (declaration : Declaration) :
    declaration.undocumented.source vocabulary names =
      (declaration.source vocabulary names).map Source.Declaration.undocumented := by
  unfold Declaration.source
  rw [map_bind]
  -- The identifier is looked up first in both.
  refine bind_congr fun name => ?_
  obtain ⟨type, handle, doc, content⟩ := declaration
  cases content with
  | model properties =>
    have hproperties : (properties.map Property.undocumented).mapM
          (Property.source vocabulary names) =
        properties.mapM fun property =>
          (property.source vocabulary names).map Source.ModelProperty.undocumented := by
      refine mapM_eq_of_forall₂ ?_
      rw [List.forall₂_map_left_iff, List.forall₂_same]
      intro property _
      rw [Property.source, Property.source, map_map]
      rfl
    simp only [Declaration.undocumented, Body.undocumented]
    rw [hproperties, mapM_map_result, bind_map, map_bind]
    rfl
  | enumeration members => rfl
  | constant expr =>
    simp only [Declaration.undocumented, Body.undocumented]
    rw [map_bind]
    rfl

/-- The file of an outline without documentation. Imports, the header and the methods are the
same, since they are made from the types to convert. -/
theorem file_undocumented (profile : Profile) (outline : Outline) :
    outline.undocumented.file profile names =
      (outline.file profile names).map Source.File.undocumented := by
  have hsources : ∀ declarations : List Declaration,
      (declarations.map Declaration.undocumented).mapM
          (Declaration.source profile.vocabulary names) =
        (declarations.mapM (Declaration.source profile.vocabulary names)).map
          (List.map Source.Declaration.undocumented) := by
    intro declarations
    rw [← mapM_map_result]
    refine mapM_eq_of_forall₂ ?_
    rw [List.forall₂_map_left_iff, List.forall₂_same]
    exact fun declaration _ => source_undocumented profile.vocabulary names declaration
  -- Documentation is taken out before fragments are made, or from the fragments.
  have hfragments : ∀ declarations : List Source.Declaration,
      (declarations.map Source.Declaration.undocumented).map Source.Declaration.fragments =
        (declarations.map Source.Declaration.fragments).map undocumentedAll := by
    intro declarations
    simp only [List.map_map]
    exact List.map_congr_left fun declaration _ => declaration.fragments_undocumented
  unfold file
  dsimp only [undocumented]
  rw [hsources, hsources, bind_map, map_bind]
  refine bind_congr fun declared => ?_
  rw [bind_map, map_bind]
  refine bind_congr fun aliased => ?_
  rw [map_bind]
  refine bind_congr fun clients => ?_
  rw [← List.map_append]
  split
  · rw [hfragments]
    rfl
  · -- The class of methods comes last and has no documentation.
    have hitems : ∀ methods : List Source.Method,
        (declared ++ aliased).map Source.Declaration.undocumented ++
            [Source.Declaration.converter methods] =
          (declared ++ aliased ++ [Source.Declaration.converter methods]).map
            Source.Declaration.undocumented := by
      intro methods
      simp [Source.Declaration.undocumented]
    rw [hitems, hfragments]
    rfl

end Outline

/-! ### The whole file -/

/-- The file of a graph without descriptions is that of the graph without documentation, or there
is the same error for both. -/
theorem generateFile_undescribed (profile : Profile) (graph : TypeGraph) :
    generateFile profile graph.undescribed =
      (generateFile profile graph).map Source.File.undocumented := by
  unfold generateFile
  rw [assign_undescribed, map_bind]
  refine bind_congr fun names => ?_
  rw [Outline.ofGraph_undescribed, bind_map, map_bind]
  exact bind_congr fun outline => Outline.file_undocumented names profile outline

/-- Graphs that differ in descriptions only have files with the same fragments of code, or none of
them has a file. Both are compared with the graph without descriptions, which they share. -/
theorem map_undocumented_eq {graph graph' : TypeGraph} (profile : Profile)
    (h : graph.SameButDescriptions graph') :
    (generateFile profile graph).map Source.File.undocumented =
      (generateFile profile graph').map Source.File.undocumented := by
  rw [← generateFile_undescribed, ← generateFile_undescribed, h.undescribed_eq]

/-- A graph has a text exactly if it has a file. Rendering does not fail. -/
theorem exists_generate_iff {profile : Profile} {graph : TypeGraph} :
    (∃ text, generate profile graph = .ok text) ↔
      ∃ file, generateFile profile graph = .ok file := by
  unfold generate
  cases generateFile profile graph <;> simp [Except.map]

/-- Descriptions stay in comments. What is written for a documentation comment, with any lines and
at any level of indentation, has a slash after a star in one place only, right before the line feed
at its end. Two graphs that differ only in the descriptions of types and of properties both have a
text or neither has, and the fragments of their files, which the texts are written from, are the
same once documentation is taken out. -/
theorem descriptions_stay_in_comments :
    (∀ (buffer : Buffer) (lines : List String), ∃ appended : String,
      (buffer.docBlock lines).text = buffer.text ++ appended ∧ ClosesOnce appended.toList) ∧
    ∀ (profile : Profile) (graph graph' : TypeGraph), graph.SameButDescriptions graph' →
      ((∃ text, generate profile graph = .ok text) ↔ ∃ text, generate profile graph' = .ok text) ∧
      ∀ file file', generateFile profile graph = .ok file →
        generateFile profile graph' = .ok file' →
        generate profile graph = .ok (Layout.render .standard file.fragments) ∧
        generate profile graph' = .ok (Layout.render .standard file'.fragments) ∧
        undocumentedAll file.fragments = undocumentedAll file'.fragments := by
  refine ⟨Buffer.docBlock_closesOnce, ?_⟩
  intro profile graph graph' hsame
  -- The files agree up to comments as results, errors included. So one exists if the other does.
  have hfiles := map_undocumented_eq profile hsame
  refine ⟨?_, ?_⟩
  · rw [exists_generate_iff, exists_generate_iff]
    constructor
    · rintro ⟨file, hfile⟩
      rw [hfile] at hfiles
      obtain ⟨file', hfile', -⟩ := map_eq_ok_iff.1 hfiles.symm
      exact ⟨file', hfile'⟩
    · rintro ⟨file', hfile'⟩
      rw [hfile'] at hfiles
      obtain ⟨file, hfile, -⟩ := map_eq_ok_iff.1 hfiles
      exact ⟨file, hfile⟩
  · intro file file' hfile hfile'
    rw [hfile, hfile'] at hfiles
    have hundocumented : file.undocumented = file'.undocumented := Except.ok.inj hfiles
    refine ⟨?_, ?_, ?_⟩
    · rw [generate, hfile]
      rfl
    · rw [generate, hfile']
      rfl
    · rw [← Source.File.fragments_undocumented, ← Source.File.fragments_undocumented,
        hundocumented]

/-- A class with a text, without descriptions. It is well formed by evaluation, and so is each
`note`, which is the same graph with descriptions. -/
def plainNote : TypeGraph where
  nodes :=
    [{ kind := .primitive .string },
      { kind := .object ⟨[("text", { type := 0 })], by simp⟩, names := ["Note"] }]
  topLevels := [{ name := "Note", type := 1 }]
  wellFormed := by decide +kernel

/-- A class with a text, described by the given texts. -/
def note (about aboutText : Option String) : TypeGraph where
  nodes :=
    [{ kind := .primitive .string },
      { kind := .object ⟨[("text", { type := 0, description := aboutText })], by simp⟩
        names := ["Note"], description := about }]
  topLevels := [{ name := "Note", type := 1 }]
  wellFormed := .of_undescribed plainNote.wellFormed

/-- A note has a file with the same code whether it is described or not, though the descriptions
would end a comment. -/
theorem generate_described_note :
    ∃ file file', generateFile (.ofSettings {}) (note none none) = .ok file ∧
      generateFile (.ofSettings {}) (note (some "**//\n*/ export") (some "*/")) = .ok file' ∧
      (note none none).SameButDescriptions (note (some "**//\n*/ export") (some "*/")) ∧
      undocumentedAll file.fragments = undocumentedAll file'.fragments := by
  have hnames : ∀ about aboutText id, ¬ Naming.Nameless (note about aboutText) id :=
    fun _ _ => Naming.not_nameless (by simp [note, Kind.isClass, Kind.isEnum])
  obtain ⟨file, hfile⟩ := exists_generate_iff.1
    (exists_generate (.ofSettings {}) (hnames none none))
  obtain ⟨file', hfile'⟩ := exists_generate_iff.1
    (exists_generate (.ofSettings {}) (hnames (some "**//\n*/ export") (some "*/")))
  have hsame : (note none none).SameButDescriptions (note (some "**//\n*/ export") (some "*/")) :=
    ⟨rfl, rfl⟩
  obtain ⟨-, hfragments⟩ := descriptions_stay_in_comments.2 (.ofSettings {}) _ _ hsame
  exact ⟨file, file', hfile, hfile', hsame, (hfragments file file' hfile hfile').2.2⟩

end StateTree
