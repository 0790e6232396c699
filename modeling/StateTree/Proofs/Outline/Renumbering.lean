import StateTree.Proofs.Naming.Renumbering
import StateTree.Proofs.Outline.Verdict

/-!
# `StateTree.Proofs.Outline.Renumbering`: files of graphs whose nodes are numbered differently

A file is generated from two graphs that differ in the order of their nodes, side by side. At each
stage what is made from the one corresponds to what is made from the other: handles to handles with
the same identifier, expressions to expressions with the same text, declarations to declarations of
types with corresponding numbers. Written out, what corresponds is the same.

- `Expr.SameText`, `Outline.SameDeclaration`, `Outline.SameTarget`: what corresponds.
- `simulates_translate`, `simulates_declareAll`, `simulates_aliasAll`, `simulates_targetsOf`,
  `simulates_ofGraph`: the stages side by side.
- `file_eq`: outlines that correspond have one file.
- `generate_renumbered`: the text of a file does not depend on the order of the nodes.
-/

set_option autoImplicit false

namespace StateTree

open StateTree.Expr (Part Vocabulary translate unionExpression word distinctMembers writtenName?)
open StateTree.Fallible
open StateTree.Graph
open StateTree.Naming (Agree NameId SameName TypeNames)

/-! ### Expressions with the same text -/

namespace Expr

/-- Two pieces have the same text, each with the names of its own graph. Handles may differ, as
they count the requests of their graph. -/
def SamePart (names names' : TypeNames) (part part' : Part) : Prop :=
  part.render names.names = part'.render names'.names

/-- Two expressions are written alike, apart from the handles of the names in them. They have
pieces of the same texts in the same order, so one cannot be rendered without the other. -/
def SameText (vocabulary : Vocabulary) (names names' : TypeNames) (expr expr' : Expr) : Prop :=
  List.Forall₂ (SamePart names names') (word vocabulary expr).parts (word vocabulary expr').parts

variable {vocabulary : Vocabulary} {names names' : TypeNames}

/-- A text is written as it is. The names of the graph have nothing to do with it. -/
theorem samePart_text (s : String) : SamePart names names' (.text s) (.text s) :=
  rfl

/-- A handle is written as the identifier of its name. Handles are numbers of requests, which
depend on the order of the nodes; identifiers do not, by `Agree`. -/
theorem samePart_name {name name' : NameId} (h : SameName names names' name name') :
    SamePart names names' (.name name) (.name name') := by
  obtain ⟨identifier, hname, hname'⟩ := h
  exact hname.trans hname'.symm

/-- A scalar is written the same way. Neither a handle nor the number of a type is in it. -/
theorem sameText_scalar (type : Scalar) :
    SameText vocabulary names names' (.scalar type) (.scalar type) :=
  .cons (samePart_text _) .nil

/-- Lists of items that are written alike. With `sameText_union` it carries the induction of
`simulates_translate` through types that are written inside others. -/
theorem SameText.array {items items' : Expr} (h : SameText vocabulary names names' items items') :
    SameText vocabulary names names' (.array items) (.array items') := by
  rw [SameText, word, word, nested_word, nested_word]
  exact .cons (samePart_text _) (List.rel_append h (.cons (samePart_text _) .nil))

/-- Unions of members that are written alike. The members have to be the same ones in the same
order, which is shown where members are left out: in `distinctMembers_rename`. -/
theorem sameText_union {members members' : List Expr}
    (h : List.Forall₂ (SameText vocabulary names names') members members') :
    SameText vocabulary names names' (.union members) (.union members') := by
  have hseparated : List.Forall₂ (SamePart names names') (separated (words vocabulary members))
      (separated (words vocabulary members')) := by
    -- On the members: separators stand between them only.
    induction h with
    | nil => exact .nil
    | @cons expr expr' others others' hexpr hothers ih =>
      rw [words, words, nested_word, nested_word]
      -- A comma stands after the first member if there are others.
      cases hothers with
      | nil => exact hexpr
      | cons hnext hrest => exact List.rel_append hexpr (.cons (samePart_text _) ih)
  rw [SameText, word, word]
  exact .cons (samePart_text _) (List.rel_append hseparated (.cons (samePart_text _) .nil))

variable {name name' : NameId} (h : SameName names names' name name')

include h

/-- Enums with the same identifier. It is written three times. -/
theorem sameText_enumeration :
    SameText vocabulary names names' (.enumeration name) (.enumeration name') :=
  .cons (samePart_text _) (.cons (samePart_name h) (.cons (samePart_text _)
    (.cons (samePart_name h) (.cons (samePart_text _) (.cons (samePart_name h)
      (.cons (samePart_text _) .nil))))))

/-- References to one identifier. Whether a reference is direct or late is told in
`simulates_translate`, where the types written before are known. -/
theorem sameText_reference :
    SameText vocabulary names names' (.reference name) (.reference name') :=
  .cons (samePart_name h) .nil

/-- Late references to one identifier. The reference is inside a function, but its text is the
same. -/
theorem sameText_late : SameText vocabulary names names' (.late name) (.late name') :=
  .cons (samePart_text _) (.cons (samePart_name h) (.cons (samePart_text _) .nil))

end Expr

open StateTree.Expr (SameText)

/-! ### Two graphs side by side -/

section

variable {σ : Equiv.Perm TypeId} {graph graph' : TypeGraph} {names names' : TypeNames}
  (hgraph : graph.Renumbers σ graph') (hnames : Agree σ names names') (vocabulary : Vocabulary)

include hnames in
/-- The name of a type that cannot do without. Its kind is told only in the error, and a
simulation is about what succeeds. -/
theorem simulates_nameOf (id : TypeId) (kind kind' : Kind) :
    Simulates (SameName names names') (Expr.nameOf names id kind)
      (Expr.nameOf names' (σ id) kind') := by
  intro name hname
  have hsame := hnames.typeName? id
  rw [Expr.nameOf_eq_ok_iff.1 hname] at hsame
  obtain ⟨name', hname', hsame⟩ := exists_of_rel_some hsame
  exact ⟨name', Expr.nameOf_eq_ok_iff.2 hname', hsame⟩

include hnames in
/-- The name of a union whose declaration has been written. Numbers of types go to distinct
numbers, so a type is among those written before under both numbers or under neither. -/
theorem rel_writtenName? (written : List TypeId) (id : TypeId) :
    Option.Rel (SameName names names') (writtenName? names written id)
      (writtenName? names' (written.map σ) (σ id)) := by
  simp only [writtenName?, List.mem_map_of_injective σ.injective]
  split
  · exact hnames.typeName? id
  · exact .none

include hgraph

/-- The same members of a union are left out. Members are left out by what they are, not by their
numbers. -/
theorem distinctMembers_rename (seen : List Primitive) (members : List TypeId) :
    distinctMembers graph'.kind seen (members.map σ) =
      (distinctMembers graph.kind seen members).map σ := by
  induction members generalizing seen with
  | nil => rfl
  | cons member rest ih =>
    rw [List.map_cons, distinctMembers, distinctMembers, hgraph.kind_eq, Kind.primitive?_rename]
    -- The primitive types that were seen are no types of the graph and stay as they are.
    cases (graph.kind member).primitive? with
    | none => rw [List.map_cons, ih]
    | some type =>
      dsimp only
      split
      · exact ih seen
      · rw [List.map_cons, ih]

/-- The expression of a union written out, given those of its members. Both the types written
inside others and the declarations of unions come down to this. -/
theorem simulates_unionExpression {written : List TypeId} {id : TypeId} {members : List TypeId}
    (hkind : graph.kind id = .union members)
    (hmembers : ∀ member ∈ members, Simulates (SameText vocabulary names names')
      (translate graph names written member)
      (translate graph' names' (written.map σ) (σ member))) :
    Simulates (SameText vocabulary names names') (unionExpression graph names written id)
      (unionExpression graph' names' (written.map σ) (σ id)) := by
  rw [Expr.unionExpression_union hkind, Expr.unionExpression_union (hgraph.kind_of_eq hkind),
    distinctMembers_rename hgraph]
  refine (simulates_mapM ?_).map fun _ _ => Expr.sameText_union
  rw [List.forall₂_map_right_iff, List.forall₂_same]
  exact fun member hmember => hmembers member (Expr.mem_of_mem_distinctMembers hmember)

include hnames

/-- The expression of a type. Where the first graph has one, so has the second, with the same
text. -/
theorem simulates_translate (written : List TypeId) (id : TypeId) :
    Simulates (SameText vocabulary names names') (translate graph names written id)
      (translate graph' names' (written.map σ) (σ id)) := by
  -- Along what is written inside what, case by case as translation goes.
  induction id using graph.inside_wellFounded.induction with
  | _ id ih =>
    cases hkind : graph.kind id with
    | primitive type =>
      rw [Expr.translate_primitive hkind, Expr.translate_primitive (hgraph.kind_of_eq hkind)]
      exact simulates_ok (Expr.sameText_scalar _)
    | map values =>
      rw [Expr.translate_map hkind, Expr.translate_map (hgraph.kind_of_eq hkind)]
      exact simulates_ok (Expr.sameText_scalar _)
    | array items =>
      rw [Expr.translate_array hkind, Expr.translate_array (hgraph.kind_of_eq hkind)]
      exact (ih items (Expr.inside_of_mem hkind (List.mem_singleton_self items))).map
        fun _ _ => Expr.SameText.array
    | object properties =>
      rw [Expr.translate_object hkind, Expr.translate_object (hgraph.kind_of_eq hkind)]
      refine (simulates_nameOf hnames id _ _).map ?_
      intro name name' hname
      -- A reference is late if the class has not been declared yet, which is so in both.
      simp only [List.mem_map_of_injective σ.injective]
      split
      · exact Expr.sameText_reference hname
      · exact Expr.sameText_late hname
    | enumeration cases =>
      rw [Expr.translate_enumeration hkind, Expr.translate_enumeration (hgraph.kind_of_eq hkind)]
      exact (simulates_nameOf hnames id _ _).map fun _ _ => Expr.sameText_enumeration
    | union members =>
      rw [Expr.translate_union hkind, Expr.translate_union (hgraph.kind_of_eq hkind)]
      have hwritten := rel_writtenName? hnames written id
      -- Its declaration has been written under both numbers or under neither.
      cases hname : writtenName? names written id with
      | some name =>
        rw [hname] at hwritten
        obtain ⟨name', hname', hsame⟩ := exists_of_rel_some hwritten
        rw [hname']
        exact simulates_ok (Expr.sameText_reference hsame)
      | none =>
        rw [hname] at hwritten
        rw [eq_none_of_rel_none hwritten]
        exact simulates_unionExpression hgraph vocabulary hkind fun member hmember =>
          ih member (Expr.inside_of_mem hkind hmember)

end

/-! ### Declarations -/

namespace Outline

/-- Two properties are written alike. Their keys are even the same, since keys come from names in
the source. -/
structure SameProperty (vocabulary : Vocabulary) (names names' : TypeNames)
    (property property' : Property) : Prop where
  key : property.key = property'.key
  text : SameText vocabulary names names' property.expr property'.expr
  optional : property.optional = property'.optional
  doc : property.doc = property'.doc

/-- Two bodies are written alike. They are of one sort, as the shapes that they come from are; the
texts in them are the same, and the expressions are rendered the same. -/
inductive SameBody (vocabulary : Vocabulary) (names names' : TypeNames) : Body → Body → Prop
  | model {properties properties' : List Property}
    (h : List.Forall₂ (SameProperty vocabulary names names') properties properties') :
    SameBody vocabulary names names' (.model properties) (.model properties')
  | enumeration (members : List (String × String)) :
    SameBody vocabulary names names' (.enumeration members) (.enumeration members)
  | constant {expr expr' : Expr} (h : SameText vocabulary names names' expr expr') :
    SameBody vocabulary names names' (.constant expr) (.constant expr')

/-- Two declarations are written alike, and are for types with corresponding numbers. -/
structure SameDeclaration (vocabulary : Vocabulary) (σ : TypeId → TypeId)
    (names names' : TypeNames) (made made' : Declaration) : Prop where
  type : made'.type = σ made.type
  name : SameName names names' made.name made'.name
  doc : made.doc = made'.doc
  body : SameBody vocabulary names names' made.body made'.body

/-- Two names are the same and stand with types with corresponding numbers. Types to convert are
first put together as such pairs. -/
def SamePair (σ : TypeId → TypeId) (names names' : TypeNames) (pair pair' : NameId × TypeId) :
    Prop :=
  SameName names names' pair.1 pair'.1 ∧ pair'.2 = σ pair.2

/-- Two types are converted by the same methods. These depend on the identifier of the type and on
whether it is an enum. -/
structure SameTarget (names names' : TypeNames) (target target' : Target) : Prop where
  name : SameName names names' target.name target'.name
  isEnum : target.isEnum = target'.isEnum

variable {profile : Profile} {σ : Equiv.Perm TypeId} {graph graph' : TypeGraph}
  {names names' : TypeNames}

section

variable (hgraph : graph.Renumbers σ graph') (hnames : Agree σ names names')

include hgraph hnames

/-- The body of the declaration of a type. Only classes, enums and unions have one; for the other
shapes there is nothing to show, since there is no body to start from. -/
theorem simulates_body (written : List TypeId) (id : TypeId) :
    Simulates (SameBody profile.vocabulary names names') (body profile graph names written id)
      (body profile graph' names' (written.map σ) (σ id)) := by
  unfold body
  rw [hgraph.kind_eq]
  cases hkind : graph.kind id with
  | primitive type => exact simulates_error _ _
  | map values => exact simulates_error _ _
  | array items => exact simulates_error _ _
  | object properties =>
    refine (simulates_mapM ?_).map fun _ _ => SameBody.model
    -- The keys come from the names of the properties, which stay.
    rw [Keyed.values_map, Keyed.names_map, List.zip_map_left, List.forall₂_map_right_iff,
      List.forall₂_same]
    rintro ⟨source, key⟩ -
    exact (simulates_translate hgraph hnames profile.vocabulary written source.type).map
      fun _ _ htext => ⟨rfl, htext, rfl, rfl⟩
  | enumeration cases => exact simulates_ok (.enumeration _)
  | union members =>
    refine (simulates_unionExpression hgraph profile.vocabulary hkind ?_).map
      fun _ _ => SameBody.constant
    exact fun member _ => simulates_translate hgraph hnames profile.vocabulary written member

/-- The declaration of a type. Its name, its body and its documentation have been shown to
correspond, each by itself. -/
theorem simulates_declaration (written : List TypeId) (id : TypeId) :
    Simulates (SameDeclaration profile.vocabulary σ names names')
      (declaration profile graph names written id)
      (declaration profile graph' names' (written.map σ) (σ id)) := by
  refine (simulates_nameOf hnames id _ _).bind fun name name' hname => ?_
  refine (simulates_body hgraph hnames written id).bind fun content content' hbody => ?_
  exact simulates_ok ⟨rfl, hname, (hgraph.description?_eq id).symm, hbody⟩

/-- A union stays without a declaration under both numbers or under neither. So the same
declarations are left out, and those that are left correspond one by one. -/
theorem isAnonymousUnion_rename (id : TypeId) :
    isAnonymousUnion graph' names' (σ id) = isAnonymousUnion graph names id := by
  have hname := hnames.typeName? id
  rw [isAnonymousUnion, isAnonymousUnion, hgraph.kind_eq, Kind.isUnion_rename]
  generalize names.typeName? id = name at hname
  generalize names'.typeName? (σ id) = name' at hname
  cases hname <;> rfl

/-- All declarations. The second graph's are made in the order of the first graph's, under the new
numbers; that the order is this one is shown in `TypeGraph.Renumbers.declarationOrder_eq`. -/
theorem simulates_declareAll (written order : List TypeId) :
    Simulates (List.Forall₂ (SameDeclaration profile.vocabulary σ names names'))
      (declareAll profile graph names written order)
      (declareAll profile graph' names' (written.map σ) (order.map σ)) := by
  -- On the order. What has been written grows with every declaration, in both graphs by the same
  -- types.
  induction order generalizing written with
  | nil => exact simulates_ok .nil
  | cons id rest ih =>
    rw [List.map_cons, declareAll, declareAll, isAnonymousUnion_rename hgraph hnames]
    split
    · exact ih written
    · refine (simulates_declaration hgraph hnames written id).bind fun first first' hfirst => ?_
      refine (ih (id :: written)).bind fun others others' hothers => ?_
      exact simulates_ok (.cons hfirst hothers)

/-- The name of an entry point. Entry points are in the same order in both graphs, so they are
asked for by the same index. -/
theorem simulates_topLevelName (index : Nat) (top : TopLevel) :
    Simulates (SameName names names') (topLevelName graph names index top)
      (topLevelName graph' names' index (top.rename σ)) := by
  intro name hname
  have hrel := hnames.topLevelName? hgraph index
  rw [topLevelName_eq_ok_iff.1 hname] at hrel
  obtain ⟨name', hname', hsame⟩ := exists_of_rel_some hrel
  exact ⟨name', topLevelName_eq_ok_iff.2 hname', hsame⟩

/-- All aliases. An entry point gets none if its type has been declared or its name has come
before, and both are so in the second graph if they are in the first. -/
theorem simulates_aliasAll (vocabulary : Vocabulary) (written : List TypeId)
    {seen seen' : List NameId} (hseen : List.Forall₂ (SameName names names') seen seen')
    (index : Nat) (tops : List TopLevel) :
    Simulates (List.Forall₂ (SameDeclaration vocabulary σ names names'))
      (aliasAll graph names written seen index tops)
      (aliasAll graph' names' (written.map σ) seen' index (tops.map (TopLevel.rename σ))) := by
  -- On the entry points. The index counts those that get no alias, too.
  induction tops generalizing seen seen' index with
  | nil => exact simulates_ok .nil
  | cons top rest ih =>
    have hwritten : (top.rename σ).type ∈ written.map σ ↔ top.type ∈ written :=
      List.mem_map_of_injective σ.injective
    simp only [List.map_cons, aliasAll, hwritten]
    split
    · exact ih hseen (index + 1)
    · refine (simulates_topLevelName hgraph hnames index top).bind fun name name' hname => ?_
      -- Handles correspond one to one, so the name came before in both or in neither.
      have hmem : name ∈ seen ↔ name' ∈ seen' := List.rel_mem hnames.biUnique hname hseen
      simp only [← hmem]
      split
      · exact ih hseen (index + 1)
      · have htype := simulates_translate hgraph hnames vocabulary written top.type
        refine htype.bind fun expr expr' hexpr => ?_
        refine (ih (.cons hname hseen) (index + 1)).bind fun others others' hothers => ?_
        refine simulates_ok (.cons ⟨rfl, hname, ?_, .constant hexpr⟩ hothers)
        exact (hgraph.description?_eq top.type).symm

/-! ### Types to convert -/

/-- The names of entry points with their types, before those with a name that came before are left
out. -/
theorem simulates_topLevelTargets (index : Nat) (tops : List TopLevel) :
    Simulates (List.Forall₂ (SamePair σ names names'))
      (topLevelTargets graph names index tops)
      (topLevelTargets graph' names' index (tops.map (TopLevel.rename σ))) := by
  induction tops generalizing index with
  | nil => exact simulates_ok .nil
  | cons top rest ih =>
    refine (simulates_topLevelName hgraph hnames index top).bind fun name name' hname => ?_
    refine (ih (index + 1)).bind fun others others' hothers => ?_
    exact simulates_ok (.cons ⟨hname, rfl⟩ hothers)

/-- The names of classes with the classes, in the order of the declarations. A class without a
name is left out; here both or neither have one. -/
theorem classTargets_rename (order : List TypeId) :
    List.Forall₂ (SamePair σ names names')
      (classTargets graph names order) (classTargets graph' names' (order.map σ)) := by
  induction order with
  | nil => exact .nil
  | cons id rest ih =>
    have hname := hnames.typeName? id
    simp only [classTargets, List.map_cons, List.filter_cons, hgraph.kind_eq,
      Kind.isClass_rename] at ih ⊢
    split
    · rw [List.filterMap_cons, List.filterMap_cons]
      -- Either both classes have a name or neither has one.
      generalize names.typeName? id = name at hname
      generalize names'.typeName? (σ id) = name' at hname
      cases hname with
      | none => exact ih
      | some hsame => exact .cons ⟨hsame, rfl⟩ ih
    · exact ih

/-- The same types are left out because their names came before. For this names have to correspond
one to one: two names of one graph are the same exactly if those of the other are. -/
theorem distinctTargets_rename {seen seen' : List NameId}
    (hseen : List.Forall₂ (SameName names names') seen seen')
    {pairs pairs' : List (NameId × TypeId)}
    (h : List.Forall₂ (SamePair σ names names') pairs pairs') :
    List.Forall₂ (SameTarget names names') (distinctTargets graph seen pairs)
      (distinctTargets graph' seen' pairs') := by
  induction h generalizing seen seen' with
  | nil => exact .nil
  | @cons pair pair' rest rest' hpair _ ih =>
    obtain ⟨name, id⟩ := pair
    obtain ⟨name', _⟩ := pair'
    obtain ⟨hname, rfl⟩ := hpair
    -- Names correspond one to one, so a name was seen exactly if the other was.
    have hmem : name ∈ seen ↔ name' ∈ seen' := List.rel_mem hnames.biUnique hname hseen
    simp only [distinctTargets, ← hmem]
    split
    · exact ih hseen
    · refine .cons ⟨hname, ?_⟩ (ih (.cons hname hseen))
      rw [hgraph.kind_eq, Kind.isEnum_rename]

/-- The types to convert, for each of the three choices that the settings give. -/
theorem simulates_targetsOf (settings : Settings) (order : List TypeId) :
    Simulates (List.Forall₂ (SameTarget names names')) (targetsOf settings graph names order)
      (targetsOf settings graph' names' (order.map σ)) := by
  unfold targetsOf
  -- Nothing, entry points, or classes.
  split
  · exact simulates_ok .nil
  · split
    · rw [hgraph.topLevels]
      exact (simulates_topLevelTargets hgraph hnames 0 graph.topLevels).map fun _ _ =>
        distinctTargets_rename hgraph hnames .nil
    · exact simulates_ok (distinctTargets_rename hgraph hnames .nil
        (classTargets_rename hgraph hnames order))

end

/-! ### Outlines and files -/

/-- Two outlines are written alike: declarations, aliases and types to convert correspond one by
one. -/
structure SameOutline (vocabulary : Vocabulary) (σ : TypeId → TypeId) (names names' : TypeNames)
    (outline outline' : Outline) : Prop where
  declarations : List.Forall₂ (SameDeclaration vocabulary σ names names') outline.declarations
    outline'.declarations
  aliases : List.Forall₂ (SameDeclaration vocabulary σ names names') outline.aliases
    outline'.aliases
  targets : List.Forall₂ (SameTarget names names') outline.targets outline'.targets

/-- The outline of a graph's file. The hypothesis on the order of declarations is the only place
where it matters that all types to declare can be reached. -/
theorem simulates_ofGraph (hgraph : graph.Renumbers σ graph') (hnames : Agree σ names names')
    (horder : graph'.declarationOrder profile.settings.declareUnions =
      (graph.declarationOrder profile.settings.declareUnions).map σ) :
    Simulates (SameOutline profile.vocabulary σ names names') (ofGraph profile graph names)
      (ofGraph profile graph' names') := by
  unfold ofGraph
  rw [horder, hgraph.topLevels]
  refine (simulates_declareAll hgraph hnames [] _).bind fun made made' hmade => ?_
  -- The types whose declarations have been written when the aliases are made.
  have htypes : made'.map Declaration.type = (made.map Declaration.type).map σ := by
    rw [← List.forall₂_eq_eq_eq, List.map_map, List.forall₂_map_left_iff,
      List.forall₂_map_right_iff]
    exact hmade.flip.imp fun _ _ => SameDeclaration.type
  rw [htypes]
  have haliasAll := simulates_aliasAll hgraph hnames profile.vocabulary
    (made.map Declaration.type) .nil 0 graph.topLevels
  refine haliasAll.bind fun aliases aliases' haliases => ?_
  refine (simulates_targetsOf hgraph hnames _ _).bind fun targets targets' htargets => ?_
  exact simulates_ok ⟨hmade, haliases, htargets⟩

variable {vocabulary : Vocabulary}

/-- Expressions that are written alike have one text, or fail with one error. -/
theorem exprText_eq {expr expr' : Expr} (h : SameText vocabulary names names' expr expr') :
    exprText vocabulary names expr = exprText vocabulary names' expr' := by
  rw [exprText, exprText, Expr.Word.render, Expr.Word.render, mapM_eq_of_forall₂ h]

/-- Declarations that are written alike are written as the same. Nothing that is left after this
has numbers of types or handles in it. -/
theorem source_eq {made made' : Declaration}
    (h : SameDeclaration vocabulary σ names names' made made') :
    made.source vocabulary names = made'.source vocabulary names' := by
  obtain ⟨identifier, hname, hname'⟩ := h.name
  have hbody := h.body
  unfold Declaration.source
  rw [hname, hname', h.doc]
  generalize made.body = content at hbody ⊢
  generalize made'.body = content' at hbody ⊢
  -- The sort of body is one, so the two are written in one way.
  cases hbody with
  | @model properties properties' hproperties =>
    have hsources : List.Forall₂ (fun property property' =>
        Property.source vocabulary names property = Property.source vocabulary names' property')
        properties properties' := by
      refine hproperties.imp fun property property' hproperty => ?_
      rw [Property.source, Property.source, exprText_eq hproperty.text, hproperty.key,
        hproperty.optional, hproperty.doc]
    dsimp only
    rw [mapM_eq_of_forall₂ hsources]
  | enumeration members => rfl
  | constant hexpr =>
    dsimp only
    rw [exprText_eq hexpr]

/-- Outlines that are written alike have one file. From here on the two graphs cannot be told
apart. -/
theorem file_eq {outline outline' : Outline}
    (h : SameOutline profile.vocabulary σ names names' outline outline') :
    outline.file profile names = outline'.file profile names' := by
  -- An identifier and whether a type is an enum is all that its methods are made from.
  have hclients : List.Forall₂ (fun target target' =>
      Target.client names target = Target.client names' target') outline.targets
      outline'.targets := by
    refine h.targets.imp fun target target' htarget => ?_
    obtain ⟨identifier, hname, hname'⟩ := htarget.name
    rw [Target.client, Target.client, hname, hname', htarget.isEnum]
  unfold file
  rw [mapM_eq_of_forall₂ (h.declarations.imp fun _ _ => source_eq),
    mapM_eq_of_forall₂ (h.aliases.imp fun _ _ => source_eq), mapM_eq_of_forall₂ hclients]

end Outline

/-- The text of a file does not depend on the order of the nodes, if all classes, enums and unions
can be reached from entry points, and if the first styled proposals of all names differ and are
not reserved. In another order the nodes are still a graph, and they have a file with the same
text.

Types that cannot be reached are declared in the order of their numbers, and names that are asked
for twice go to the one that is asked for first. Either would show in the file; the two hypotheses
exclude it. -/
theorem generate_renumbered {profile : Profile} {graph : TypeGraph} {names : TypeNames}
    {text : String} (h : generate profile graph = .ok text)
    (hreached : ∀ id, (graph.kind id).isNamed →
      ∃ top ∈ graph.topLevels, Reaches graph.children top.type id)
    (hnames : TypeNames.assign graph profile.settings.declareUnions profile.settings.acronyms =
      .ok names)
    (huncontested : names.registry.Uncontested .typeName profile.settings.acronyms)
    {σ : Equiv.Perm TypeId} {nodes' : List Node} (hnodes : Renumbers σ graph.nodes nodes') :
    ∃ graph', TypeGraph.ofParts nodes' (graph.topLevels.map (TopLevel.rename σ)) = .ok graph' ∧
      generate profile graph' = .ok text := by
  obtain ⟨graph', hgraph', hgraph⟩ := TypeGraph.exists_renumbers hnodes
  obtain ⟨names', hnames', hagree⟩ := TypeNames.exists_agree hgraph hnames huncontested
  obtain ⟨names₀, outline, file, hnames₀, houtline, hfile, rfl⟩ := generate_eq_ok_iff.1 h
  obtain rfl := Except.ok.inj (hnames₀.symm.trans hnames)
  have horder : graph'.declarationOrder profile.settings.declareUnions =
      (graph.declarationOrder profile.settings.declareUnions).map σ :=
    hgraph.declarationOrder_eq fun id hid => hreached id (isNamed_of_isDeclarable hid)
  -- The stages of the second file succeed where those of the first do, with what corresponds.
  obtain ⟨outline', houtline', hsame⟩ :=
    Outline.simulates_ofGraph hgraph hagree horder outline houtline
  rw [Outline.file_eq hsame] at hfile
  refine ⟨graph', hgraph', ?_⟩
  exact generate_eq_ok_iff.2 ⟨names', outline', file, hnames', houtline', hfile, rfl⟩

/-- A class with two others that refer back to it. -/
def household : TypeGraph where
  nodes :=
    [{ kind := .primitive .string },
      { kind := .object ⟨[("name", { type := 0 }), ("pet", { type := 2 }), ("home", { type := 3 })],
          by simp⟩
        names := ["Person"] },
      { kind := .object ⟨[("owner", { type := 1 })], by simp⟩, names := ["Pet"] },
      { kind := .object ⟨[("tenant", { type := 1 })], by simp⟩, names := ["Home"] }]
  topLevels := [{ name := "Person", type := 1 }]
  wellFormed := by decide +kernel

/-- The nodes of `household` with the last two the other way round. References lead to the same
types as before, under their new numbers. -/
def movedHousehold : List Node :=
  [{ kind := .primitive .string },
    { kind := .object ⟨[("name", { type := 0 }), ("pet", { type := 3 }), ("home", { type := 2 })],
        by simp⟩
      names := ["Person"] },
    { kind := .object ⟨[("tenant", { type := 1 })], by simp⟩, names := ["Home"] },
    { kind := .object ⟨[("owner", { type := 1 })], by simp⟩, names := ["Pet"] }]

theorem renumbers_movedHousehold : Renumbers (Equiv.swap 2 3) household.nodes movedHousehold := by
  intro id
  match id with
  | 0 => rfl
  | 1 => rfl
  | 2 => rfl
  | 3 => rfl
  -- Past the end both have no node, and the permutation changes nothing there.
  | n + 4 =>
    have hne : ∀ k < 4, n + 4 ≠ k := fun k hk =>
      Nat.ne_of_gt (Nat.lt_of_lt_of_le hk (Nat.le_add_left 4 n))
    rw [Equiv.swap_apply_of_ne_of_ne (hne 2 (by decide)) (hne 3 (by decide))]
    rfl

/-- The names of `household`: one for each class, where the entry point has a say in that of the
first. -/
def householdNames : TypeNames :=
  let requests : Naming.Registry Naming.NameKey :=
    ⟨[⟨.type 1, ["Person"], 100⟩, ⟨.type 2, ["Pet"], 10⟩, ⟨.type 3, ["Home"], 10⟩]⟩
  ⟨requests, requests.assign .typeName .pascal⟩

/-- The file of `household` has the same text with the last two nodes the other way round. -/
theorem generate_movedHousehold :
    ∃ text moved, generate (.ofSettings {}) household = .ok text ∧
      TypeGraph.ofParts movedHousehold [{ name := "Person", type := 1 }] = .ok moved ∧
      generate (.ofSettings {}) moved = .ok text := by
  have hnameless : ∀ id, ¬ Naming.Nameless household id := Naming.not_nameless (by decide)
  obtain ⟨text, htext⟩ := exists_generate (.ofSettings {}) hnameless
  have hassign : TypeNames.assign household false .pascal = .ok householdNames := rfl
  have huncontested : householdNames.registry.Uncontested .typeName .pascal :=
    ⟨by decide, by decide⟩
  -- The entry point is the person, and from it the two classes are one step away.
  have hreached : ∀ id, (household.kind id).isNamed →
      ∃ top ∈ household.topLevels, Reaches household.children top.type id := by
    intro id hnamed
    refine ⟨{ name := "Person", type := 1 }, List.mem_singleton_self _, ?_⟩
    match id with
    | 0 => cases hnamed
    | 1 => exact .refl
    | 2 => exact .single (.tail _ (.head _))
    | 3 => exact .single (.tail _ (.tail _ (.head _)))
    | n + 4 => cases hnamed
  obtain ⟨moved, hmoved, htext'⟩ :=
    generate_renumbered htext hreached hassign huncontested renumbers_movedHousehold
  exact ⟨text, moved, htext, hmoved, htext'⟩

end StateTree
