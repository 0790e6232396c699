import StateTree.Proofs.Graph.FinishingOrder
import StateTree.Proofs.Outline.Stages

/-!
# `StateTree.Proofs.Outline.Range`: no look-up goes past the end of a graph

Where a file is generated from one graph, but every shape and every description is looked up in
another one that has more nodes at its end, the file is the same. So what stands past the end is
never asked for.

- `TypeGraph.Extends`: a graph with more nodes at its end.
- `generateOver`: the text of a graph's file with all look-ups made in another graph.
- `generateOver_eq`: where the other graph has more nodes at its end, the text is the same.
-/

set_option autoImplicit false

namespace StateTree

open StateTree.Expr (translate unionExpression)
open StateTree.Fallible
open StateTree.Graph
open StateTree.Naming (NameId NameKey Registry TypeNames internTopLevels internNodes topLevelKey)
open StateTree.Outline

/-- A graph has more nodes at its end, and the same entry points. A look-up past the end of the
smaller one would find something in the other, so what is the same for both makes no such look-up.
-/
structure Graph.TypeGraph.Extends (wide graph : TypeGraph) : Prop where
  nodes : graph.nodes <+: wide.nodes
  topLevels : wide.topLevels = graph.topLevels

/-- The names of a graph's file, where shapes are looked up in another graph. -/
def assignOver (wide graph : TypeGraph) (settings : Settings) : Except Naming.Error TypeNames :=
  (internNodes settings.declareUnions (internTopLevels wide.nodes {} 0 graph.topLevels) 0
    graph.nodes).map fun registry => ⟨registry, registry.assign .typeName settings.acronyms⟩

/-- The types that get a declaration, where shapes are looked up in another graph. -/
def orderOver (wide graph : TypeGraph) (declareUnions : Bool) : List TypeId :=
  (finishAll wide.children graph.ids []
    (graph.topLevels.map TopLevel.type ++ graph.ids)).reverse.filter fun id =>
      isDeclarable declareUnions (wide.kind id)

/-- The outline of a graph's file, where shapes and descriptions are looked up in another graph.
With the same graph twice it is the outline itself. -/
def outlineOver (wide : TypeGraph) (profile : Profile) (graph : TypeGraph) (names : TypeNames) :
    Except Naming.Error Outline := do
  let order := orderOver wide graph profile.settings.declareUnions
  let declarations ← declareAll profile wide names [] order
  let written := declarations.map Declaration.type
  let aliases ← aliasAll wide names written [] 0 graph.topLevels
  let targets ← targetsOf profile.settings wide names order
  return ⟨declarations, aliases, targets⟩

/-- The text of a graph's file, where shapes and descriptions are looked up in another graph. With
the graph itself in both places it is the text that `generate` makes, step by step. If a look-up
went past the end of the graph, the other graph could be chosen so that it shows. -/
def generateOver (wide : TypeGraph) (profile : Profile) (graph : TypeGraph) :
    Except Naming.Error String := do
  let file : Except Naming.Error Source.File := do
    let names ← assignOver wide graph profile.settings
    let outline ← outlineOver wide profile graph names
    outline.file profile names
  file.map fun file => file.render

/-! ### Look-ups in range -/

variable {wide graph : TypeGraph}

namespace Graph.TypeGraph.Extends

/-- A node in range is the same. All lemmas on look-ups below come from this one. -/
theorem node?_eq (h : wide.Extends graph) {id : TypeId} (hid : id < graph.size) :
    wide.node? id = graph.node? id := by
  obtain ⟨more, hmore⟩ := h.nodes
  rw [node?, node?, ← hmore, List.getElem?_append_left hid]

/-- A shape in range is the same. Out of range the shorter graph has the shape that stands for
none, and the longer one may have another. -/
theorem kind_eq (h : wide.Extends graph) {id : TypeId} (hid : id < graph.size) :
    wide.kind id = graph.kind id := by
  have hnode := h.node?_eq hid
  simp only [node?] at hnode
  simp [kind, kindAt, hnode]

/-- A description in range is the same. -/
theorem description?_eq (h : wide.Extends graph) {id : TypeId} (hid : id < graph.size) :
    wide.description? id = graph.description? id := by
  rw [description?, description?, h.node?_eq hid]

/-- The references of a type in range are the same, and lead to types in range again. -/
theorem children_eq (h : wide.Extends graph) {id : TypeId} (hid : id < graph.size) :
    wide.children id = graph.children id := by
  rw [children, children, h.kind_eq hid]

/-- A type in range is left without a declaration in both graphs or in neither, with the same
names. -/
theorem isAnonymousUnion_eq (h : wide.Extends graph) (names : TypeNames) {id : TypeId}
    (hid : id < graph.size) :
    isAnonymousUnion wide names id = isAnonymousUnion graph names id := by
  rw [isAnonymousUnion, isAnonymousUnion, h.kind_eq hid]

/-- An entry point whose type is in range has the same key. The types of entry points are in range
by the check of graphs. -/
theorem topLevelKey_eq (h : wide.Extends graph) (index : Nat) {top : TopLevel}
    (htop : top.type < graph.size) :
    topLevelKey wide.nodes index top = topLevelKey graph.nodes index top := by
  unfold topLevelKey
  rw [show kindAt wide.nodes top.type = kindAt graph.nodes top.type from h.kind_eq htop]

end Graph.TypeGraph.Extends

/-- A search looks up the references of free nodes only. For the order of declarations the free
nodes are those of the graph, so no others are looked up. -/
theorem Graph.finishAll_congr {next next' : TypeId → List TypeId} (free done vs : List TypeId)
    (h : ∀ v ∈ free, next v = next' v) :
    finishAll next free done vs = finishAll next' free done vs := by
  refine (finish.mutual_induct next
    (fun free done v => (∀ v ∈ free, next v = next' v) →
      finish next free done v = finish next' free done v)
    (fun free done vs => (∀ v ∈ free, next v = next' v) →
      finishAll next free done vs = finishAll next' free done vs)
    ?_ ?_ ?_ ?_ ?_).2 free done vs h
  · intro free done v hdone _
    rw [finish, finish, if_pos hdone, if_pos hdone]
  -- The node is free, and what is free for its references is so without it.
  · intro free done v hdone hfree _ ih h
    rw [finish, finish, if_neg hdone, if_neg hdone, dif_pos hfree, dif_pos hfree,
      ih fun u hu => h u (List.mem_of_mem_erase hu), h v hfree]
  · intro free done v hdone hfree _
    rw [finish, finish, if_neg hdone, if_neg hdone, dif_neg hfree, dif_neg hfree]
  · intro free done _
    rw [finishAll, finishAll]
  · intro free done v vs ih₁ ih₂ h
    rw [finishAll, finishAll, ← ih₁ h, ih₂ h]

/-- The members of a union are told apart by their own shapes, and no others. -/
theorem Expr.distinctMembers_congr {kind kind' : TypeId → Kind} {seen : List Primitive}
    {members : List TypeId} (h : ∀ member ∈ members, kind member = kind' member) :
    distinctMembers kind seen members = distinctMembers kind' seen members := by
  induction members generalizing seen with
  | nil => rfl
  | cons member rest ih =>
    have hrest : ∀ member ∈ rest, kind member = kind' member := fun m hm => h m (by simp [hm])
    simp only [distinctMembers, h member (by simp), ih hrest]

section

variable (h : wide.Extends graph) (names : TypeNames)

include h

/-- The members of a union are told apart by the same shapes, as they are in range. -/
theorem distinctMembers_extends {id : TypeId} {members : List TypeId}
    (hkind : graph.kind id = .union members) :
    Expr.distinctMembers wide.kind [] members = Expr.distinctMembers graph.kind [] members :=
  Expr.distinctMembers_congr fun _ hmember => h.kind_eq (TypeGraph.child_lt_of_kind hkind hmember)

/-- The expression of a type in range is the same. The recursion goes to what is written inside
the type, which is in range as well. -/
theorem translate_extends (written : List TypeId) {id : TypeId} (hid : id < graph.size) :
    translate wide names written id = translate graph names written id := by
  -- By induction on what is inside of what, as the translation is. The children of a type are in
  -- range themselves.
  induction id using graph.inside_wellFounded.induction with
  | _ id ih =>
    have hwide := h.kind_eq hid
    cases hkind : graph.kind id with
    | primitive type =>
      rw [Expr.translate_primitive hkind, Expr.translate_primitive (hwide.trans hkind)]
    | map values => rw [Expr.translate_map hkind, Expr.translate_map (hwide.trans hkind)]
    | array items =>
      have hitems := Expr.inside_of_mem hkind (List.mem_singleton_self items)
      rw [Expr.translate_array hkind, Expr.translate_array (hwide.trans hkind),
        ih items hitems (TypeGraph.child_lt_of_kind hkind (List.mem_singleton_self items))]
    | object properties =>
      rw [Expr.translate_object hkind, Expr.translate_object (hwide.trans hkind)]
    | enumeration cases =>
      rw [Expr.translate_enumeration hkind, Expr.translate_enumeration (hwide.trans hkind)]
    | union members =>
      have hmembers : ∀ member ∈ Expr.distinctMembers graph.kind [] members,
          translate wide names written member = translate graph names written member := by
        intro member hmember
        have hmember := Expr.mem_of_mem_distinctMembers hmember
        exact ih member (Expr.inside_of_mem hkind hmember)
          (TypeGraph.child_lt_of_kind hkind hmember)
      rw [Expr.translate_union hkind, Expr.translate_union (hwide.trans hkind),
        Expr.unionExpression_union hkind, Expr.unionExpression_union (hwide.trans hkind),
        distinctMembers_extends h hkind, mapM_congr hmembers]

/-- The expression of a union in range, written out, is the same: its members are in range. -/
theorem unionExpression_extends (written : List TypeId) {id : TypeId} (hid : id < graph.size) :
    unionExpression wide names written id = unionExpression graph names written id := by
  unfold unionExpression
  rw [h.kind_eq hid]
  -- Only a union is written out, from members that are in range with it.
  split
  · rename_i members hkind
    have hmembers : ∀ member ∈ Expr.distinctMembers graph.kind [] members,
        translate wide names written member = translate graph names written member :=
      fun member hmember => translate_extends h names written
        (TypeGraph.child_lt_of_kind hkind (Expr.mem_of_mem_distinctMembers hmember))
    rw [distinctMembers_extends h hkind, mapM_congr hmembers]
  · exact translate_extends h names written hid

/-- The declaration of a type in range is the same, with its name, its body and its description.
-/
theorem declaration_extends (profile : Profile) (written : List TypeId) {id : TypeId}
    (hid : id < graph.size) :
    declaration profile wide names written id = declaration profile graph names written id := by
  have hbody : body profile wide names written id = body profile graph names written id := by
    unfold body
    rw [h.kind_eq hid]
    split
    · rename_i properties hkind
      -- The keys and the types of properties come from the node, so only their expressions are
      -- looked up again.
      have hproperty : ∀ source ∈ properties.values.zip (propertyKeys profile properties.names),
          property wide names written source = property graph names written source := by
        intro source hsource
        have hchild : source.1.type ∈ (Kind.object properties).children :=
          List.mem_map_of_mem (List.of_mem_zip hsource).1
        have hlt := TypeGraph.child_lt_of_kind hkind hchild
        rw [property, property, translate_extends h names written hlt]
      rw [mapM_congr hproperty]
    · rfl
    · rw [unionExpression_extends h names written hid]
    · rfl
  unfold declaration
  rw [hbody, h.kind_eq hid, h.description?_eq hid]

/-- The declarations of types in range are the same, each after the same ones. -/
theorem declareAll_extends (profile : Profile) (written order : List TypeId)
    (horder : ∀ id ∈ order, id < graph.size) :
    declareAll profile wide names written order = declareAll profile graph names written order := by
  induction order generalizing written with
  | nil => rfl
  | cons id rest ih =>
    have hid := horder id (by simp)
    have hrest : ∀ id ∈ rest, id < graph.size := fun other hother => horder other (by simp [hother])
    simp only [declareAll, h.isAnonymousUnion_eq names hid,
      declaration_extends h names profile written hid, ih _ hrest]

/-- The entry points have the same names. Where there is no name the error tells the shape of the
type, which is the same, too. -/
theorem topLevelName_extends {index : Nat} {top : TopLevel} (htop : top ∈ graph.topLevels) :
    topLevelName wide names index top = topLevelName graph names index top := by
  have hname : names.topLevelName? wide index = names.topLevelName? graph index := by
    unfold TypeNames.topLevelName?
    rw [h.topLevels]
    -- The index need not be the one of the entry point, so the key is compared at whatever is
    -- there.
    cases hat : graph.topLevels[index]? with
    | none => rfl
    | some other =>
      have hother : other ∈ graph.topLevels := List.mem_of_getElem? hat
      simp [h.topLevelKey_eq index (TypeGraph.topLevel_lt hother)]
  unfold topLevelName
  rw [hname, h.kind_eq (TypeGraph.topLevel_lt htop)]

/-- The aliases of entry points are the same. Only entry points of the graph come up, whose types
are in range. -/
theorem aliasAll_extends (written : List TypeId) (seen : List NameId) (index : Nat)
    (topLevels : List TopLevel) (htops : ∀ top ∈ topLevels, top ∈ graph.topLevels) :
    aliasAll wide names written seen index topLevels =
      aliasAll graph names written seen index topLevels := by
  induction topLevels generalizing seen index with
  | nil => rfl
  | cons top rest ih =>
    have htop := htops top (by simp)
    have hlt := TypeGraph.topLevel_lt htop
    have hrest : ∀ top ∈ rest, top ∈ graph.topLevels := fun other hother =>
      htops other (by simp [hother])
    simp only [aliasAll, topLevelName_extends h names htop, translate_extends h names written hlt,
      h.description?_eq hlt, ih _ _ hrest]

/-- The types to convert of entry points are the same. -/
theorem topLevelTargets_extends (index : Nat) (topLevels : List TopLevel)
    (htops : ∀ top ∈ topLevels, top ∈ graph.topLevels) :
    topLevelTargets wide names index topLevels = topLevelTargets graph names index topLevels := by
  induction topLevels generalizing index with
  | nil => rfl
  | cons top rest ih =>
    have hrest : ∀ top ∈ rest, top ∈ graph.topLevels := fun other hother =>
      htops other (by simp [hother])
    simp only [topLevelTargets, topLevelName_extends h names (htops top (by simp)), ih _ hrest]

/-- The classes to convert are the same. -/
theorem classTargets_extends (order : List TypeId) (horder : ∀ id ∈ order, id < graph.size) :
    classTargets wide names order = classTargets graph names order := by
  unfold classTargets
  rw [List.filter_congr fun id hid => by rw [h.kind_eq (horder id hid)]]

/-- What is left of the types to convert is converted the same way. How a type is converted
depends on its shape only. -/
theorem distinctTargets_extends (seen : List NameId) (pairs : List (NameId × TypeId))
    (hpairs : ∀ pair ∈ pairs, pair.2 < graph.size) :
    distinctTargets wide seen pairs = distinctTargets graph seen pairs := by
  induction pairs generalizing seen with
  | nil => rfl
  | cons pair rest ih =>
    have hrest : ∀ pair ∈ rest, pair.2 < graph.size := fun other hother =>
      hpairs other (by simp [hother])
    simp only [distinctTargets, h.kind_eq (hpairs pair (by simp)), ih _ hrest]

/-- The types to convert are the same, whether these are the entry points or the classes. -/
theorem targetsOf_extends (settings : Settings) (order : List TypeId)
    (horder : ∀ id ∈ order, id < graph.size) :
    targetsOf settings wide names order = targetsOf settings graph names order := by
  unfold targetsOf
  split
  · rfl
  · split
    -- Entry points are in range by the check of graphs, classes because the order is.
    · rw [h.topLevels, topLevelTargets_extends h names 0 graph.topLevels fun _ htop => htop]
      cases hpairs : topLevelTargets graph names 0 graph.topLevels with
      | error error => rfl
      | ok pairs =>
        refine congrArg Except.ok (distinctTargets_extends h [] pairs fun pair hpair => ?_)
        obtain ⟨i, top, hi, htype, _⟩ := topLevelTargets_eq_ok hpairs pair hpair
        rw [htype]
        exact TypeGraph.topLevel_lt (List.mem_of_getElem? hi)
    · rw [classTargets_extends h names order horder]
      have hclasses : ∀ pair ∈ classTargets graph names order, pair.2 < graph.size :=
        fun pair hpair => horder pair.2 (mem_classTargets hpair).1
      rw [distinctTargets_extends h [] _ hclasses]

/-- The requests of entry points are the same, since their keys are. -/
theorem internTopLevels_extends (registry : Registry NameKey) (index : Nat)
    (topLevels : List TopLevel) (htops : ∀ top ∈ topLevels, top ∈ graph.topLevels) :
    internTopLevels wide.nodes registry index topLevels =
      internTopLevels graph.nodes registry index topLevels := by
  induction topLevels generalizing registry index with
  | nil => rfl
  | cons top rest ih =>
    have hlt := TypeGraph.topLevel_lt (htops top (by simp))
    simp only [internTopLevels, h.topLevelKey_eq index hlt]
    exact ih _ _ fun other hother => htops other (by simp [hother])

/-- Types in range get the same names. The requests of types are made from the nodes of the graph
itself, without a look-up. -/
theorem assignOver_eq (settings : Settings) :
    assignOver wide graph settings =
      TypeNames.assign graph settings.declareUnions settings.acronyms := by
  rw [assignOver, internTopLevels_extends h _ _ _ fun _ htop => htop, TypeNames.assign]

/-- Types in range are declared in the same order. -/
theorem orderOver_eq (declareUnions : Bool) :
    orderOver wide graph declareUnions = graph.declarationOrder declareUnions := by
  have hfinished := finishAll_congr graph.ids []
    (graph.topLevels.map TopLevel.type ++ graph.ids) fun id hid =>
      h.children_eq (TypeGraph.mem_ids_iff.1 hid)
  rw [orderOver, hfinished]
  refine List.filter_congr fun id hid => ?_
  rw [h.kind_eq (TypeGraph.mem_finishingOrder_iff.1 hid)]

/-- A file does not depend on what stands past the end of its graph. This is how
`generate_verdict` says that no look-up goes there: if one did, some extension would make a
difference. -/
theorem generateOver_eq (profile : Profile) :
    generateOver wide profile graph = generate profile graph := by
  have horder : ∀ id ∈ graph.declarationOrder profile.settings.declareUnions, id < graph.size :=
    fun id hid => (TypeGraph.mem_declarationOrder_iff.1 hid).1
  have houtline : ∀ names, outlineOver wide profile graph names =
      Outline.ofGraph profile graph names := by
    intro names
    unfold outlineOver Outline.ofGraph
    -- Every stage runs over types that the order or the entry points give, all of which are in
    -- range.
    simp only [orderOver_eq h, declareAll_extends h names profile [] _ horder,
      aliasAll_extends h names _ [] 0 graph.topLevels fun _ htop => htop,
      targetsOf_extends h names profile.settings _ horder]
  unfold generateOver generate generateFile
  simp only [assignOver_eq h, houtline]

end

/-- With look-ups in the graph itself the two generators are one and the same. -/
example (profile : Profile) : generateOver graph profile graph = generate profile graph :=
  rfl

end StateTree
