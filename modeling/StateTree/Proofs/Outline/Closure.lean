import StateTree.Proofs.Outline.Exports
import StateTree.Proofs.Outline.Signatures

/-!
# `StateTree.Proofs.Outline.Closure`: a file exports all that it names

Declarations, aliases, the header and the converter class each come to their names in their own way:
by the order of types, by the position of an entry point, by what has been written and by what has
been seen. All of them meet in the exports of the file, no two of which share an identifier.

- `Source.Declaration.exported`: the identifier that a declaration exports.
- `Outline.WrittenOut`: the parts of a file and what they are made from; `Outline.file_eq_ok`: every
  file has them.
- `Outline.ExportsOnce`: one item and one export have the name.
- `Outline.Closed`: what is exported, and that nothing else is referred to.
- `generate_closed`: every file is closed.
-/

set_option autoImplicit false

namespace StateTree

open StateTree.Expr (Part Vocabulary)
open StateTree.Fallible
open StateTree.Graph
open StateTree.Naming (Convention NameId TypeNames)

/-! ### The parts of a file -/

namespace Source

/-- The identifier that a declaration exports. Each declaration exports one, and the
converter class always the same. -/
def Declaration.exported : Declaration → String
  | model name _ _ _ => name
  | enumeration name _ _ => name
  | constant name _ _ => name
  | converter _ => "Convert"

/-- The identifiers that declarations export. -/
abbrev exportsOf (sources : List Declaration) : List String :=
  sources.map Declaration.exported

/-- The names that a file imports as types only. Next to its exports they are all that its
signatures may name. -/
def File.importedTypes (file : File) : List String :=
  (file.imports.filter Import.typeOnly).flatMap Import.bindings

end Source

namespace Outline

open StateTree.Source (exportsOf)

/-- The methods of the converter class of a file. -/
def methodsOf (settings : Settings) (clients : List Client) : List Source.Method :=
  clients.flatMap fun client => client.methods settings.runtimeChecks

/-- The converter class of a file, which is there if there is a type to convert. Its name is no
type's, as it is reserved. -/
def converterOf (settings : Settings) (clients : List Client) : List Source.Declaration :=
  if clients.isEmpty then [] else [.converter (methodsOf settings clients)]

/-- The parts of a file: the items of its outline written out in `sources`, and the types to
convert under their identifiers in `clients`. It ties the text of the file to the outline, on
which names can be followed. -/
structure WrittenOut (profile : Profile) (names : TypeNames) (outline : Outline)
    (sources : List Source.Declaration) (clients : List Client) (file : Source.File) : Prop where
  items : List.Forall₂ (fun item source => item.source profile.vocabulary names = .ok source)
    outline.items sources
  targets : List.Forall₂ (fun target client => target.client names = .ok client)
    outline.targets clients
  declarations : file.declarations =
    (sources ++ converterOf profile.settings clients).map Source.Declaration.fragments
  header : file.header =
    if clients.isEmpty then [] else usage clients profile.settings.runtimeChecks
  importedTypes : file.importedTypes = allHelpers clients profile.settings.runtimeChecks
  /-- Types are imported from the library. -/
  module_eq : ∀ imported ∈ file.imports, imported.typeOnly = true →
    imported.module = Expr.standardModule

variable {profile : Profile} {graph : TypeGraph} {names : TypeNames} {outline : Outline}

/-- Every file has its parts. What is said of `WrittenOut` below is thereby said of every file
that is made. -/
theorem file_eq_ok {file : Source.File} (h : outline.file profile names = .ok file) :
    ∃ sources clients, WrittenOut profile names outline sources clients file := by
  obtain ⟨declared, hdeclared, h⟩ := bind_eq_ok_iff.1 h
  obtain ⟨aliased, haliased, h⟩ := bind_eq_ok_iff.1 h
  obtain ⟨clients, hclients, h⟩ := bind_eq_ok_iff.1 h
  have hsources := List.rel_append (mapM_eq_ok_iff.1 hdeclared) (mapM_eq_ok_iff.1 haliased)
  refine ⟨declared ++ aliased, clients, ?_⟩
  dsimp only at h
  -- Without types to convert there is no header, no converter class and no import of helper
  -- types.
  split at h
  · rename_i hempty
    obtain rfl : _ = file := pure_eq_ok_iff.1 h
    obtain rfl := List.isEmpty_iff.1 hempty
    refine ⟨hsources, mapM_eq_ok_iff.1 hclients, ?_, rfl, rfl, ?_⟩
    · simp [Source.File.ofParts, converterOf]
    · simp [Source.File.ofParts, typesImport]
  · rename_i hempty
    obtain rfl : _ = file := pure_eq_ok_iff.1 h
    refine ⟨hsources, mapM_eq_ok_iff.1 hclients, ?_, ?_, ?_, ?_⟩
    · simp [Source.File.ofParts, converterOf, methodsOf, hempty]
    · simp [Source.File.ofParts, hempty]
    · -- An import of no helper types is left out, and has none.
      cases hhelpers : allHelpers clients profile.settings.runtimeChecks <;>
        simp [Source.File.importedTypes, Source.File.ofParts, typesImport, helpersImport,
          Source.Import.isEmpty]
    · simp [Source.File.ofParts, typesImport, helpersImport]

/-- What is written for an item exports its identifier. Kinds of declarations do not matter here:
each has the name in front. -/
theorem exported_source {vocabulary : Vocabulary} {item : Declaration}
    {source : Source.Declaration} (h : item.source vocabulary names = .ok source) :
    names.resolve item.name = .ok source.exported := by
  obtain ⟨name, hname, h⟩ := bind_eq_ok_iff.1 h
  suffices hsource : source.exported = name by rw [hname, hsource]
  -- One case for each kind of body. The identifier is resolved before the body is looked at.
  split at h
  · obtain ⟨properties, -, h⟩ := bind_eq_ok_iff.1 h
    obtain rfl : _ = source := pure_eq_ok_iff.1 h
    rfl
  · obtain rfl : _ = source := pure_eq_ok_iff.1 h
    rfl
  · obtain ⟨text, -, h⟩ := bind_eq_ok_iff.1 h
    obtain rfl : _ = source := pure_eq_ok_iff.1 h
    rfl

/-! ### Exports -/

/-- Exactly one item has the name, it is for the type, and exactly one export is its identifier.
Existence alone would leave room for a second declaration that hides the first. -/
structure ExportsOnce (names : TypeNames) (outline : Outline) (exports : List String)
    (name : NameId) (type : TypeId) : Prop where
  item : outline.DeclaresOnce name type
  identifier : ∃ identifier, names.resolve name = .ok identifier ∧ exports.count identifier = 1

variable {declareUnions : Bool} {acronyms : Text.AcronymStyle}
  {sources : List Source.Declaration} {clients : List Client} {file : Source.File}

/-- No two exports share an identifier: two items have two names, and two names have two
identifiers. -/
theorem nodup_exports (hnames : TypeNames.assign graph declareUnions acronyms = .ok names)
    (h : Outline.ofGraph profile graph names = .ok outline)
    (hfile : WrittenOut profile names outline sources clients file) :
    (exportsOf sources).Nodup := by
  have hexported : List.Forall₂ (fun item source =>
      names.resolve item.name = .ok (Source.Declaration.exported source)) outline.items sources :=
    hfile.items.imp fun _ _ => exported_source
  have hnodup := nodup_names h
  clear hfile
  -- Along the items with what is written for each.
  generalize outline.items = items at hexported hnodup
  induction hexported with
  | nil => exact List.nodup_nil
  | @cons item source items sources hsource hrest ih =>
    obtain ⟨hitem, hitems⟩ := List.nodup_cons.1 hnodup
    refine List.nodup_cons.2 ⟨?_, ih hitems⟩
    intro hmem
    -- A later export of the same identifier would be of the same name.
    obtain ⟨source', hsource', heq⟩ := List.mem_map.1 hmem
    obtain ⟨item', hitem', hresolve⟩ := exists_left_of_forall₂ hrest hsource'
    rw [heq] at hresolve
    rw [TypeNames.resolve_injective hnames hsource hresolve] at hitem
    exact hitem (List.mem_map_of_mem hitem')

/-- Every item is exported once, under its name. Whatever has the name of an item is thereby
exported, which is how `closed_of_writtenOut` uses it. -/
theorem exportsOnce_of_mem (hnames : TypeNames.assign graph declareUnions acronyms = .ok names)
    (h : Outline.ofGraph profile graph names = .ok outline)
    (hfile : WrittenOut profile names outline sources clients file) {item : Declaration}
    (hitem : item ∈ outline.items) :
    ExportsOnce names outline (exportsOf sources) item.name item.type := by
  obtain ⟨source, hsource, hwritten⟩ := exists_right_of_forall₂ hfile.items hitem
  refine ⟨declaresOnce_of_mem h hitem, source.exported, exported_source hwritten, ?_⟩
  exact List.count_eq_one_of_mem (nodup_exports hnames h hfile) (List.mem_map_of_mem hsource)

end Outline

/-! ### Closed files -/

/-- A type has proposed names, or the name of an entry point. Of unions these are the ones that
get a declaration where unions are declared. -/
def Graph.TypeGraph.HasName (graph : TypeGraph) (id : TypeId) : Prop :=
  (∃ node, graph.node? id = some node ∧ node.names ≠ []) ∨
    ∃ top ∈ graph.topLevels, top.type = id

/-- The types that every file has to export: classes, enums and, where unions are declared, unions
that have a name. It is a condition on the graph, without names being assigned. -/
def Graph.TypeGraph.Exportable (graph : TypeGraph) (declareUnions : Bool) (id : TypeId) : Prop :=
  (graph.kind id).isClass ∨ (graph.kind id).isEnum ∨
    declareUnions ∧ (graph.kind id).isUnion ∧ graph.HasName id

namespace Outline

open StateTree.Source (exportsOf)

/-- A file exports what it has to, without clashes, and refers to nothing else. Each field is
about one of the places where an identifier can stand: the exports, the expressions, the header,
the imports and the signatures. -/
structure Closed (profile : Profile) (graph : TypeGraph) (names : TypeNames) (outline : Outline)
    (sources : List Source.Declaration) (clients : List Client) (file : Source.File) : Prop where
  /-- All exports, the converter class among them, have distinct identifiers. -/
  distinct : (exportsOf (sources ++ converterOf profile.settings clients)).Nodup
  unreserved : ∀ source ∈ sources, source.exported ∉ Convention.moduleReserved
  types : ∀ id, graph.Exportable profile.settings.declareUnions id →
    (outline.items.map Declaration.type).count id = 1 ∧
    ∃ name, names.typeName? id = some name ∧
      ExportsOnce names outline (exportsOf sources) name id
  entries : ∀ (index : Nat) top, graph.topLevels[index]? = some top →
    ∃ name, names.topLevelName? graph index = some name ∧
      ExportsOnce names outline (exportsOf sources) name top.type
  /-- Every name in an expression is exported. -/
  expressions : ∀ item ∈ outline.items, ∀ expr ∈ item.body.exprs, ∀ name,
    Part.name name ∈ (expr.word profile.vocabulary).parts →
      ∃ type, ExportsOnce names outline (exportsOf sources) name type
  /-- Every type to convert, which the header and the signatures name, is exported. -/
  targets : ∀ target ∈ outline.targets, ∃ type,
    ExportsOnce names outline (exportsOf sources) target.name type
  clientNames : ∀ client ∈ clients, client.name ∈ exportsOf sources
  /-- The helper types that are imported are those that the signatures name. -/
  helpers : file.importedTypes = helperTypes.filter fun helper =>
    (methodsOf profile.settings clients).any fun method => method.typeWords.contains helper
  signatures : ∀ method ∈ methodsOf profile.settings clients, ∀ word ∈ method.typeWords,
    word ∈ ["string", "typeof"] ∨ word ∈ exportsOf sources ∨
      word ∈ file.importedTypes

variable {profile : Profile} {graph : TypeGraph} {names : TypeNames} {outline : Outline}
  {sources : List Source.Declaration} {clients : List Client} {file : Source.File}

/-- What has to be exported is declared. A proposed name of a union, or that of an entry point,
has been requested and so been given. -/
theorem declares_of_exportable
    (hnames : TypeNames.assign graph profile.settings.declareUnions profile.settings.acronyms =
      .ok names) (h : Outline.ofGraph profile graph names = .ok outline) {id : TypeId}
    (hid : graph.Exportable profile.settings.declareUnions id) : outline.Declares id := by
  obtain hclass | henum | ⟨hdeclared, hunion, hname⟩ := hid
  · exact declares_of_kind h (.inl hclass)
  · exact declares_of_kind h (.inr henum)
  · have hlt : id < graph.size := lt_length_of_kindAt (fun kind => kind.isUnion) (by decide) hunion
    refine (declares_iff h).2 ⟨hlt, .inr (.inr ⟨hdeclared, hunion, ?_⟩)⟩
    -- The union has a name if it was requested, which a proposal or an entry point does.
    rw [TypeNames.exists_typeName_iff hnames]
    rcases hname with ⟨node, hnode, hproposals⟩ | ⟨top, htop, htype⟩
    · refine .inr ⟨node, hnode, ?_, hproposals⟩
      rw [Naming.TypeNames.kind_of_node? hnode] at hunion
      cases hkind : node.kind <;> simp_all [Naming.kindRank?, Kind.isUnion]
    · exact .inl ⟨top, htop, htype, by simp [Kind.isNamed, hunion]⟩

/-- A type to convert is named by an export, in one word. The one makes it known to the file, the
other lets it be read from signatures. -/
theorem exported_of_client
    (hnames : TypeNames.assign graph profile.settings.declareUnions profile.settings.acronyms =
      .ok names) (h : Outline.ofGraph profile graph names = .ok outline)
    (hfile : WrittenOut profile names outline sources clients file) {client : Client}
    (hclient : client ∈ clients) :
    client.name ∈ exportsOf sources ∧
      client.name.toList.all Source.isWordCharacter = true := by
  -- From the client to its target, from the target to the item of that name, and from the item to
  -- what it exports.
  obtain ⟨target, htarget, hresolve⟩ := exists_left_of_forall₂ hfile.targets hclient
  obtain ⟨name, hname, rfl⟩ := map_eq_ok_iff.1 hresolve
  obtain ⟨item, hitem, heq⟩ := exists_item_of_target h htarget
  obtain ⟨source, hsource, hwritten⟩ := exists_right_of_forall₂ hfile.items hitem
  have hexported := exported_source hwritten
  rw [heq, hname] at hexported
  constructor
  · rw [Except.ok.inj hexported]
    exact List.mem_map_of_mem hsource
  · exact TypeNames.all_of_resolve hnames Source.caseClosed_isWordCharacter
      (fun _ => Source.isWordCharacter_of_isAlphanumeric) hname

/-- The converter class shares its identifier with no other export, since the identifier is
reserved. -/
theorem nodup_exportsOf_converterOf (hdistinct : (exportsOf sources).Nodup)
    (hunreserved : ∀ source ∈ sources, source.exported ∉ Convention.moduleReserved)
    (settings : Settings) (clients : List Client) :
    (exportsOf (sources ++ converterOf settings clients)).Nodup := by
  unfold converterOf
  split
  · simpa using hdistinct
  · rw [exportsOf, List.map_append]
    refine List.nodup_append.2 ⟨hdistinct, List.nodup_singleton _, ?_⟩
    intro identifier hidentifier other hother heq
    obtain ⟨source, hsource, rfl⟩ := List.mem_map.1 hidentifier
    -- The name of the converter class is reserved, so no other export has it.
    obtain rfl : other = "Convert" := by simpa [Source.Declaration.exported] using hother
    exact hunreserved source hsource (heq ▸ by decide)

/-- Every file of a graph is closed. That the names are those of the graph makes identifiers
distinct and keeps them off reserved words; that the outline is the graph's makes every name that
is referred to the name of an item; and that the file is written out from it takes both to what is
exported. `generate_closed` is this for the file that is generated. -/
theorem closed_of_writtenOut
    (hnames : TypeNames.assign graph profile.settings.declareUnions profile.settings.acronyms =
      .ok names) (h : Outline.ofGraph profile graph names = .ok outline)
    (hfile : WrittenOut profile names outline sources clients file) :
    Closed profile graph names outline sources clients file := by
  have honce : ∀ {item}, item ∈ outline.items →
      ExportsOnce names outline (exportsOf sources) item.name item.type :=
    exportsOnce_of_mem hnames h hfile
  have hunreserved : ∀ source ∈ sources, source.exported ∉ Convention.moduleReserved := by
    intro source hsource
    obtain ⟨item, -, hwritten⟩ := exists_left_of_forall₂ hfile.items hsource
    exact TypeNames.notMem_reserved_of_resolve hnames (exported_source hwritten)
  have hclient : ∀ client ∈ clients, client.name ∈ exportsOf sources ∧
      client.name.toList.all Source.isWordCharacter = true := fun client hmem =>
    exported_of_client hnames h hfile hmem
  -- So a type to convert is not called like a helper type.
  have hclientUnreserved : ∀ client ∈ clients, client.name ∉ Convention.moduleReserved := by
    intro client hmem
    obtain ⟨source, hsource, heq⟩ := List.mem_map.1 (hclient client hmem).1
    exact heq ▸ hunreserved source hsource
  refine {
    distinct := nodup_exportsOf_converterOf (nodup_exports hnames h hfile) hunreserved _ _
    unreserved := hunreserved
    types := ?types
    entries := ?entries
    expressions := ?expressions
    targets := ?targets
    clientNames := fun client hmem => (hclient client hmem).1
    helpers := ?helpers
    signatures := ?signatures }
  case types =>
    intro id hid
    obtain ⟨made, hmade, rfl⟩ := List.mem_map.1 (declares_of_exportable hnames h hid)
    exact ⟨count_type h hmade, made.name, name_of_mem h hmade,
      honce (List.mem_append_left _ hmade)⟩
  case entries =>
    intro index top hindex
    obtain ⟨item, hitem, hname, htype⟩ := exists_item_of_topLevel h hindex
    exact ⟨item.name, hname, htype ▸ honce hitem⟩
  -- From here on every name is led to an item, and the item is exported once.
  case expressions =>
    intro item hitem expr hexpr name hname
    obtain ⟨other, hother, rfl⟩ := exists_item_of_name h profile.vocabulary hitem hexpr hname
    exact ⟨other.type, honce hother⟩
  case targets =>
    intro target htarget
    obtain ⟨item, hitem, heq⟩ := exists_item_of_target h htarget
    exact ⟨item.type, heq ▸ honce hitem⟩
  case helpers =>
    rw [hfile.importedTypes]
    exact allHelpers_eq (fun client hmem => (hclient client hmem).2) hclientUnreserved _
  case signatures =>
    intro method hmethod word hword
    rw [hfile.importedTypes]
    refine (mem_typeWords_cases (fun client hmem => (hclient client hmem).2) hmethod
      hword).imp_right (.imp_left fun hmem => ?_)
    obtain ⟨client, hconverted, rfl⟩ := List.mem_map.1 hmem
    exact (hclient client hconverted).1

end Outline

open Outline

/-- Every file of a graph exports its classes, enums, declared unions and entry points, each once
and under identifiers that do not clash with each other or with reserved words, and refers to
nothing that it does not export or import. -/
theorem generate_closed {profile : Profile} {graph : TypeGraph} {text : String}
    (h : generate profile graph = .ok text) :
    ∃ names outline sources clients file,
      TypeNames.assign graph profile.settings.declareUnions profile.settings.acronyms = .ok names ∧
      Outline.ofGraph profile graph names = .ok outline ∧
      outline.file profile names = .ok file ∧ file.render = text ∧
      WrittenOut profile names outline sources clients file ∧
      Closed profile graph names outline sources clients file := by
  obtain ⟨names, outline, file, hnames, houtline, hfile, htext⟩ := generate_eq_ok_iff.1 h
  obtain ⟨sources, clients, hwritten⟩ := file_eq_ok hfile
  exact ⟨names, outline, sources, clients, file, hnames, houtline, hfile, htext, hwritten,
    closed_of_writtenOut hnames houtline hwritten⟩

/-- The file of `crossing`, where an alias stands for the union and is exported for the entry
point. -/
theorem generate_crossing_closed :
    ∃ text, generate (.ofSettings {}) crossing = .ok text ∧
      ∃ names outline sources clients file,
        TypeNames.assign crossing false .pascal = .ok names ∧
        Outline.ofGraph (.ofSettings {}) crossing names = .ok outline ∧
        outline.file (.ofSettings {}) names = .ok file ∧ file.render = text ∧
        WrittenOut (.ofSettings {}) names outline sources clients file ∧
        Closed (.ofSettings {}) crossing names outline sources clients file := by
  have hnames : ∀ id, ¬ Naming.Nameless crossing id := Naming.not_nameless (by decide)
  obtain ⟨text, htext⟩ := exists_generate (.ofSettings {}) hnames
  obtain ⟨names, outline, sources, clients, file, hassign, houtline, hfile, hrender, hwritten,
    hclosed⟩ := generate_closed htext
  exact ⟨text, htext, names, outline, sources, clients, file, hassign, houtline, hfile, hrender,
    hwritten, hclosed⟩

end StateTree
