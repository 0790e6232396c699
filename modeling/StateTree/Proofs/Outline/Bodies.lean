import StateTree.Proofs.Outline.Closure
import StateTree.Proofs.PropertyKey

/-!
# `StateTree.Proofs.Outline.Bodies`: models and enums are complete

The body of a model is put together from two lists that are made apart from each other: the
properties of the class, and their keys. The keys are as many as the properties, so no property is
left out where the two are joined. They differ from each other because names do: the names of the
source are distinct, those in camel case are given out one after the other, and no two names have
one key. The same holds of an enum, whose members are joined from identifiers and cases; the literal
of a member reads back as its case.

- `Entries`, `Members`: a model that has all properties of a class, an enum that has all its cases.
- `bodyLines`: the lines inside a declaration.
- `entries_of_source`, `members_of_source`: the declarations of classes and enums.
- `generate_bodies`: those of every file.
-/

set_option autoImplicit false

namespace StateTree

open StateTree.Expr (translate)
open StateTree.Fallible
open StateTree.Graph
open StateTree.Naming (Convention NameId TypeNames enumCaseNames nicePropertyNames)
open StateTree.Text (AcronymStyle readLiteral? utf16)

/-! ### Names inside one declaration -/

/-- The members of one declaration have distinct names, whatever the proposals: each name is
assigned so that it differs from those before it. Both enum cases and properties in camel case get
their names so. -/
theorem Naming.nodup_memberNames (convention : Convention) (acronyms : AcronymStyle)
    (proposals : List String) : (memberNames convention acronyms proposals).Nodup := by
  refine nodup_assignFrom ?_
  intro candidate hcandidate
  obtain ⟨proposal, -, rfl⟩ := List.mem_map.1 hcandidate
  exact List.cons_ne_nil _ _

/-! ### The lines inside a declaration -/

namespace Layout.Fragment

/-- The fragments inside a block. No other fragment has any. -/
def inner : Fragment → List Fragment
  | .block _ body _ => body
  | _ => []

/-- The text of a line that is no comment. Comments are fragments of their own kind. -/
def line? : Fragment → Option String
  | .line text => some text
  | _ => none

end Layout.Fragment

namespace Source

/-- The lines inside the blocks of some fragments, comments left out. For a declaration of a class
these are the lines of its properties, and for an enum those of its members. -/
def bodyLines (fragments : List Layout.Fragment) : List String :=
  (fragments.flatMap Layout.Fragment.inner).filterMap Layout.Fragment.line?

/-- Documentation has no lines inside a block, so it does not matter to `bodyLines` whether a
declaration has any. -/
theorem bodyLines_docOf?_append (doc : Option String) (fragments : List Layout.Fragment) :
    bodyLines (Layout.Fragment.docOf? doc ++ fragments) = bodyLines fragments := by
  cases doc <;> rfl

/-- The line of a property: its key and its value, with a comma after them also where no other
property follows. -/
def ModelProperty.line (property : ModelProperty) : String :=
  property.key ++ ": " ++ property.value ++ ","

/-- A model has one line for each of its properties. Documentation of a property stands on lines
of its own, which are comments. -/
theorem bodyLines_model (name factory : String) (doc : Option String)
    (properties : List ModelProperty) :
    bodyLines (Declaration.model name factory doc properties).fragments =
      properties.map ModelProperty.line := by
  rw [Declaration.fragments, bodyLines_docOf?_append]
  -- Every property has its line, perhaps after a doc comment.
  have hproperties : (properties.flatMap ModelProperty.fragments).filterMap
      Layout.Fragment.line? = properties.map ModelProperty.line := by
    induction properties with
    | nil => rfl
    | cons property rest ih =>
      have hfirst : property.fragments.filterMap Layout.Fragment.line? = [property.line] := by
        unfold ModelProperty.fragments
        cases property.doc <;> rfl
      rw [List.flatMap_cons, List.filterMap_append, hfirst, ih]
      rfl
  cases properties with
  | nil => rfl
  | cons property rest => simpa [bodyLines, Layout.Fragment.inner] using hproperties

/-- The line of an enum member: its identifier, and its case as a literal. -/
def memberText (member : String × String) : String :=
  member.1 ++ " = \"" ++ member.2 ++ "\","

/-- An enum has one line for each of its members. -/
theorem bodyLines_enumeration (name : String) (doc : Option String)
    (members : List (String × String)) :
    bodyLines (Declaration.enumeration name doc members).fragments = members.map memberText := by
  rw [Declaration.fragments, bodyLines_docOf?_append]
  show (members.map memberLine ++ []).filterMap Layout.Fragment.line? = _
  rw [List.append_nil, List.filterMap_map]
  show members.filterMap (some ∘ memberText) = _
  rw [List.filterMap_eq_map]

end Source

namespace Outline

variable {profile : Profile} {graph : TypeGraph} {names : TypeNames} {written : List TypeId}

/-! ### Keys -/

/-- The names that the properties of a class have in its model: those of the source, or names in
camel case that are made from these one after the other. -/
def propertyNames (settings : Settings) (properties : List String) : List String :=
  match settings.propertyNaming with
  | .asGiven => properties
  | .nice => nicePropertyNames settings.acronyms properties

/-- Keys are made from names, each from its own. What can be said of one key can so be said of
all. -/
theorem propertyKeys_eq (profile : Profile) (properties : List String) :
    propertyKeys profile properties =
      (propertyNames profile.settings properties).map profile.keys.key := by
  unfold propertyKeys propertyNames
  cases profile.settings.propertyNaming <;> rfl

/-- The names of a model's properties are distinct if those in the source are. For names in camel
case the hypothesis is not needed: those get numbers where they would be the same. -/
theorem nodup_propertyNames (settings : Settings) {properties : List String}
    (h : properties.Nodup) : (propertyNames settings properties).Nodup := by
  unfold propertyNames
  split
  · exact h
  · exact Naming.nodup_memberNames _ _ _

/-! ### What a body has to have -/

/-- The entries of a model are those of the properties of a class, one for each and in their
order. Keys read back as names, and values are the texts of the properties' types, in `maybe` for
those that may be missing. -/
structure Entries (profile : Profile) (graph : TypeGraph) (names : TypeNames)
    (written : List TypeId) (properties : Keyed Graph.Property)
    (entries : List Source.ModelProperty) : Prop where
  keys : entries.map Source.ModelProperty.key = propertyKeys profile properties.names
  distinct : (entries.map Source.ModelProperty.key).Nodup
  /-- Keys read back as the names of the properties. -/
  read : entries.map (fun entry => readKey? entry.key) =
    (propertyNames profile.settings properties.names).map fun name => some (utf16 name.toList)
  values : List.Forall₂ (fun property entry => ∃ expr text,
      translate graph names written property.type = .ok expr ∧
      exprText profile.vocabulary names expr = .ok text ∧
      Source.ModelProperty.value entry =
        if property.optional then profile.vocabulary.member "maybe" ++ "(" ++ text ++ ")" else text)
    properties.values entries

/-- The members of an enum are its cases, one for each and in their order. Identifiers are
distinct, even if cases differ in such a way that they have one form in Pascal case. -/
structure Members (settings : Settings) (cases : Distinct) (members : List (String × String)) :
    Prop where
  identifiers : members.map Prod.fst = enumCaseNames settings.acronyms cases.items
  distinct : (members.map Prod.fst).Nodup
  /-- The literal of a member reads back as the case. -/
  values : List.Forall₂ (fun case member =>
      readLiteral? ("\"" ++ member.2 ++ "\"").toList = some (utf16 case.toList, []))
    cases.items members

/-- The documentation of a declaration is the description of its type, if it has one. -/
theorem doc_of_declaration {id : TypeId} {item : Declaration}
    (h : declaration profile graph names written id = .ok item) :
    item.doc = graph.description? id := by
  obtain ⟨name, -, h⟩ := bind_eq_ok_iff.1 h
  obtain ⟨content, -, h⟩ := bind_eq_ok_iff.1 h
  rw [← Except.ok.inj h]

/-! ### Models -/

/-- The model of a class has its properties with their keys. The two come from one list of pairs,
which `zip` would cut short if there were fewer keys than properties. -/
theorem model_of_body {id : TypeId} {properties : Keyed Graph.Property} {content : Body}
    (hkind : graph.kind id = .object properties)
    (h : body profile graph names written id = .ok content) :
    ∃ members, content = .model members ∧
      members.map Property.key = propertyKeys profile properties.names ∧
      List.Forall₂ (fun property member =>
          translate graph names written property.type = .ok member.expr ∧
          member.optional = property.optional ∧ member.doc = property.description)
        properties.values members := by
  simp only [body, hkind] at h
  obtain ⟨members, hmembers, rfl⟩ := map_eq_ok_iff.1 h
  -- Each pair of a property and a key becomes a member with that key.
  have hpair : List.Forall₂ (fun source member =>
      translate graph names written (Prod.fst source).type = .ok (Property.expr member) ∧
        member.optional = source.1.optional ∧ member.doc = source.1.description ∧
        source.2 = member.key)
      (properties.values.zip (propertyKeys profile properties.names)) members := by
    refine (mapM_eq_ok_iff.1 hmembers).imp fun source member hmember => ?_
    obtain ⟨expr, hexpr, rfl⟩ := map_eq_ok_iff.1 hmember
    exact ⟨hexpr, rfl, rfl, rfl⟩
  refine ⟨members, rfl, ?_, ?_⟩
  · -- There are as many keys as properties, so none is left out.
    have hkeys : List.Forall₂ (fun key key' => key = key')
        ((properties.values.zip (propertyKeys profile properties.names)).map Prod.snd)
        (members.map Property.key) := by
      rw [List.forall₂_map_left_iff, List.forall₂_map_right_iff]
      exact hpair.imp fun _ _ hmember => hmember.2.2.2
    rw [List.forall₂_eq_eq_eq, List.map_snd_zip] at hkeys
    · exact hkeys.symm
    · simp [length_propertyKeys, Keyed.values, Keyed.names]
  · rw [← map_fst_zip_propertyKeys profile properties, List.forall₂_map_left_iff]
    exact hpair.imp fun _ _ hmember => ⟨hmember.1, hmember.2.1, hmember.2.2.1⟩

/-- A model is written with an entry for each of its properties. The identifier of the class is
looked up here, and may fail to be there; `entries_of_source` is about files that were written. -/
theorem source_of_model {item : Declaration} {members : List Property}
    {source : Source.Declaration} (hbody : item.body = .model members)
    (h : item.source profile.vocabulary names = .ok source) :
    ∃ name entries, names.resolve item.name = .ok name ∧
      source = .model name (profile.vocabulary.member "model") item.doc entries ∧
      List.Forall₂ (fun member entry =>
        Property.source profile.vocabulary names member = .ok entry) members entries := by
  obtain ⟨name, hname, h⟩ := bind_eq_ok_iff.1 h
  rw [hbody] at h
  obtain ⟨entries, hentries, h⟩ := bind_eq_ok_iff.1 h
  exact ⟨name, entries, hname, (Except.ok.inj h).symm, mapM_eq_ok_iff.1 hentries⟩

/-- The model of a class has all its properties. What `model_of_body` says of the model and
`source_of_model` of its text is put together, property by property. -/
theorem entries_of_source {item : Declaration} {properties : Keyed Graph.Property}
    {source : Source.Declaration} (hkind : graph.kind item.type = .object properties)
    (hitem : declaration profile graph names written item.type = .ok item)
    (h : item.source profile.vocabulary names = .ok source) :
    ∃ name entries, names.resolve item.name = .ok name ∧
      source = .model name (profile.vocabulary.member "model") (graph.description? item.type)
        entries ∧
      Entries profile graph names written properties entries := by
  obtain ⟨members, hbody, hkeys, hmembers⟩ := model_of_body hkind (declaration_eq_ok hitem).2.2
  obtain ⟨name, entries, hname, rfl, hentries⟩ := source_of_model hbody h
  -- An entry has the key of its property, and the text of its expression.
  have hwritten : List.Forall₂ (fun member entry => Property.key member = entry.key ∧
      ∃ text, exprText profile.vocabulary names member.expr = .ok text ∧
        entry.value = Property.value profile.vocabulary member.optional text)
      members entries := by
    refine hentries.imp fun member entry hentry => ?_
    obtain ⟨text, htext, rfl⟩ := map_eq_ok_iff.1 hentry
    exact ⟨rfl, text, htext, rfl⟩
  have hsame : members.map Property.key = entries.map Source.ModelProperty.key := by
    rw [← List.forall₂_eq_eq_eq, List.forall₂_map_left_iff, List.forall₂_map_right_iff]
    exact hwritten.imp fun _ _ hentry => hentry.1
  have hall : entries.map Source.ModelProperty.key = propertyKeys profile properties.names :=
    hsame.symm.trans hkeys
  refine ⟨name, entries, hname, by rw [doc_of_declaration hitem], hall, ?_, ?_, ?_⟩
  · -- Two names do not have one key.
    rw [hall, propertyKeys_eq]
    exact (nodup_propertyNames _ properties.nodup).map profile.keys.key_injective
  · have hread : entries.map (fun entry => readKey? entry.key) =
        (entries.map Source.ModelProperty.key).map readKey? := by
      rw [List.map_map]
      rfl
    rw [hread, hall, propertyKeys_eq, List.map_map]
    exact List.map_congr_left fun name _ => profile.keys.readKey?_key name
  · refine forall₂_comp ?_ hmembers hwritten
    rintro property member entry ⟨hexpr, hoptional, -⟩ ⟨-, text, htext, hvalue⟩
    refine ⟨member.expr, text, hexpr, htext, ?_⟩
    rw [hvalue, hoptional, Property.value]

/-! ### Enums -/

/-- The enum of a type has all its cases. Each is written as a literal, from which it can be read
again. -/
theorem members_of_source {item : Declaration} {cases : Distinct} {source : Source.Declaration}
    (hkind : graph.kind item.type = .enumeration cases)
    (hitem : declaration profile graph names written item.type = .ok item)
    (h : item.source profile.vocabulary names = .ok source) :
    ∃ name members, names.resolve item.name = .ok name ∧
      source = .enumeration name (graph.description? item.type) members ∧
      Members profile.settings cases members := by
  have hbody := (declaration_eq_ok hitem).2.2
  simp only [body, hkind] at hbody
  obtain ⟨name, hname, h⟩ := bind_eq_ok_iff.1 h
  rw [← Except.ok.inj hbody] at h
  rw [doc_of_declaration hitem] at h
  refine ⟨name, _, hname, (Except.ok.inj h).symm, ?_⟩
  -- There are as many identifiers as cases, so neither list is cut short.
  have hlength : (enumCaseNames profile.settings.acronyms cases.items).length =
      cases.items.length := length_memberNames _ _ _
  -- The first halves of the members are the identifiers, all of them.
  have hfst : ((((enumCaseNames profile.settings.acronyms cases.items).zip cases.items).map
      fun member => (member.1, Text.escape member.2)).map Prod.fst) =
        enumCaseNames profile.settings.acronyms cases.items := by
    rw [List.map_map]
    exact List.map_fst_zip (Nat.le_of_eq hlength)
  refine ⟨hfst, ?_, ?_⟩
  · rw [hfst]
    exact Naming.nodup_memberNames _ _ _
  · rw [List.forall₂_map_right_iff]
    have hcases : List.Forall₂ (fun case member => case = Prod.snd member) cases.items
        ((enumCaseNames profile.settings.acronyms cases.items).zip cases.items) := by
      rw [← List.forall₂_map_right_iff, List.forall₂_eq_eq_eq]
      exact (List.map_snd_zip (Nat.le_of_eq hlength.symm)).symm
    refine hcases.imp fun case member hcase => ?_
    -- A member and its case stand at one place of the two lists.
    rw [hcase, ← Text.readLiteral?_quote member.2 [], List.append_nil, Text.quote]

/-! ### Files -/

/-- A type has one declaration in a file, which stands after those of the types in `before` and
under the name of the type. The types before matter since a class that is among them is referred
to directly, and any other class by a late reference. -/
structure DeclaredAs (names : TypeNames) (outline : Outline) (sources : List Source.Declaration)
    (id : TypeId) (before : List TypeId) (source : Source.Declaration) : Prop where
  once : (outline.items.map Declaration.type).count id = 1
  position : ∃ after, outline.declarations.map Declaration.type = before ++ id :: after
  written : sources[before.length]? = some source
  name : ∃ name, names.typeName? id = some name ∧ names.resolve name = .ok source.exported

variable {outline : Outline} {sources : List Source.Declaration} {clients : List Client}
  {file : Source.File}

/-- A declaration stands at its place among the written ones: declarations are written one by one
and none is left out, and aliases come after all of them. -/
theorem getElem?_sources (hfile : WrittenOut profile names outline sources clients file)
    {before after : List Declaration} {item : Declaration}
    (hsplit : outline.declarations = before ++ item :: after) :
    ∃ source, sources[before.length]? = some source ∧
      item.source profile.vocabulary names = .ok source := by
  have hitem : outline.items[before.length]? = some item := by
    rw [items, hsplit, List.append_assoc, List.getElem?_append_right (Nat.le_refl _), Nat.sub_self]
    rfl
  obtain ⟨hlt, rfl⟩ := List.getElem?_eq_some_iff.1 hitem
  have hlt' : before.length < sources.length := hfile.items.length_eq ▸ hlt
  exact ⟨sources[before.length], List.getElem?_eq_getElem hlt', hfile.items.get hlt hlt'⟩

/-- Every class and every enum is declared once, and what stands for it in the file is the text of
that declaration. -/
theorem exists_declaredAs (h : Outline.ofGraph profile graph names = .ok outline)
    (hfile : WrittenOut profile names outline sources clients file) {id : TypeId}
    (hkind : (graph.kind id).isClass ∨ (graph.kind id).isEnum) :
    ∃ before item source, DeclaredAs names outline sources id before source ∧ item.type = id ∧
      declaration profile graph names before.reverse item.type = .ok item ∧
      item.source profile.vocabulary names = .ok source := by
  obtain ⟨item, hitem, rfl⟩ := exists_declaration_of_kind h hkind
  -- What is declared before the type is what its declaration is made with.
  obtain ⟨before, after, hsplit⟩ := List.append_of_mem hitem
  obtain ⟨source, hsource, hwritten⟩ := getElem?_sources hfile hsplit
  refine ⟨before.map Declaration.type, item, source, ⟨count_type h hitem, ?_, ?_, ?_⟩, rfl,
    declaration_of_split h hsplit, hwritten⟩
  · exact ⟨after.map Declaration.type, by rw [hsplit, List.map_append, List.map_cons]⟩
  · rw [List.length_map]
    exact hsource
  · exact ⟨item.name, name_of_mem h hitem, exported_source hwritten⟩

end Outline

open Outline

/-- In every file the model of each class has one entry for each property, in the order of the
source and under distinct keys, and each enum has one member for each case, in the order of the
source and under distinct identifiers, whose literal reads back as the case. -/
theorem generate_bodies {profile : Profile} {graph : TypeGraph} {text : String}
    (h : generate profile graph = .ok text) :
    ∃ names outline sources clients file,
      TypeNames.assign graph profile.settings.declareUnions profile.settings.acronyms = .ok names ∧
      Outline.ofGraph profile graph names = .ok outline ∧
      outline.file profile names = .ok file ∧ file.render = text ∧
      WrittenOut profile names outline sources clients file ∧
      (∀ id properties, graph.kind id = .object properties →
        ∃ before name entries source,
          source = .model name (profile.vocabulary.member "model") (graph.description? id) entries ∧
          DeclaredAs names outline sources id before source ∧
          Entries profile graph names before.reverse properties entries ∧
          Source.bodyLines source.fragments = entries.map Source.ModelProperty.line) ∧
      ∀ id cases, graph.kind id = .enumeration cases →
        ∃ before name members source,
          source = .enumeration name (graph.description? id) members ∧
          DeclaredAs names outline sources id before source ∧
          Members profile.settings cases members ∧
          Source.bodyLines source.fragments = members.map Source.memberText := by
  obtain ⟨names, outline, file, hnames, houtline, hfile, htext⟩ := generate_eq_ok_iff.1 h
  obtain ⟨sources, clients, hwritten⟩ := file_eq_ok hfile
  refine ⟨names, outline, sources, clients, file, hnames, houtline, hfile, htext, hwritten, ?_, ?_⟩
  · intro id properties hkind
    -- That a class has a declaration is by the order of types, what is written for it by the
    -- translation of its body.
    have hclass : (graph.kind id).isClass := by simp [hkind, Kind.isClass]
    obtain ⟨before, item, source, hdeclared, rfl, hitem, hsource⟩ :=
      exists_declaredAs houtline hwritten (.inl hclass)
    obtain ⟨name, entries, -, rfl, hentries⟩ := entries_of_source hkind hitem hsource
    exact ⟨before, name, entries, _, rfl, hdeclared, hentries, Source.bodyLines_model _ _ _ _⟩
  · intro id cases hkind
    have henum : (graph.kind id).isEnum := by simp [hkind, Kind.isEnum]
    obtain ⟨before, item, source, hdeclared, rfl, hitem, hsource⟩ :=
      exists_declaredAs houtline hwritten (.inr henum)
    obtain ⟨name, members, -, rfl, hmembers⟩ := members_of_source hkind hitem hsource
    exact ⟨before, name, members, _, rfl, hdeclared, hmembers, Source.bodyLines_enumeration _ _ _⟩

/-- A class with a text and perhaps another one, under names that are one in camel case, and an
enum with two cases that are one in Pascal case. One of its cases has a quote in it. -/
def namesakes : TypeGraph where
  nodes :=
    [{ kind := .primitive .string },
      { kind := .object ⟨[("first-name", { type := 0 }),
          ("firstName", { type := 0, optional := true })], by simp⟩, names := ["Person"] },
      { kind := .enumeration ⟨["on", "ON", "a\"b"], by simp⟩, names := ["Switch"] }]
  topLevels := [{ name := "Person", type := 1 }]
  wellFormed := by decide +kernel

/-- The file of `namesakes` with properties in camel case tells its namesakes apart by numbers. -/
theorem generate_namesakes_bodies :
    ∃ text, generate (.ofSettings { propertyNaming := .nice }) namesakes = .ok text ∧
      ∃ names outline sources clients file,
        TypeNames.assign namesakes false .pascal = .ok names ∧
        Outline.ofGraph (.ofSettings { propertyNaming := .nice }) namesakes names = .ok outline ∧
        outline.file (.ofSettings { propertyNaming := .nice }) names = .ok file ∧
        file.render = text ∧
        WrittenOut (.ofSettings { propertyNaming := .nice }) names outline sources clients file ∧
        (∃ before name entries, DeclaredAs names outline sources 1 before
            (.model name "types.model" none entries) ∧
          entries.map Source.ModelProperty.key = ["firstName", "firstName2"]) ∧
        ∃ before name members, DeclaredAs names outline sources 2 before
            (.enumeration name none members) ∧
          members.map Prod.fst = ["On", "On2", "AB"] := by
  have hnames : ∀ id, ¬ Naming.Nameless namesakes id := Naming.not_nameless (by decide)
  obtain ⟨text, htext⟩ := exists_generate (.ofSettings { propertyNaming := .nice }) hnames
  obtain ⟨names, outline, sources, clients, file, hassign, houtline, hfile, hrender, hwritten,
    hmodels, henums⟩ := generate_bodies htext
  refine ⟨text, htext, names, outline, sources, clients, file, hassign, houtline, hfile, hrender,
    hwritten, ?_, ?_⟩
  -- Only the identifiers are evaluated; all the rest is by the theorem.
  · obtain ⟨before, name, entries, _, rfl, hdeclared, hentries, -⟩ := hmodels 1 _ rfl
    exact ⟨before, name, entries, hdeclared, hentries.keys.trans (by decide +kernel)⟩
  · obtain ⟨before, name, members, _, rfl, hdeclared, hmembers, -⟩ := henums 2 _ rfl
    exact ⟨before, name, members, hdeclared, hmembers.identifiers.trans (by decide +kernel)⟩

end StateTree
