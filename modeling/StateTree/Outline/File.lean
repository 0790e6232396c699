import StateTree.Outline.Converter

/-!
# `StateTree.Outline.File`: outlines as files

- `Outline.Declaration.source`: a declaration with its names and expressions written out.
- `Outline.file`: the file of an outline.
- `generate`: the text of a graph's file.
-/

set_option autoImplicit false

namespace StateTree

open StateTree.Expr (Vocabulary)
open StateTree.Graph (TypeGraph)
open StateTree.Naming (TypeNames)

namespace Outline

/-- The text of an expression. -/
def exprText (vocabulary : Vocabulary) (names : TypeNames) (expr : Expr) :
    Except Naming.Error String :=
  (expr.word vocabulary).render names.names

/-- The text of a property's type, which may be missing where the property is optional. -/
def Property.value (vocabulary : Vocabulary) (optional : Bool) (text : String) : String :=
  if optional then vocabulary.member "maybe" ++ "(" ++ text ++ ")" else text

/-- A property with its expression written out. -/
def Property.source (vocabulary : Vocabulary) (names : TypeNames) (property : Property) :
    Except Naming.Error Source.ModelProperty :=
  (exprText vocabulary names property.expr).map fun text =>
    ⟨property.key, Property.value vocabulary property.optional text, property.doc⟩

/-- A declaration with its names and expressions written out. Nothing in it is a handle any more,
and it can be rendered without looking anything up. -/
def Declaration.source (vocabulary : Vocabulary) (names : TypeNames) (declaration : Declaration) :
    Except Naming.Error Source.Declaration := do
  let name ← names.resolve declaration.name
  match declaration.body with
  | .model properties =>
    let properties ← properties.mapM (Property.source vocabulary names)
    return .model name (vocabulary.member "model") declaration.doc properties
  | .enumeration members =>
    return .enumeration name declaration.doc
      (members.map fun member => (member.1, Text.escape member.2))
  | .constant expr =>
    let text ← exprText vocabulary names expr
    return .constant name text declaration.doc

/-- A type to convert under its identifier. -/
def Target.client (names : TypeNames) (target : Target) : Except Naming.Error Client :=
  (names.resolve target.name).map fun name => ⟨name, target.isEnum⟩

/-- The import of the object that builds types. -/
def typesImport (vocabulary : Vocabulary) : Source.Import where
  module := vocabulary.module
  bindings := [vocabulary.root]

/-- The import of helper types, which come from the library whatever the module of the types is. -/
def helpersImport (helpers : List String) : Source.Import where
  module := Expr.standardModule
  bindings := helpers
  typeOnly := true

/-- The file of an outline. The converter class and its header are there if there is a type to
convert. -/
def file (profile : Profile) (names : TypeNames) (outline : Outline) :
    Except Naming.Error Source.File := do
  let declared ← outline.declarations.mapM (Declaration.source profile.vocabulary names)
  let aliased ← outline.aliases.mapM (Declaration.source profile.vocabulary names)
  let clients ← outline.targets.mapM (Target.client names)
  let checks := profile.settings.runtimeChecks
  let items := declared ++ aliased
  if clients.isEmpty then
    return .ofParts [typesImport profile.vocabulary] [] (items.map Source.Declaration.fragments)
  else
    let methods := clients.flatMap fun client => client.methods checks
    return .ofParts
      [typesImport profile.vocabulary, helpersImport (allHelpers clients checks)]
      (usage clients checks)
      ((items ++ [Source.Declaration.converter methods]).map Source.Declaration.fragments)

end Outline

/-- The file of a graph. -/
def generateFile (profile : Profile) (graph : TypeGraph) : Except Naming.Error Source.File := do
  let names ← TypeNames.assign graph profile.settings.declareUnions profile.settings.acronyms
  let outline ← Outline.ofGraph profile graph names
  outline.file profile names

/-- The text of a graph's file. -/
def generate (profile : Profile) (graph : TypeGraph) : Except Naming.Error String :=
  (generateFile profile graph).map fun file => file.render

/-- The lines of a graph's file. -/
def generateLines (profile : Profile) (graph : TypeGraph) : Except Naming.Error (List String) :=
  (generate profile graph).map Text.lines

end StateTree
