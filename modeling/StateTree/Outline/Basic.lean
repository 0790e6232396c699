import StateTree.Expr.Translate
import StateTree.PropertyKey
import StateTree.Settings.Basic

/-!
# `StateTree.Outline.Basic`: what a generated file declares

An outline has the declarations of a file in the order in which they are written, with expressions
and handles of names instead of texts.

- `Profile`: the settings of a file with its vocabulary and its rules for keys.
- `Outline.Declaration`: a model, an enum or a constant.
- `Outline.ofGraph`: the outline of a graph's file. A declaration refers to the declarations before
  it by name; entry points whose type has no declaration get aliases after them.
-/

set_option autoImplicit false

namespace StateTree

open StateTree.Expr (Vocabulary translate unionExpression)
open StateTree.Graph
open StateTree.Naming (NameId TypeNames enumCaseNames nicePropertyNames)

/-- All that decides about a file besides its graph. -/
structure Profile where
  settings : Settings
  vocabulary : Vocabulary
  keys : KeyConvention := {}

/-- The profile of settings alone: the standard words, from the module that is chosen. -/
def Profile.ofSettings (settings : Settings) : Profile where
  settings := settings
  vocabulary := Vocabulary.standard.withModule settings.moduleReference

namespace Outline

/-- A property of a model: its key, made ready, and the expression of its type. The type itself is
kept for statements about the expression. -/
structure Property where
  key : String
  type : TypeId
  expr : Expr
  optional : Bool
  doc : Option String

/-- What a declaration declares. -/
inductive Body where
  | model (properties : List Property)
  /-- The identifiers of the members and the values that they stand for. -/
  | enumeration (members : List (String × String))
  | constant (expr : Expr)

/-- A declaration: the type that it is for, its name, its documentation and its body. -/
structure Declaration where
  type : TypeId
  name : NameId
  doc : Option String
  body : Body

/-- A type that converter methods are written for. -/
structure Target where
  name : NameId
  isEnum : Bool

/-- The keys of the properties of a class, in order. -/
def propertyKeys (profile : Profile) (names : List String) : List String :=
  match profile.settings.propertyNaming with
  | .asGiven => names.map profile.keys.key
  | .nice => (nicePropertyNames profile.settings.acronyms names).map profile.keys.key

/-- A property with its key. -/
def property (graph : TypeGraph) (names : TypeNames) (written : List TypeId)
    (source : Graph.Property × String) : Except Naming.Error Property :=
  (translate graph names written source.1.type).map fun expr =>
    ⟨source.2, source.1.type, expr, source.1.optional, source.1.description⟩

/-- The body of the declaration of a type. Types of other kinds have none, and are not asked for
one. -/
def body (profile : Profile) (graph : TypeGraph) (names : TypeNames) (written : List TypeId)
    (id : TypeId) : Except Naming.Error Body :=
  match graph.kind id with
  | .object properties =>
    ((properties.values.zip (propertyKeys profile properties.names)).mapM
      (property graph names written)).map .model
  | .enumeration cases =>
    .ok (.enumeration ((enumCaseNames profile.settings.acronyms cases.items).zip cases.items))
  | .union _ => (unionExpression graph names written id).map .constant
  | kind => .error (.unnamed id kind.name)

/-- The declaration of a type. -/
def declaration (profile : Profile) (graph : TypeGraph) (names : TypeNames)
    (written : List TypeId) (id : TypeId) : Except Naming.Error Declaration := do
  let name ← Expr.nameOf names id (graph.kind id)
  let body ← body profile graph names written id
  return ⟨id, name, graph.description? id, body⟩

/-- Whether a type stays without a declaration for want of a name. -/
def isAnonymousUnion (graph : TypeGraph) (names : TypeNames) (id : TypeId) : Bool :=
  (graph.kind id).isUnion && (names.typeName? id).isNone

/-- The declarations of types in order, given the types whose declarations are written before. A
union that has no name is passed over, and does not count as written. -/
def declareAll (profile : Profile) (graph : TypeGraph) (names : TypeNames) :
    List TypeId → List TypeId → Except Naming.Error (List Declaration)
  | _, [] => .ok []
  | written, id :: rest =>
    if isAnonymousUnion graph names id then declareAll profile graph names written rest
    else do
      let first ← declaration profile graph names written id
      let others ← declareAll profile graph names (id :: written) rest
      return first :: others

/-- The name of the entry point at a position. -/
def topLevelName (graph : TypeGraph) (names : TypeNames) (index : Nat) (top : TopLevel) :
    Except Naming.Error NameId :=
  match names.topLevelName? graph index with
  | some name => .ok name
  | none => .error (.unnamed top.type (graph.kind top.type).name)

/-- Constants for the entry points from the position `index` up whose type has no declaration, one
for each name that is not in `seen`. -/
def aliasAll (graph : TypeGraph) (names : TypeNames) (written : List TypeId) (seen : List NameId)
    (index : Nat) : List TopLevel → Except Naming.Error (List Declaration)
  | [] => .ok []
  | top :: rest =>
    -- The declaration of a type already stands under the name of its entry point.
    if top.type ∈ written then aliasAll graph names written seen (index + 1) rest
    else do
      let name ← topLevelName graph names index top
      if name ∈ seen then aliasAll graph names written seen (index + 1) rest
      else
        let expr ← translate graph names written top.type
        let others ← aliasAll graph names written (name :: seen) (index + 1) rest
        return ⟨top.type, name, graph.description? top.type, .constant expr⟩ :: others

/-- The names of the entry points from the position `index` up, with their types. Two entry points
can have one name. -/
def topLevelTargets (graph : TypeGraph) (names : TypeNames) (index : Nat) :
    List TopLevel → Except Naming.Error (List (NameId × TypeId))
  | [] => .ok []
  | top :: rest => do
    let name ← topLevelName graph names index top
    let others ← topLevelTargets graph names (index + 1) rest
    return (name, top.type) :: others

/-- The names of the classes among some types, with the types. -/
def classTargets (graph : TypeGraph) (names : TypeNames) (order : List TypeId) :
    List (NameId × TypeId) :=
  (order.filter fun id => (graph.kind id).isClass).filterMap fun id =>
    (names.typeName? id).map fun name => (name, id)

/-- The types that converter methods are written for, each name once. Of an enum the methods
differ, so it is marked as one. -/
def distinctTargets (graph : TypeGraph) (seen : List NameId) :
    List (NameId × TypeId) → List Target
  | [] => []
  | (name, id) :: rest =>
    if name ∈ seen then distinctTargets graph seen rest
    else ⟨name, (graph.kind id).isEnum⟩ :: distinctTargets graph (name :: seen) rest

/-- The types that converter methods are written for: none, those of the entry points, or all
classes in the order of their declarations. -/
def targetsOf (settings : Settings) (graph : TypeGraph) (names : TypeNames) (order : List TypeId) :
    Except Naming.Error (List Target) :=
  if settings.justTypes then .ok []
  else
    match settings.converters with
    | .topLevel =>
      (topLevelTargets graph names 0 graph.topLevels).map (distinctTargets graph [])
    | .allObjects => .ok (distinctTargets graph [] (classTargets graph names order))

end Outline

/-- What a generated file declares: the declarations of types, the aliases of entry points, and the
types to convert. -/
structure Outline where
  declarations : List Outline.Declaration
  aliases : List Outline.Declaration
  targets : List Outline.Target

/-- The outline of a graph's file. Declarations come first, then aliases for entry points whose
types have none of their own, and at the end the types to convert. -/
def Outline.ofGraph (profile : Profile) (graph : TypeGraph) (names : TypeNames) :
    Except Naming.Error Outline := do
  let order := graph.declarationOrder profile.settings.declareUnions
  let declarations ← declareAll profile graph names [] order
  let written := declarations.map Declaration.type
  let aliases ← aliasAll graph names written [] 0 graph.topLevels
  let targets ← targetsOf profile.settings graph names order
  return ⟨declarations, aliases, targets⟩

end StateTree
