import StateTree.Graph.TypeGraph
import StateTree.Naming.Error

/-!
# `StateTree.Naming.TypeNames`: the names of everything a file declares

Entry points come first: an entry point whose type is a class, enum or union hands its name to that
type, any other gets a name of its own. Then come the classes, the enums and, where unions are
declared, the unions that have proposed names.

- `TypeNames.assign`: all names, or the first class or enum without a proposed name.
- `TypeNames.typeName?`, `TypeNames.topLevelName?`: the names of types and of entry points.
-/

set_option autoImplicit false

namespace StateTree.Naming

open StateTree.Graph (Kind Node TopLevel TypeGraph TypeId kindAt)
open StateTree.Text (AcronymStyle)

/-- What a name in the scope of a file belongs to. An entry point of a class, an enum or a union
has no key of its own, since it shares the name of its type. -/
inductive NameKey where
  /-- A class, an enum or a union. -/
  | type (id : TypeId)
  /-- The entry point at a position, its type being of another kind. -/
  | topLevel (index : Nat)
  deriving DecidableEq, Repr

/-! ### Ranks: lower ranks choose their names first -/

/-- The rank of names that are given and not inferred. -/
def givenRank : Nat := 10

/-- The rank of the names of entry points. -/
def topLevelRank : Nat := 100

/-- The rank of inferred names by the kind of type. Other kinds get no name; a union gets one only
where unions are declared. -/
def kindRank? (declareUnions : Bool) : Kind → Option Nat
  | .object _ => some 10
  | .enumeration _ => some 5
  | .union _ => if declareUnions then some 30 else none
  | _ => none

/-- The key of an entry point at a position. -/
def topLevelKey (nodes : List Node) (index : Nat) (top : TopLevel) : NameKey :=
  if (kindAt nodes top.type).isNamed then .type top.type else .topLevel index

/-- Requests the names of entry points that stand at the positions from `index` up. They come
before those of types, and the first request for a key is the one that stays. So a type that is an
entry point goes by the name of the entry point. -/
def internTopLevels (nodes : List Node) (registry : Registry NameKey) (index : Nat) :
    List TopLevel → Registry NameKey
  | [] => registry
  | top :: rest =>
    let (_, registry) := registry.intern (topLevelKey nodes index top) [top.name] topLevelRank
    internTopLevels nodes registry (index + 1) rest

/-- Requests the name of a type, unless it has one or needs none. A union without proposals stays
without a name. -/
def internNode (declareUnions : Bool) (registry : Registry NameKey) (id : TypeId) (node : Node) :
    Except Error (Registry NameKey) :=
  match kindRank? declareUnions node.kind with
  | none => .ok registry
  | some rank =>
    if (registry.get? (.type id)).isSome then .ok registry
    else
      match node.names with
      | [] =>
        -- A union without a name is written out wherever it is used.
        if node.kind.isUnion then .ok registry else .error (.unnamed id node.kind.name)
      | names =>
        let (_, registry) :=
          registry.intern (.type id) names (if node.inferred then rank else givenRank)
        .ok registry

/-- Requests the names of types that stand at the positions from `id` up. It ends at the first
type that needs a name and has none. -/
def internNodes (declareUnions : Bool) (registry : Registry NameKey) (id : TypeId) :
    List Node → Except Error (Registry NameKey)
  | [] => .ok registry
  | node :: rest =>
    match internNode declareUnions registry id node with
    | .error error => .error error
    | .ok registry => internNodes declareUnions registry (id + 1) rest

/-- The requests of a file and their names. -/
structure TypeNames where
  registry : Registry NameKey
  names : Names

namespace TypeNames

/-- The names of everything that a graph's file declares. -/
def assign (graph : TypeGraph) (declareUnions : Bool) (acronyms : AcronymStyle) :
    Except Error TypeNames :=
  (internNodes declareUnions (internTopLevels graph.nodes {} 0 graph.topLevels) 0
    graph.nodes).map fun registry => ⟨registry, registry.assign .typeName acronyms⟩

/-- The name of a class, an enum or a union that has one. -/
def typeName? (names : TypeNames) (id : TypeId) : Option NameId :=
  names.registry.get? (.type id)

/-- The name of the entry point at a position. -/
def topLevelName? (names : TypeNames) (graph : TypeGraph) (index : Nat) : Option NameId :=
  (graph.topLevels[index]?).bind fun top =>
    names.registry.get? (topLevelKey graph.nodes index top)

/-- The identifier of a name. -/
def resolve (names : TypeNames) (id : NameId) : Except Error String :=
  match names.names.resolve? id with
  | some name => .ok name
  | none => .error (.unresolved id)

end TypeNames

/-! ### Names inside one declaration -/

/-- Names for the members of one declaration, in order, from one proposal each. -/
def memberNames (convention : Convention) (acronyms : AcronymStyle) (proposals : List String) :
    List String :=
  (assignFrom convention.reserved
    (proposals.zipIdx.map fun (proposal, i) =>
      (⟨i⟩, [convention.apply acronyms proposal]))).map Prod.snd

/-- Identifiers for the cases of an enum. -/
def enumCaseNames (acronyms : AcronymStyle) (cases : List String) : List String :=
  memberNames .enumCase acronyms cases

/-- Identifiers for the properties of a class in camel case. -/
def nicePropertyNames (acronyms : AcronymStyle) (properties : List String) : List String :=
  memberNames .property acronyms properties

end StateTree.Naming
