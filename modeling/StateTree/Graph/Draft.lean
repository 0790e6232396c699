import StateTree.Graph.TypeGraph

/-!
# `StateTree.Graph.Draft`: graphs under construction

Nodes are added one by one and referred to by their positions. A class is added without properties
and filled in later, so that types may refer to it before. The first misuse of a draft is kept and
reported when the draft is finished.

- `Draft.add`, `Draft.addClass`, `Draft.addEnum`: new nodes.
- `Draft.property`, `Draft.describeProperty`, `Draft.describe`, `Draft.rename`, `Draft.topLevel`:
  what is said about the nodes.
- `Draft.finish`: the graph of a draft, or the first misuse, or the first defect.
-/

set_option autoImplicit false

namespace StateTree.Graph

/-- Nodes and entry points so far, and the first misuse. -/
structure Draft where
  nodes : List Node := []
  topLevels : List TopLevel := []
  misuse : Option Defect := none

namespace Draft

/-- The position of the next node. -/
def nextId (draft : Draft) : TypeId :=
  draft.nodes.length

/-- Keeps a misuse if it is the first. -/
def record (draft : Draft) (defect : Defect) : Draft :=
  { draft with misuse := draft.misuse <|> some defect }

/-- Adds a node. -/
def addNode (draft : Draft) (node : Node) : TypeId × Draft :=
  (draft.nextId, { draft with nodes := draft.nodes ++ [node] })

/-- Adds a node without a name. -/
def add (draft : Draft) (kind : Kind) : TypeId × Draft :=
  draft.addNode { kind := kind }

/-- Adds a class without properties under a name. -/
def addClass (draft : Draft) (name : String) : TypeId × Draft :=
  draft.addNode { kind := .object {}, names := [name] }

/-- Adds an enum under a name. A case that comes twice is a misuse, which is recorded; the enum is
added all the same, with the case once. -/
def addEnum (draft : Draft) (name : String) (cases : List String) : TypeId × Draft :=
  let checked :=
    match firstRepeated? cases with
    | some value => draft.record (.duplicateCase draft.nextId value)
    | none => draft
  checked.addNode { kind := .enumeration (Distinct.ofList cases), names := [name] }

/-- Changes the node at a position, if there is one. -/
def modifyNode (draft : Draft) (id : TypeId) (f : Node → Node) : Draft :=
  { draft with nodes := draft.nodes.modify id f }

/-- Changes the properties of a class. Any other type is a misuse. -/
def modifyProperties (draft : Draft) (id : TypeId) (f : Keyed Property → Keyed Property) : Draft :=
  match kindAt draft.nodes id with
  | .object properties =>
    draft.modifyNode id fun node => { node with kind := .object (f properties) }
  | _ => draft.record (.notAClass id)

/-- Puts a property into a class. A known name keeps its place and gets the new type. -/
def property (draft : Draft) (id : TypeId) (name : String) (type : TypeId) (optional : Bool) :
    Draft :=
  draft.modifyProperties id fun properties =>
    properties.insert name { type := type, optional := optional }

/-- Describes a property of a class, if the class has it. -/
def describeProperty (draft : Draft) (id : TypeId) (name text : String) : Draft :=
  draft.modifyProperties id fun properties =>
    properties.update name fun property => { property with description := some text }

/-- Describes a type. -/
def describe (draft : Draft) (id : TypeId) (text : String) : Draft :=
  draft.modifyNode id fun node => { node with description := some text }

/-- Replaces the proposed names of a type. -/
def rename (draft : Draft) (id : TypeId) (names : List String) (inferred : Bool) : Draft :=
  draft.modifyNode id fun node => { node with names := names, inferred := inferred }

/-- Adds an entry point. -/
def topLevel (draft : Draft) (name : String) (type : TypeId) : Draft :=
  { draft with topLevels := draft.topLevels ++ [⟨name, type⟩] }

/-- The graph of a draft, unless it was misused or has a defect. -/
def finish (draft : Draft) : Except Defect TypeGraph :=
  match draft.misuse with
  | some defect => .error defect
  | none => TypeGraph.ofParts draft.nodes draft.topLevels

end Draft

end StateTree.Graph
