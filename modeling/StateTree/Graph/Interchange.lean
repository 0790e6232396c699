import StateTree.Graph.TypeGraph
import StateTree.Json.Reader
import StateTree.Text.Position

/-!
# `StateTree.Graph.Interchange`: type graphs as interchange texts

An interchange text has an entry for each node and the entry points. An entry names its kind and
has optional fields, of which the kind requires some.

- `Entry`, `Entry.toNode`: an entry, and its node unless a required field is missing or an enum
  repeats a case.
- `load`: the graph of entries and entry points, or the first problem: those of single entries in
  their order, then the structural ones.
- `read`: the graph of a text.
-/

set_option autoImplicit false

namespace StateTree.Graph.Interchange

open StateTree.Json (Value required defaulted optional)

/-- The kinds of entries. -/
inductive EntryKind where
  | plain (type : Primitive)
  | array | object | map | enumeration | union
  /-- A text with a format, which is a field of its own. -/
  | formatted
  deriving DecidableEq, Repr

namespace EntryKind

/-- The word for a kind of entry. -/
def text : EntryKind → String
  | plain type => type.name
  | array => "array"
  | object => "class"
  | map => "map"
  | enumeration => "enum"
  | union => "union"
  | formatted => "transformed"

/-- The kind with the given word. Classes have two. -/
def ofText? : String → Option EntryKind
  | "any" => some (plain .any)
  | "null" => some (plain .null)
  | "bool" => some (plain .bool)
  | "integer" => some (plain .integer)
  | "double" => some (plain .double)
  | "string" => some (plain .string)
  | "array" => some array
  | "class" => some object
  | "object" => some object
  | "map" => some map
  | "enum" => some enumeration
  | "union" => some union
  | "transformed" => some formatted
  | _ => none

end EntryKind

/-- The entry of a node. A field that the kind does not use is ignored, and one that it needs may
be missing, which is a defect. -/
structure Entry where
  kind : EntryKind
  names : List String := []
  inferredName : Bool := false
  description : Option String := none
  items : Option TypeId := none
  values : Option TypeId := none
  properties : Option (Keyed Property) := none
  cases : Option (List String) := none
  members : Option (List TypeId) := none
  format : Option StringFormat := none

namespace Entry

/-- A field that the kind of the entry requires. -/
def need {α : Type} (entry : Entry) (id : TypeId) (field : String) (value : Option α) :
    Except Defect α :=
  match value with
  | some value => .ok value
  | none => .error (.missingField id entry.kind.text field)

/-- The shape that the entry of a node describes. The position is for the defects only. -/
def shape (entry : Entry) (id : TypeId) : Except Defect Kind :=
  match entry.kind with
  | .plain type => .ok (.primitive type)
  | .array => (entry.need id "items" entry.items).map .array
  | .map => (entry.need id "values" entry.values).map .map
  | .object => .ok (.object (entry.properties.getD {}))
  | .enumeration => do
    let cases ← entry.need id "cases" entry.cases
    match firstRepeated? cases with
    | some value => .error (.duplicateCase id value)
    | none => .ok (.enumeration (Distinct.ofList cases))
  | .union => (entry.need id "members" entry.members).map .union
  | .formatted =>
    (entry.need id "format" entry.format).map fun format => .primitive (.formatted format)

/-- The node that the entry at a position describes. -/
def toNode (entry : Entry) (id : TypeId) : Except Defect Node :=
  (entry.shape id).map fun kind =>
    { kind := kind, names := entry.names, inferred := entry.inferredName
      description := entry.description }

end Entry

/-- The nodes of entries that stand at the positions from `id` up. The first entry with a defect
decides, so defects of later ones are not seen. -/
def nodesFrom (id : TypeId) : List Entry → Except Defect (List Node)
  | [] => .ok []
  | entry :: rest => do
    let node ← entry.toNode id
    let nodes ← nodesFrom (id + 1) rest
    return node :: nodes

/-- The graph of entries and entry points. -/
def load (entries : List Entry) (topLevels : List TopLevel) : Except Defect TypeGraph := do
  let nodes ← nodesFrom 0 entries
  TypeGraph.ofParts nodes topLevels

/-! ### Decoding -/

/-- Decodes an entry point. -/
def topLevel? (value : Value) : Option TopLevel := do
  let fields ← value.record? ["name", "type"]
  return { name := ← required fields "name" Value.text?
           type := ← required fields "type" Value.nat32? }

/-- Decodes a property. -/
def property? (value : Value) : Option Property := do
  let fields ← value.record? ["type", "optional", "description"]
  return { type := ← required fields "type" Value.nat32?
           optional := ← defaulted fields "optional" Value.bool? false
           description := ← optional fields "description" Value.text? }

/-- Decodes the properties of a class. Of a repeated name the last property counts, at the first
place. -/
def properties? : Value → Option (Keyed Property)
  | .object members =>
    (members.mapM fun member => (property? member.2).map (member.1, ·)).map Keyed.ofList
  | _ => none

/-- Decodes the kind of an entry. -/
def entryKind? (value : Value) : Option EntryKind :=
  value.variant?.bind EntryKind.ofText?

/-- Decodes a format. -/
def format? (value : Value) : Option StringFormat :=
  value.variant?.bind StringFormat.ofText?

/-- Decodes an entry. A field that is not known makes it no entry. -/
def entry? (value : Value) : Option Entry := do
  let fields ← value.record? ["kind", "names", "inferredName", "description", "items", "values",
    "properties", "cases", "members", "format"]
  return { kind := ← required fields "kind" entryKind?
           names := ← defaulted fields "names" (Value.list? Value.text?) []
           inferredName := ← defaulted fields "inferredName" Value.bool? false
           description := ← optional fields "description" Value.text?
           items := ← optional fields "items" Value.nat32?
           values := ← optional fields "values" Value.nat32?
           properties := ← optional fields "properties" properties?
           cases := ← optional fields "cases" (Value.list? Value.text?)
           members := ← optional fields "members" (Value.list? Value.nat32?)
           format := ← optional fields "format" format? }

/-- Decodes a graph into its entries and entry points. -/
def document? (value : Value) : Option (List Entry × List TopLevel) := do
  let fields ← value.record? ["topLevels", "types"]
  let topLevels ← defaulted fields "topLevels" (Value.list? topLevel?) []
  let entries ← required fields "types" (Value.list? entry?)
  return (entries, topLevels)

/-! ### Reading -/

/-- A place in a text: where it begins and how long it is, in bytes. -/
structure Span where
  offset : Nat
  length : Nat
  deriving DecidableEq, Repr

/-- Why a graph could not be loaded. Only the last is about a graph; the first two are about its
file and its text. -/
inductive LoadError where
  /-- The file cannot be read. -/
  | unreadable (path : String)
  /-- The text is no interchange text. -/
  | malformed
  /-- The text describes no graph; where it names the trouble, that place is given. -/
  | invalid (defect : Defect) (span : Option Span)
  deriving DecidableEq, Repr

namespace LoadError

/-- The message of an error. -/
def message : LoadError → String
  | unreadable path => s!"failed to read '{path}'"
  | malformed => "failed to parse type graph"
  | invalid defect _ => defect.message

/-- The code of an error, if it has one. -/
def code? : LoadError → Option String
  | unreadable _ => none
  | malformed => some "mstgen::parse_error"
  | invalid _ _ => some "mstgen::invalid_graph"

end LoadError

/-- The name or case that a defect is about, if it is about one. -/
def subject? : Defect → Option String
  | .duplicateTopLevel name => some name
  | .danglingTopLevel name _ => some name
  | .duplicateCase _ value => some value
  | _ => none

/-- The first place in a text where the subject of a defect stands between quotes. -/
def locate (src : String) (defect : Defect) : Option Span := do
  let quoted := '"' :: (← subject? defect).toList ++ ['"']
  let offset ← Text.findOffset? quoted src.toList
  return ⟨offset, Text.byteLength quoted⟩

/-- The place of a complaint about a line and column of a text: no longer than a point. -/
def pointSpan (src : String) (line column : Nat) : Option Span :=
  (Text.lineColumnOffset? src.toList line column).map fun offset => ⟨offset, 0⟩

/-- The graph of an interchange text. -/
def read (src : String) : Except LoadError TypeGraph :=
  match (Json.parse? src).bind document? with
  | none => .error .malformed
  | some (entries, topLevels) =>
    (load entries topLevels).mapError fun defect => .invalid defect (locate src defect)

end StateTree.Graph.Interchange
