import StateTree.Keyed

/-!
# `StateTree.Graph.Basic`: the nodes of a type graph

A type graph describes the types of some data. A node refers to other nodes by their position.

- `Primitive`, `Kind`: the shape of a node, with the nodes it refers to (`Kind.children`) and those
  among them that are written inside its own expression (`Kind.inlined`).
- `Node`, `TopLevel`: a shape with its proposed names and description, and an entry point.
- `kindAt`: the shape at a position.
-/

set_option autoImplicit false

namespace StateTree.Graph

/-- A type is known by its position in the graph. Positions are numbers without a bound here,
which makes no difference to positions that are kept in 32 bits as long as a graph has fewer than
`2 ^ 32` nodes. -/
abbrev TypeId := Nat

/-- The text of a type's position in messages. -/
def TypeId.text (id : TypeId) : String :=
  "#" ++ toString id

/-- Formats of texts that carry more than text. -/
inductive StringFormat where
  | dateTime | date | time | uuid | uri | integerString | boolString
  deriving DecidableEq, Repr

namespace StringFormat

/-- The spelling of a format. -/
def text : StringFormat → String
  | dateTime => "date-time"
  | date => "date"
  | time => "time"
  | uuid => "uuid"
  | uri => "uri"
  | integerString => "integer-string"
  | boolString => "bool-string"

/-- The format with the given spelling. -/
def ofText? : String → Option StringFormat
  | "date-time" => some dateTime
  | "date" => some date
  | "time" => some time
  | "uuid" => some uuid
  | "uri" => some uri
  | "integer-string" => some integerString
  | "bool-string" => some boolString
  | _ => none

/-- Reads a format; the error is the complaint. -/
def parse (s : String) : Except String StringFormat :=
  match ofText? s with
  | some format => .ok format
  | none => .error s!"unknown string format '{s}'"

end StringFormat

/-- A property of a class. -/
structure Property where
  type : TypeId
  optional : Bool := false
  description : Option String := none

/-- The types without parts. A text with a format is one of them, so a format is no type of its
own. -/
inductive Primitive where
  | any
  | null
  | bool
  | integer
  | double
  | string
  | formatted (format : StringFormat)
  deriving DecidableEq, Repr

/-- The word for a primitive type in messages and listings. -/
def Primitive.name : Primitive → String
  | any => "any"
  | null => "null"
  | bool => "bool"
  | integer => "integer"
  | double => "double"
  | string => "string"
  | formatted format => format.text

/-- The shape of a type. What it is made of is given by positions among the nodes of the graph, so
types can refer to each other in circles. -/
inductive Kind where
  | primitive (type : Primitive)
  | array (items : TypeId)
  /-- Values under arbitrary texts. -/
  | map (values : TypeId)
  /-- A class: values under fixed names. -/
  | object (properties : Keyed Property)
  /-- An enum: one of a few texts. -/
  | enumeration (cases : Distinct)
  | union (members : List TypeId)

namespace Kind

/-- The word for a kind in messages and listings. -/
def name : Kind → String
  | primitive type => type.name
  | array _ => "array"
  | map _ => "map"
  | object _ => "class"
  | enumeration _ => "enum"
  | union _ => "union"

/-- The primitive type that a kind is, if it is one. -/
def primitive? : Kind → Option Primitive
  | primitive type => some type
  | _ => none

/-- Whether a kind is a class. -/
def isClass : Kind → Bool
  | object _ => true
  | _ => false

/-- Whether a kind is an enum. -/
def isEnum : Kind → Bool
  | enumeration _ => true
  | _ => false

/-- Whether a kind is a union. -/
def isUnion : Kind → Bool
  | union _ => true
  | _ => false

/-- Whether a kind takes part in naming: classes, enums and unions do. -/
def isNamed (kind : Kind) : Bool :=
  kind.isClass || kind.isEnum || kind.isUnion

/-- The types that a kind refers to, in order. The order is the one in which the types are visited
when they are put in order. -/
def children : Kind → List TypeId
  | array items => [items]
  | map values => [values]
  | object properties => properties.values.map Property.type
  | union members => members
  | _ => []

/-- The types that are written inside an expression of this kind. A class is referred to by its
name, so nothing is written inside it. -/
def inlined : Kind → List TypeId
  | object _ => []
  | kind => kind.children

end Kind

/-- A type: its shape, the names proposed for it and its description. The names are proposals, and
none of them may be the one that is assigned. -/
structure Node where
  kind : Kind
  names : List String := []
  /-- Whether the names were inferred from property names instead of given. -/
  inferred : Bool := false
  description : Option String := none

/-- An entry point into the graph. -/
structure TopLevel where
  name : String
  type : TypeId

/-- The shape at a position; past the end it is the opaque one. -/
def kindAt (nodes : List Node) (id : TypeId) : Kind :=
  match nodes[id]? with
  | some node => node.kind
  | none => .primitive .any

end StateTree.Graph
