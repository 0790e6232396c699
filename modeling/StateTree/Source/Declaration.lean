import StateTree.Layout.Buffer

/-!
# `StateTree.Source.Declaration`: declarations of the generated language

Every text in a declaration is written as it is given; keys, literals and names are made ready
before.

- `Declaration.fragments`: the lines of a declaration.
- `Import.fragment`: the line of an import.
-/

set_option autoImplicit false

namespace StateTree.Source

open StateTree.Layout (Fragment)

/-- An import of names from a module. -/
structure Import where
  module : String
  bindings : List String := []
  /-- Whether only types are imported. -/
  typeOnly : Bool := false

namespace Import

/-- Whether nothing is imported by name. -/
def isEmpty (imported : Import) : Bool :=
  imported.bindings.isEmpty

/-- The statement of an import. Without bindings it loads the module and nothing else. -/
def statement (imported : Import) : String :=
  if imported.isEmpty then "import \"" ++ imported.module ++ "\";"
  else
    "import " ++ (if imported.typeOnly then "type " else "") ++ "\x7b "
      ++ ", ".intercalate imported.bindings ++ " \x7d from \"" ++ imported.module ++ "\";"

/-- The line of an import. -/
def fragment (imported : Import) : Fragment :=
  .line imported.statement

end Import

/-- A property of a model: a key made ready, and the text of its type. -/
structure ModelProperty where
  key : String
  value : String
  doc : Option String := none

/-- A method of the converter class, with one parameter. -/
structure Method where
  name : String
  param : String := ""
  paramType : String := ""
  returns : String := ""
  body : List String := []

/-- A declaration of a file, with all texts ready to be written. How they are laid out is the
matter of `Declaration.fragments`. -/
inductive Declaration where
  /-- A model under its name, built by a factory. -/
  | model (name factory : String) (doc : Option String) (properties : List ModelProperty)
  /-- An enum with its members and their values. -/
  | enumeration (name : String) (doc : Option String) (members : List (String × String))
  | constant (name value : String) (doc : Option String)
  /-- The class of converter methods. -/
  | converter (methods : List Method)

/-- The lines of a property. -/
def ModelProperty.fragments (property : ModelProperty) : List Fragment :=
  Fragment.docOf? property.doc ++ [.line (property.key ++ ": " ++ property.value ++ ",")]

/-- The lines of a method. -/
def Method.fragment (method : Method) : Fragment :=
  .block
    ("public static " ++ method.name ++ "(" ++ method.param ++ ": " ++ method.paramType ++ "): "
      ++ method.returns ++ " \x7b")
    (method.body.map .line) (some "\x7d")

/-- The lines of the methods, with blank lines between them. -/
def Method.fragments : List Method → List Fragment
  | [] => []
  | [method] => [method.fragment]
  | method :: rest => method.fragment :: .blank :: fragments rest

/-- The line of an enum member. -/
def memberLine (member : String × String) : Fragment :=
  .line (member.1 ++ " = \"" ++ member.2 ++ "\",")

/-- The opening of a model. -/
def modelHead (name factory : String) : String :=
  "export const " ++ name ++ " = " ++ factory ++ "(\"" ++ name ++ "\", \x7b"

/-- The lines of a declaration. A model without properties is on one line. -/
def Declaration.fragments : Declaration → List Fragment
  | model name factory doc properties =>
    Fragment.docOf? doc ++
      [if properties.isEmpty then .line (modelHead name factory ++ "\x7d);")
        else .block (modelHead name factory) (properties.flatMap ModelProperty.fragments)
          (some "\x7d);")]
  | enumeration name doc members =>
    Fragment.docOf? doc ++
      [.block ("export enum " ++ name ++ " \x7b") (members.map memberLine) (some "\x7d")]
  | constant name value doc =>
    Fragment.docOf? doc ++ [.line ("export const " ++ name ++ " = " ++ value ++ ";")]
  | converter methods =>
    [.block "export class Convert \x7b" (Method.fragments methods) (some "\x7d")]

end StateTree.Source
