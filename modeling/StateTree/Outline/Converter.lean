import StateTree.Outline.Basic
import StateTree.Source.File

/-!
# `StateTree.Outline.Converter`: the methods that convert data

A file may have a class with two methods for each of some types: one reads the type from its
serialised form, the other writes it. A header shows how to call them.

- `decoderName`, `encoderName`: the names of the two methods.
- `Client.methods`, `Client.helpers`: the methods of a type and the helper types in their
  signatures.
- `usage`: the header.
-/

set_option autoImplicit false

namespace StateTree.Outline

open StateTree.Source (Method)
open StateTree.Text (AcronymStyle camelCase)

/-- The method that reads a type. -/
def decoderName (name : String) : String :=
  "to" ++ name

/-- The method that writes a type. -/
def encoderName (name : String) : String :=
  camelCase .asGiven name ++ "ToJson"

/-- A type to convert under its identifier. -/
structure Client where
  name : String
  isEnum : Bool

namespace Client

/-- The types of decoded and of encoded values. An enum stands for its values. -/
def types (client : Client) (runtimeChecks : Bool) : String × String :=
  if client.isEnum then (client.name, client.name)
  else if runtimeChecks then
    ("Instance<typeof " ++ client.name ++ ">", "Instance<typeof " ++ client.name ++ ">")
  else ("SnapshotIn<typeof " ++ client.name ++ ">", "SnapshotOut<typeof " ++ client.name ++ ">")

/-- The helper types in the signatures of the methods. -/
def helpers (client : Client) (runtimeChecks : Bool) : List String :=
  if client.isEnum then []
  else if runtimeChecks then ["Instance"]
  else ["SnapshotIn", "SnapshotOut"]

/-- The statement that reads a value. Values of enums are texts, so there is nothing to check. -/
def decode (client : Client) (runtimeChecks : Bool) : String :=
  if runtimeChecks && !client.isEnum then
    "return " ++ client.name ++ ".create(JSON.parse(json));"
  else "return JSON.parse(json);"

/-- The two methods of a type. One reads a text and one writes a value; their names and the types
in them come from the name of the type. -/
def methods (client : Client) (runtimeChecks : Bool) : List Method :=
  let (decoded, encoded) := client.types runtimeChecks
  [{ name := decoderName client.name, param := "json", paramType := "string", returns := decoded,
     body := [client.decode runtimeChecks] },
   { name := encoderName client.name, param := "value", paramType := encoded, returns := "string",
     body := ["return JSON.stringify(value);"] }]

end Client

/-- The helper types in the signatures of all methods, in alphabetical order. -/
def allHelpers (clients : List Client) (runtimeChecks : Bool) : List String :=
  ["Instance", "SnapshotIn", "SnapshotOut"].filter fun helper =>
    clients.any fun client => (client.helpers runtimeChecks).contains helper

/-- The lines of the header that shows how to call the methods. -/
def usage (clients : List Client) (runtimeChecks : Bool) : List String :=
  ["To parse this data:", "",
    "  import \x7b Convert, " ++ ", ".intercalate (clients.map Client.name)
      ++ " \x7d from \"./file\";", ""]
  ++ clients.map (fun client =>
    "  const " ++ camelCase .asGiven client.name ++ " = Convert." ++ decoderName client.name
      ++ "(json);")
  ++ if runtimeChecks then
      ["", "These functions will throw an error if the JSON doesn't",
        "match the expected interface, even if the JSON is valid."]
    else []

end StateTree.Outline
