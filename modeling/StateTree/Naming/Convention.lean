import StateTree.Identifier
import StateTree.Text.CaseStyle

/-!
# `StateTree.Naming.Convention`: how proposals become identifiers

A naming convention belongs to one kind of name. It styles a proposed name, keeps the result from
being empty or from starting as no identifier may, and lists the words that it never gives away.

- `Convention.apply`: the identifier of a proposal, reserved or not.
- `Convention.typeName`, `Convention.enumCase`, `Convention.property`: the three conventions of
  the generated files.
-/

set_option autoImplicit false

namespace StateTree.Naming

open StateTree.Text (AcronymStyle pascalCase camelCase)

/-- The rules of one kind of name. Words that are reserved are passed over like names that are
taken. -/
structure Convention where
  /-- The form that proposals take. -/
  style : AcronymStyle → String → String
  /-- The words that are never assigned. -/
  reserved : List String
  /-- The name of a proposal whose styled form is empty. -/
  whenEmpty : String
  /-- What goes in front of a styled form that does not begin like an identifier. -/
  lead : String

namespace Convention

/-- Whether a name is one of the reserved words. -/
def isReserved (convention : Convention) (name : String) : Bool :=
  convention.reserved.contains name

/-- The identifier of a proposal, not held against the reserved words. -/
def apply (convention : Convention) (acronyms : AcronymStyle) (proposal : String) : String :=
  let styled := convention.style acronyms proposal
  match styled.toList with
  | [] => convention.whenEmpty
  | c :: _ => if isIdentifierStart c then styled else convention.lead ++ styled

/-- Words that a generated module must not declare: the words of the language, the globals it
relies on, and the names it declares or imports itself. -/
def moduleReserved : List String := [
  "break", "case", "catch", "class", "const", "continue", "debugger", "default", "delete", "do",
  "else", "enum", "export", "extends", "false", "finally", "for", "function", "if", "import", "in",
  "instanceof", "let", "new", "null", "return", "super", "switch", "this", "throw", "true", "try",
  "typeof", "var", "void", "while", "with", "yield",
  "any", "as", "async", "await", "boolean", "constructor", "declare", "get", "implements",
  "interface", "module", "namespace", "never", "number", "object", "package", "private",
  "protected", "public", "readonly", "require", "set", "static", "string", "symbol", "type",
  "undefined", "unknown",
  "Object", "JSON", "Date", "Array", "String", "Number", "Boolean", "Error", "Map", "Symbol",
  "Promise",
  "types", "Convert", "Instance", "SnapshotIn", "SnapshotOut"]

/-- Names of declared types. -/
def typeName : Convention :=
  { style := pascalCase, reserved := moduleReserved, whenEmpty := "Empty", lead := "The" }

/-- Names of enum members, which live in the scope of their enum and may be any word. -/
def enumCase : Convention :=
  { style := pascalCase, reserved := [], whenEmpty := "Empty", lead := "The" }

/-- Names of properties that are not kept as they stand in the source. -/
def property : Convention :=
  { style := camelCase, reserved := [], whenEmpty := "empty", lead := "the" }

end Convention

end StateTree.Naming
