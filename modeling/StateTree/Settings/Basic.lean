import StateTree.Expr.Vocabulary
import StateTree.Text.CaseStyle
import StateTree.Text.Lines

/-!
# `StateTree.Settings.Basic`: what can be chosen about a generated file

- `Settings`: seven choices, each with a default.
- `Settings.change`: changes one choice, given its key and its value as texts.
- `Settings.set`, `Settings.ofPairs`: the settings after such a change, and after a list of them to
  the defaults.
- `Settings.check`: refuses a blank module reference.
-/

set_option autoImplicit false

namespace StateTree

open StateTree.Text (AcronymStyle)

/-- What the keys of a model are. -/
inductive PropertyNaming where
  /-- The names of the source. -/
  | asGiven
  /-- Identifiers in camel case. -/
  | nice
  deriving DecidableEq, Repr

namespace PropertyNaming

/-- The spelling of a choice in settings. -/
def text : PropertyNaming → String
  | asGiven => "original"
  | nice => "nice"

/-- The choice with the given spelling. -/
def ofText? : String → Option PropertyNaming
  | "original" => some asGiven
  | "nice" => some nice
  | _ => none

/-- Reads a choice; the error is the complaint. -/
def parse (s : String) : Except String PropertyNaming :=
  match ofText? s with
  | some naming => .ok naming
  | none => .error s!"unknown property naming '{s}', expected 'original' or 'nice'"

end PropertyNaming

/-- Which types get methods that convert them. -/
inductive ConverterScope where
  /-- The types of entry points. -/
  | topLevel
  /-- All classes. -/
  | allObjects
  deriving DecidableEq, Repr

namespace ConverterScope

/-- The spelling of a choice in settings. -/
def text : ConverterScope → String
  | topLevel => "top-level"
  | allObjects => "all-objects"

/-- The choice with the given spelling. -/
def ofText? : String → Option ConverterScope
  | "top-level" => some topLevel
  | "all-objects" => some allObjects
  | _ => none

/-- Reads a choice; the error is the complaint. -/
def parse (s : String) : Except String ConverterScope :=
  match ofText? s with
  | some scope => .ok scope
  | none => .error s!"unknown converter scope '{s}', expected 'top-level' or 'all-objects'"

end ConverterScope

/-- What can be chosen about a generated file. Each choice has a default, so the settings of an
empty file are the defaults. -/
structure Settings where
  /-- Whether unions with names have declarations of their own. -/
  declareUnions : Bool := false
  /-- Whether converted data is checked by making instances of the models. -/
  runtimeChecks : Bool := false
  propertyNaming : PropertyNaming := .asGiven
  acronyms : AcronymStyle := .pascal
  /-- The module that the types are imported from. -/
  moduleReference : String := Expr.standardModule
  converters : ConverterScope := .topLevel
  /-- Whether the file has declarations only and converts nothing. -/
  justTypes : Bool := false
  deriving DecidableEq, Repr

namespace Settings

/-- Why settings are refused. -/
inductive Error where
  | unknownOption (key : String)
  | invalidOption (key value reason : String)
  /-- The file cannot be read. -/
  | unreadable (path : String)
  /-- The text holds no settings. -/
  | malformed
  deriving DecidableEq, Repr

/-- The keys of the seven choices. -/
def optionNames : List String :=
  ["declare-unions-separately", "runtime-type-checking", "property-naming", "acronym-style",
    "module-reference", "converters", "just-types"]

namespace Error

/-- The message of an error. -/
def message : Error → String
  | unknownOption key => s!"unknown renderer option '{key}'"
  | invalidOption key value _ => s!"invalid value '{value}' for renderer option '{key}'"
  | unreadable path => s!"failed to read '{path}'"
  | malformed => "failed to parse renderer configuration"

/-- The code of an error, if it has one. -/
def code? : Error → Option String
  | unknownOption _ => some "mstgen::unknown_option"
  | invalidOption _ _ _ => some "mstgen::invalid_option"
  | unreadable _ => none
  | malformed => some "mstgen::config_error"

/-- What to do about an error, where there is advice. -/
def help? : Error → Option String
  | unknownOption _ => some ("valid options are: " ++ ", ".intercalate optionNames)
  | invalidOption _ _ reason => some reason
  | unreadable _ => none
  | malformed => none

end Error

/-- Reads a truth value. -/
def parseBool : String → Except String Bool
  | "true" => .ok true
  | "false" => .ok false
  | _ => .error "expected 'true' or 'false'"

/-- Reads the naming of properties from the truth value of an older key. -/
def parseNice (s : String) : Except String PropertyNaming :=
  (parseBool s).map fun nice => if nice then .nice else .asGiven

/-- Reads a module reference, which must not be blank. -/
def parseReference (s : String) : Except String String :=
  if (Text.trim s).isEmpty then .error "the module reference cannot be empty" else .ok s

/-- A change of settings, which may fail. -/
abbrev Change : Type :=
  EStateM Error Settings Unit

/-- Puts the value of a key into the settings, unless it cannot be read. -/
def choose {α : Type} (key value : String) (parse : String → Except String α)
    (put : α → Settings → Settings) : Change :=
  match parse value with
  | .ok choice => modify (put choice)
  | .error reason => throw (.invalidOption key value reason)

/-- Changes one choice, given its value as a text. Three choices have older keys besides. -/
def change (key value : String) : Change :=
  match key with
  | "declare-unions-separately" | "declare-unions" =>
    choose key value parseBool fun choice settings => { settings with declareUnions := choice }
  | "runtime-type-checking" | "runtime-typecheck" =>
    choose key value parseBool fun choice settings => { settings with runtimeChecks := choice }
  | "property-naming" =>
    choose key value PropertyNaming.parse
      fun choice settings => { settings with propertyNaming := choice }
  | "nice-property-names" =>
    choose key value parseNice fun choice settings => { settings with propertyNaming := choice }
  | "acronym-style" =>
    choose key value AcronymStyle.parse fun choice settings => { settings with acronyms := choice }
  | "module-reference" =>
    choose key value parseReference
      fun choice settings => { settings with moduleReference := choice }
  | "converters" =>
    choose key value ConverterScope.parse
      fun choice settings => { settings with converters := choice }
  | "just-types" =>
    choose key value parseBool fun choice settings => { settings with justTypes := choice }
  | _ => throw (.unknownOption key)

/-- The settings after a change, if it does not fail. -/
def set (settings : Settings) (key value : String) : Except Error Settings :=
  match (change key value).run settings with
  | .ok () settings => .ok settings
  | .error error _ => .error error

/-- Refuses a blank module reference. -/
def check (settings : Settings) : Except Error Unit :=
  match parseReference settings.moduleReference with
  | .ok _ => .ok ()
  | .error reason =>
    .error (.invalidOption "module-reference" settings.moduleReference reason)

/-- The settings after changes in order, the first failing one being the answer. Changes before it
are lost with it. -/
def setAll (settings : Settings) : List (String × String) → Except Error Settings
  | [] => .ok settings
  | (key, value) :: rest =>
    match settings.set key value with
    | .ok settings => settings.setAll rest
    | .error error => .error error

/-- The settings after changes to the defaults. -/
def ofPairs (pairs : List (String × String)) : Except Error Settings :=
  match setAll {} pairs with
  | .error error => .error error
  | .ok settings => settings.check.map fun () => settings

end Settings

end StateTree
