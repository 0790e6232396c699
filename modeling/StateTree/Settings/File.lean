import StateTree.Settings.Basic
import StateTree.Toml.Reader

/-!
# `StateTree.Settings.File`: settings from a file

A file of settings has one table, `renderer`, with an entry for each choice that differs from its
default. Values may also stand in an array, in the order of the choices.

- `Settings.ofEntries?`, `Settings.ofValue?`: the settings that a table or an array holds.
- `Settings.read`: the settings of a text.
-/

set_option autoImplicit false

namespace StateTree.Settings

open StateTree.Text (AcronymStyle)
open StateTree.Toml (Value)

/-- A truth value. -/
def bool? : Value → Option Bool
  | .bool b => some b
  | _ => none

/-- A text. -/
def text? : Value → Option String
  | .text s => some s
  | _ => none

/-- The name of a choice: a text, or a table with that name alone over nothing. -/
def variant? : Value → Option String
  | .text s => some s
  | .table [(s, .table [])] => some s
  | .table [(s, .array [])] => some s
  | _ => none

/-- Makes one choice, given its key and its value. The older keys have no place in a file. -/
def choose? (settings : Settings) (key : String) (value : Value) : Option Settings :=
  match key with
  | "declare-unions-separately" =>
    (bool? value).map fun choice => { settings with declareUnions := choice }
  | "runtime-type-checking" =>
    (bool? value).map fun choice => { settings with runtimeChecks := choice }
  | "property-naming" =>
    ((variant? value).bind PropertyNaming.ofText?).map fun choice =>
      { settings with propertyNaming := choice }
  | "acronym-style" =>
    ((variant? value).bind AcronymStyle.ofText?).map fun choice =>
      { settings with acronyms := choice }
  | "module-reference" =>
    (text? value).map fun choice => { settings with moduleReference := choice }
  | "converters" =>
    ((variant? value).bind ConverterScope.ofText?).map fun choice =>
      { settings with converters := choice }
  | "just-types" =>
    (bool? value).map fun choice => { settings with justTypes := choice }
  | _ => none

/-- The settings that entries hold. -/
def ofEntries? (entries : List (String × Value)) : Option Settings :=
  entries.foldlM (fun settings (key, value) => choose? settings key value) {}

/-- The settings that a table or an array holds. Items after the last choice are ignored. -/
def ofValue? : Value → Option Settings
  | .table entries => ofEntries? entries
  | .array items => ofEntries? (optionNames.zip items)
  | _ => none

/-- The settings of a file, which has at most the one entry. -/
def ofFile? : List (String × Value) → Option Settings
  | [] => some {}
  | [("renderer", value)] => ofValue? value
  | _ => none

/-- The settings of a text. -/
def read (src : String) : Except Error Settings :=
  match (Toml.parse? src).bind ofFile? with
  | none => .error .malformed
  | some settings => settings.check.map fun () => settings

end StateTree.Settings
