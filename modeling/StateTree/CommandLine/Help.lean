import StateTree.CommandLine.Arguments

/-!
# `StateTree.CommandLine.Help`: texts about the command line itself

- `versionText`: what is printed about the version.
- `HelpPage.text`: the pages of the help.
- `UsageError.message`: what is said about a command line that is none.
-/

set_option autoImplicit false

namespace StateTree.CommandLine

/-- What is printed about the version. -/
def versionText : String := "mstgen 0.3.0\n"

namespace HelpPage

/-- The lines about one operand or switch: what it is called and what it does. -/
def item (width : Nat) (entry : String × String) : String :=
  let gap := String.ofList (List.replicate (width - entry.1.length) ' ')
  "  " ++ entry.1 ++ gap ++ "  " ++ entry.2

/-- A title and what stands under it, with the descriptions below each other. -/
def block (title : String) (entries : List (String × String)) : List String :=
  let width := (entries.map fun entry => entry.1.length).foldl max 0
  title :: entries.map (item width)

/-- The switch for the help. -/
def helpSwitch : String × String := ("-h, --help", "Print help")

/-- The operand of the commands that read a graph. -/
def graphBlock : List String :=
  block "Arguments:" [("<GRAPH>", "Type graph JSON file")]

/-- The switch for the settings. -/
def settingsSwitch : String × String :=
  ("-c, --config <CONFIG>", "Renderer configuration (defaults to ./mstgen.toml when present)")

/-- The switch for the output. -/
def outputSwitch : String × String :=
  ("-o, --output <OUTPUT>", "Output file (defaults to stdout)")

/-- What a command does, in one line. -/
def summary : HelpPage → String
  | overview => "Generate mobx-state-tree models from a JSON type graph"
  | generate => "Generate a models file from a type graph"
  | check => "Validate a type graph and renderer configuration without writing anything"
  | support => "Write the runtime \x60types\x60 module with the timestamp-normalizing Date"

/-- How a command is called. -/
def usage : HelpPage → String
  | overview => "Usage: mstgen <COMMAND>"
  | generate => "Usage: mstgen generate [OPTIONS] <GRAPH>"
  | check => "Usage: mstgen check [OPTIONS] <GRAPH>"
  | support => "Usage: mstgen runtime [OPTIONS]"

/-- What can follow a command. -/
def blocks : HelpPage → List (List String)
  | overview =>
    [block "Commands:"
      [("generate", generate.summary), ("check", check.summary), ("runtime", support.summary),
        ("help", "Print this message or the help of the given subcommand(s)")],
      block "Options:" [helpSwitch, ("-V, --version", "Print version")]]
  | generate =>
    [graphBlock,
      block "Options:"
        [outputSwitch, settingsSwitch,
          ("-O, --option <KEY=VALUE>",
            "Override a renderer option, e.g. \x60-O converters=all-objects\x60"),
          ("    --runtime-module <RUNTIME_MODULE>",
            "Also write the runtime \x60types\x60 module here and import models from it"),
          helpSwitch]]
  | check => [graphBlock, block "Options:" [settingsSwitch, helpSwitch]]
  | support =>
    [block "Options:"
      [outputSwitch,
        ("    --base <BASE>",
          "Module the base \x60types\x60 namespace is imported from [default: mobx-state-tree]"),
        helpSwitch]]

/-- The text of a page. -/
def text (page : HelpPage) : String :=
  let parts := [page.summary] :: [page.usage] :: page.blocks
  "\n".intercalate (parts.map fun lines => String.join (lines.map (· ++ "\n")))

end HelpPage

/-- What is said about a command line that is none. -/
def UsageError.message : UsageError → String
  | noCommand => "a command is required"
  | unknownCommand name => s!"unrecognized command '{name}'"
  | unknownSwitch argument => s!"unexpected argument '{argument}'"
  | missingValue switch => s!"a value is required for '{switch}'"
  | emptyValue switch => s!"the value for '{switch}' must not be empty"
  | repeated switch => s!"'{switch}' cannot be used multiple times"
  | noKey change => s!"expected KEY=VALUE, got '{change}'"
  | missingOperand => "a graph is required"
  | extraOperand operand => s!"unexpected argument '{operand}'"
  | needsOutput => "'runtime-module' requires 'output'"

end StateTree.CommandLine
