import StateTree.Expr.Vocabulary
import StateTree.Text.Lines

/-!
# `StateTree.CommandLine.Arguments`: what a command line asks for

Every switch but `help` and `version` takes a value, which stands after an equals sign, right after
the letter of a short switch, or in the next argument. After two dashes nothing is a switch.

- `Command`, `Request`: what can be asked for.
- `Given.read`: the switches and operands of a command line.
- `parse`: the request of a command line.
-/

set_option autoImplicit false

namespace StateTree.CommandLine

/-- What the command for generating a file is given. Nothing is looked up yet: paths are as they
were written, and changes may be of options that do not exist. -/
structure Generation where
  graph : String
  output : Option String := none
  settings : Option String := none
  /-- Changes to the settings, in order. -/
  changes : List (String × String) := []
  /-- Where to write the support module, from which the file then imports. -/
  support : Option String := none
  deriving DecidableEq, Repr

/-- A command. -/
inductive Command where
  /-- Generates a file from a graph. -/
  | generate (generation : Generation)
  /-- Checks a graph and settings. -/
  | check (graph : String) (settings : Option String)
  /-- Writes the support module over a base module. -/
  | support (output : Option String) (base : String)
  deriving DecidableEq, Repr

/-- The pages of the help. -/
inductive HelpPage where
  | overview
  | generate
  | check
  | support
  deriving DecidableEq, Repr

/-- What a command line asks for. -/
inductive Request where
  | version
  | help (page : HelpPage)
  | execute (command : Command)
  deriving DecidableEq, Repr

/-- The command line is none. No command is run then, so the files are not even looked at. -/
inductive UsageError where
  | noCommand
  | unknownCommand (name : String)
  | unknownSwitch (argument : String)
  | missingValue (switch : String)
  | emptyValue (switch : String)
  | repeated (switch : String)
  | noKey (change : String)
  | missingOperand
  | extraOperand (operand : String)
  | needsOutput
  deriving DecidableEq, Repr

/-- Why the reading of a command line ends early. -/
inductive Stop where
  | help
  | misuse (error : UsageError)
  deriving DecidableEq, Repr

/-! ### Switches -/

/-- The switches that take a value. -/
inductive Switch where
  | output
  | settings
  | change
  | support
  | base
  deriving DecidableEq, Repr

namespace Switch

/-- The name of a switch after two dashes. -/
def long : Switch → String
  | output => "output"
  | settings => "config"
  | change => "option"
  | support => "runtime-module"
  | base => "base"

/-- The letter of a switch after one dash, if it has one. -/
def short? : Switch → Option Char
  | output => some 'o'
  | settings => some 'c'
  | change => some 'O'
  | support => none
  | base => none

/-- A text split at its first equals sign, if it has one. -/
def splitAtEquals? (cs : List Char) : Option (List Char × List Char) :=
  match cs.span (· ≠ '=') with
  | (before, _ :: after) => some (before, after)
  | (_, []) => none

/-- Reads a change: a key, an equals sign and a value. White space around both is dropped. -/
def readChange? (s : String) : Option (String × String) :=
  (splitAtEquals? s.toList).map fun (key, value) =>
    (Text.trim (String.ofList key), Text.trim (String.ofList value))

/-- What is wrong with the value of a switch. Paths must not be empty, and changes have a key. -/
def problem? (switch : Switch) (value : String) : Option UsageError :=
  match switch with
  | base => none
  | change => if (readChange? value).isNone then some (.noKey value) else none
  | _ => if value.isEmpty then some (.emptyValue switch.long) else none

end Switch

/-! ### Reading -/

/-- What an argument is. -/
inductive Argument where
  | operand
  | switch (switch : Switch) (value : Option String)
  | help
  | unknown

/-- What an argument is, `allowed` being the switches of the command. A single dash is an
operand. -/
def classify (allowed : List Switch) (argument : String) : Argument :=
  match argument.toList with
  | '-' :: '-' :: long =>
    let (name, value) := match Switch.splitAtEquals? long with
      | some (name, value) => (String.ofList name, some (String.ofList value))
      | none => (String.ofList long, none)
    match allowed.find? fun switch => switch.long = name, value with
    | some switch, value => .switch switch value
    | none, none => if name = "help" then .help else .unknown
    | none, some _ => .unknown
  | '-' :: letter :: rest =>
    match allowed.find? fun switch => switch.short? = some letter with
    | some switch =>
      .switch switch
        (match rest with
          | [] => none
          | '=' :: value => some (String.ofList value)
          | value => some (String.ofList value))
    | none => if letter = 'h' then .help else .unknown
  | _ => .operand

/-- The switches with their values and the operands of a command, both in order. -/
structure Given where
  switches : List (Switch × String) := []
  operands : List String := []
  deriving DecidableEq, Repr

namespace Given

/-- The value of a switch, if it is given. -/
def value? (given : Given) (switch : Switch) : Option String :=
  given.switches.lookup switch

/-- What is given with another switch, unless the value is wrong or the switch was given before.
Only changes may be given more than once. -/
def withSwitch (given : Given) (switch : Switch) (value : String) : Except Stop Given :=
  match switch.problem? value with
  | some error => .error (.misuse error)
  | none =>
    if switch ≠ .change && (given.value? switch).isSome then
      .error (.misuse (.repeated switch.long))
    else .ok { given with switches := given.switches ++ [(switch, value)] }

/-- What is given with another operand, of which there is at most one. It must not be empty. -/
def withOperand (given : Given) (takesOperand : Bool) (operand : String) : Except Stop Given :=
  if !takesOperand || !given.operands.isEmpty then .error (.misuse (.extraOperand operand))
  else if operand.isEmpty then .error (.misuse (.emptyValue "graph"))
  else .ok { given with operands := [operand] }

/-- Reads the arguments of a command after what is given before them. The command has the given
switches, and perhaps an operand. -/
def read (allowed : List Switch) (takesOperand : Bool) (given : Given) :
    List String → Except Stop Given
  | [] => .ok given
  | "--" :: rest => rest.foldlM (fun given operand => given.withOperand takesOperand operand) given
  | argument :: rest =>
    match classify allowed argument, rest with
    | .help, _ => .error .help
    | .unknown, _ => .error (.misuse (.unknownSwitch argument))
    | .operand, rest => do
      read allowed takesOperand (← given.withOperand takesOperand argument) rest
    | .switch switch (some value), rest => do
      read allowed takesOperand (← given.withSwitch switch value) rest
    | .switch switch none, value :: rest =>
      -- The next argument is the value, unless it looks like a switch itself.
      match classify allowed value with
      | .operand => do read allowed takesOperand (← given.withSwitch switch value) rest
      | _ => .error (.misuse (.missingValue switch.long))
    | .switch switch none, [] => .error (.misuse (.missingValue switch.long))

end Given

/-! ### Commands -/

/-- The operand of a command. -/
def onlyOperand (given : Given) : Except Stop String :=
  match given.operands with
  | operand :: _ => .ok operand
  | [] => .error (.misuse .missingOperand)

/-- The changes to the settings. -/
def changesOf (given : Given) : List (String × String) :=
  given.switches.filterMap fun (switch, value) =>
    if switch = .change then Switch.readChange? value else none

/-- The arguments of `generate`. -/
def parseGenerate (arguments : List String) : Except Stop Command := do
  let given ← Given.read [.output, .settings, .change, .support] true {} arguments
  let graph ← onlyOperand given
  let generation : Generation :=
    { graph
      output := given.value? .output
      settings := given.value? .settings
      changes := changesOf given
      support := given.value? .support }
  if generation.support.isSome && generation.output.isNone then .error (.misuse .needsOutput)
  else return .generate generation

/-- The arguments of `check`. -/
def parseCheck (arguments : List String) : Except Stop Command := do
  let given ← Given.read [.settings] true {} arguments
  return .check (← onlyOperand given) (given.value? .settings)

/-- The arguments of `runtime`. -/
def parseSupport (arguments : List String) : Except Stop Command := do
  let given ← Given.read [.output, .base] false {} arguments
  return .support (given.value? .output) ((given.value? .base).getD Expr.standardModule)

/-- The request of a command, whose help is asked for by a switch. -/
def request (page : HelpPage) : Except Stop Command → Except UsageError Request
  | .ok command => .ok (.execute command)
  | .error .help => .ok (.help page)
  | .error (.misuse error) => .error error

/-- The page of the help on a command. -/
def helpPage? : String → Option HelpPage
  | "generate" => some .generate
  | "check" => some .check
  | "runtime" => some .support
  | "help" => some .overview
  | _ => none

/-- The request of a command line. It depends on the words alone; what the command then does also
depends on the files. -/
def parse : List String → Except UsageError Request
  | [] => .error .noCommand
  | "generate" :: rest => request .generate (parseGenerate rest)
  | "check" :: rest => request .check (parseCheck rest)
  | "runtime" :: rest => request .support (parseSupport rest)
  | ["help"] => .ok (.help .overview)
  | "help" :: name :: rest =>
    match helpPage? name, rest with
    | some page, [] => .ok (.help page)
    | some _, extra :: _ => .error (.unknownCommand extra)
    | none, _ => .error (.unknownCommand name)
  | argument :: _ =>
    match argument.toList with
    | '-' :: 'V' :: _ => .ok .version
    | '-' :: 'h' :: _ => .ok (.help .overview)
    | _ =>
      if argument = "--version" then .ok .version
      else if argument = "--help" then .ok (.help .overview)
      else if argument.startsWith "-" && argument ≠ "-" then .error (.unknownSwitch argument)
      else .error (.unknownCommand argument)

end StateTree.CommandLine
