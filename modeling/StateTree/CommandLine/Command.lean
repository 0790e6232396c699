import StateTree.CommandLine.Arguments
import StateTree.Files.Basic
import StateTree.Graph.Interchange
import StateTree.Outline.File
import StateTree.Settings.File
import StateTree.Source.Support

/-!
# `StateTree.CommandLine.Command`: what the commands do

A command reads files, may write some, and has a text to print. Whatever fails before a file is
written leaves all files as they were.

- `openGraph`, `openSettings`: the graph and the settings in a file.
- `Generation.text`: what is generated.
- `emit`: where a text goes.
- `Command.run`: runs a command.
-/

set_option autoImplicit false

namespace StateTree

open StateTree.Graph (TypeGraph)
open StateTree.Graph.Interchange (LoadError)

variable {m : Type → Type} [Monad m] [Files m]

/-- The graph in a file. -/
def openGraph (path : String) : m (Except LoadError TypeGraph) := do
  match ← Files.read? (Path.parse path) with
  | none => return .error (.unreadable path)
  | some src => return Graph.Interchange.read src

/-- The settings in a file. -/
def openSettings (path : String) : m (Except Settings.Error Settings) := do
  match ← Files.read? (Path.parse path) with
  | none => return .error (.unreadable path)
  | some src => return Settings.read src

namespace CommandLine

/-- Why a command fails. Whichever it is, the exit code is the same, and only the message tells
them apart. -/
inductive Failure where
  | graph (error : LoadError)
  | settings (error : Settings.Error)
  | naming (error : Naming.Error)
  /-- A path is empty where it has to lead somewhere. -/
  | emptyPath
  | unwritable (path : String)
  deriving DecidableEq, Repr

/-- The message of a failure. -/
def Failure.message : Failure → String
  | graph error => error.message
  | settings error => error.message
  | naming error => error.message
  | emptyPath => Path.emptyMessage
  | unwritable path => s!"Failed to write {path}"

/-- A command with a result of type `α` on files. -/
abbrev Run (m : Type → Type) (α : Type) : Type := ExceptT Failure m α

/-- The value of a computation that may fail. -/
def attempt {ε α : Type} (failure : ε → Failure) : Except ε α → Run m α
  | .ok value => pure value
  | .error error => throw (failure error)

/-- The value of a step on files that may fail. -/
def step {ε α : Type} (failure : ε → Failure) (action : m (Except ε α)) : Run m α := do
  attempt failure (← ExceptT.lift action)

/-- Writes a file. -/
def save (path content : String) : Run m Unit := do
  if ← ExceptT.lift (Files.write (Path.parse path) content) then pure ()
  else throw (.unwritable path)

/-- The file of settings in the working directory that counts where no other is given. -/
def settingsFile : String := "mstgen.toml"

/-- The settings in the given file, in the one in the working directory, or the defaults. A given
file has to be there; the usual one may be missing. -/
def chosenSettings (given : Option String) : Run m Settings := do
  match given with
  | some path => step .settings (openSettings path)
  | none =>
    let kind ← ExceptT.lift (Files.kind? (Path.parse settingsFile))
    if kind = some .file then step .settings (openSettings settingsFile) else pure {}

/-- The settings of a generation: those chosen, with the given changes. -/
def Generation.chosen (generation : Generation) : Run m Settings := do
  let settings ← chosenSettings generation.settings
  let settings ← attempt .settings (settings.setAll generation.changes)
  attempt .settings settings.check
  return settings

/-- The module reference of a generated file as seen from where it is written: the support module if
that is written, too, else the one in the settings. -/
def Generation.reference (generation : Generation) (settings : Settings) : Run m String := do
  match generation.output, generation.support with
  | none, _ => return settings.moduleReference
  | some output, some support =>
    present (← ExceptT.lift (relativeReference? (Path.parse support) (Path.parse output)))
  | some output, none =>
    present (← ExceptT.lift (resolveReference? settings.moduleReference (Path.parse output)))
where
  present : Option String → Run m String
  | some reference => pure reference
  | none => throw .emptyPath

/-- What is printed about a file that was written. -/
def generated (path : String) : String :=
  "Generated: " ++ path ++ "\n"

/-- Writes a text to a file, or prints it. It is the last thing that a command does, so a failure
here leaves whatever was written before. -/
def emit (output : Option String) (text : String) : Run m String := do
  match output with
  | some path => do
    save path text
    return generated path
  | none => return text

/-- The text of the file to generate. -/
def Generation.text (generation : Generation) : Run m String := do
  let graph ← step .graph (openGraph generation.graph)
  let settings ← generation.chosen
  let settings := { settings with moduleReference := ← generation.reference settings }
  attempt .naming (generate (Profile.ofSettings settings) graph)

/-- Writes the support module where it is asked for. -/
def Generation.saveSupport (generation : Generation) : Run m Unit :=
  match generation.support with
  | some path => save path (Source.Support.text Expr.standardModule)
  | none => pure ()

/-- Generates a file. Nothing is written unless the whole file can be generated. -/
def Generation.run (generation : Generation) : Run m String := do
  let code ← generation.text
  -- From here on only the writing itself can fail.
  generation.saveSupport
  emit generation.output code

/-- The nodes of a graph of which `accepts` holds. -/
def countKinds (graph : TypeGraph) (accepts : Graph.Kind → Bool) : Nat :=
  graph.nodes.countP fun node => accepts node.kind

/-- The line about an entry point. -/
def entryLine (graph : TypeGraph) (entry : Graph.TopLevel) : String :=
  s!"    {entry.name} ({(graph.kind entry.type).name})\n"

/-- What is printed about a graph that is all right. The graph has been loaded by then, so there
is nothing left that could fail. -/
def report (path : String) (graph : TypeGraph) : String :=
  let classes := countKinds graph fun kind => kind.name == "class"
  let enums := countKinds graph fun kind => kind.name == "enum"
  let unions := countKinds graph fun kind => kind.name == "union"
  let entries := graph.topLevels.length
  let plural := if entries = 1 then "" else "s"
  s!"✓ {path} is valid\n\n  {graph.size} types\n"
    ++ s!"  {classes} classes, {enums} enums, {unions} unions\n\n"
    ++ s!"  {entries} top-level{plural}:\n"
    ++ String.join (graph.topLevels.map (entryLine graph))

/-- Checks a graph and settings by generating a file, which is then forgotten. -/
def runCheck (path : String) (given : Option String) : Run m String := do
  let graph ← step .graph (openGraph path)
  let settings ← chosenSettings given
  discard (attempt .naming (generate (Profile.ofSettings settings) graph))
  return report path graph

/-- Writes or prints the support module over a base module. -/
def runSupport (output : Option String) (base : String) : Run m String :=
  emit output (Source.Support.text base)

/-- Runs a command. The result is the text that it prints. -/
def Command.run : Command → Run m String
  | generate generation => generation.run
  | check graph settings => runCheck graph settings
  | support output base => runSupport output base

end CommandLine

end StateTree
