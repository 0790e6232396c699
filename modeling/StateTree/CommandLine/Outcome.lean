import StateTree.CommandLine.Command
import StateTree.CommandLine.Help

/-!
# `StateTree.CommandLine.Outcome`: what running a command line comes to

- `Outcome`: the exit code and the texts on both outputs.
- `invoke`: runs a command line.
-/

set_option autoImplicit false

namespace StateTree.CommandLine

/-- The exit code of a run, what it prints and what it complains about. -/
structure Outcome where
  exitCode : Nat
  printed : String := ""
  complaint : String := ""
  deriving DecidableEq, Repr

namespace Outcome

/-- The outcome of a run that prints a text. -/
def success (printed : String) : Outcome :=
  { exitCode := 0, printed }

/-- The outcome of a command that fails. -/
def failure (error : Failure) : Outcome :=
  { exitCode := 1, complaint := error.message ++ "\n" }

/-- The outcome of a command with the given result. -/
def ofResult : Except Failure String → Outcome
  | .ok printed => success printed
  | .error error => failure error

/-- The outcome of a command line that is none. -/
def misuse (error : UsageError) : Outcome :=
  { exitCode := 2, complaint := error.message ++ "\n" }

end Outcome

variable {m : Type → Type} [Monad m] [Files m]

/-- Runs a request. -/
def Request.run : Request → m Outcome
  | version => return .success versionText
  | help page => return .success page.text
  | execute command => return .ofResult (← (Command.run command).run)

/-- Runs a command line. -/
def invoke (arguments : List String) : m Outcome :=
  match parse arguments with
  | .ok request => request.run
  | .error error => return .misuse error

end StateTree.CommandLine
