import StateTree.Path.Specifier

/-!
# `StateTree.Files.Basic`: files and the references to them

- `Files`: what is asked of files and directories.
- `relativeReference`, `resolveReference`: the reference to a module in a file.
-/

set_option autoImplicit false

namespace StateTree

/-- What a path can name. -/
inductive FileKind where
  | file
  | directory
  deriving DecidableEq, Repr

/-- Access to files and directories. -/
class Files (m : Type → Type) where
  /-- The parts of the path of the working directory. -/
  workingDirectory : m (List String)
  /-- What a path names, if it names something. -/
  kind? (path : Path) : m (Option FileKind)
  /-- The content of a file, if it can be read. -/
  read? (path : Path) : m (Option String)
  /-- Gives a file its content, and makes it if need be. The answer tells whether that worked; if
  not, nothing has changed. -/
  write (path : Path) (content : String) : m Bool

variable {m : Type → Type} [Monad m] [Files m]

/-- What is said about an empty path. -/
def Path.emptyMessage : String :=
  "cannot make an empty path absolute"

/-- The directory of a file with the given path from the root, or that path if it is a directory. -/
def outputDirectory (output : Path) : m (List String) := do
  if (← Files.kind? output) = some .directory then return output.parts
  else return output.parts.dropLast

/-- The reference to a module in a file. Neither has to exist; an empty path has no reference. It
goes by the directory of the file, which is where a reader of the file begins. -/
def relativeReference? (module output : Path) : m (Option String) := do
  let here ← Files.workingDirectory
  match module.absolute? here, output.absolute? here with
  | some module, some output =>
    return some (Path.specifier (← outputDirectory output) module.parts)
  | _, _ => return none

/-- The reference to a module in a file, where a file or directory may stand for the module. The
name of anything else stays as it is. -/
def resolveReference? (reference : String) (output : Path) : m (Option String) := do
  let path := Path.parse reference
  match path.absolute? (← Files.workingDirectory) with
  | none => return none
  | some module =>
    if (← Files.kind? module).isSome then relativeReference? module output
    else return some reference

end StateTree
