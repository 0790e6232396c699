import StateTree.CommandLine.Outcome

/-!
# `StateTree.Main`: the command line on the files of the machine
-/

set_option autoImplicit false

namespace StateTree

/-- Whether an action goes through. -/
def succeeds {α : Type} (action : IO α) : IO Bool := do
  try
    discard action
    return true
  catch _ => return false

/-- The parts of a path of the machine. -/
def partsOf (path : String) : List String :=
  (Path.parse path).parts

instance : Files IO where
  workingDirectory := return partsOf (← IO.currentDir).toString
  kind? path := do
    try
      let handle ← IO.FS.Handle.mk path.text .read
      -- A directory can be opened, but nothing can be read from it.
      if ← succeeds (handle.read 1) then return some .file else return some .directory
    catch _ => return none
  read? path := do
    try
      return some (← IO.FS.readFile path.text)
    catch _ => return none
  write path content := succeeds (IO.FS.writeFile path.text content)

end StateTree

/-- Runs the command line. -/
def main (arguments : List String) : IO UInt32 := do
  let outcome ← StateTree.CommandLine.invoke arguments
  IO.print outcome.printed
  IO.eprint outcome.complaint
  return outcome.exitCode.toUInt32
