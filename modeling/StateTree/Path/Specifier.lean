import StateTree.Path.Basic

/-!
# `StateTree.Path.Specifier`: how a file names a module

A specifier is a path from the directory of the importing file to the module, without the extension
of the module.

- `relativeParts`: the parts of the path from one directory to a path.
- `specifier`: the specifier of a module in a file of a directory.
-/

set_option autoImplicit false

namespace StateTree.Path

/-- The parts of the path from a directory to a path, both from the root: up from the directory as
far as the two differ, and down from there. -/
def relativeParts : List String → List String → List String
  | up :: directory, down :: path =>
    if up = down then relativeParts directory path
    else ".." :: directory.map (fun _ => "..") ++ down :: path
  | directory, path => directory.map (fun _ => "..") ++ path

/-- Whether the last part of a path has an extension. -/
def hasExtension (parts : List String) : Bool :=
  parts.getLast?.any fun name => withoutExtension name ≠ name

/-- The parts without the extension of the last one. One of which then only a point is left names
the directory that it stands in. -/
def dropExtension (parts : List String) : List String :=
  match parts.getLast? with
  | none => []
  | some name =>
    let stem := withoutExtension name
    parts.dropLast ++ if stem = "." then [] else [stem]

/-- The specifier of a module, in a file of a directory, both from the root. Where the path to it
begins with a name, it gets a point and a slash in front. -/
def specifier (directory path : List String) : String :=
  let parts := relativeParts directory path
  let joined := "/".intercalate (if hasExtension path then dropExtension parts else parts)
  if joined.isEmpty then "."
  else if joined.toList.head? = some '.' then joined
  else "./" ++ joined

end StateTree.Path
