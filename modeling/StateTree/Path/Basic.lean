/-!
# `StateTree.Path.Basic`: paths

- `Path`: a path, read by `Path.parse` and written by `Path.text`.
- `Path.absolute?`: the path from the root, by way of the working directory.
- `withoutExtension`: the name of a file without its last extension.
-/

set_option autoImplicit false

namespace StateTree

/-- A path. Its parts are not empty; among them may be `.` and `..`, which are not resolved when a
path is read. -/
structure Path where
  /-- Whether the path begins at the root. -/
  rooted : Bool
  parts : List String
  /-- Whether a slash comes last. Then the path names a directory or nothing. -/
  slash : Bool := false
  deriving DecidableEq, Repr

namespace Path

/-- The parts of a path between slashes, of which the first has already begun with `part`, in
reverse. Empty parts are left out. -/
def splitParts : List Char → List Char → List String
  | [], [] => []
  | part, [] => [String.ofList part.reverse]
  | part, c :: rest =>
    if c = '/' then
      if part.isEmpty then splitParts [] rest
      else String.ofList part.reverse :: splitParts [] rest
    else splitParts (c :: part) rest

/-- Reads a path. -/
def parse (s : String) : Path :=
  let cs := s.toList
  { rooted := cs.head? = some '/'
    parts := splitParts [] cs
    slash := cs.getLast? = some '/' }

/-- Writes a path. -/
def text (path : Path) : String :=
  let parts := "/".intercalate path.parts
  (if path.rooted then "/" else "") ++ parts
    ++ (if path.slash && !path.parts.isEmpty then "/" else "")

/-- The path of the empty text. -/
def isEmpty (path : Path) : Bool :=
  !path.rooted && path.parts.isEmpty

/-- The path from the root, without the parts that name the directory they stand in. The empty path
has none. -/
def absolute? (workingDirectory : List String) (path : Path) : Option Path :=
  if path.isEmpty then none
  else
    let parts := path.parts.filter (· ≠ ".")
    some { path with rooted := true
                     parts := if path.rooted then parts else workingDirectory ++ parts }

end Path

/-- The name of a file without its last extension. A point at the begin begins no extension, and
`..` has none. -/
def withoutExtension (name : String) : String :=
  match name.toList.reverse.span (· ≠ '.') with
  | (_, '.' :: stem) => if name = ".." || stem.isEmpty then name else String.ofList stem.reverse
  | _ => name

end StateTree
