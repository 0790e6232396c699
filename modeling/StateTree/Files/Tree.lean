import StateTree.Files.Basic

/-!
# `StateTree.Files.Tree`: files and directories as a value

- `FileTree`: directories and the files in them.
- `FileTree.locate`: the place that a path leads to.
- `FileTree.kind?`, `FileTree.read?`, `FileTree.write?`: access to files.
-/

set_option autoImplicit false

namespace StateTree

/-- A place in a file tree: the names from the root to it. -/
abbrev Place : Type := List String

/-- Directories and the files in them. The root is a directory besides. -/
structure FileTree where
  workingDirectory : Place := []
  directories : List Place := []
  files : List (Place × String) := []
  deriving DecidableEq, Repr

namespace FileTree

/-- Whether there is a directory at a place. -/
def isDirectory (tree : FileTree) (place : Place) : Bool :=
  place.isEmpty || tree.directories.contains place

/-- The content of the file at a place. -/
def content? (tree : FileTree) (place : Place) : Option String :=
  tree.files.lookup place

/-- The place that parts of a path lead to. All but the last have to lead through directories, so
the path to a file in a missing directory leads nowhere. -/
def follow (tree : FileTree) (place : Place) : List String → Option Place
  | [] => some place
  | part :: rest =>
    if !tree.isDirectory place then none
    else if part = "." then tree.follow place rest
    else if part = ".." then tree.follow place.dropLast rest
    else tree.follow (place ++ [part]) rest

/-- The place that a path leads to, whether there is something or not. -/
def locate (tree : FileTree) (path : Path) : Option Place :=
  if path.isEmpty then none
  else (tree.follow (if path.rooted then [] else tree.workingDirectory) path.parts).filter
    fun place => !path.slash || tree.isDirectory place

/-- What a path names. -/
def kind? (tree : FileTree) (path : Path) : Option FileKind :=
  (tree.locate path).bind fun place =>
    if tree.isDirectory place then some .directory
    else (tree.content? place).map fun _ => .file

/-- The content of the file that a path names. -/
def read? (tree : FileTree) (path : Path) : Option String :=
  (tree.locate path).bind tree.content?

/-- The tree with another content of the file at a place. -/
def put (tree : FileTree) (place : Place) (content : String) : FileTree :=
  { tree with files := (place, content) :: tree.files.filter fun file => file.1 ≠ place }

/-- The tree with another content of the file that a path names. There has to be a directory for
it. -/
def write? (tree : FileTree) (path : Path) (content : String) : Option FileTree :=
  match tree.locate path with
  | none => none
  | some place => if tree.isDirectory place then none else some (tree.put place content)

/-- The tree with a directory, and those that it lies in, at a place. Directories that are there
already stay as they are. -/
def makeDirectory (tree : FileTree) (place : Place) : FileTree :=
  (List.range place.length).foldl
    (fun tree count =>
      let above := place.take (count + 1)
      if tree.isDirectory above then tree
      else { tree with directories := tree.directories ++ [above] })
    tree

/-- A tree with nothing but a working directory. -/
def ofWorkingDirectory (place : Place) : FileTree :=
  makeDirectory { workingDirectory := place } place

end FileTree

instance : Files (StateM FileTree) where
  workingDirectory := return (← get).workingDirectory
  kind? path := return (← get).kind? path
  read? path := return (← get).read? path
  write path content := do
    match (← get).write? path content with
    | some tree => set tree; return true
    | none => return false

end StateTree
