import StateTree.Source.Declaration

/-!
# `StateTree.Source.File`: the layout of a generated file

A file has imports, a header of line comments and declarations. The imports, the header and each
declaration are sections; sections that are there have one blank line between them.

- `File.ofParts`: the file of some parts, imports of nothing left out.
- `File.render`: the text of a file.
-/

set_option autoImplicit false

namespace StateTree.Source

open StateTree.Layout (Fragment Indent)

/-- A generated file. -/
structure File where
  imports : List Import := []
  header : List String := []
  declarations : List (List Fragment) := []

namespace File

/-- The file of some parts. An import without bindings is left out. -/
def ofParts (imports : List Import) (header : List String) (declarations : List (List Fragment)) :
    File :=
  ⟨imports.filter fun imported => !imported.isEmpty, header, declarations⟩

/-- Whether a file has nothing in it. -/
def isEmpty (file : File) : Bool :=
  file.imports.isEmpty && file.header.isEmpty && file.declarations.isEmpty

/-- The section of some fragments, which is there unless it is empty. -/
def asSection (fragments : List Fragment) : List (List Fragment) :=
  if fragments.isEmpty then [] else [fragments]

/-- The sections of a file. -/
def sections (file : File) : List (List Fragment) :=
  asSection (file.imports.map Import.fragment) ++ asSection (file.header.map .comment)
    ++ file.declarations

/-- The lines of sections with blank lines between them. -/
def joinSections : List (List Fragment) → List Fragment
  | [] => []
  | [fragments] => fragments
  | fragments :: rest => fragments ++ .blank :: joinSections rest

/-- The text of a file. -/
def render (file : File) (indent : Indent := .standard) : String :=
  Layout.render indent (joinSections file.sections)

end File

end StateTree.Source
