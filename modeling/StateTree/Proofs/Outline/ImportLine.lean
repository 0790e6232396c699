import StateTree.Proofs.Layout.Rows
import StateTree.Proofs.Outline.Stages
import StateTree.Proofs.Outline.Verdict
import StateTree.Proofs.Text.RawLiterals

/-!
# `StateTree.Proofs.Outline.ImportLine`: the module that a file imports its types from

Every file begins with an import of `types`, and the module reference of the settings stands between
the quotes as it is. So the import is from the module that the reference names exactly if each
character of the reference stands for itself inside a literal. A quote or the end of a line breaks
the import; a backslash begins an escape and makes it an import from somewhere else.

- `ImportsTypesFrom`: a file begins with an import of `types` from the module of a reference.
- `exists_generate_eq_append`: the first line of a file.
- `generate_importsTypesFrom_iff`: which references files import from.
-/

set_option autoImplicit false

namespace StateTree

open StateTree.Fallible
open StateTree.Graph
open StateTree.Text (exists_literal_iff isLineEnd readLiteral? standsForItself utf16)

/-- The text begins with an import of `types` from a module that one literal names, and this
literal reads as the given reference. The literal is any one that the text has there; it need not
be the reference between quotes. -/
def ImportsTypesFrom (code reference : String) : Prop :=
  ∃ literal rest,
    code.toList = "import \x7b types \x7d from ".toList ++ (literal ++ ';' :: '\n' :: rest) ∧
    readLiteral? literal = some (utf16 reference.toList, [])

variable {profile : Profile} {graph : TypeGraph}

namespace Source.File

variable {file : File} {imported : Import} {others : List Import}

/-- A file that imports something has its first import as its first fragment. The lines of the
header come after the imports. -/
theorem exists_joinSections_eq_cons (h : file.imports = imported :: others) :
    ∃ rest, joinSections file.sections = imported.fragment :: rest := by
  rw [sections, h, List.append_assoc]
  -- The imports are the first section, and the import the first line in it.
  cases asSection (file.header.map .comment) ++ file.declarations with
  | nil => exact ⟨_, rfl⟩
  | cons first later => exact ⟨_, rfl⟩

/-- So it begins with the statement of this import. What follows is a matter of the other
fragments. -/
theorem exists_render_import (h : file.imports = imported :: others) :
    ∃ more, file.render = imported.statement ++ "\n" ++ more := by
  obtain ⟨rest, hrest⟩ := exists_joinSections_eq_cons h
  rw [render, hrest]
  exact Layout.exists_render_line _ _ rest

end Source.File

namespace Outline

/-- The first import of every file is that of the object that builds types. The converter class
and its helper types bring more imports, all of them after this one. -/
theorem exists_imports_eq_cons {outline : Outline} {names : Naming.TypeNames} {file : Source.File}
    (h : outline.file profile names = .ok file) :
    ∃ others, file.imports = typesImport profile.vocabulary :: others := by
  obtain ⟨declared, -, h⟩ := bind_eq_ok_iff.1 h
  obtain ⟨aliased, -, h⟩ := bind_eq_ok_iff.1 h
  obtain ⟨clients, -, h⟩ := bind_eq_ok_iff.1 h
  dsimp only at h
  -- The import is kept whatever comes behind it, since it has a binding.
  split at h <;>
  · obtain rfl : _ = file := pure_eq_ok_iff.1 h
    exact ⟨_, rfl⟩

end Outline

/-- Every file begins with the import of the object that builds types. The module of the
vocabulary stands between the quotes as it is: it is not escaped, unlike all other literals of a
file. -/
theorem exists_generate_eq_append {code : String} (h : generate profile graph = .ok code) :
    ∃ rest, code = "import \x7b " ++ profile.vocabulary.root ++ " \x7d from \"" ++
      profile.vocabulary.module ++ "\";\n" ++ rest := by
  obtain ⟨names, outline, file, -, -, hfile, rfl⟩ := generate_eq_ok_iff.1 h
  obtain ⟨others, himports⟩ := Outline.exists_imports_eq_cons hfile
  obtain ⟨rest, hrest⟩ := Source.File.exists_render_import himports
  refine ⟨rest, hrest.trans ?_⟩
  simp [Outline.typesImport, Source.Import.statement, Source.Import.isEmpty, String.append_assoc]

/-- Every file begins with the import of `types`, in which the module reference of the settings
stands between the quotes as it is. This is an import from the module that the reference names
exactly if the reference has no quote, no backslash and no end of a line in it. -/
theorem generate_importsTypesFrom_iff {settings : Settings} {code : String}
    (h : generate (Profile.ofSettings settings) graph = .ok code) :
    (∃ rest, code =
      "import \x7b types \x7d from \"" ++ settings.moduleReference ++ "\";\n" ++ rest) ∧
    (ImportsTypesFrom code settings.moduleReference ↔
      ∀ c ∈ settings.moduleReference.toList, c ≠ '"' ∧ c ≠ '\\' ∧ isLineEnd c = false) := by
  obtain ⟨rest, hcode⟩ := exists_generate_eq_append h
  have hcode : code =
      "import \x7b types \x7d from \"" ++ settings.moduleReference ++ "\";\n" ++ rest := hcode
  refine ⟨⟨rest, hcode⟩, ?_⟩
  have hchars : code.toList = "import \x7b types \x7d from ".toList ++
      ('"' :: settings.moduleReference.toList ++ '"' :: ';' :: '\n' :: rest.toList) := by
    simp [hcode]
  -- What stands before the literal is the same on both sides.
  have hcancel : ∀ literal after, code.toList =
      "import \x7b types \x7d from ".toList ++ (literal ++ ';' :: '\n' :: after) ↔
        '"' :: settings.moduleReference.toList ++ '"' :: ';' :: '\n' :: rest.toList =
          literal ++ ';' :: '\n' :: after := by
    intro literal after
    rw [hchars, List.append_cancel_left_eq]
  have hall : settings.moduleReference.toList.all standsForItself ↔
      ∀ c ∈ settings.moduleReference.toList, c ≠ '"' ∧ c ≠ '\\' ∧ isLineEnd c = false := by
    simp [standsForItself, and_assoc]
  -- What is left is whether a reference between quotes is a literal for itself.
  rw [← hall, ← exists_literal_iff _ rest.toList]
  simp only [ImportsTypesFrom, hcancel]

/-- A class without properties. Its file is as short as one can be. -/
def lone : TypeGraph where
  nodes := [{ kind := .object ⟨[], by simp⟩, names := ["Product"] }]
  topLevels := [{ name := "Product", type := 0 }]
  wellFormed := by decide +kernel

/-- The path of a directory above with a backslash in it is accepted as a module reference, but the
file does not import from it. -/
theorem generate_lone_not_importsTypesFrom :
    Settings.check { moduleReference := "..\\types", justTypes := true } = .ok () ∧
      ∃ code, generate (.ofSettings { moduleReference := "..\\types", justTypes := true }) lone =
        .ok code ∧ ¬ ImportsTypesFrom code "..\\types" := by
  have hnames : ∀ id, ¬ Naming.Nameless lone id := Naming.not_nameless (by decide)
  obtain ⟨code, hcode⟩ :=
    exists_generate (.ofSettings { moduleReference := "..\\types", justTypes := true }) hnames
  refine ⟨by decide, code, hcode, fun himports => ?_⟩
  have hall := (generate_importsTypesFrom_iff hcode).2.1 himports
  exact absurd rfl (hall '\\' (by decide)).2.1

end StateTree
