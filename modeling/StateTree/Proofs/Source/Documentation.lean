import StateTree.Source.File

/-!
# `StateTree.Proofs.Source.Documentation`: files without documentation

Documentation stands in fragments of its own. It can be taken out of a declaration before its lines
are made, or out of the lines, at any depth of blocks: what is left is the same. The same goes for a
whole file, in which the other sections have no documentation.

- `Fragment.undocumentedAll`: fragments without documentation.
- `Declaration.undocumented`, `File.undocumented`: declarations and files without documentation.
- `File.fragments`: all fragments of a file.
- `Declaration.fragments_undocumented`, `File.fragments_undocumented`: their fragments.
-/

set_option autoImplicit false

namespace StateTree

open StateTree.Layout (Fragment)

/-! ### Fragments without documentation -/

namespace Layout.Fragment

mutual

/-- What is left of a fragment without documentation. It is a list, since of a documentation
comment nothing is left. -/
def undocumented : Fragment → List Fragment
  | .line text => [.line text]
  | .blank => [.blank]
  | .block header body close => [.block header (undocumentedAll body) close]
  | .indented body => [.indented (undocumentedAll body)]
  | .sequence items => [.sequence (undocumentedAll items)]
  | .doc _ => []
  | .comment text => [.comment text]

/-- What is left of fragments without documentation, at any depth. Line comments stay: the header
of a file is made of them, and no description gets into it. -/
def undocumentedAll : List Fragment → List Fragment
  | [] => []
  | fragment :: rest => fragment.undocumented ++ undocumentedAll rest

end

theorem undocumentedAll_append (first second : List Fragment) :
    undocumentedAll (first ++ second) = undocumentedAll first ++ undocumentedAll second := by
  induction first with
  | nil => rfl
  | cons fragment rest ih =>
    rw [List.cons_append, undocumentedAll, undocumentedAll, ih, List.append_assoc]

/-- Documentation in front is taken out. This is where the documentation of a declaration and of a
property stands. -/
theorem undocumentedAll_docOf?_append (doc : Option String) (fragments : List Fragment) :
    undocumentedAll (docOf? doc ++ fragments) = undocumentedAll fragments := by
  cases doc <;> rfl

/-- Fragments that are kept one by one are kept. It is used for lines and comments, which have
nothing to take out. -/
theorem undocumentedAll_map {α : Type} {f : α → Fragment} (h : ∀ a, (f a).undocumented = [f a])
    (items : List α) : undocumentedAll (items.map f) = items.map f := by
  induction items with
  | nil => rfl
  | cons a rest ih => rw [List.map_cons, undocumentedAll, h, ih]; rfl

end Layout.Fragment

open Layout.Fragment (undocumentedAll)

/-! ### Sources without documentation -/

namespace Source

/-- A property without documentation. It has the same key and the same value. -/
def ModelProperty.undocumented (property : ModelProperty) : ModelProperty :=
  { property with doc := none }

/-- A declaration without documentation. The converter class has none to begin with. -/
def Declaration.undocumented : Declaration → Declaration
  | .model name factory _ properties =>
    .model name factory none (properties.map ModelProperty.undocumented)
  | .enumeration name _ members => .enumeration name none members
  | .constant name value _ => .constant name value none
  | .converter methods => .converter methods

/-- Taking documentation out before a property is written or after it is the same. -/
theorem ModelProperty.fragments_undocumented (property : ModelProperty) :
    property.undocumented.fragments = undocumentedAll property.fragments := by
  rw [ModelProperty.fragments, ModelProperty.fragments,
    Layout.Fragment.undocumentedAll_docOf?_append]
  rfl

/-- So it is for several properties, as the body of a model has them. -/
theorem flatMap_fragments_undocumented (properties : List ModelProperty) :
    (properties.map ModelProperty.undocumented).flatMap ModelProperty.fragments =
      undocumentedAll (properties.flatMap ModelProperty.fragments) := by
  induction properties with
  | nil => rfl
  | cons property rest ih =>
    rw [List.map_cons, List.flatMap_cons, List.flatMap_cons, ih,
      ModelProperty.fragments_undocumented, Layout.Fragment.undocumentedAll_append]

/-- Methods have no documentation, so nothing is taken out of them or of the blank lines between
them. -/
theorem Method.undocumentedAll_fragments (methods : List Method) :
    undocumentedAll (Method.fragments methods) = Method.fragments methods := by
  have hmethod : ∀ method : Method, method.fragment.undocumented = [method.fragment] := by
    intro method
    rw [Method.fragment, Layout.Fragment.undocumented,
      Layout.Fragment.undocumentedAll_map fun _ => rfl]
  fun_induction Method.fragments methods with
  | case1 => rfl
  | case2 method => rw [undocumentedAll, hmethod]; rfl
  | case3 method rest hrest ih =>
    rw [undocumentedAll, hmethod, undocumentedAll, ih]
    rfl

/-- Taking documentation out before a declaration is written or after it is the same. With this,
that code is free of descriptions need only be shown of declarations. -/
theorem Declaration.fragments_undocumented (declaration : Declaration) :
    declaration.undocumented.fragments = undocumentedAll declaration.fragments := by
  -- In each kind of declaration comments come first or inside of a block, and are left out there.
  cases declaration with
  | model name factory doc properties =>
    rw [undocumented, fragments, fragments, Layout.Fragment.undocumentedAll_docOf?_append,
      flatMap_fragments_undocumented]
    cases properties <;> rfl
  | enumeration name doc members =>
    rw [undocumented, fragments, fragments, Layout.Fragment.undocumentedAll_docOf?_append,
      undocumentedAll, Layout.Fragment.undocumented,
      Layout.Fragment.undocumentedAll_map fun _ => rfl]
    rfl
  | constant name value doc =>
    rw [undocumented, fragments, fragments, Layout.Fragment.undocumentedAll_docOf?_append]
    rfl
  | converter methods =>
    rw [undocumented, fragments, undocumentedAll, Layout.Fragment.undocumented,
      Method.undocumentedAll_fragments]
    rfl

namespace File

/-- A file without documentation. The fragments of its declarations have been made, so it is taken
out of these. -/
def undocumented (file : File) : File :=
  { file with declarations := file.declarations.map undocumentedAll }

/-- All fragments of a file, in order, with blank lines between sections. The text of the file is
what these are rendered as. -/
def fragments (file : File) : List Fragment :=
  joinSections file.sections

/-- Sections are joined in the same way without documentation. No section gets lost by it, even if
all of it were documentation. -/
theorem joinSections_undocumented (sections : List (List Fragment)) :
    joinSections (sections.map undocumentedAll) = undocumentedAll (joinSections sections) := by
  fun_induction joinSections sections with
  | case1 => rfl
  | case2 fragments => rfl
  | case3 fragments rest hrest ih =>
    rw [Layout.Fragment.undocumentedAll_append, undocumentedAll, ← ih]
    cases rest with
    | nil => exact absurd rfl hrest
    | cons _ _ => rfl

/-- A section that is kept fragment by fragment is kept, if it is there. Imports and the header
are such sections. -/
theorem asSection_undocumented {α : Type} {f : α → Fragment}
    (h : ∀ a, (f a).undocumented = [f a]) (items : List α) :
    (asSection (items.map f)).map undocumentedAll = asSection (items.map f) := by
  unfold asSection
  split
  · rfl
  · rw [List.map_cons, Layout.Fragment.undocumentedAll_map h]
    rfl

/-- Taking documentation out of the declarations of a file or out of all its fragments is the
same. -/
theorem fragments_undocumented (file : File) :
    file.undocumented.fragments = undocumentedAll file.fragments := by
  have hsections : file.undocumented.sections = file.sections.map undocumentedAll := by
    rw [sections, sections, List.map_append, List.map_append,
      asSection_undocumented (f := Import.fragment) fun _ => rfl,
      asSection_undocumented (f := Layout.Fragment.comment) fun _ => rfl]
    rfl
  rw [fragments, hsections, joinSections_undocumented]
  rfl

end File

end Source

end StateTree
