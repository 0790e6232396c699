import StateTree.Proofs.Outline.Descriptions
import StateTree.Proofs.Outline.Returns

/-!
# `StateTree.Proofs.Outline.Lines`: the lines of a file and its text

The lines of a file are taken from its text. The end of a line may be a line feed alone or one with
a carriage return before it, and neither belongs to the line. The text has line feeds at its ends of
lines, and carriage returns only where a description or the module reference brings them. One that
ends up before a line feed is lost in the lines. A description need not have a line feed for this:
if it ends in a carriage return, the line feed of its own line follows.

- `Graph.TypeGraph.descriptionsOf`: the descriptions of a type and of its properties.
- `Outline.descriptions_of_mem`: what is declared for a type has these descriptions.
- `toList_intercalate_generateLines`: what the lines of a file are put together to.
- `generateLines_iff`: which files are put together again from their lines.
-/

set_option autoImplicit false

namespace StateTree

open StateTree.Fallible
open StateTree.Graph
open StateTree.Layout (IntactDoc)
open StateTree.Naming (NameId TypeNames)
open StateTree.Text (KeepsReturns dropReturns dropReturns_eq_self_iff)

/-- The descriptions of a type: its own, and those of the properties of a class. These are all
that its declaration has as documentation. -/
def Graph.TypeGraph.descriptionsOf (graph : TypeGraph) (id : TypeId) : List String :=
  (graph.description? id).toList ++
    match graph.kind id with
    | .object properties => properties.values.filterMap Graph.Property.description
    | _ => []

variable {profile : Profile} {graph : TypeGraph} {names : TypeNames}

namespace Outline

variable {outline : Outline} {written : List TypeId}

/-! ### Descriptions in declarations -/

/-- An alias has the description of its type, not one of the entry point, which has none. -/
theorem doc_of_mem_aliasAll {seen : List NameId} {index : Nat} {topLevels : List TopLevel}
    {made : List Declaration} (h : aliasAll graph names written seen index topLevels = .ok made) :
    ∀ item ∈ made, item.doc = graph.description? item.type := by
  induction topLevels generalizing seen index made with
  | nil =>
    obtain rfl := Except.ok.inj h
    simp
  | cons top rest ih =>
    rw [aliasAll] at h
    -- Entry points whose type is declared, and those whose name has come before, get no alias.
    split at h
    · exact ih h
    · obtain ⟨name, -, h⟩ := bind_eq_ok_iff.1 h
      split at h
      · exact ih h
      · obtain ⟨expr, -, h⟩ := bind_eq_ok_iff.1 h
        obtain ⟨others, hothers, h⟩ := bind_eq_ok_iff.1 h
        obtain rfl := Except.ok.inj h
        exact List.forall_mem_cons.2 ⟨rfl, ih hothers⟩

/-- A declaration has the descriptions of its type. So what documentation a file has can be told
from the graph, without looking at how types are declared. -/
theorem descriptions_of_declaration {type : TypeId} {item : Declaration}
    (h : declaration profile graph names written type = .ok item) :
    item.descriptions = graph.descriptionsOf type := by
  obtain ⟨-, -, hbody⟩ := declaration_eq_ok h
  rw [Declaration.descriptions, TypeGraph.descriptionsOf, doc_of_declaration h]
  congr 1
  obtain ⟨properties, -, hkind, -⟩ | ⟨cases, members, hkind, hcontent⟩ |
    ⟨members, expr, hkind, hcontent, -⟩ := body_cases hbody
  · obtain ⟨members, hcontent, -, hmembers⟩ := model_of_body hkind hbody
    -- The properties of the model are those of the class, in the same order.
    have hdocs : members.map Property.doc =
        properties.values.map Graph.Property.description := by
      rw [← List.forall₂_eq_eq_eq, List.forall₂_map_left_iff, List.forall₂_map_right_iff]
      exact hmembers.flip.imp fun _ _ hmember => hmember.2.2
    simp only [hcontent, hkind]
    show members.filterMap (id ∘ Property.doc) =
      properties.values.filterMap (id ∘ Graph.Property.description)
    rw [← List.filterMap_map, hdocs, List.filterMap_map]
  · simp [hcontent, hkind]
  · simp [hcontent, hkind]

/-- So has every item: an alias stands for a type that is no class. This is what
`generateLines_iff` needs in order to speak of descriptions in the graph. -/
theorem descriptions_of_mem (h : Outline.ofGraph profile graph names = .ok outline)
    {item : Declaration} (hitem : item ∈ outline.items) :
    item.descriptions = graph.descriptionsOf item.type := by
  obtain hitem | hitem := List.mem_append.1 hitem
  · obtain ⟨before, after, hsplit⟩ := List.append_of_mem hitem
    exact descriptions_of_declaration (declaration_of_split h hsplit)
  · have haliases := (ofGraph_eq_ok h).2.1
    obtain ⟨i, top, -, htype, hunwritten, -, expr, hbody, -⟩ := aliasAll_eq_ok haliases item hitem
    rw [Declaration.descriptions, TypeGraph.descriptionsOf, hbody,
      doc_of_mem_aliasAll haliases item hitem]
    cases hkind : graph.kind item.type with
    | object properties =>
      -- A class has a declaration, so it gets no alias.
      have hclass : (graph.kind item.type).isClass := by simp [hkind, Kind.isClass]
      obtain ⟨made, hmade, hsame⟩ := exists_declaration_of_kind h (.inl hclass)
      rw [← htype, ← hsame] at hunwritten
      exact absurd (List.mem_map_of_mem hmade) hunwritten
    | _ => rfl

end Outline

/-! ### Texts and lines -/

/-- The text of a file ends in a line feed, since every fragment does and there is an import at
least. So no line of the file is left open. -/
theorem getLast?_generate {code : String} (h : generate profile graph = .ok code) :
    code.toList.getLast? = some '\n' := by
  obtain ⟨names, outline, file, -, -, hfile, rfl⟩ := generate_eq_ok_iff.1 h
  obtain ⟨others, himports⟩ := Outline.exists_imports_eq_cons hfile
  obtain ⟨rest, hrest⟩ := Source.File.exists_joinSections_eq_cons himports
  refine Layout.getLast?_render _ ?_
  rw [hrest]
  simp [Layout.rowsOf, Source.Import.fragment, Layout.Fragment.rows]

/-- The lines of a file, put together with line feeds, are its text without the carriage returns
before line feeds. There are lines whenever there is a text. -/
theorem toList_intercalate_generateLines {code : String} (h : generate profile graph = .ok code) :
    ∃ lines, generateLines profile graph = .ok lines ∧
      ("\n".intercalate lines ++ "\n").toList = dropReturns code.toList :=
  ⟨Text.lines code, map_eq_ok_iff.2 ⟨code, h, rfl⟩,
    Text.toList_intercalate_lines (getLast?_generate h)⟩

/-- The lines of a file, put together with line feeds, are its text without the carriage returns
before line feeds, one for each. They are the text itself exactly if there are none of these: if
the module reference has no carriage return before a line feed, and no line of a description of a
declared type or of its properties ends in one. -/
theorem generateLines_iff {settings : Settings} {code : String}
    (h : generate (.ofSettings settings) graph = .ok code) :
    ∃ lines names outline,
      generateLines (.ofSettings settings) graph = .ok lines ∧
      TypeNames.assign graph settings.declareUnions settings.acronyms = .ok names ∧
      Outline.ofGraph (.ofSettings settings) graph names = .ok outline ∧
      ("\n".intercalate lines ++ "\n").toList = dropReturns code.toList ∧
      ("\n".intercalate lines ++ "\n" = code ↔
        KeepsReturns settings.moduleReference.toList ∧
        ∀ item ∈ outline.items, ∀ description ∈ graph.descriptionsOf item.type,
          IntactDoc description) := by
  obtain ⟨lines, hlines, hjoined⟩ := toList_intercalate_generateLines h
  obtain ⟨names, outline, file, hnames, houtline, hfile, rfl⟩ := generate_eq_ok_iff.1 h
  refine ⟨lines, names, outline, hlines, hnames, houtline, hjoined, ?_⟩
  have hvocabulary := Expr.Vocabulary.isReturnless_standard settings.moduleReference
  have hdescriptions : ∀ item ∈ outline.items,
      item.descriptions = graph.descriptionsOf item.type := fun item hitem =>
    Outline.descriptions_of_mem houtline hitem
  -- A text is kept by taking such carriage returns out exactly if it has none.
  rw [← String.toList_inj, hjoined, dropReturns_eq_self_iff,
    Outline.keepsReturns_render_iff hnames houtline hfile hvocabulary]
  refine and_congr_right fun _ => forall₂_congr fun item hitem => ?_
  rw [hdescriptions item hitem]

/-- A class whose description ends in a carriage return has a file that its lines are not put
together to. -/
theorem generate_note_lines_ne :
    ∃ code lines, generate (.ofSettings {}) (note (some "a\r") none) = .ok code ∧
      generateLines (.ofSettings {}) (note (some "a\r") none) = .ok lines ∧
      "\n".intercalate lines ++ "\n" ≠ code := by
  have hnames : ∀ id, ¬ Naming.Nameless (note (some "a\r") none) id :=
    Naming.not_nameless (by simp [note, Kind.isClass, Kind.isEnum])
  obtain ⟨code, hcode⟩ := exists_generate (.ofSettings {}) hnames
  obtain ⟨lines, names, outline, hlines, -, houtline, -, hiff⟩ := generateLines_iff hcode
  refine ⟨code, lines, hcode, hlines, fun heq => ?_⟩
  have hclass : ((note (some "a\r") none).kind 1).isClass := rfl
  obtain ⟨item, hitem, htype⟩ := exists_declaration_of_kind houtline (.inl hclass)
  -- Were the lines the text, the description of the class would have no carriage return at the
  -- end of a line.
  have hintact : IntactDoc "a\r" :=
    (hiff.1 heq).2 item (List.mem_append_left _ hitem) "a\r" (htype ▸ List.mem_cons_self)
  exact hintact "a\r" (by decide) rfl

end StateTree
