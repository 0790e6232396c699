import StateTree.Proofs.Layout.Returns
import StateTree.Proofs.Source.Documentation

/-!
# `StateTree.Proofs.Source.Returns`: where a file may have carriage returns

What a declaration is written with, other than its descriptions, are texts that are made ready
before. If these have no carriage returns, all that there are in the declaration come from its
descriptions. In a file, the imports and the header count besides.

- `Declaration.texts`, `Declaration.descriptions`: what a declaration is written with.
- `Declaration.allIntact_fragments_iff`: it is intact exactly if its descriptions are.
- `File.keepsReturns_render_iff`: the parts of a file.
-/

set_option autoImplicit false

namespace StateTree.Source

open StateTree.Layout
open StateTree.Text (KeepsReturns Returnless returnless_append_iff)

/-! ### Declarations -/

/-- The texts that a method is written with. Its name, the name and the type of its parameter, the
type of its result, and the lines of its body. -/
def Method.texts (method : Method) : List String :=
  method.name :: method.param :: method.paramType :: method.returns :: method.body

namespace Declaration

/-- The texts that a declaration is written with, other than its descriptions. All of them are
made ready before: names, keys, expressions, and escaped literals. -/
def texts : Declaration → List String
  | model name factory _ properties =>
    name :: factory :: properties.flatMap fun property => [property.key, property.value]
  | enumeration name _ members => name :: members.flatMap fun member => [member.1, member.2]
  | constant name value _ => [name, value]
  | converter methods => methods.flatMap Method.texts

/-- The descriptions that a declaration is written with: its own and those of its properties. -/
def descriptions : Declaration → List String
  | model _ _ doc properties => doc.toList ++ properties.filterMap ModelProperty.doc
  | enumeration _ doc _ => doc.toList
  | constant _ _ doc => doc.toList
  | converter _ => []

end Declaration

/-- The lines of a property are those of its description and one more, which has no carriage
return if the key and the value have none. -/
theorem ModelProperty.allIntact_fragments_iff {property : ModelProperty}
    (hkey : Returnless property.key) (hvalue : Returnless property.value) :
    AllIntact property.fragments ↔ ∀ description ∈ property.doc, IntactDoc description := by
  have hline : Returnless (property.key ++ ": " ++ property.value ++ ",") := by
    simp only [returnless_append_iff, hkey, hvalue, true_and, and_true]
    decide
  simp [fragments, intact_of_returnless hline]

/-- Methods have no descriptions, so they are intact if their texts have no carriage returns. -/
theorem Method.allIntact_fragments {methods : List Method}
    (h : ∀ s ∈ methods.flatMap texts, Returnless s) : AllIntact (fragments methods) := by
  have hmethod : ∀ method : Method, (∀ s ∈ method.texts, Returnless s) →
      AllIntact [method.fragment] := by
    intro method hmethod
    simp only [texts, List.forall_mem_cons] at hmethod
    obtain ⟨hname, hparam, htype, hreturns, hbody⟩ := hmethod
    rw [fragment, allIntact_block_iff, allIntact_map_iff]
    refine ⟨intact_of_returnless ?_, ?_, intact_of_returnless (by decide)⟩
    · simp only [returnless_append_iff, hname, hparam, htype, hreturns, and_true]
      decide
    · exact fun s hs => allIntact_line_iff.2 (intact_of_returnless (hbody s hs))
  -- Methods are set apart by a blank line, which the last one does not have.
  fun_induction fragments methods with
  | case1 => exact allIntact_nil
  | case2 method => exact hmethod method fun s hs => h s (by simp [hs])
  | case3 method rest hrest ih =>
    rw [List.flatMap_cons, List.forall_mem_append] at h
    exact allIntact_cons_iff.2 ⟨hmethod method h.1,
      allIntact_cons_iff.2 ⟨allIntact_blank, ih h.2⟩⟩

/-- The lines of a model are those of its description and of its properties, and up to two more. A
model without properties is written in one line. -/
theorem allIntact_model_iff {name factory : String} {doc : Option String}
    {properties : List ModelProperty} (hname : Returnless name) (hfactory : Returnless factory) :
    AllIntact (Declaration.model name factory doc properties).fragments ↔
      (∀ description ∈ doc, IntactDoc description) ∧
        ∀ property ∈ properties, AllIntact property.fragments := by
  have hhead : Returnless (modelHead name factory) := by
    unfold modelHead
    simp only [returnless_append_iff, hname, hfactory, and_true]
    decide
  rw [Declaration.fragments, allIntact_append_iff, allIntact_docOf?_iff]
  refine and_congr_right fun _ => ?_
  -- Without properties the model is on a line of its own, so that there is no block.
  cases properties with
  | nil =>
    refine iff_of_true (allIntact_line_iff.2 (intact_of_returnless ?_)) (by simp)
    exact returnless_append_iff.2 ⟨hhead, by decide⟩
  | cons property rest =>
    rw [if_neg (by simp), allIntact_block_iff, allIntact_flatMap_iff]
    have hclose : Intact "\x7d);" := intact_of_returnless (by decide)
    exact ⟨fun h => h.2.1, fun h => ⟨intact_of_returnless hhead, h, hclose⟩⟩

/-- A declaration whose other texts have no carriage returns is intact exactly if its descriptions
are. `Outline.returnless_of_mem_source` shows the hypothesis of every declaration in a file. -/
theorem Declaration.allIntact_fragments_iff {declaration : Declaration}
    (h : ∀ s ∈ declaration.texts, Returnless s) :
    AllIntact declaration.fragments ↔
      ∀ description ∈ declaration.descriptions, IntactDoc description := by
  cases declaration with
  | model name factory doc properties =>
    simp only [texts, List.forall_mem_cons] at h
    obtain ⟨hname, hfactory, hproperties⟩ := h
    -- Properties have their own lemma, whose hypotheses are about texts of the model.
    have hproperty : ∀ property ∈ properties, (AllIntact property.fragments ↔
        ∀ description ∈ property.doc, IntactDoc description) := by
      intro property hproperty
      have htexts : ∀ s ∈ [property.key, property.value], Returnless s :=
        fun s hs => hproperties s (List.mem_flatMap.2 ⟨property, hproperty, hs⟩)
      exact ModelProperty.allIntact_fragments_iff (htexts _ (by simp)) (htexts _ (by simp))
    rw [allIntact_model_iff hname hfactory, forall₂_congr hproperty]
    simp only [descriptions, List.forall_mem_append, Option.mem_toList]
    refine and_congr_right fun _ => ⟨fun hall description hdescription => ?_, ?_⟩
    · obtain ⟨property, hproperty, hdoc⟩ := List.mem_filterMap.1 hdescription
      exact hall property hproperty description hdoc
    · intro hall property hproperty description hdoc
      exact hall description (List.mem_filterMap.2 ⟨property, hproperty, hdoc⟩)
  | enumeration name doc members =>
    simp only [texts, List.forall_mem_cons] at h
    obtain ⟨hname, hmembers⟩ := h
    have hlines : AllIntact (members.map memberLine) := by
      refine allIntact_map_iff.2 fun member hmember => ?_
      have htexts : ∀ s ∈ [member.1, member.2], Returnless s :=
        fun s hs => hmembers s (List.mem_flatMap.2 ⟨member, hmember, hs⟩)
      refine allIntact_line_iff.2 (intact_of_returnless ?_)
      simp only [returnless_append_iff, htexts member.1 (by simp), htexts member.2 (by simp),
        true_and, and_true]
      decide
    have hhead : Intact ("export enum " ++ name ++ " \x7b") := by
      refine intact_of_returnless ?_
      simp only [returnless_append_iff, hname, and_true]
      decide
    have hclose : Intact "\x7d" := intact_of_returnless (by decide)
    simp [fragments, descriptions, hhead, hlines, hclose]
  | constant name value doc =>
    simp only [texts, List.forall_mem_cons] at h
    obtain ⟨hname, hvalue, -⟩ := h
    have hline : Intact ("export const " ++ name ++ " = " ++ value ++ ";") := by
      refine intact_of_returnless ?_
      simp only [returnless_append_iff, hname, hvalue, and_true]
      decide
    simp [fragments, descriptions, hline]
  | converter methods =>
    have hhead : Intact "export class Convert \x7b" := intact_of_returnless (by decide)
    have hclose : Intact "\x7d" := intact_of_returnless (by decide)
    simp [fragments, descriptions, hhead, hclose, Method.allIntact_fragments h]

/-! ### Files -/

namespace File

/-- Sections count one by one. The lines between them are blank. -/
theorem allIntact_joinSections_iff {sections : List (List Fragment)} :
    AllIntact (joinSections sections) ↔ ∀ fragments ∈ sections, AllIntact fragments := by
  fun_induction joinSections sections with
  | case1 => simp
  | case2 fragments => simp
  | case3 fragments rest hrest ih =>
    rw [allIntact_append_iff, allIntact_cons_iff, ih, List.forall_mem_cons]
    exact and_congr_right fun _ => and_iff_right allIntact_blank

/-- A section that is empty does not count: it is not there. -/
theorem allIntact_asSection_iff {fragments : List Fragment} :
    (∀ part ∈ asSection fragments, AllIntact part) ↔ AllIntact fragments := by
  unfold asSection
  split
  · rename_i hempty
    rw [List.isEmpty_iff.1 hempty]
    exact iff_of_true (by simp) allIntact_nil
  · exact List.forall_mem_singleton

/-- The text of a file keeps its carriage returns exactly if its imports, its header and its
declarations do. -/
theorem keepsReturns_render_iff (file : File) :
    KeepsReturns file.render.toList ↔
      (∀ imported ∈ file.imports, Intact imported.statement) ∧
      (∀ s ∈ file.header, Intact (commentLine s)) ∧
      ∀ fragments ∈ file.declarations, AllIntact fragments := by
  rw [render, Layout.keepsReturns_render_iff, allIntact_joinSections_iff, sections]
  simp only [List.forall_mem_append, allIntact_asSection_iff, allIntact_map_iff, Import.fragment,
    allIntact_line_iff, allIntact_comment_iff, and_assoc]

end File

end StateTree.Source
