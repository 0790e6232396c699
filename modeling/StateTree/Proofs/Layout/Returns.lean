import StateTree.Proofs.Layout.DocComments
import StateTree.Proofs.Text.Lines

/-!
# `StateTree.Proofs.Layout.Returns`: carriage returns in what fragments are written as

A row is written with a line feed behind it. A carriage return at the end of its content then stands
before the line feed of the row, and one inside may stand before a line feed that the content has
itself. Rows do not mix, since every row ends in a line feed, and margins have no carriage return.

- `Intact`: a content none of whose carriage returns stands before a line feed.
- `AllIntact`: fragments with such rows only, and one lemma for each kind of fragment.
- `keepsReturns_render_iff`: the text of fragments.
- `intact_docLine_iff`: the lines of documentation comments.
-/

set_option autoImplicit false

namespace StateTree.Layout

open StateTree.Text (KeepsReturns Returnless keepsReturns_append_newline_iff
  keepsReturns_append_of_notMem keepsReturns_line_iff keepsReturns_of_notMem
  newline_notMem_of_mem_lines)

/-! ### Rows -/

/-- A content of a row, none of whose carriage returns stands before a line feed. The line feed
behind the row is put behind the content, since it is one of these. -/
def Intact (content : String) : Prop :=
  KeepsReturns (content.toList ++ ['\n'])

/-- A row with such a content. A blank row has no content. -/
def Row.IsIntact : Row → Prop
  | .blank => True
  | .text _ content => Intact content

variable {content line : String} {row : Row} {fragments : List Fragment}

/-- A content without a carriage return. Most rows are intact for this reason. -/
theorem intact_of_returnless (h : Returnless content) : Intact content :=
  keepsReturns_of_notMem (by simpa [Returnless] using h)

/-- A content without a line feed must not end in a carriage return. It is the only place where
one can be lost. -/
theorem intact_iff_of_newline_notMem (h : '\n' ∉ content.toList) :
    Intact content ↔ content.toList.getLast? ≠ some '\r' :=
  keepsReturns_line_iff h

@[simp]
theorem isIntact_text_iff {bodies : Nat} : (Row.text bodies content).IsIntact ↔ Intact content :=
  Iff.rfl

/-- Bodies around a row do not change its content, so rows of blocks count like any others. -/
@[simp]
theorem isIntact_inside_iff {bodies : Nat} : (row.inside bodies).IsIntact ↔ row.IsIntact := by
  cases row <;> rfl

/-- Margins have no carriage returns, and can be left off. -/
theorem return_notMem_margin (indent : Indent) (level : Nat) :
    '\r' ∉ (indent.margin level).toList := by
  intro h
  obtain h | h := eq_blank_or_tab_of_mem_margin h <;> cases h

/-- What a row is written as ends in a line feed, and what stands before that has the carriage
returns of the content. Both are said of one text, since the next lemma cuts the text there. -/
theorem exists_textAt_eq (indent : Indent) (level : Nat) (row : Row) :
    ∃ front, (row.textAt indent level).toList = front ++ ['\n'] ∧
      (KeepsReturns (front ++ ['\n']) ↔ row.IsIntact) := by
  cases row with
  | blank =>
    refine ⟨[], by simp [Row.textAt], iff_of_true (keepsReturns_of_notMem (by simp)) trivial⟩
  | text bodies content =>
    refine ⟨(indent.margin (level + bodies)).toList ++ content.toList, by simp [Row.textAt], ?_⟩
    rw [List.append_assoc, keepsReturns_append_of_notMem (return_notMem_margin _ _)]
    rfl

/-- Rows are written one after the other, and each counts alone, since a line feed ends each of
them and no carriage return can stand before the line feed of another row. -/
theorem keepsReturns_flatMap_textAt_iff (indent : Indent) (level : Nat) (rows : List Row) :
    KeepsReturns (rows.flatMap fun row => (row.textAt indent level).toList) ↔
      ∀ row ∈ rows, row.IsIntact := by
  induction rows with
  | nil => exact iff_of_true .nil (by simp)
  | cons row rows ih =>
    obtain ⟨front, htext, hfront⟩ := exists_textAt_eq indent level row
    -- The line feed behind the first row keeps it apart from the others.
    rw [List.flatMap_cons, htext, keepsReturns_append_newline_iff, hfront, ih, List.forall_mem_cons]

/-! ### Fragments -/

/-- Fragments none of whose rows has a carriage return before a line feed. The lemmas below say
what this means for each kind of fragment, so that no proof about declarations looks at rows. -/
def AllIntact (fragments : List Fragment) : Prop :=
  ∀ row ∈ rowsOf fragments, row.IsIntact

/-- The text of fragments is that of their rows, at level zero. -/
theorem toList_render (indent : Indent) (fragments : List Fragment) :
    (render indent fragments).toList =
      (rowsOf fragments).flatMap fun row => (row.textAt indent 0).toList := by
  rw [render, Buffer.writeAll_eq_writeRows]
  simp [Buffer.writeRows, String.toList_join, List.flatMap_map]

/-- It ends in a line feed if there are any rows. A text of no rows is empty. -/
theorem getLast?_render (indent : Indent) (h : rowsOf fragments ≠ []) :
    (render indent fragments).toList.getLast? = some '\n' := by
  obtain ⟨rows, row, hrows⟩ := (List.eq_nil_or_concat _).resolve_left h
  obtain ⟨front, htext, -⟩ := exists_textAt_eq indent 0 row
  rw [toList_render, hrows, List.concat_eq_append, List.flatMap_append, List.flatMap_singleton,
    htext, ← List.append_assoc]
  exact List.getLast?_concat

/-- It keeps its carriage returns exactly if all their rows do. -/
theorem keepsReturns_render_iff (indent : Indent) (fragments : List Fragment) :
    KeepsReturns (render indent fragments).toList ↔ AllIntact fragments := by
  rw [toList_render, keepsReturns_flatMap_textAt_iff, AllIntact]

@[simp]
theorem allIntact_nil : AllIntact [] := by
  simp [AllIntact, rowsOf]

@[simp]
theorem allIntact_append_iff {others : List Fragment} :
    AllIntact (fragments ++ others) ↔ AllIntact fragments ∧ AllIntact others := by
  simp [AllIntact, rowsOf_append, or_imp, forall_and]

/-- Fragments count one by one. It splits off the first one. -/
theorem allIntact_cons_iff {fragment : Fragment} :
    AllIntact (fragment :: fragments) ↔ AllIntact [fragment] ∧ AllIntact fragments :=
  @allIntact_append_iff [fragment] fragments

/-- So do the fragments of items, such as those of the properties of a model. -/
theorem allIntact_flatMap_iff {α : Type} {items : List α} {f : α → List Fragment} :
    AllIntact (items.flatMap f) ↔ ∀ item ∈ items, AllIntact (f item) := by
  induction items with
  | nil => simp
  | cons item items ih => rw [List.flatMap_cons, allIntact_append_iff, ih, List.forall_mem_cons]

/-- And fragments of one each, such as the members of an enum. -/
theorem allIntact_map_iff {α : Type} {items : List α} {f : α → Fragment} :
    AllIntact (items.map f) ↔ ∀ item ∈ items, AllIntact [f item] := by
  rw [List.map_eq_flatMap, allIntact_flatMap_iff]

@[simp]
theorem allIntact_line_iff : AllIntact [.line content] ↔ Intact content := by
  simp [AllIntact, rowsOf, Fragment.rows]

@[simp]
theorem allIntact_blank : AllIntact [.blank] := by
  simp [AllIntact, rowsOf, Fragment.rows, Row.IsIntact]

@[simp]
theorem allIntact_comment_iff : AllIntact [.comment content] ↔ Intact (commentLine content) := by
  simp [AllIntact, rowsOf, Fragment.rows]

@[simp]
theorem allIntact_block_iff {header close : String} {body : List Fragment} :
    AllIntact [.block header body (some close)] ↔
      Intact header ∧ AllIntact body ∧ Intact close := by
  simp [AllIntact, rowsOf, Fragment.rows, or_imp, forall_and]

/-! ### Documentation comments -/

/-- Breaking up ends of comments leaves the last character as it is. So a line ends in a carriage
return exactly if it did so before. -/
theorem getLast?_breakCommentEnd (cs : List Char) :
    (breakCommentEnd cs).getLast? = cs.getLast? := by
  fun_induction breakCommentEnd cs with
  | case1 rest ih => simp only [List.getLast?_cons, ih, Option.getD_some]
  | case2 c rest hpair ih => simp only [List.getLast?_cons, ih]
  | case3 => rfl

/-- Breaking up ends of comments adds backslashes only. No line feed comes into a line by it. -/
theorem mem_of_mem_breakCommentEnd {c : Char} {cs : List Char} (h : c ∈ breakCommentEnd cs) :
    c = '\\' ∨ c ∈ cs := by
  fun_induction breakCommentEnd cs with
  | case1 rest ih =>
    simp only [List.mem_cons] at h ⊢
    tauto
  | case2 d rest hpair ih =>
    simp only [List.mem_cons] at h ⊢
    tauto
  | case3 => cases h

/-- A line of a documentation comment must not end in a carriage return. The hypothesis holds of
lines that a description is split into. -/
theorem intact_docLine_iff (h : '\n' ∉ line.toList) :
    Intact (docLine line) ↔ line.toList.getLast? ≠ some '\r' := by
  have hmem : '\n' ∉ breakCommentEnd line.toList := by
    intro hmem
    obtain hback | hmem := mem_of_mem_breakCommentEnd hmem
    · cases hback
    · exact h hmem
  rw [← getLast?_breakCommentEnd]
  unfold docLine
  split
  · rename_i hempty
    rw [hempty]
    exact iff_of_true (intact_of_returnless (by decide)) (by simp)
  · rename_i hline
    -- The line is put behind a blank, and is not empty.
    have hlist : (" * " ++ String.ofList (breakCommentEnd line.toList)).toList =
        " * ".toList ++ breakCommentEnd line.toList := by simp
    have hlast : (" * ".toList ++ breakCommentEnd line.toList).getLast? =
        (breakCommentEnd line.toList).getLast? := List.getLast?_append_of_ne_nil _ hline
    rw [intact_iff_of_newline_notMem, hlist, hlast]
    rw [hlist, List.mem_append, not_or]
    exact ⟨by decide, hmem⟩

/-- A description none of whose lines ends in a carriage return. Lines are split at line feeds, of
which one carriage return is taken off with the line feed; a line has one left at its end if there
were two, or if the description ends in one. -/
def IntactDoc (description : String) : Prop :=
  ∀ line ∈ Text.lines description, line.toList.getLast? ≠ some '\r'

/-- The documentation comment of a description, if there is one. Its first and its last line are
fixed. -/
@[simp]
theorem allIntact_docOf?_iff {doc : Option String} :
    AllIntact (Fragment.docOf? doc) ↔ ∀ description ∈ doc, IntactDoc description := by
  cases doc with
  | none => simp [Fragment.docOf?]
  | some description =>
    have hfirst : Intact "/**" := intact_of_returnless (by decide)
    have hlast : Intact " */" := intact_of_returnless (by decide)
    -- The first and the last row of a comment are fixed and have no carriage return. What is left
    -- are its lines.
    have hrows : AllIntact (Fragment.docOf? (some description)) ↔
        ∀ line ∈ Text.lines description, Intact (docLine line) := by
      simp [AllIntact, Fragment.docOf?, Fragment.docOf, rowsOf, Fragment.rows, or_imp, forall_and,
        hfirst, hlast]
    rw [hrows]
    simp only [Option.mem_some_iff, forall_eq']
    exact forall₂_congr fun line hline => intact_docLine_iff (newline_notMem_of_mem_lines hline)

end StateTree.Layout
