import StateTree.Expr.Basic
import StateTree.Proofs.Fallible

/-!
# `StateTree.Proofs.Expr.Uses`: the names in an expression

A name is used late where it stands in a reference that is not evaluated before the whole file has
been, `types.late(() => N)`, and eagerly everywhere else.

- `Expr.uses`: the names in an expression, from left to right.
- `Expr.usesIn`: the names in a written expression, a late one being known by the text before it.
- `Expr.usesIn_word`: an expression and what it is written as have the same names.
- `Word.exists_render`: a word whose names are all assigned has a text.
-/

set_option autoImplicit false

namespace StateTree

open StateTree.Expr (Part Vocabulary Word)
open StateTree.Naming (NameId Names)

namespace Expr

/-- A name where it stands in an expression. Whether it is evaluated at once is what matters for
the order of declarations. -/
structure Use where
  name : NameId
  /-- Whether it is not evaluated before the whole file has been. -/
  late : Bool
  deriving DecidableEq, Repr

mutual

/-- The names in an expression. An enum is written with its name three times, so there are three
uses of it. -/
def uses : Expr → List Use
  | scalar _ => []
  | array items => uses items
  | union members => usesOf members
  | enumeration name => [⟨name, false⟩, ⟨name, false⟩, ⟨name, false⟩]
  | reference name => [⟨name, false⟩]
  | late name => [⟨name, true⟩]

/-- The names in expressions. -/
def usesOf : List Expr → List Use
  | [] => []
  | expr :: rest => uses expr ++ usesOf rest

end

/-- A name in expressions is in one of them. It takes statements about the names of a union apart
into those about its members. -/
theorem mem_usesOf_iff {use : Use} {exprs : List Expr} :
    use ∈ usesOf exprs ↔ ∃ expr ∈ exprs, use ∈ expr.uses := by
  induction exprs with
  | nil => simp [usesOf]
  | cons expr rest ih => simp [usesOf, ih]

/-! ### Names in what is written -/

/-- The text that a late reference opens with. A name is used late exactly if this text stands
right before it, which is how `usesIn` finds out from the parts alone. -/
def opening (vocabulary : Vocabulary) : String :=
  vocabulary.member "late(() => "

/-- The names in parts, given whether the text before them opens a late reference. It reads what
is written from left to right and knows nothing of expressions; that it finds the names of an
expression, and which of them are late, is `usesIn_word`. -/
def usesIn (vocabulary : Vocabulary) : Bool → List Part → List Use
  | _, [] => []
  | opened, .name name :: rest => ⟨name, opened⟩ :: usesIn vocabulary false rest
  | _, .text s :: rest => usesIn vocabulary (s == opening vocabulary) rest

variable {vocabulary : Vocabulary}

/-- Members of the object that builds types differ if their names do. -/
theorem member_inj {a b : String} : vocabulary.member a = vocabulary.member b ↔ a = b :=
  String.append_right_inj _

/-- A text that does not end in an arrow opens no late reference. The condition is on the end of
the text, since its front is the object that builds types, under whatever name. -/
theorem beq_opening_eq_false {s : String} (h : ¬ [' ', '>'] <+: s.toList.reverse) :
    (s == opening vocabulary) = false := by
  rw [beq_eq_false_iff_ne]
  rintro rfl
  refine h ⟨(vocabulary.root ++ ".late(() =").toList.reverse, ?_⟩
  simp [opening, Vocabulary.member]

/-- Only one member of the object that builds types opens a late reference. So a call such as that
of an array leaves the names in its argument as they are. -/
theorem member_beq_opening {a : String} (h : a ≠ "late(() => ") :
    (vocabulary.member a == opening vocabulary) = false := by
  rw [beq_eq_false_iff_ne, opening, Ne, member_inj]
  exact h

/-- No expression needs parentheses inside another one: all that is written is a call or a name.
-/
theorem nested_word (expr : Expr) :
    (word vocabulary expr).nested = (word vocabulary expr).parts := by
  cases expr <;> rfl

mutual

/-- An expression and what it is written as have the same names. The parts that follow must not
begin with a name, which a last text could make a late one. They are left open, since the parts of
an expression are followed by those of the call around it. -/
theorem usesIn_word_append (expr : Expr) (rest : List Part)
    (hrest : usesIn vocabulary true rest = usesIn vocabulary false rest) :
    usesIn vocabulary false ((word vocabulary expr).parts ++ rest) =
      expr.uses ++ usesIn vocabulary false rest := by
  -- So the text that ends an expression makes no difference to the parts after it.
  have hflag : ∀ opened, usesIn vocabulary opened rest = usesIn vocabulary false rest := by
    intro opened
    cases opened with
    | true => exact hrest
    | false => rfl
  -- Each kind of expression is a few texts with names or expressions between them. The texts are
  -- told apart from the opening of a late reference, and the recursion is for the expressions.
  cases expr with
  | scalar type => exact hflag _
  | array items =>
    have hopen := @member_beq_opening vocabulary "array(" (by decide)
    have ih := usesIn_word_append items (.text ")" :: rest) rfl
    simp only [word, nested_word, List.cons_append, List.append_assoc, List.nil_append, usesIn,
      hopen, ih, uses, hflag]
  | union members =>
    have hopen := @member_beq_opening vocabulary "union(" (by decide)
    have ih := usesIn_words_append members (.text ")" :: rest) rfl
    simp only [word, List.cons_append, List.append_assoc, List.nil_append, usesIn, hopen, ih, uses,
      hflag]
  | enumeration name =>
    have hopen := @member_beq_opening vocabulary "enumeration<" (by decide)
    have htext := @beq_opening_eq_false vocabulary ">(\"" (by decide)
    have hvalues := @beq_opening_eq_false vocabulary "\", Object.values(" (by decide)
    simp only [word, List.cons_append, List.nil_append, usesIn, hopen, htext, hvalues, uses, hflag]
  | reference name => rfl
  | late name =>
    have hopen : (vocabulary.member "late(() => " == opening vocabulary) = true :=
      beq_self_eq_true _
    simp only [word, List.cons_append, List.nil_append, usesIn, hopen, uses, hflag]

/-- The same for expressions with commas between them: what follows an expression begins with a
comma or is what follows all of them. -/
theorem usesIn_words_append (exprs : List Expr) (rest : List Part)
    (hrest : usesIn vocabulary true rest = usesIn vocabulary false rest) :
    usesIn vocabulary false (separated (words vocabulary exprs) ++ rest) =
      usesOf exprs ++ usesIn vocabulary false rest := by
  -- The last expression has no comma behind it.
  match exprs with
  | [] => rfl
  | [expr] =>
    have ih := usesIn_word_append expr rest hrest
    simp only [words, separated, nested_word, ih, usesOf, List.append_nil]
  | expr :: next :: others =>
    have hcomma := @beq_opening_eq_false vocabulary ", " (by decide)
    have ih := usesIn_word_append expr
      (.text ", " :: (separated (words vocabulary (next :: others)) ++ rest)) rfl
    have ihs := usesIn_words_append (next :: others) rest hrest
    simp only [words, separated, nested_word, List.append_assoc, List.cons_append, usesOf]
      at ih ihs ⊢
    rw [ih, usesIn, hcomma, ihs]

end

/-- An expression and what it is written as have the same names. So whatever is shown of the names
in an expression holds of the names that stand in a file, late ones included. -/
theorem usesIn_word (vocabulary : Vocabulary) (expr : Expr) :
    usesIn vocabulary false (word vocabulary expr).parts = expr.uses := by
  have h := @usesIn_word_append vocabulary expr [] rfl
  simpa [usesIn] using h

/-! ### Written names -/

/-- Every name among parts is used, with whatever is known of the text before it. -/
theorem exists_use_of_name_mem (vocabulary : Vocabulary) (opened : Bool) {parts : List Part}
    {name : NameId} (h : .name name ∈ parts) :
    ∃ use ∈ usesIn vocabulary opened parts, use.name = name := by
  induction parts generalizing opened with
  | nil => simp at h
  | cons part rest ih =>
    cases part with
    | text s =>
      rw [usesIn]
      exact ih _ (by simpa using h)
    | name other =>
      rw [usesIn]
      rcases List.mem_cons.1 h with heq | h
      · exact ⟨⟨other, opened⟩, by simp, by simpa using heq.symm⟩
      -- Behind a name no arrow is open any more.
      · obtain ⟨use, huse, hname⟩ := ih false h
        exact ⟨use, by simp [huse], hname⟩

/-- A word whose names are all assigned has a text. Rendering cannot fail otherwise. -/
theorem Word.exists_render {names : Names} {word : Word}
    (h : ∀ name, .name name ∈ word.parts → ∃ identifier, names.resolve? name = some identifier) :
    ∃ text, word.render names = .ok text := by
  have hparts : ∀ part ∈ word.parts, ∃ text, part.render names = .ok text := by
    intro part hpart
    cases part with
    | text s => exact ⟨s, rfl⟩
    | name name =>
      obtain ⟨identifier, hidentifier⟩ := h name hpart
      exact ⟨identifier, by simp [Part.render, hidentifier]⟩
  obtain ⟨texts, htexts⟩ := Fallible.exists_mapM_eq_ok hparts
  exact ⟨String.join texts, by rw [Word.render, htexts]; rfl⟩

/-- An expression whose names are all assigned has a text. With the names that an expression of a
type can have this is why a translated type is always written. -/
theorem exists_render_word {names : Names} {expr : Expr}
    (h : ∀ use ∈ expr.uses, ∃ identifier, names.resolve? use.name = some identifier) :
    ∃ text, (word vocabulary expr).render names = .ok text := by
  refine Word.exists_render fun name hname => ?_
  obtain ⟨use, huse, rfl⟩ := exists_use_of_name_mem vocabulary false hname
  rw [usesIn_word] at huse
  exact h use huse

end Expr

end StateTree
