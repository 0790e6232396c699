import StateTree.Proofs.Expr.Uses

/-!
# `StateTree.Proofs.Expr.Legibility`: expressions can be read back

No expression is written as the beginning of another one, so what is written tells which expression
it is. This is so in every vocabulary whose scalars differ from each other and from the texts that
expressions open with, as they do in the standard one.

- `Vocabulary.Legible`: such vocabularies; `legible_standard`: the standard one from any module.
- `word_injective`: two expressions that are written alike are the same.
-/

set_option autoImplicit false

namespace StateTree.Expr

/-- Words for scalars that are told apart from each other, from the texts that open the other
expressions, and from the parenthesis that ends them. -/
structure Vocabulary.Legible (vocabulary : Vocabulary) : Prop where
  injective : ∀ s s', vocabulary.expression s = vocabulary.expression s' → s = s'
  ne_member : ∀ s, ∀ name ∈ ["array(", "union(", "enumeration<", "late(() => "],
    vocabulary.expression s ≠ vocabulary.member name
  ne_close : ∀ s, vocabulary.expression s ≠ ")"

/-- The standard words are legible, whatever module they come from. No expression names
the module; only the line that imports the vocabulary does. -/
theorem legible_standard (module : String) : (Vocabulary.standard.withModule module).Legible where
  injective := by
    intro s s' h
    have h : s.member = s'.member := (String.append_right_inj _).1 h
    -- There are few scalars, and their words are compared one by one.
    cases s <;> cases s' <;> simp_all [Scalar.member]
  ne_member := by
    intro s name hname h
    have h : s.member = name := (String.append_right_inj "types.").1 h
    subst h
    cases s <;> simp [Scalar.member] at hname
  ne_close := by
    intro s h
    have hlist := congrArg String.toList h
    cases s <;> simp [Vocabulary.standard, Vocabulary.withModule, Scalar.member] at hlist

variable {vocabulary : Vocabulary}

/-- A member of the object that builds types is no closing parenthesis, since it has a point in
it. -/
theorem member_ne_close (name : String) : vocabulary.member name ≠ ")" := by
  intro h
  have hpoint : '.' ∈ (vocabulary.member name).toList := by simp [Vocabulary.member]
  rw [h] at hpoint
  simp at hpoint

/-- No expression opens with a closing parenthesis. So the list of members of a union ends at the
first one behind it. -/
theorem word_append_ne_close (hlegible : vocabulary.Legible) (expr : Expr)
    (rest rest' : List Part) : (word vocabulary expr).parts ++ rest ≠ .text ")" :: rest' := by
  intro h
  cases expr <;>
    simp [word, Vocabulary.scalar, Word.ofText, Word.ofName, hlegible.ne_close,
      member_ne_close] at h

/-- The expressions after the first one stand after a comma. If there is none, what follows comes
at once. -/
theorem separated_words_cons (expr : Expr) (exprs : List Expr) (rest : List Part) :
    separated (words vocabulary (expr :: exprs)) ++ rest =
      (word vocabulary expr).parts ++
        match exprs with
        | [] => rest
        | _ :: _ => .text ", " :: (separated (words vocabulary exprs) ++ rest) := by
  cases exprs <;> simp [words, separated, nested_word]

mutual

/-- An expression can be told from what follows it. What follows is left open in the statement, as
an expression inside a call is followed by what ends the call; without it the induction would not
go through. -/
theorem word_append_injective (hlegible : vocabulary.Legible) (expr expr' : Expr)
    (rest rest' : List Part)
    (h : (word vocabulary expr).parts ++ rest = (word vocabulary expr').parts ++ rest') :
    expr = expr' ∧ rest = rest' := by
  have hne := hlegible.ne_member
  simp only [List.mem_cons, List.not_mem_nil, or_false, forall_eq_or_imp, forall_eq] at hne
  have hne' := hne
  simp only [ne_comm] at hne'
  -- Two kinds of expressions open with two texts.
  cases expr <;> cases expr' <;>
    simp [word, Vocabulary.scalar, Word.ofText, Word.ofName, nested_word, member_inj, hne,
      hne'] at h
  case scalar.scalar => exact ⟨by rw [hlegible.injective _ _ h.1], h.2⟩
  case array.array items items' =>
    -- The item of an array is followed by a parenthesis, which is taken off afterwards.
    obtain ⟨rfl, hrest⟩ := word_append_injective hlegible items items' _ _ h
    exact ⟨rfl, (List.cons.inj hrest).2⟩
  case union.union members members' =>
    obtain ⟨rfl, hrest⟩ := words_append_injective hlegible members members' _ _ h
    exact ⟨rfl, hrest⟩
  case enumeration.enumeration => exact ⟨by rw [h.1], h.2⟩
  case reference.reference => exact ⟨by rw [h.1], h.2⟩
  case late.late => exact ⟨by rw [h.1], h.2⟩

/-- Expressions with commas between them can be told from what follows the parenthesis after them.
Without the parenthesis a comma that follows could belong to the list. -/
theorem words_append_injective (hlegible : vocabulary.Legible) (exprs exprs' : List Expr)
    (rest rest' : List Part)
    (h : separated (words vocabulary exprs) ++ .text ")" :: rest =
      separated (words vocabulary exprs') ++ .text ")" :: rest') :
    exprs = exprs' ∧ rest = rest' := by
  match exprs, exprs' with
  | [], [] => exact ⟨rfl, (List.cons.inj h).2⟩
  | [], expr' :: others' =>
    rw [separated_words_cons] at h
    exact absurd h.symm (word_append_ne_close hlegible expr' _ rest)
  | expr :: others, [] =>
    rw [separated_words_cons] at h
    exact absurd h (word_append_ne_close hlegible expr _ rest')
  | expr :: others, expr' :: others' =>
    rw [separated_words_cons, separated_words_cons] at h
    obtain ⟨rfl, hrest⟩ := word_append_injective hlegible expr expr' _ _ h
    -- After an expression comes the parenthesis, or a comma and then another expression.
    match others, others' with
    | [], [] => exact ⟨rfl, (List.cons.inj hrest).2⟩
    | [], _ :: _ => simp at hrest
    | _ :: _, [] => simp at hrest
    | next :: others, next' :: others' =>
      obtain ⟨heq, hrest⟩ := words_append_injective hlegible (next :: others) (next' :: others')
        rest rest' (List.cons.inj hrest).2
      exact ⟨by rw [heq], hrest⟩

end

/-- Two expressions that are written alike are the same. So a word that says what a type is says
it of no other, in `ReadsAs.word`. -/
theorem word_injective (hlegible : vocabulary.Legible) {expr expr' : Expr}
    (h : word vocabulary expr = word vocabulary expr') : expr = expr' :=
  (word_append_injective hlegible expr expr' [] [] (by rw [h])).1

end StateTree.Expr
