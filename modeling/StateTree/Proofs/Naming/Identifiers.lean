import StateTree.Naming.Convention
import StateTree.Proofs.Text.CaseMapping

/-!
# `StateTree.Proofs.Naming.Identifiers`: when a given name is an identifier

The names of types and of enum members are built from the letters and numbers of a proposal. The
change of case and what goes in front of a name take care of everything but this: some numbers and
letters, `²` and `Ⓐ` among them, may not stand in an identifier. A name is an identifier exactly if
its proposal has no such character, and a number at its end changes nothing.

- `isIdentifier`: one identifier of the generated language.
- `isIdentifier_eq_all`: for a name that begins right, all its characters count alike.
- `Convention.exists_start_apply`: every given name begins right.
- `Convention.all_apply`: which classes of characters it lies in.
- `Convention.isIdentifier_apply`: which names are identifiers.
-/

set_option autoImplicit false

namespace StateTree.Naming

open StateTree.Text (AcronymStyle CaseClosed isAlphanumeric pascalCase)

/-- Whether a text is one identifier: a first character and others, each as the generated language
has them. -/
def isIdentifier (name : String) : Bool :=
  match name.toList with
  | [] => false
  | c :: rest => isIdentifierStart c && rest.all isIdentifierPart

/-- A text that begins as an identifier may is one if all its characters may go on in one. So of a
name that begins right its characters are all there is to check. -/
theorem isIdentifier_eq_all {name : String} {c : Char} {rest : List Char}
    (hname : name.toList = c :: rest) (hc : isIdentifierStart c = true) :
    isIdentifier name = name.toList.all isIdentifierPart := by
  simp [isIdentifier, hname, hc, isIdentifierPart_of_isIdentifierStart hc]

/-- The digits of a number may stand in an identifier. So numbering a name does no harm. -/
theorem all_isIdentifierPart_toString (n : Nat) :
    (toString n).toList.all isIdentifierPart = true := by
  rw [Nat.toString_eq_repr, Nat.toList_repr, List.all_eq_true]
  intro c hc
  exact isIdentifierPart_of_isDigit (Nat.isDigit_of_mem_toDigits (by decide) (by decide) hc)

/-- Whether every letter and number of a proposal may stand in an identifier. Other characters of
a proposal do not get into a name, so they are not looked at. -/
def isLegible (proposal : String) : Bool :=
  proposal.toList.all fun c => !isAlphanumeric c || isIdentifierPart c

namespace Convention

section

variable {convention : Convention} (h : convention ∈ [typeName, enumCase]) (style : AcronymStyle)
  (proposal : String)

include h

/-- The three ways in which a name comes about: nothing is left of the proposal, it is a name as
it is styled, or a word is put in front of it. -/
theorem apply_cases :
    pascalCase style proposal = "" ∧ convention.apply style proposal = "Empty" ∨
    (∃ c rest, (pascalCase style proposal).toList = c :: rest ∧ isIdentifierStart c = true ∧
      convention.apply style proposal = pascalCase style proposal) ∨
    convention.apply style proposal = "The" ++ pascalCase style proposal := by
  have hparts : convention.style = pascalCase ∧ convention.whenEmpty = "Empty" ∧
      convention.lead = "The" := by
    simp only [List.mem_cons, List.not_mem_nil, or_false] at h
    obtain rfl | rfl := h <;> exact ⟨rfl, rfl, rfl⟩
  -- The two conventions differ in their reserved words, which are no concern here.
  obtain ⟨hstyle, hempty, hlead⟩ := hparts
  simp only [apply, hstyle, hempty, hlead]
  split
  · rename_i hnil
    exact .inl ⟨String.toList_eq_nil_iff.1 hnil, rfl⟩
  · rename_i c rest hcons
    split
    · rename_i hc
      exact .inr (.inl ⟨c, rest, hcons, hc, rfl⟩)
    · exact .inr (.inr rfl)

/-- Every name begins as an identifier may: with what was put in front if not by itself. This is
the part of the promise of conventions that they do keep. -/
theorem exists_start_apply :
    ∃ c rest, (convention.apply style proposal).toList = c :: rest ∧
      isIdentifierStart c = true := by
  obtain ⟨-, heq⟩ | ⟨c, rest, hcons, hc, heq⟩ | heq := apply_cases h style proposal <;> rw [heq]
  · exact ⟨'E', _, rfl, by decide⟩
  · exact ⟨c, rest, hcons, hc⟩
  · exact ⟨'T', _, by rw [String.toList_append]; rfl, by decide⟩

/-- A name lies in a class of characters that no change of case leaves exactly if the letters and
numbers of its proposal do. What a name is given without a proposal has to lie in it, too. -/
theorem all_apply {p : Char → Bool} (hp : CaseClosed p) (hlead : "The".toList.all p = true)
    (hempty : "Empty".toList.all p = true) :
    (convention.apply style proposal).toList.all p =
      (proposal.toList.filter isAlphanumeric).all p := by
  have hstyled : (pascalCase style proposal).toList.all p =
      (proposal.toList.filter isAlphanumeric).all p := by
    rw [pascalCase, String.toList_ofList, hp.all_pascalChars]
  rw [← hstyled]
  obtain ⟨hnil, heq⟩ | ⟨_, _, _, _, heq⟩ | heq := apply_cases h style proposal <;> rw [heq]
  · rw [hnil, hempty]
    rfl
  · rw [String.toList_append, List.all_append, hlead, Bool.true_and]

/-- A name has characters of identifiers only if its proposal has no other letters and numbers.
The tables of letters, of numbers and of identifiers do not agree, which is why this has to be
asked. -/
theorem all_isIdentifierPart_apply :
    (convention.apply style proposal).toList.all isIdentifierPart = isLegible proposal := by
  rw [all_apply h style proposal Text.caseClosed_isIdentifierPart (by decide) (by decide),
    List.all_filter]
  rfl

/-- The name that a proposal of a type or of an enum member gets is never empty and always begins as
an identifier may. It is an identifier, with a number at its end or without, exactly if every letter
and number of the proposal may stand in one. -/
theorem isIdentifier_apply :
    (∃ c rest, (convention.apply style proposal).toList = c :: rest ∧
      isIdentifierStart c = true) ∧
    isIdentifier (convention.apply style proposal) = isLegible proposal ∧
    ∀ n : Nat, isIdentifier (convention.apply style proposal ++ toString n) =
      isLegible proposal := by
  obtain ⟨c, rest, hcons, hc⟩ := exists_start_apply h style proposal
  refine ⟨⟨c, rest, hcons, hc⟩, ?_, ?_⟩
  · rw [isIdentifier_eq_all hcons hc, all_isIdentifierPart_apply h]
  · intro n
    -- A number at the end leaves the first character as it is and adds nothing but digits.
    have hnumbered : (convention.apply style proposal ++ toString n).toList =
        c :: (rest ++ (toString n).toList) := by
      rw [String.toList_append, hcons, List.cons_append]
    rw [isIdentifier_eq_all hnumbered hc, String.toList_append, List.all_append,
      all_isIdentifierPart_apply h, all_isIdentifierPart_toString, Bool.and_true]

end

/-- A raised digit counts as a number and passes into a name, but no identifier may have it. A
number behind the name does not help. -/
theorem not_isIdentifier_apply_squared :
    enumCase ∈ [typeName, enumCase] ∧ isIdentifier (enumCase.apply .pascal "x²") = false ∧
      isIdentifier (enumCase.apply .pascal "x²" ++ toString 2) = false := by
  have hmem : enumCase ∈ [typeName, enumCase] := by simp
  have hlegible : isLegible "x²" = false := by decide
  obtain ⟨-, hplain, hnumbered⟩ := isIdentifier_apply hmem .pascal "x²"
  exact ⟨hmem, hplain.trans hlegible, (hnumbered 2).trans hlegible⟩

end Convention

end StateTree.Naming
