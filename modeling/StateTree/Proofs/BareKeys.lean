import StateTree.Proofs.Naming.Identifiers
import StateTree.Proofs.PropertyKey
import StateTree.Proofs.Text.LiteralGrammar

/-!
# `StateTree.Proofs.BareKeys`: which keys are bare

Three tests decide whether a name stands bare as a key, and none of them knows of the others: one
looks at the first character, one asks whether escaping changes the name, and one asks whether
legalizing does. Under the convention of the generated language they come to one rule. Legalizing
leaves a name as it is if an identifier may go on with each of its characters, because what it puts
in for the others is such a character itself. Of these characters escaping changes only the ones
outside of the first plane: quotes, backslashes, controls and separators are none of them.

- `legalize_eq_self_iff`: the names that legalizing leaves as they are.
- `needsEscape_of_isIdentifierPart`: which characters of identifiers are escaped.
- `KeyConvention.isBare_iff`: the names that are bare keys in the generated language.
- `KeyConvention.key_is_name_or_literal`: the keys of every convention, and which are bare.
-/

set_option autoImplicit false

namespace StateTree

open StateTree.Naming (isIdentifier)
open StateTree.Text

/-! ### What the tests let pass -/

/-- A text is left as it is by legalizing if an identifier may go on with each character of it.
The low line that is put in for other characters is one of these. -/
theorem legalize_eq_self_iff {name : String} :
    legalize name = name ↔ name.toList.all isIdentifierPart = true := by
  rw [legalize, ← String.toList_inj, String.toList_ofList, legalizeChars, List.all_eq_true]
  constructor
  · intro h c hc
    have hsame : (if isIdentifierPart c then c else '_') = c :=
      List.map_inj_left.1 (h.trans (List.map_id _).symm) c hc
    by_contra hpart
    -- The character would be the low line, but an identifier may go on with that.
    obtain rfl : '_' = c := by rwa [if_neg hpart] at hsame
    exact hpart (isIdentifierPart_of_isIdentifierStart rfl)
  · intro h
    refine (List.map_congr_left fun c hc => ?_).trans (List.map_id _)
    exact if_pos (h c hc)

/-- A character that an identifier may go on with needs no escape in the first plane. So of the
tests for bare keys, the one on escapes only asks for the plane. -/
theorem needsEscape_of_isIdentifierPart {c : Char} (h : isIdentifierPart c = true) :
    needsEscape c = false ↔ c.toNat < 0x10000 := by
  -- The quote, the backslash, the separators and the two blocks of controls.
  have hcodes : ∀ n ∈ [0x22, 0x5C, 0x2028, 0x2029] ++ List.range 0x20 ++ List.range' 0x7F 0x21,
      isPartCode n = false := by decide +kernel
  have hnot : c.toNat ∉
      [0x22, 0x5C, 0x2028, 0x2029] ++ List.range 0x20 ++ List.range' 0x7F 0x21 := by
    -- One of these code points would be no part of an identifier.
    intro hmem
    rw [isIdentifierPart_eq, hcodes c.toNat hmem] at h
    cases h
  simp only [List.mem_append, List.mem_cons, List.not_mem_nil, or_false, List.mem_range,
    List.mem_range'_1, not_or] at hnot
  obtain ⟨⟨⟨hquote, hbackslash, hline, hparagraph⟩, hlow⟩, hhigh⟩ := hnot
  rw [needsEscape_eq_false_iff]
  constructor
  · rintro ⟨-, -, -, -, hplane⟩
    exact Nat.lt_succ_of_le hplane
  · intro hplane
    refine ⟨?_, ?_, ?_, ?_, Nat.le_of_lt_succ hplane⟩
    · rintro rfl
      exact hquote rfl
    · rintro rfl
      exact hbackslash rfl
    · simp only [isControl, Bool.or_eq_false_iff, Bool.and_eq_false_iff, decide_eq_false_iff_not]
      omega
    · simp [isSeparator, hline, hparagraph]

/-! ### The keys -/

namespace KeyConvention

/-- A literal is longer than its text, so no key is both. -/
theorem quote_ne_self (name : String) : quote name ≠ name := by
  intro h
  have hquote : (quote name).toList.length = (escapeChars name.toList).length + 2 := by
    simp [quote, escape]
  have hle := length_le_length_escapeChars name.toList
  rw [h] at hquote
  omega

/-- A key is the name if the name is bare. What is said of bare names can so be said of keys that
are names. -/
theorem key_eq_self_iff {convention : KeyConvention} {name : String} :
    convention.key name = name ↔ convention.isBare name = true := by
  unfold key
  split
  · rename_i hbare
    exact iff_of_true rfl hbare
  · rename_i hbare
    exact iff_of_false (quote_ne_self name) hbare

/-- The bare keys of the generated language are its identifiers in the first plane. Other planes
are excluded by the test on escapes, which writes their characters as surrogates. -/
theorem isBare_iff {name : String} : ({} : KeyConvention).isBare name = true ↔
    isIdentifier name = true ∧ ∀ c ∈ name.toList, c.toNat < 0x10000 := by
  cases hname : name.toList with
  | nil => simp [isBare, isIdentifier, hname]
  | cons first rest =>
    -- The three tests, with what each of them asks for.
    have hbare : ({} : KeyConvention).isBare name = true ↔ isIdentifierStart first = true ∧
        (∀ c ∈ name.toList, needsEscape c = false) ∧ name.toList.all isIdentifierPart = true := by
      rw [← escape_eq_self_iff, ← legalize_eq_self_iff]
      simp [isBare, hname, and_assoc]
    rw [hbare, ← hname]
    constructor
    · rintro ⟨hstart, hplain, hparts⟩
      refine ⟨(Naming.isIdentifier_eq_all hname hstart).trans hparts, fun c hc => ?_⟩
      exact (needsEscape_of_isIdentifierPart (List.all_eq_true.1 hparts c hc)).1 (hplain c hc)
    · rintro ⟨hidentifier, hplane⟩
      have hstart : isIdentifierStart first = true := by
        simp only [isIdentifier, hname, Bool.and_eq_true] at hidentifier
        exact hidentifier.1
      rw [Naming.isIdentifier_eq_all hname hstart] at hidentifier
      refine ⟨hstart, fun c hc => ?_, hidentifier⟩
      exact (needsEscape_of_isIdentifierPart (List.all_eq_true.1 hidentifier c hc)).2 (hplane c hc)

/-- Under any convention a key is its name, which then does not begin with a quote, or a literal of
its name and of nothing else. Either way the name can be read back from it, and no two names have
one key. In the generated language the names that are their own keys are the identifiers all of
whose characters are in the first plane. -/
theorem key_is_name_or_literal :
    (∀ (convention : KeyConvention) (name : String),
      (convention.key name = name ∧ name.toList.head? ≠ some '"' ∨
        convention.key name = quote name ∧
          ∀ units tail, Literal (quote name).toList units tail ↔
            units = utf16 name.toList ∧ tail = []) ∧
      readKey? (convention.key name) = some (utf16 name.toList)) ∧
    (∀ convention : KeyConvention, Function.Injective convention.key) ∧
    ∀ name, ({} : KeyConvention).key name = name ↔
      isIdentifier name = true ∧ ∀ c ∈ name.toList, c.toNat < 0x10000 := by
  refine ⟨fun convention name => ⟨?_, convention.readKey?_key name⟩, key_injective, fun name => ?_⟩
  · unfold key
    split
    · rename_i hbare
      -- A name that is left bare needs no escapes, so it has no quote in it to begin with.
      have hquote : '"' ∉ name.toList := fun hmem =>
        absurd (convention.needsEscape_of_isBare hbare '"' hmem) (by decide)
      exact .inl ⟨rfl, fun hhead => hquote (List.mem_of_mem_head? hhead)⟩
    · exact .inr ⟨rfl, fun units tail => literal_quote_iff⟩
  · rw [key_eq_self_iff, isBare_iff]

end KeyConvention

end StateTree
