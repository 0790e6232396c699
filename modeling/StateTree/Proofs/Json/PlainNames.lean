import StateTree.Json.Reader

/-!
# `StateTree.Proofs.Json.PlainNames`: texts that are read as they stand

- `IsPlain`: a character that needs no escape.
- `readString_plain`, `readName_plain`: a text, or a name before a colon, of plain characters.
- `parse?_emptyField`: an object whose only member is an empty array.
-/

set_option autoImplicit false

namespace StateTree.Json

/-- A character may stand in a text without an escape: it is no quote, no backslash and no
control. -/
def IsPlain (c : Char) : Prop :=
  c ≠ '"' ∧ c ≠ '\\' ∧ 0x20 ≤ c.toNat

instance (c : Char) : Decidable (IsPlain c) :=
  inferInstanceAs (Decidable (_ ∧ _ ∧ _))

/-- A plain character is read as it stands, and one character is taken for it. -/
theorem readChar_plain {c : Char} (h : IsPlain c) (rest : List Char) :
    readChar (c :: rest) = some ⟨c, rest, Nat.lt_succ_self _⟩ := by
  obtain ⟨hquote, hslash, hcontrol⟩ := h
  rw [readChar]
  · simp [hquote, hslash, hcontrol]
  · rintro _ _ _ _ _ rfl
    exact absurd rfl hslash
  · rintro _ _ rfl
    exact absurd rfl hslash

/-- What follows a text is shorter than both together with the quote between them. The readers
hand such a fact on with what they leave. -/
theorem length_lt_of_quote (cs rest : List Char) : rest.length < (cs ++ '"' :: rest).length := by
  simp only [List.length_append, List.length_cons]
  omega

/-- A text of plain characters is read as it stands, up to the quote after it. -/
theorem readString_plain {cs : List Char} (h : ∀ c ∈ cs, IsPlain c) (rest : List Char) :
    readString (cs ++ '"' :: rest) = some ⟨cs, rest, length_lt_of_quote cs rest⟩ := by
  induction cs with
  | nil =>
    simp only [List.nil_append]
    rw [readString]
  | cons c cs ih =>
    have hc := h c (by simp)
    simp only [List.cons_append]
    -- A plain character is read as itself, so the induction is on the name and not on the text.
    rw [readString, readChar_plain hc]
    · simp only [ih fun d hd => h d (by simp [hd]), Option.map_some]
      rfl
    · rintro _ ⟨⟩
      exact absurd rfl hc.1

/-- A name of plain characters with a colon after it is read as it stands. The name comes without
its quotes. -/
theorem readName_plain {cs : List Char} (h : ∀ c ∈ cs, IsPlain c) (rest : List Char) :
    readName ('"' :: (cs ++ '"' :: ':' :: rest)) =
      some ⟨String.ofList cs, rest, Nat.lt_trans (Nat.lt_succ_self _)
        (Nat.lt_succ_of_lt (length_lt_of_quote cs (':' :: rest)))⟩ := by
  have hgap : skipGap ('"' :: (cs ++ '"' :: ':' :: rest)) = '"' :: (cs ++ '"' :: ':' :: rest) := rfl
  -- The reader looks at the text behind the gap, and there is no gap.
  unfold readName
  split
  · rename_i inside hinside
    obtain rfl : cs ++ '"' :: ':' :: rest = inside := by simpa using hgap.symm.trans hinside
    rw [readString_plain h]
    rfl
  · rename_i hother
    exact absurd hgap (hother _)

/-- An array without items is read as such. It is the shortest value that a member can have. -/
theorem readValue_emptyArray (rest : List Char) :
    readValue ('[' :: ']' :: rest) =
      some ⟨.array [], rest, Nat.lt_succ_of_lt (Nat.lt_succ_self _)⟩ := by
  rw [readValue]
  rfl

/-- An object whose only member has a plain name and an empty array for its value. A graph without
types is written so. -/
theorem parse?_emptyField {name : String} (h : ∀ c ∈ name.toList, IsPlain c) :
    parse? ("\x7b\"" ++ name ++ "\":[]\x7d") = some (.object [(name, .array [])]) := by
  have hsrc : ("\x7b\"" ++ name ++ "\":[]\x7d").toList =
      '\x7b' :: '"' :: (name.toList ++ '"' :: ':' :: '[' :: ']' :: ['\x7d']) := by
    simp
  have hmembers : readMembers ('"' :: (name.toList ++ '"' :: ':' :: '[' :: ']' :: ['\x7d'])) =
      some ⟨[(name, .array [])], [], by simp⟩ := by
    rw [readMembers, readName_plain h]
    simp only [readValue_emptyArray, String.ofList_toList]
    rfl
  -- The reader returns the rest of the text with the proof that it is shorter, so the proof is
  -- part of what is said of the value.
  obtain ⟨hlt, hvalue⟩ : ∃ hlt, readValue ("\x7b\"" ++ name ++ "\":[]\x7d").toList =
      some ⟨.object [(name, .array [])], [], hlt⟩ := by
    rw [hsrc]
    refine ⟨by simp, ?_⟩
    rw [readValue]
    change (readMembers ('"' :: (name.toList ++ '"' :: ':' :: '[' :: ']' :: ['\x7d']))).map _ = _
    rw [hmembers]
    rfl
  simp only [parse?, hvalue]
  rfl

end StateTree.Json
