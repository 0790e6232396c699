import StateTree.Proofs.Text.Words
import StateTree.Text.CaseStyle

/-!
# `StateTree.Proofs.Text.CaseMapping`: which characters a styled name has

A name in Pascal or camel case is made of the letters and numbers of its source, each as it stands
or in another case. Many classes of characters are kept by every change of case. A styled name then
lies in such a class exactly if the letters and numbers of its source do.

- `CaseClosed`: a class of characters that no change of case enters or leaves.
- `caseClosed_of_keepsCase`: the tables of the case mappings show it.
- `caseClosed_of_letters`: a class that has all letters, and what there is behind the first one.
- `CaseClosed.all_pascalChars`, `CaseClosed.all_camelChars`: a styled name and its source.
- `caseClosed_isIdentifierPart`: the characters of identifiers are such a class.
-/

set_option autoImplicit false

namespace StateTree.Text

/-! ### Single characters -/

/-- Whether a run maps each of its code points to a character that is in the set exactly if the
code point is. It is a test, so that the kernel can run it on a whole table. -/
def CaseRun.keeps (set : Nat → Bool) (run : CaseRun) : Bool :=
  (List.range ((run.last - run.first) / run.stride + 1)).all fun k =>
    let image := (((run.first + run.stride * k : Nat) : Int) + run.offset).toNat
    decide image.isValidChar && set image == set (run.first + run.stride * k)

/-- Whether a case mapping maps each code point to characters, one at least, that are in the set
exactly if the code point is. A mapping has a list of code points with longer images, and runs. -/
def keepsCase (set : Nat → Bool) (longer : List (Nat × List Nat)) (runs : List CaseRun) : Bool :=
  (longer.all fun (n, image) =>
    !image.isEmpty && image.all fun m => decide m.isValidChar && set m == set n) &&
  runs.all (CaseRun.keeps set)

/-- A code point that is found has the image that its place in one of the runs gives it. So it is
enough to test the places of all runs. -/
theorem CaseRun.exists_of_find? {runs : List CaseRun} {n m : Nat}
    (h : CaseRun.find? runs n = some m) :
    ∃ run ∈ runs, ∃ k ≤ (run.last - run.first) / run.stride,
      n = run.first + run.stride * k ∧ m = ((n : Int) + run.offset).toNat := by
  induction runs with
  | nil => simp [CaseRun.find?] at h
  | cons run rest ih =>
    unfold CaseRun.find? at h
    split at h
    · cases h
    · rename_i hfirst
      split at h
      · rename_i hin
        simp only [Bool.and_eq_true, decide_eq_true_eq, beq_iff_eq] at hin
        cases h
        -- A run has every `stride`-th code point from its first one on.
        have hdivides : run.stride * ((n - run.first) / run.stride) = n - run.first :=
          Nat.mul_div_cancel' (Nat.dvd_of_mod_eq_zero hin.2)
        have hplace : (n - run.first) / run.stride ≤ (run.last - run.first) / run.stride :=
          Nat.div_le_div_right (by omega)
        refine ⟨run, List.mem_cons_self, (n - run.first) / run.stride, hplace, ?_, rfl⟩
        omega
      · obtain ⟨other, hother, himage⟩ := ih h
        exact ⟨other, List.mem_cons_of_mem _ hother, himage⟩

/-- Characters that are in a class exactly if `b` holds are all in it exactly if `b` does. There
has to be one: an empty image would be in every class. -/
theorem all_eq_of_forall {p : Char → Bool} {b : Bool} {cs : List Char} (hne : cs ≠ [])
    (h : ∀ c ∈ cs, p c = b) : cs.all p = b := by
  cases b with
  | true => simpa using h
  | false =>
    obtain ⟨c, hc⟩ := List.exists_mem_of_ne_nil cs hne
    exact List.all_eq_false.2 ⟨c, hc, by simp [h c hc]⟩

/-- A case mapping that keeps a set of code points keeps the class of characters. The test on the
tables is thus a statement about every character. -/
theorem all_mapCase {set : Nat → Bool} {longer : List (Nat × List Nat)} {runs : List CaseRun}
    (h : keepsCase set longer runs = true) (c : Char) :
    (mapCase longer runs c).all (fun d => set d.toNat) = set c.toNat := by
  have hvalid (n : Nat) (hn : n.isValidChar) : (Char.ofNat n).toNat = n := by
    rw [Char.ofNat, dif_pos hn]
    rfl
  simp only [keepsCase, Bool.and_eq_true, List.all_eq_true, Bool.not_eq_true',
    List.isEmpty_eq_false_iff, decide_eq_true_eq, beq_iff_eq] at h
  unfold mapCase
  split
  · -- The character has an image of several characters.
    rename_i image hlookup
    obtain ⟨before, after, hlonger, -⟩ := List.lookup_eq_some_iff.1 hlookup
    obtain ⟨hne, himage⟩ := h.1 (c.toNat, image) (by simp [hlonger])
    refine all_eq_of_forall (by simpa using hne) ?_
    intro d hd
    obtain ⟨m, hm, rfl⟩ := List.mem_map.1 hd
    obtain ⟨hm, hset⟩ := himage m hm
    rw [hvalid m hm, hset]
  · split
    · -- The character lies in a run.
      rename_i m hfind
      obtain ⟨run, hrun, k, hk, hn, rfl⟩ := CaseRun.exists_of_find? hfind
      have hkeeps := h.2 run hrun
      simp only [CaseRun.keeps, List.all_eq_true, List.mem_range, Bool.and_eq_true,
        decide_eq_true_eq, beq_iff_eq] at hkeeps
      obtain ⟨hm, hset⟩ := hkeeps k (Nat.lt_succ_of_le hk)
      rw [← hn] at hm hset
      simp [hvalid _ hm, hset]
    · -- The character stays as it is.
      simp

/-- A class of characters that no change of case enters or leaves. Whatever case a letter is put
in, its class can be told from the letter. -/
structure CaseClosed (p : Char → Bool) : Prop where
  upper : ∀ c, (upperOf c).all p = p c
  lower : ∀ c, (lowerOf c).all p = p c
  /-- The small form that only the place in a text can give. -/
  finalSigma : p 'ς' = p 'Σ'

/-- The tables of the case mappings tell whether a set of code points is closed. This is how
a class is shown to be so; the three hypotheses are by evaluation. -/
theorem caseClosed_of_keepsCase {set : Nat → Bool} (hupper : keepsCase set upperLonger upperRuns)
    (hlower : keepsCase set lowerLonger lowerRuns) (hsigma : set 0x3C2 = set 0x3A3) :
    CaseClosed fun c => set c.toNat :=
  ⟨all_mapCase hupper, all_mapCase hlower, hsigma⟩

/-- A character before the ones that a case mapping lists stays as it is, since neither list has
it. -/
theorem mapCase_eq_self {longer : List (Nat × List Nat)} {runs : List CaseRun} {first : Nat}
    (hlonger : ∀ entry ∈ longer, first ≤ entry.1) (hruns : ∀ run ∈ runs, first ≤ run.first)
    {c : Char} (hc : c.toNat < first) : mapCase longer runs c = [c] := by
  unfold mapCase
  -- Nothing in the tables is for a character below their first one: neither a longer image nor a
  -- run of characters.
  split
  · rename_i image hlookup
    obtain ⟨before, after, rfl, -⟩ := List.lookup_eq_some_iff.1 hlookup
    have hfirst : first ≤ c.toNat := hlonger (c.toNat, image) (by simp)
    omega
  · split
    · rename_i m hfind
      obtain ⟨run, hrun, k, -, hn, -⟩ := CaseRun.exists_of_find? hfind
      have hfirst := hruns run hrun
      omega
    · rfl

/-- A class that has all characters from the first letter on is kept by every change of case,
since the case mappings are about these only. With this a single control character can be excluded
without another look at the tables. -/
theorem caseClosed_of_letters {p : Char → Bool} (h : ∀ c : Char, 0x41 ≤ c.toNat → p c = true) :
    CaseClosed p := by
  have hletters : CaseClosed fun c => Nat.ble 0x41 c.toNat :=
    caseClosed_of_keepsCase (by decide +kernel) (by decide +kernel) rfl
  -- Of both mappings: letters stay letters, and all before them stay as they are.
  have hmapped : ∀ {map : Char → List Char}, (∀ c : Char, c.toNat < 0x41 → map c = [c]) →
      (∀ c, (map c).all (fun d => Nat.ble 0x41 d.toNat) = Nat.ble 0x41 c.toNat) →
        ∀ c, (map c).all p = p c := by
    intro map hbefore hall c
    by_cases hc : 0x41 ≤ c.toNat
    · rw [h c hc, List.all_eq_true]
      intro d hd
      have himage := hall c
      rw [Nat.ble_eq_true_of_le hc, List.all_eq_true] at himage
      exact h d (Nat.le_of_ble_eq_true (himage d hd))
    · simp [hbefore c (by omega)]
  refine ⟨hmapped (fun c hc => ?_) hletters.upper, hmapped (fun c hc => ?_) hletters.lower, ?_⟩
  · exact mapCase_eq_self (by decide +kernel) (by decide +kernel) hc
  · exact mapCase_eq_self (by decide +kernel) (by decide +kernel) hc
  · rw [h 'ς' (by decide), h 'Σ' (by decide)]

/-- The characters that an identifier may go on with are kept by every change of case. So a name
that is styled has such characters exactly if its letters and numbers are. -/
theorem caseClosed_isIdentifierPart : CaseClosed isIdentifierPart := by
  have hcode : isIdentifierPart = fun c => isPartCode c.toNat := funext isIdentifierPart_eq
  rw [hcode]
  exact caseClosed_of_keepsCase (by decide +kernel) (by decide +kernel) (by decide +kernel)

/-! ### Texts -/

namespace CaseClosed

variable {p : Char → Bool}

/-- A text in small letters is in the class exactly if the text is. What stands before it decides
on the form of a sigma, and does not matter to the class. -/
theorem all_lowerFrom (h : CaseClosed p) (before cs : List Char) :
    (lowerFrom before cs).all p = cs.all p := by
  induction cs generalizing before with
  | nil => rfl
  | cons c rest ih =>
    -- A final sigma looks different, but both small forms are in the class if the letter is.
    have hsmall : p 'σ' = p 'Σ' := by
      simpa [show lowerOf 'Σ' = ['σ'] by decide] using h.lower 'Σ'
    have hhead : (if c = 'Σ' then [lowerSigma before rest] else lowerOf c).all p = p c := by
      split
      · rename_i hc
        subst hc
        unfold lowerSigma
        split <;> simp [hsmall, h.finalSigma]
      · exact h.lower c
    simp [lowerFrom, List.all_append, hhead, ih]

/-- A capitalised text is in the class exactly if the text is. Only its first character changes.
-/
theorem all_capitalize (h : CaseClosed p) (cs : List Char) : (capitalize cs).all p = cs.all p := by
  cases cs with
  | nil => rfl
  | cons c rest => simp [capitalize, List.all_append, h.upper]

/-- A word as it stands inside a name is in the class exactly if the word is, whatever becomes of
acronyms. -/
theorem all_styleWord (h : CaseClosed p) (style : AcronymStyle) (word : List Char) :
    (styleWord style word).all p = word.all p := by
  unfold styleWord
  split
  · cases style <;> simp [AcronymStyle.apply, Text.lower, h.all_capitalize, h.all_lowerFrom]
  · exact h.all_capitalize word

end CaseClosed

/-- A name in Pascal case is in the class exactly if the letters and numbers of its source are.
All other characters of the source are gone. -/
theorem CaseClosed.all_pascalChars {p : Char → Bool} (h : CaseClosed p) (style : AcronymStyle)
    (cs : List Char) : (pascalChars style cs).all p = (cs.filter isAlphanumeric).all p := by
  rw [pascalChars, h.all_capitalize, List.all_flatMap, ← flatten_splitChars, List.all_flatten]
  have hwords : ∀ word, (styleWord style word).all p = word.all p := h.all_styleWord style
  simp [hwords]

/-- A name in camel case is in the class exactly if the letters and numbers of its source are. It
differs from Pascal case in its first word, which has small letters. -/
theorem CaseClosed.all_camelChars {p : Char → Bool} (h : CaseClosed p) (style : AcronymStyle)
    (cs : List Char) : (camelChars style cs).all p = (cs.filter isAlphanumeric).all p := by
  rw [← flatten_splitChars]
  unfold camelChars
  cases splitChars cs with
  | nil => rfl
  | cons word words =>
    have hwords : ∀ word, (styleWord style word).all p = word.all p := h.all_styleWord style
    simp [Text.lower, h.all_lowerFrom, List.all_append, List.all_flatMap, List.all_flatten, hwords]

end StateTree.Text
