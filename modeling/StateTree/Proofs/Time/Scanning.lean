import StateTree.Time.Scan
import Mathlib.Algebra.Group.Nat.Defs
import Mathlib.Data.List.TakeWhile

/-!
# `StateTree.Proofs.Time.Scanning`: what readers take from a text

- `padded_spec`: a padded number has its width, and digits that stand for the number.
- `Scan.number_padded`, `Scan.afterPoint_padded`: padded numbers are read as what they stand for.
- `Scan.Spares`: a reader that never takes a certain character, and so never the whole of a text
  with that character in it.
-/

set_option autoImplicit false

namespace StateTree

namespace Text

/-! ### Digits -/

/-- The number that digits stand for is the one of the standard library, which knows how numbers
are written. -/
theorem digitsValue_eq (digits : List Char) :
    digitsValue digits = Nat.ofDigitChars 10 digits 0 := by
  rw [Nat.ofDigitChars_eq_foldl]
  rfl

/-- A padded number consists of digits: the zeros in front and those of the number. -/
theorem isDigit_of_mem_padded {width n : Nat} {c : Char} (h : c ∈ (padded width n).toList) :
    c.isDigit := by
  rw [padded, String.toList_ofList, List.mem_append] at h
  rcases h with h | h
  · rw [List.eq_of_mem_replicate h]
    rfl
  · exact Nat.isDigit_of_mem_toDigits (by decide) (by decide) h

/-- The digits of a padded number stand for it. Zeros in front do not count. -/
theorem digitsValue_padded (width n : Nat) : digitsValue (padded width n).toList = n := by
  rw [padded, String.toList_ofList, digitsValue_eq, Nat.ofDigitChars_append,
    Nat.ofDigitChars_replicate_zero, Nat.mul_zero, Nat.ofDigitChars_ten_toDigits]

/-- A number that is not too large is padded to the given width. A larger one would be longer, and
would be read in part. -/
theorem length_padded {width n : Nat} (hwidth : 0 < width) (h : n < 10 ^ width) :
    (padded width n).toList.length = width := by
  have hle := (Nat.length_toDigits_le_iff (by decide) hwidth).2 h
  rw [padded, String.toList_ofList, List.length_append, List.length_replicate]
  omega

end Text

namespace Time.Scan

open StateTree.Text

variable {α β : Type}

/-! ### Taking -/

/-- A reader goes on where the one before it stops. A long form is run by rewriting with this, one
reader at a time. -/
theorem bind_apply {scan : Scan α} {cs rest : List Char} {value : α}
    (h : scan cs = some (value, rest)) (next : α → Scan β) :
    (scan >>= next) cs = next value rest := by
  show (scan cs).bind _ = _
  rw [h]
  rfl

/-- Nothing is read where the first of two readers fails, whatever the second one would do. -/
theorem bind_apply_none {scan : Scan α} {cs : List Char} (h : scan cs = none)
    (next : α → Scan β) : (scan >>= next) cs = none := by
  show (scan cs).bind _ = _
  rw [h]
  rfl

/-- The given character at the front is taken. -/
theorem token_cons (c : Char) (rest : List Char) : token c (c :: rest) = some ((), rest) := by
  show (char (· == c) (c :: rest)).bind _ = _
  simp [char]

/-- The digits at the front that are read as a number, if there are as many as the reader takes at
most. -/
theorem number_append {least most : Nat} {digits : List Char} (hdigits : ∀ c ∈ digits, c.isDigit)
    (hlength : digits.length = most) (hleast : least ≤ most) (rest : List Char) :
    number least most (digits ++ rest) = some (digitsValue digits, rest) := by
  have htaken : ((digits ++ rest).take most).takeWhile Char.isDigit = digits := by
    rw [← hlength, List.take_left, List.takeWhile_eq_self_iff.2 hdigits]
  have hrun : Scan.digits most (digits ++ rest) = some (digits, rest) := by
    simp [Scan.digits, htaken]
  unfold number
  rw [bind_apply hrun, if_neg (by omega)]
  rfl

/-- A padded number is read as the number, if the reader takes as many digits as it is padded to.
-/
theorem number_padded {width n : Nat} (hwidth : 0 < width) (h : n < 10 ^ width)
    (rest : List Char) :
    number width width ((padded width n).toList ++ rest) = some (n, rest) := by
  rw [number_append (fun c => isDigit_of_mem_padded) (length_padded hwidth h) (Nat.le_refl _),
    digitsValue_padded]

/-- A point and a number of milliseconds after it. The digits end where another character comes.
-/
theorem afterPoint_padded {n : Nat} (h : n < 1000) {c : Char} (hc : c.isDigit = false)
    (rest : List Char) :
    afterPoint ('.' :: ((padded 3 n).toList ++ c :: rest)) = some (n, c :: rest) := by
  have hdigits : ∀ d ∈ (padded 3 n).toList, d.isDigit := fun _ => isDigit_of_mem_padded
  have hlength : (padded 3 n).toList.length = 3 := length_padded (by decide) h
  -- The zone begins with no digit, so that the run of digits ends where the milliseconds do.
  have hrun : run Char.isDigit ((padded 3 n).toList ++ c :: rest) =
      some ((padded 3 n).toList, c :: rest) := by
    simp [run, List.takeWhile_append_of_pos hdigits, List.dropWhile_append_of_pos hdigits, hc]
  have hmillis : millisOf (padded 3 n).toList = n := by
    rw [millisOf, List.take_left' hlength, digitsValue_padded]
  have htoken : hasToken '.' ('.' :: ((padded 3 n).toList ++ c :: rest)) =
      some (true, (padded 3 n).toList ++ c :: rest) := rfl
  unfold afterPoint
  rw [bind_apply htoken, if_pos rfl, bind_apply hrun,
    if_neg (by simp [← List.length_eq_zero_iff, hlength]), hmillis]
  rfl

/-- There is no white space to take before another character, and taking none does not fail. -/
theorem blanks_cons {c : Char} (hc : isBlank c = false) (rest : List Char) :
    blanks (c :: rest) = some ((), c :: rest) := by
  have hrun : run isBlank (c :: rest) = some ([], c :: rest) := by simp [run, hc]
  show (run isBlank >>= fun _ => pure ()) (c :: rest) = _
  rw [bind_apply hrun]
  rfl

/-! ### Leaving out -/

/-- No number is read where there is no digit, unless no digit is asked for. -/
theorem number_eq_none {least : Nat} (hleast : 0 < least) (most : Nat) {c : Char}
    (hc : c.isDigit = false) (rest : List Char) : number least most (c :: rest) = none := by
  have hnone : ((c :: rest).take most).takeWhile Char.isDigit = [] := by
    cases most <;> simp [hc]
  have hrun : Scan.digits most (c :: rest) = some ([], c :: rest) := by
    simp [Scan.digits, hnone]
  unfold number
  rw [bind_apply hrun, if_pos (by simpa using hleast)]
  rfl

/-- A reader never takes the given character. What it takes is the text without what it leaves, so
a character that is not taken is left. -/
def Spares (c : Char) (scan : Scan α) : Prop :=
  ∀ cs value rest, scan cs = some (value, rest) → ∃ taken, cs = taken ++ rest ∧ c ∉ taken

variable {c : Char}

/-- A text with a character that is never taken is not read as a whole. This refuses a text
without running a reader on it. -/
theorem Spares.whole?_eq_none {scan : Scan α} (h : Spares c scan) {cs : List Char} (hc : c ∈ cs) :
    whole? scan cs = none := by
  unfold whole?
  split
  · rename_i value hrun
    obtain ⟨taken, rfl, hspared⟩ := h cs value [] hrun
    exact absurd (by simpa using hc) hspared
  · rfl

/-- A value is read without taking anything. With the lemmas on failure and on two readers, it
follows how forms are built. -/
theorem spares_pure (value : α) : Spares c (pure value : Scan α) := by
  rintro cs _ _ ⟨⟩
  exact ⟨[], rfl, by simp⟩

/-- A reader that fails takes nothing. -/
theorem spares_failure : Spares c (failure : Scan α) := by
  rintro cs value rest ⟨⟩

/-- Two readers spare a character if both do, the second one for whatever the first has read. -/
theorem Spares.bind {scan : Scan α} {next : α → Scan β} (hscan : Spares c scan)
    (hnext : ∀ value, Spares c (next value)) : Spares c (scan >>= next) := by
  intro cs value rest h
  obtain ⟨⟨first, middle⟩, hfirst, hrest⟩ : ∃ result, scan cs = some result ∧
      next result.1 result.2 = some (value, rest) := Option.bind_eq_some_iff.1 h
  obtain ⟨taken, rfl, htaken⟩ := hscan cs first middle hfirst
  obtain ⟨more, rfl, hmore⟩ := hnext first middle value rest hrest
  exact ⟨taken ++ more, by simp, by simp [htaken, hmore]⟩

/-- A value that is at hand is not taken from the text, and nothing is taken if there is none. -/
theorem spares_need (value : Option α) : Spares c (need value) := by
  cases value with
  | none => exact spares_failure
  | some value => exact spares_pure value

/-- A reader of one character spares the characters that it does not accept. -/
theorem spares_char {accepted : Char → Bool} (hc : accepted c = false) :
    Spares c (char accepted) := by
  intro cs value rest h
  cases cs with
  | nil => cases h
  | cons d cs =>
    simp only [char] at h
    split at h
    · rename_i hd
      cases h
      refine ⟨[_], rfl, fun hmem => ?_⟩
      rw [List.mem_singleton.1 hmem, hd] at hc
      exact absurd hc (by decide)
    · cases h

/-- A reader of characters spares those that it does not accept, however many it takes. -/
theorem spares_run {accepted : Char → Bool} (hc : accepted c = false) :
    Spares c (run accepted) := by
  rintro cs _ _ ⟨⟩
  refine ⟨_, List.takeWhile_append_dropWhile.symm, fun hmem => ?_⟩
  rw [List.mem_takeWhile_imp hmem] at hc
  exact absurd hc (by decide)

/-- A reader of the given character spares all others. -/
theorem spares_token {d : Char} (hc : (c == d) = false) : Spares c (token d) := by
  have hchar : Spares c (char (· == d)) := spares_char hc
  exact hchar.bind fun _ => spares_pure _

/-- A reader that looks for the given character spares all others. It takes nothing if the
character is not there. -/
theorem spares_hasToken {d : Char} (hc : (c == d) = false) : Spares c (hasToken d) := by
  intro cs value rest h
  cases cs with
  | nil =>
    cases h
    exact ⟨[], rfl, by simp⟩
  | cons e cs =>
    simp only [hasToken] at h
    split at h
    · rename_i he
      cases h
      refine ⟨[e], rfl, fun hmem => ?_⟩
      rw [List.mem_singleton.1 hmem, he] at hc
      exact absurd hc (by decide)
    · cases h
      exact ⟨[], rfl, by simp⟩

/-- White space does not have the other characters in it. -/
theorem spares_blanks (hc : isBlank c = false) : Spares c blanks :=
  (spares_run hc).bind fun _ => spares_pure _

/-- Digits do not have the other characters among them, and no more are taken than asked for. -/
theorem spares_digits (hc : c.isDigit = false) (most : Nat) : Spares c (digits most) := by
  rintro cs _ _ ⟨⟩
  have hfront : (cs.take most).takeWhile Char.isDigit <+: cs :=
    (List.takeWhile_prefix _).trans (List.take_prefix _ _)
  refine ⟨_, (List.prefix_iff_eq_append.1 hfront).symm, fun hmem => ?_⟩
  rw [List.mem_takeWhile_imp hmem] at hc
  exact absurd hc (by decide)

/-- A number does not have other characters than digits in it. -/
theorem spares_number (hc : c.isDigit = false) (least most : Nat) :
    Spares c (number least most) := by
  refine (spares_digits hc most).bind fun digits => ?_
  split
  · exact spares_failure
  · exact spares_pure _

/-- A long number does not have other characters than digits in it. It has no limit on their
number, unlike a number. -/
theorem spares_longNumber (hc : c.isDigit = false) (least : Nat) :
    Spares c (longNumber least) := by
  refine (spares_run hc).bind fun digits => ?_
  split
  · exact spares_failure
  · exact spares_pure _

/-- The part of a second is a point and digits, and may be missing. -/
theorem spares_afterPoint (hc : c.isDigit = false) (hpoint : (c == '.') = false) :
    Spares c afterPoint := by
  refine (spares_hasToken hpoint).bind fun found => ?_
  split
  · refine (spares_run hc).bind fun digits => ?_
    split
    · exact spares_failure
    · exact spares_pure _
  · exact spares_pure _

end Time.Scan

end StateTree
