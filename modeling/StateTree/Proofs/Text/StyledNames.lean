import StateTree.Proofs.Text.Words
import StateTree.Text.CaseStyle

/-!
# `StateTree.Proofs.Text.StyledNames`: styled names of ASCII characters

A name of ASCII characters is styled character by character. Each of its letters and numbers has one
capital and one small form, so none is lost or added, and they stay in their order. Where the case
is not looked at, a styled name is its source without all other characters.

In camel case every word but the first has a capital at its front, if it has a letter there. With
acronyms as they are this holds of acronyms as well, and so each boundary before a letter can be
seen in the name.

- `IsAscii`, `SameLetters`: texts of ASCII characters, and those that differ in case only.
- `sameLetters_styleWord`: a word and what stands for it in a name.
- `sameLetters_pascalChars`, `sameLetters_camelChars`: a name and its source.
- `styleWord_asGiven`: a word with acronyms as they are.
- `styled_names_keep_letters`: all this of a name.
-/

set_option autoImplicit false

namespace StateTree.Text

/-! ### ASCII characters -/

/-- A text of ASCII characters. Of these, and of these only, the case mappings are those of the
standard library. -/
def IsAscii (cs : List Char) : Prop :=
  ∀ c ∈ cs, c.toNat < 0x80

instance (cs : List Char) : Decidable (IsAscii cs) :=
  List.decidableBAll (fun c : Char => c.toNat < 0x80) cs

section

variable {c : Char}

/-- The case and the class of an ASCII character. The tables, made for all characters, give one
form of it each and agree with the tests of `Char`. Both forms are ASCII characters again, and they
are forms of the same letter, so a text keeps its letters when it is styled. -/
structure CasedAsAscii (c : Char) : Prop where
  upperOf_eq : upperOf c = [c.toUpper]
  lowerOf_eq : lowerOf c = [c.toLower]
  isAlphabetic_eq : isAlphabetic c = c.isAlpha
  isUppercase_eq : isUppercase c = c.isUpper
  isAlphanumeric_eq : isAlphanumeric c = c.isAlphanum
  toNat_toUpper_lt : c.toUpper.toNat < 0x80
  toNat_toLower_lt : c.toLower.toNat < 0x80
  toLower_toUpper : c.toUpper.toLower = c.toLower
  toLower_toLower : c.toLower.toLower = c.toLower
  toUpper_of_isUpper : c.isUpper → c.toUpper = c
  isUpper_toUpper : c.isAlpha → c.toUpper.isUpper

instance (c : Char) : Decidable (CasedAsAscii c) :=
  decidable_of_iff
    ((upperOf c = [c.toUpper] ∧ lowerOf c = [c.toLower] ∧ isAlphabetic c = c.isAlpha ∧
        isUppercase c = c.isUpper ∧ isAlphanumeric c = c.isAlphanum) ∧
      (c.toUpper.toNat < 0x80 ∧ c.toLower.toNat < 0x80 ∧ c.toUpper.toLower = c.toLower ∧
        c.toLower.toLower = c.toLower) ∧
      (c.isUpper → c.toUpper = c) ∧ (c.isAlpha → c.toUpper.isUpper))
    ⟨fun ⟨⟨h1, h2, h3, h4, h5⟩, ⟨h6, h7, h8, h9⟩, h10, h11⟩ =>
        ⟨h1, h2, h3, h4, h5, h6, h7, h8, h9, h10, h11⟩,
      fun h => ⟨⟨h.upperOf_eq, h.lowerOf_eq, h.isAlphabetic_eq, h.isUppercase_eq,
          h.isAlphanumeric_eq⟩,
        ⟨h.toNat_toUpper_lt, h.toNat_toLower_lt, h.toLower_toUpper, h.toLower_toLower⟩,
        h.toUpper_of_isUpper, h.isUpper_toUpper⟩⟩

/-- There are so few ASCII characters that the tables are looked up for each of them. -/
theorem casedAsAscii (hc : c.toNat < 0x80) : CasedAsAscii c := by
  have hall : ∀ n < 0x80, CasedAsAscii (Char.ofNat n) := by decide +kernel
  simpa using hall c.toNat hc

end

section

variable {cs word : List Char}

/-- In small letters each ASCII character has its small form: there is no sigma among them, which
would take two. -/
theorem lowerFrom_of_ascii (h : IsAscii cs) (before : List Char) :
    lowerFrom before cs = cs.map Char.toLower := by
  induction cs generalizing before with
  | nil => rfl
  | cons c rest ih =>
    obtain ⟨hc, hrest⟩ := List.forall_mem_cons.1 h
    -- What comes before a character only matters for a sigma, which is not among them.
    have hsigma : c ≠ 'Σ' := by
      rintro rfl
      exact absurd hc (by decide)
    rw [lowerFrom, if_neg hsigma, (casedAsAscii hc).lowerOf_eq, ih hrest]
    rfl

/-- The letters and digits of an ASCII text. Numbers that are no digits are not among its
characters. -/
theorem filter_isAlphanumeric_of_ascii (h : IsAscii cs) :
    cs.filter isAlphanumeric = cs.filter Char.isAlphanum :=
  List.filter_congr fun c hc => (casedAsAscii (h c hc)).isAlphanumeric_eq

/-- The words of an ASCII text have no other characters, since each is a piece of it. -/
theorem isAscii_of_mem_splitChars (h : IsAscii cs) (hword : word ∈ splitChars cs) :
    IsAscii word := by
  obtain ⟨-, -, hpiece⟩ := (stand_splitChars cs).of_mem hword
  exact fun c hc => h c (hpiece.subset hc)

end

/-! ### Texts that differ in case -/

section

variable {made cs more ds word : List Char} {style : AcronymStyle}

/-- An ASCII text that is the other one if the case is not looked at. In particular it is as long,
which tells where its words begin. -/
def SameLetters (made cs : List Char) : Prop :=
  IsAscii made ∧ made.map Char.toLower = cs.map Char.toLower

theorem SameLetters.length_eq (h : SameLetters made cs) : made.length = cs.length := by
  simpa using congrArg List.length h.2

theorem SameLetters.append (h : SameLetters made cs) (hmore : SameLetters more ds) :
    SameLetters (made ++ more) (cs ++ ds) := by
  refine ⟨List.forall_mem_append.2 ⟨h.1, hmore.1⟩, ?_⟩
  rw [List.map_append, List.map_append, h.2, hmore.2]

/-- Small letters are the same letters. It is one of the two changes that a word goes through. -/
theorem SameLetters.lower (h : SameLetters made cs) : SameLetters (lower made) cs := by
  rw [Text.lower, lowerFrom_of_ascii h.1]
  refine ⟨?_, ?_⟩
  · intro d hd
    obtain ⟨c, hc, rfl⟩ := List.mem_map.1 hd
    exact (casedAsAscii (h.1 c hc)).toNat_toLower_lt
  · rw [List.map_map, ← h.2]
    exact List.map_congr_left fun c hc => (casedAsAscii (h.1 c hc)).toLower_toLower

/-- A capital at the front is the same letter. It is the other one. -/
theorem SameLetters.capitalize (h : SameLetters made cs) : SameLetters (capitalize made) cs := by
  cases made with
  | nil => exact h
  | cons c rest =>
    obtain ⟨hc, hrest⟩ := List.forall_mem_cons.1 h.1
    rw [Text.capitalize, (casedAsAscii hc).upperOf_eq, List.singleton_append]
    refine ⟨List.forall_mem_cons.2 ⟨(casedAsAscii hc).toNat_toUpper_lt, hrest⟩, ?_⟩
    rw [← h.2, List.map_cons, List.map_cons, (casedAsAscii hc).toLower_toUpper]

/-- Whatever the style, a word stands in a name with the same letters. The styles differ in what
becomes of acronyms, and only in case. -/
theorem sameLetters_styleWord (h : IsAscii word) : SameLetters (styleWord style word) word := by
  have hword : SameLetters word word := ⟨h, rfl⟩
  unfold styleWord
  split
  · cases style with
    | asGiven => exact hword
    | pascal => exact hword.lower.capitalize
    | camel => exact hword.lower.capitalize
    | lowerCase => exact hword.lower
  · exact hword.capitalize

/-- The words of a name, one after the other, have the letters of the words. So each word stands
in the name where it stood among the letters of its source. -/
theorem sameLetters_flatMap {words : List (List Char)} (h : ∀ word ∈ words, IsAscii word) :
    SameLetters (words.flatMap (styleWord style)) words.flatten := by
  induction words with
  | nil => exact ⟨List.forall_mem_nil _, rfl⟩
  | cons word words ih =>
    obtain ⟨hword, hwords⟩ := List.forall_mem_cons.1 h
    exact (sameLetters_styleWord hword).append (ih hwords)

/-- A name in Pascal case has the letters and digits of its source, in the same order. -/
theorem sameLetters_pascalChars (h : IsAscii cs) :
    SameLetters (pascalChars style cs) (cs.filter Char.isAlphanum) := by
  rw [← filter_isAlphanumeric_of_ascii h, ← flatten_splitChars]
  exact (sameLetters_flatMap fun word hword => isAscii_of_mem_splitChars h hword).capitalize

/-- A name in camel case has the letters and digits of its source, in the same order. Its first
word is in small letters. -/
theorem sameLetters_camelChars (h : IsAscii cs) :
    SameLetters (camelChars style cs) (cs.filter Char.isAlphanum) := by
  have hwords : ∀ word ∈ splitChars cs, IsAscii word := fun word hword =>
    isAscii_of_mem_splitChars h hword
  rw [← filter_isAlphanumeric_of_ascii h, ← flatten_splitChars]
  unfold camelChars
  -- The first word is lowered and the others are styled, and neither changes letters but for
  -- their case.
  cases hsplit : splitChars cs with
  | nil => exact ⟨List.forall_mem_nil _, rfl⟩
  | cons word words =>
    rw [hsplit, List.forall_mem_cons] at hwords
    have hword : SameLetters word word := ⟨hwords.1, rfl⟩
    exact hword.lower.append (sameLetters_flatMap hwords.2)

end

/-! ### Capitals at the front of words -/

section

variable {c : Char} {rest cs : List Char}

/-- With acronyms as they are, a word that begins with a letter stands in a name with a capital at
its front and is not changed behind it. The first letter of an acronym is one already. -/
theorem styleWord_asGiven (h : IsAscii (c :: rest)) (hc : c.isAlpha) :
    styleWord .asGiven (c :: rest) = c.toUpper :: rest := by
  have hcased : CasedAsAscii c := casedAsAscii (h c List.mem_cons_self)
  unfold styleWord
  split
  · rename_i hacronym
    -- All letters of an acronym are capitals.
    have hupper : c.isUpper := by
      rw [isAcronym, Bool.and_eq_true, List.all_eq_true] at hacronym
      have hfirst := hacronym.2 c List.mem_cons_self
      rwa [hcased.isAlphabetic_eq, hcased.isUppercase_eq, hc] at hfirst
    rw [hcased.toUpper_of_isUpper hupper]
    rfl
  · rw [capitalize, hcased.upperOf_eq, List.singleton_append]

/-- A word behind the first one that begins with a letter has a capital at its front in camel
case, where the words before it end. The first word is excluded since it is in small letters. -/
theorem getElem?_camelChars (h : IsAscii cs) {front back : List (List Char)}
    (hsplit : splitChars cs = front ++ (c :: rest) :: back) (hfront : front ≠ [])
    (hc : c.isAlpha) : (camelChars .asGiven cs)[front.flatten.length]? = some c.toUpper := by
  have hwords : ∀ word ∈ splitChars cs, IsAscii word := fun word hword =>
    isAscii_of_mem_splitChars h hword
  obtain ⟨first, others, rfl⟩ := List.exists_cons_of_ne_nil hfront
  rw [hsplit, List.forall_mem_append, List.forall_mem_cons, List.forall_mem_cons] at hwords
  obtain ⟨⟨hfirst, hothers⟩, hword, -⟩ := hwords
  have hsame : SameLetters (lower first ++ others.flatMap (styleWord .asGiven))
      (first :: others).flatten :=
    (SameLetters.lower ⟨hfirst, rfl⟩).append (sameLetters_flatMap hothers)
  -- The word follows behind what stands for the words before it, which is as long as they are.
  have hname : camelChars .asGiven cs = (lower first ++ others.flatMap (styleWord .asGiven)) ++
      (c.toUpper :: (rest ++ back.flatMap (styleWord .asGiven))) := by
    simp [camelChars, hsplit, styleWord_asGiven hword hc]
  rw [hname, ← hsame.length_eq, List.getElem?_append_right (Nat.le_refl _), Nat.sub_self]
  rfl

end

/-- If the case is not looked at, an ASCII name in Pascal or camel case is its source without all
characters that are neither letters nor digits, whatever becomes of acronyms. In camel case with
acronyms as they are, each word but the first has a capital at its front if it begins with a letter,
and this letter is where the letters and digits of the words before it end. -/
theorem styled_names_keep_letters (s : String) (hs : IsAscii s.toList) :
    (∀ style,
      (pascalCase style s).toList.map Char.toLower =
        (s.toList.filter Char.isAlphanum).map Char.toLower ∧
      (camelCase style s).toList.map Char.toLower =
        (s.toList.filter Char.isAlphanum).map Char.toLower) ∧
    ∀ front word back c rest, splitWords s = front ++ word :: back → front ≠ [] →
      word.toList = c :: rest → c.isAlpha →
        (camelCase .asGiven s).toList[(front.flatMap String.toList).length]? = some c.toUpper ∧
        c.toUpper.isUpper := by
  refine ⟨fun style => ⟨?_, ?_⟩, ?_⟩
  · rw [pascalCase, String.toList_ofList]
    exact (sameLetters_pascalChars hs).2
  · rw [camelCase, String.toList_ofList]
    exact (sameLetters_camelChars hs).2
  · intro front word back c rest hsplit hfront hword hc
    -- Behind the first word every other one begins with a capital, and this is one of them.
    have hchars : splitChars s.toList =
        front.map String.toList ++ (c :: rest) :: back.map String.toList := by
      rw [← map_toList_splitWords, hsplit, List.map_append, List.map_cons, hword]
    have hascii : IsAscii (c :: rest) := isAscii_of_mem_splitChars hs (by simp [hchars])
    rw [camelCase, String.toList_ofList, List.flatMap_def]
    exact ⟨getElem?_camelChars hs hchars (by simpa using hfront) hc,
      (casedAsAscii (hascii c List.mem_cons_self)).isUpper_toUpper hc⟩

/-- A word after a word of capitals, which stay as they are. The capital of the third word is in
the place of its letter. -/
theorem styled_names_url :
    IsAscii "my-URLPath".toList ∧
    splitWords "my-URLPath" = ["my", "URL"] ++ "Path" :: [] ∧
    (camelCase .asGiven "my-URLPath").toList[5]? = some 'P' ∧ 'P'.isUpper := by
  have hs : IsAscii "my-URLPath".toList := by decide
  have hsplit : splitWords "my-URLPath" = ["my", "URL"] ++ "Path" :: [] := by decide +kernel
  obtain ⟨-, hcapitals⟩ := styled_names_keep_letters "my-URLPath" hs
  have hcapital := hcapitals ["my", "URL"] "Path" [] 'P' "ath".toList hsplit (by simp) rfl rfl
  exact ⟨hs, hsplit, hcapital⟩

end StateTree.Text
