import StateTree.Proofs.Text.Intervals

/-!
# `StateTree.Proofs.Text.Words`: where a name is cut into words

The words of a name stand in it one after the other, with nothing between them but what is no letter
and no number. Between two neighbours that are letters or numbers there is a cut exactly if they
make a boundary. Whether they do depends on the character after them as well, and this one may be
behind the next cut or be no part of a word at all. Inside a word it can only be missing, which
takes boundaries away and adds none. So a word is not split any further.

- `Stand`: words stand in a text in their order, and nothing is left out but other characters.
- `Apart`, `Together`: two neighbours in a text are in different words, or in one.
- `stand_splitChars`, `flatten_splitChars`: the words of a text stand in it.
- `apart_iff`, `together_iff`: which neighbours are in different words.
- `splitWords_cuts_at_boundaries`: all this of the words of a name.
-/

set_option autoImplicit false

namespace StateTree.Text

/-- The words stand in the text in this order. They are letters and numbers, and the text has no
others. Two words may stand next to each other with nothing between them. -/
inductive Stand : List Char → List (List Char) → Prop
  | nil : Stand [] []
  /-- What is no letter and no number stands between words. -/
  | skip {c : Char} {cs : List Char} {words : List (List Char)} (hc : ¬ isAlphanumeric c)
    (hrest : Stand cs words) : Stand (c :: cs) words
  | word {word cs : List Char} {words : List (List Char)} (hne : word ≠ [])
    (hword : ∀ c ∈ word, isAlphanumeric c) (hrest : Stand cs words) :
    Stand (word ++ cs) (word :: words)

/-- The neighbours `c` and `d`, with one text before them and another one after them, are letters
or numbers, and one word ends between them and the next one begins. The words before the cut stand
in the first text, and those behind it in the other. -/
def Apart (words : List (List Char)) (before : List Char) (c d : Char) (after : List Char) : Prop :=
  isAlphanumeric c ∧ isAlphanumeric d ∧ ∃ front back, words = front ++ back ∧
    Stand (before ++ [c]) front ∧ Stand (d :: after) back

/-- The neighbours `c` and `d`, with one text before them and another one after them, are in one
word: the place of the word in the text is given, not only the word. -/
def Together (words : List (List Char)) (before : List Char) (c d : Char) (after : List Char) :
    Prop :=
  ∃ front first last back p q, words = front ++ (first ++ c :: d :: last) :: back ∧
    before = p ++ first ∧ Stand p front ∧ after = last ++ q ∧ Stand q back

/-! ### Words that stand in a text -/

section

variable {cs rest : List Char} {words : List (List Char)} {b c d : Char}

/-- Put together again, the words are the letters and numbers of the text. No letter is lost, and
none comes twice. -/
theorem Stand.flatten_eq (h : Stand cs words) : words.flatten = cs.filter isAlphanumeric := by
  induction h with
  | nil => rfl
  | skip hc _ ih => rw [List.filter_cons_of_neg hc, ih]
  | word _ hword _ ih => rw [List.flatten_cons, List.filter_append, List.filter_eq_self.2 hword, ih]

/-- A word is not empty, has letters and numbers only, and is a piece of the text. -/
theorem Stand.of_mem (h : Stand cs words) {word : List Char} (hmem : word ∈ words) :
    word ≠ [] ∧ (∀ c ∈ word, isAlphanumeric c) ∧ word <:+: cs := by
  induction h with
  | nil => cases hmem
  | skip _ _ ih =>
    obtain ⟨hne, hword, hpiece⟩ := ih hmem
    exact ⟨hne, hword, List.infix_cons hpiece⟩
  | @word first cs _ hne hword _ ih =>
    rcases List.mem_cons.1 hmem with rfl | hmem
    · exact ⟨hne, hword, (List.prefix_append word cs).isInfix⟩
    · obtain ⟨hne', hword', hpiece⟩ := ih hmem
      exact ⟨hne', hword', hpiece.trans (List.suffix_append first cs).isInfix⟩

/-- A text that begins with a letter or number begins with the first word, which is not empty
then. -/
theorem Stand.exists_first (hc : isAlphanumeric c) (h : Stand (c :: cs) words) :
    ∃ word others rest, words = (c :: word) :: others ∧ cs = word ++ rest ∧
      (∀ d ∈ word, isAlphanumeric d) ∧ Stand rest others := by
  -- By cases on how the words stand there. A first letter is not skipped, so a word begins with
  -- it.
  generalize htext : c :: cs = text at h
  cases h with
  | nil => cases htext
  | skip hother _ =>
    obtain ⟨rfl, rfl⟩ := List.cons.inj htext
    exact absurd hc hother
  | @word word rest others hne hword hrest =>
    obtain ⟨first, word, rfl⟩ := List.exists_cons_of_ne_nil hne
    obtain ⟨rfl, rfl⟩ := List.cons.inj htext
    exact ⟨word, others, rest, rfl, rfl, fun d hd => hword d (List.mem_cons_of_mem _ hd), hrest⟩

/-- In a text without characters no words stand, since no word is empty. -/
theorem Stand.eq_nil (h : Stand [] words) : words = [] := by
  generalize htext : [] = text at h
  cases h with
  | nil => rfl
  | skip => cases htext
  | word hne => exact absurd (List.append_eq_nil_iff.1 htext.symm).1 hne

/-- A letter or number before a word may be a word of its own. Whether it is, the boundaries
decide. -/
theorem Stand.single (hb : isAlphanumeric b) (h : Stand cs words) :
    Stand (b :: cs) ([b] :: words) :=
  .word (List.cons_ne_nil b []) (by simpa using hb) h

/-- A letter or number right before the first word may be a part of it. For this the text has to
begin with the word. -/
theorem Stand.join (hb : isAlphanumeric b) (hc : isAlphanumeric c) (h : Stand (c :: cs) words) :
    ∃ word others, words = word :: others ∧ Stand (b :: c :: cs) ((b :: word) :: others) := by
  obtain ⟨word, others, rest, rfl, rfl, hword, hrest⟩ := h.exists_first hc
  refine ⟨c :: word, others, rfl, ?_⟩
  have hjoined : ∀ d ∈ b :: c :: word, isAlphanumeric d := by
    simpa [hb, hc] using hword
  exact .word (List.cons_ne_nil b (c :: word)) hjoined hrest

/-- Where a word goes on, the text after it begins with a letter or number that makes no boundary
with it. The character after that one may be looked at as well. -/
theorem continues_iff : continues c cs = true ↔ ∃ d rest, cs = d :: rest ∧
    isAlphanumeric d = true ∧ isBoundary c d rest.head? = false := by
  cases cs <;> simp [continues]

/-- What one more character at the front does to the words of a text: nothing, if it is no letter
and no number. Otherwise it goes on into the first word, which the text then begins with, or it is a
word of its own. -/
theorem splitChars_cons_cases (b : Char) (cs : List Char) :
    ¬ isAlphanumeric b ∧ splitChars (b :: cs) = splitChars cs ∨
    isAlphanumeric b ∧ splitChars (b :: cs) = [b] :: splitChars cs ∨
    isAlphanumeric b ∧ continues b cs = true ∧
      splitChars (b :: cs) = joinFirst b (splitChars cs) := by
  rw [splitChars]
  split
  · rename_i hb
    split
    · rename_i hgoes
      exact .inr (.inr ⟨hb, hgoes, rfl⟩)
    · exact .inr (.inl ⟨hb, rfl⟩)
  · rename_i hb
    exact .inl ⟨hb, rfl⟩

/-- The words of a text stand in it. This alone does not say where it is cut. -/
theorem stand_splitChars (cs : List Char) : Stand cs (splitChars cs) := by
  induction cs with
  | nil => exact .nil
  | cons c rest ih =>
    -- The first character is left out, makes a word of its own, or joins the word behind it.
    obtain ⟨hc, hwords⟩ | ⟨hc, hwords⟩ | ⟨hc, hgoes, hwords⟩ := splitChars_cons_cases c rest
    · rw [hwords]
      exact ih.skip hc
    · rw [hwords]
      exact ih.single hc
    · obtain ⟨d, rest, rfl, hd, -⟩ := continues_iff.1 hgoes
      obtain ⟨word, others, hrest, hstand⟩ := ih.join hc hd
      rw [hwords, hrest]
      exact hstand

/-- Put together again, the words of a text are its letters and numbers. Styled names keep
characters by this. -/
theorem flatten_splitChars (cs : List Char) :
    (splitChars cs).flatten = cs.filter isAlphanumeric :=
  (stand_splitChars cs).flatten_eq

/-! ### Boundaries -/

/-- The three kinds of boundaries: before a capital after a small letter, before the last of
several capitals if a small letter follows it, and before a letter after a number. -/
theorem isBoundary_iff {next : Option Char} : isBoundary c d next = true ↔
    (isLowercase c ∧ isUppercase d) ∨
    (isUppercase c ∧ isUppercase d ∧ ∃ e, next = some e ∧ isLowercase e) ∨
    (isNumeric c ∧ isAlphabetic d) := by
  cases next <;> simp [isBoundary, or_assoc, and_assoc]

/-- Only letters and numbers make boundaries. For small letters and capitals this is in the
tables. -/
theorem isAlphanumeric_of_isBoundary {next : Option Char} (h : isBoundary c d next = true) :
    isAlphanumeric c ∧ isAlphanumeric d := by
  have hletter : ∀ {e : Char}, isAlphabetic e → isAlphanumeric e := by
    intro e he
    simp [isAlphanumeric, he]
  rcases isBoundary_iff.1 h with ⟨hc, hd⟩ | ⟨hc, hd, -⟩ | ⟨hc, hd⟩
  · exact ⟨hletter (isAlphabetic_of_isLowercase hc), hletter (isAlphabetic_of_isUppercase hd)⟩
  · exact ⟨hletter (isAlphabetic_of_isUppercase hc), hletter (isAlphabetic_of_isUppercase hd)⟩
  · exact ⟨by simp [isAlphanumeric, hc], hletter hd⟩

/-- Where the text ends there is no boundary that would not be there if it went on. Only the
second kind asks for another character. -/
theorem isBoundary_of_none {next : Option Char} (h : isBoundary c d none = true) :
    isBoundary c d next = true := by
  rw [isBoundary_iff] at h ⊢
  rcases h with hsmall | ⟨-, -, e, hnone, -⟩ | hnumber
  · exact .inl hsmall
  · cases hnone
  · exact .inr (.inr hnumber)

/-- A word that goes on into a text goes on into the first word of it, taken alone. -/
theorem continues_of_append {word : List Char} (hne : word ≠ [])
    (h : continues c (word ++ rest) = true) : continues c word = true := by
  obtain ⟨d, tail, htail, hd, hboundary⟩ := continues_iff.1 h
  obtain ⟨first, word, rfl⟩ := List.exists_cons_of_ne_nil hne
  obtain ⟨rfl, rfl⟩ := List.cons.inj htail
  refine continues_iff.2 ⟨first, word, rfl, hd, ?_⟩
  -- The look ahead finds the same character, or none any more.
  cases word with
  | nil => exact Bool.eq_false_iff.2 fun hnone => by simp [isBoundary_of_none hnone] at hboundary
  | cons e word => exact hboundary

/-- The words of a text are not split any further. Taken alone, a word has the same characters
after each of its own, but for the end. -/
theorem splitChars_of_mem {word : List Char} (hmem : word ∈ splitChars cs) :
    splitChars word = [word] := by
  induction cs generalizing word with
  | nil => cases hmem
  | cons c rest ih =>
    obtain ⟨-, hwords⟩ | ⟨hc, hwords⟩ | ⟨hc, hgoes, hwords⟩ := splitChars_cons_cases c rest
    · exact ih (hwords ▸ hmem)
    · rw [hwords] at hmem
      rcases List.mem_cons.1 hmem with rfl | hmem
      · rw [splitChars, if_pos hc]
        rfl
      · exact ih hmem
    · obtain ⟨d, tail, rfl, hd, -⟩ := continues_iff.1 hgoes
      obtain ⟨first, others, _, hrest, rfl, -⟩ := (stand_splitChars (d :: tail)).exists_first hd
      rw [hwords, hrest, joinFirst] at hmem
      -- The character in front goes on into the first word, and all other words are as before.
      rw [hrest] at ih
      rcases List.mem_cons.1 hmem with rfl | hmem
      · have hfirst : continues c (d :: first) = true :=
          continues_of_append (List.cons_ne_nil d first) hgoes
        rw [splitChars, if_pos hc, if_pos hfirst, ih List.mem_cons_self, joinFirst]
      · exact ih (List.mem_cons_of_mem _ hmem)

end

/-! ### Neighbours -/

section

variable {words : List (List Char)} {before after : List Char} {c d : Char}

/-- Neighbours are not both in one word and in two. It is by counting letters, and knows nothing
of boundaries. -/
theorem Apart.not_together (h : Apart words before c d after) :
    ¬ Together words before c d after := by
  obtain ⟨hc, -, front, back, rfl, hfront, -⟩ := h
  rintro ⟨front', first, last, back', p, q, heq, rfl, hfront', -⟩
  -- The words before the cut have more letters than those before the common word, and fewer than
  -- these with the common word.
  have hmore : front.flatten.length = front'.flatten.length +
      (first.filter isAlphanumeric).length + 1 := by
    rw [hfront.flatten_eq, hfront'.flatten_eq]
    simp [hc, Nat.add_assoc]
  have hfirst : (first.filter isAlphanumeric).length ≤ first.length := List.length_filter_le _ _
  rcases List.append_eq_append_iff.1 heq with ⟨extra, rfl, -⟩ | ⟨extra, rfl, hextra⟩
  · rw [List.flatten_append, List.length_append] at hmore
    omega
  · cases extra with
    | nil =>
      rw [List.append_nil] at hmore
      omega
    | cons common extra =>
      obtain ⟨rfl, -⟩ := List.cons.inj hextra
      simp only [List.flatten_append, List.flatten_cons, List.length_append,
        List.length_cons] at hmore
      omega

/-- Neighbours that make a boundary are in different words, wherever they stand in the text. It is
one half of `apart_iff`. -/
theorem apart_of_isBoundary (h : isBoundary c d after.head? = true) :
    Apart (splitChars (before ++ c :: d :: after)) before c d after := by
  obtain ⟨hc, hd⟩ := isAlphanumeric_of_isBoundary h
  refine ⟨hc, hd, ?_⟩
  -- On the text before them: a character in front changes no cut behind it.
  induction before with
  | nil =>
    have hends : ¬ continues c (d :: after) = true := by simp [continues, h]
    refine ⟨[[c]], splitChars (d :: after), ?_, .single hc .nil, stand_splitChars _⟩
    rw [List.nil_append, splitChars, if_pos hc, if_neg hends]
    rfl
  | cons b before ih =>
    obtain ⟨front, back, hrest, hfront, hback⟩ := ih
    rw [List.cons_append]
    obtain ⟨hb, hwords⟩ | ⟨hb, hwords⟩ | ⟨hb, hgoes, hwords⟩ :=
      splitChars_cons_cases b (before ++ c :: d :: after)
    · exact ⟨front, back, hwords.trans hrest, hfront.skip hb, hback⟩
    · exact ⟨[b] :: front, back, by rw [hwords, hrest]; rfl, hfront.single hb, hback⟩
    · -- The first of the words before the cut goes on to the front.
      obtain ⟨x, rest, hx, halnum, -⟩ := continues_iff.1 hgoes
      obtain ⟨tail, htail⟩ : ∃ tail, before ++ [c] = x :: tail := by
        cases before with
        | nil => exact ⟨[], by simpa using (List.cons.inj hx).1⟩
        | cons y before => exact ⟨before ++ [c], by simpa using (List.cons.inj hx).1⟩
      rw [htail] at hfront
      obtain ⟨word, others, rfl, hjoined⟩ := hfront.join hb halnum
      refine ⟨(b :: word) :: others, back, by rw [hwords, hrest]; rfl, ?_, hback⟩
      rw [List.cons_append, htail]
      exact hjoined

/-- Neighbours that are letters or numbers and make no boundary are in one word, wherever they
stand in the text. -/
theorem together_of_not_isBoundary (hc : isAlphanumeric c) (hd : isAlphanumeric d)
    (h : ¬ isBoundary c d after.head? = true) :
    Together (splitChars (before ++ c :: d :: after)) before c d after := by
  -- On the text before them, as for `apart_of_isBoundary`.
  induction before with
  | nil =>
    have hgoes : continues c (d :: after) = true := by simp [continues, hd, h]
    obtain ⟨last, back, q, hrest, hafter, -, hback⟩ :=
      (stand_splitChars (d :: after)).exists_first hd
    refine ⟨[], [], last, back, [], q, ?_, rfl, .nil, hafter, hback⟩
    rw [List.nil_append, splitChars, if_pos hc, if_pos hgoes, hrest]
    rfl
  | cons b before ih =>
    obtain ⟨front, first, last, back, p, q, hrest, rfl, hfront, hafter, hback⟩ := ih
    rw [List.cons_append]
    obtain ⟨hb, hwords⟩ | ⟨hb, hwords⟩ | ⟨hb, hgoes, hwords⟩ :=
      splitChars_cons_cases b (p ++ first ++ c :: d :: after)
    · exact ⟨front, first, last, back, b :: p, q, hwords.trans hrest, rfl, hfront.skip hb, hafter,
        hback⟩
    · exact ⟨[b] :: front, first, last, back, b :: p, q, by rw [hwords, hrest]; rfl, rfl,
        hfront.single hb, hafter, hback⟩
    · obtain ⟨x, rest, hx, halnum, -⟩ := continues_iff.1 hgoes
      cases p with
      | nil =>
        -- The common word is the first one, and goes on to the front.
        obtain rfl := hfront.eq_nil
        exact ⟨[], b :: first, last, back, [], q, by rw [hwords, hrest]; rfl, rfl, .nil, hafter,
          hback⟩
      | cons y p =>
        obtain rfl : y = x := (List.cons.inj hx).1
        obtain ⟨word, others, rfl, hjoined⟩ := hfront.join hb halnum
        exact ⟨(b :: word) :: others, first, last, back, b :: y :: p, q, by rw [hwords, hrest]; rfl,
          rfl, hjoined, hafter, hback⟩

/-- Neighbours in a text are in different words exactly if they make a boundary. No other rule
cuts a name between two letters or numbers. -/
theorem apart_iff : Apart (splitChars (before ++ c :: d :: after)) before c d after ↔
    isBoundary c d after.head? = true := by
  constructor
  · intro hapart
    by_contra hboundary
    exact hapart.not_together (together_of_not_isBoundary hapart.1 hapart.2.1 hboundary)
  · exact apart_of_isBoundary

/-- Neighbours in a text are in one word exactly if they are letters or numbers and not in different
words. -/
theorem together_iff : Together (splitChars (before ++ c :: d :: after)) before c d after ↔
    isAlphanumeric c ∧ isAlphanumeric d ∧
      ¬ Apart (splitChars (before ++ c :: d :: after)) before c d after := by
  constructor
  · intro htogether
    have ⟨front, first, last, back, _, _, hwords, _⟩ := htogether
    have hmem : first ++ c :: d :: last ∈ splitChars (before ++ c :: d :: after) := by
      rw [hwords]
      simp
    -- One word has letters and numbers only, and is not two.
    obtain ⟨-, halnum, -⟩ := (stand_splitChars _).of_mem hmem
    exact ⟨halnum c (by simp), halnum d (by simp), fun hapart => hapart.not_together htogether⟩
  · rintro ⟨hc, hd, hapart⟩
    exact together_of_not_isBoundary hc hd (mt apart_iff.2 hapart)

end

/-! ### The words of a name -/

/-- The words of a name as lists of characters, which all of the above is about. -/
theorem map_toList_splitWords (s : String) :
    (splitWords s).map String.toList = splitChars s.toList := by
  rw [splitWords, List.map_map]
  exact (List.map_congr_left fun word _ => String.toList_ofList).trans (List.map_id _)

/-- The words of a name stand in it one after the other, each of them a piece of it. Together they
are its letters and numbers, and no word is empty or would be split again. Neighbours are in
different words exactly at the three kinds of boundaries, and all other neighbours that are letters
or numbers are in one word. -/
theorem splitWords_cuts_at_boundaries (s : String) :
    (splitWords s).flatMap String.toList = s.toList.filter isAlphanumeric ∧
    Stand s.toList ((splitWords s).map String.toList) ∧
    (∀ word ∈ splitWords s, word ≠ "" ∧ (∀ c ∈ word.toList, isAlphanumeric c) ∧
      word.toList <:+: s.toList ∧ splitWords word = [word]) ∧
    ∀ before c d after, s.toList = before ++ c :: d :: after →
      (Apart ((splitWords s).map String.toList) before c d after ↔
        (isLowercase c ∧ isUppercase d) ∨
        (isUppercase c ∧ isUppercase d ∧ ∃ e, after.head? = some e ∧ isLowercase e) ∨
        (isNumeric c ∧ isAlphabetic d)) ∧
      (Together ((splitWords s).map String.toList) before c d after ↔
        isAlphanumeric c ∧ isAlphanumeric d ∧
          ¬ Apart ((splitWords s).map String.toList) before c d after) := by
  have hstand := stand_splitChars s.toList
  refine ⟨?_, ?_, ?_, ?_⟩
  · rw [List.flatMap_def, map_toList_splitWords, flatten_splitChars]
  · rw [map_toList_splitWords]
    exact hstand
  · intro word hmem
    have hchars : word.toList ∈ splitChars s.toList := by
      rw [← map_toList_splitWords]
      exact List.mem_map_of_mem hmem
    obtain ⟨hne, halnum, hpiece⟩ := hstand.of_mem hchars
    refine ⟨fun hempty => hne (by rw [hempty]; rfl), halnum, hpiece, ?_⟩
    rw [splitWords, splitChars_of_mem hchars, List.map_singleton, String.ofList_toList]
  -- Where the text is cut is decided on two neighbours and one character behind them, as the
  -- boundary is.
  · intro before c d after htext
    rw [map_toList_splitWords, htext, ← isBoundary_iff]
    exact ⟨apart_iff, together_iff⟩

/-- In `v2URLPath` one word ends with the number, and the next one before the last capital, which a
small letter follows. The capitals up to there are in one word. -/
theorem splitWords_url :
    ("v2URLPath".toList = "v".toList ++ '2' :: 'U' :: "RLPath".toList ∧
      Apart ((splitWords "v2URLPath").map String.toList) "v".toList '2' 'U' "RLPath".toList) ∧
    ("v2URLPath".toList = "v2UR".toList ++ 'L' :: 'P' :: "ath".toList ∧
      Apart ((splitWords "v2URLPath").map String.toList) "v2UR".toList 'L' 'P' "ath".toList) ∧
    ("v2URLPath".toList = "v2".toList ++ 'U' :: 'R' :: "LPath".toList ∧
      Together ((splitWords "v2URLPath").map String.toList) "v2".toList 'U' 'R'
        "LPath".toList) := by
  obtain ⟨-, -, -, hcuts⟩ := splitWords_cuts_at_boundaries "v2URLPath"
  refine ⟨⟨rfl, ?_⟩, ⟨rfl, ?_⟩, ⟨rfl, ?_⟩⟩
  · exact (hcuts _ _ _ _ rfl).1.2 (.inr (.inr (by decide +kernel)))
  · exact (hcuts _ _ _ _ rfl).1.2 (.inr (.inl ⟨by decide +kernel, by decide +kernel, 'a', rfl,
      by decide +kernel⟩))
  · refine (hcuts _ _ _ _ rfl).2.2 ⟨by decide +kernel, by decide +kernel, ?_⟩
    rw [(hcuts _ _ _ _ rfl).1]
    -- No reason to cut applies between the two capitals, as another capital follows.
    rintro (hcut | ⟨-, -, e, he, hlower⟩ | hcut)
    · revert hcut
      decide +kernel
    · obtain rfl : 'L' = e := Option.some.inj he
      revert hlower
      decide +kernel
    · revert hcut
      decide +kernel

end StateTree.Text
