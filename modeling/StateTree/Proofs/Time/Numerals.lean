import Mathlib.Data.List.Infix
import Mathlib.Data.List.TakeWhile
import StateTree.Proofs.Text.Intervals
import StateTree.Time.Snapshot

/-!
# `StateTree.Proofs.Time.Numerals`: the number at the front of a text of digits and points

A text of digits and points is cut off before its second point, and what is left is read as a
number. This is the longest numeral at the front of the text, or there is none. The support module
reads such a text with `parseFloat`, which takes the longest literal at the front of a text. Among
digits and points literals are numerals, so both take the same.

- `Numeral`, `numeral_iff`: decimal numerals, and how to tell them among digits and points.
- `IsLongestFront`: the longest front of a text in a class.
- `isPrefix_leadingDecimal`: the cut leaves all fronts with one point at most.
- `decimalValue?_eq_none_iff`: which texts with one point at most have a value.
- `Script.Literal`, `Script.ParseFloatReads`: what `parseFloat` reads.
- `reads_longest_numeral`: all this of a text of digits and points.
-/

set_option autoImplicit false

namespace StateTree.Time

/-! ### Numerals -/

/-- Digits, one at least. The empty text is no numeral. -/
def IsDigits (cs : List Char) : Prop :=
  cs ≠ [] ∧ ∀ c ∈ cs, c.isDigit

/-- A decimal numeral without a sign or an exponent. It has a point or not, and a digit before or
behind the point. -/
inductive Numeral : List Char → Prop
  | whole {digits : List Char} (hdigits : IsDigits digits) : Numeral digits
  /-- Behind the point there need not be a digit if there is one before it. -/
  | mixed {whole fraction : List Char} (hwhole : IsDigits whole)
    (hfraction : ∀ c ∈ fraction, c.isDigit) : Numeral (whole ++ '.' :: fraction)
  | fraction {digits : List Char} (hdigits : IsDigits digits) : Numeral ('.' :: digits)

/-- A text of digits and points, with any number of points. Texts with other characters are not
read as numbers. -/
def OnlyDigitsAndPoints (cs : List Char) : Prop :=
  ∀ c ∈ cs, c.isDigit ∨ c = '.'

instance (cs : List Char) : Decidable (OnlyDigitsAndPoints cs) :=
  List.decidableBAll (fun c : Char => c.isDigit ∨ c = '.') cs

section

variable {cs front digits whole : List Char}

theorem OnlyDigitsAndPoints.of_isPrefix (h : OnlyDigitsAndPoints cs) (hfront : front <+: cs) :
    OnlyDigitsAndPoints front :=
  fun c hc => h c (hfront.subset hc)

/-- The digits that stand between points: a piece without a point has nothing but digits. -/
theorem OnlyDigitsAndPoints.isDigit_of_notMem (h : OnlyDigitsAndPoints cs) (hdigits : digits ⊆ cs)
    (hpoint : '.' ∉ digits) : ∀ c ∈ digits, c.isDigit := by
  intro c hc
  rcases h c (hdigits hc) with hdigit | rfl
  · exact hdigit
  · exact absurd hc hpoint

/-- No digit is a point, so digits do not add to the points. -/
theorem count_point_of_isDigit (h : ∀ c ∈ digits, c.isDigit) : digits.count '.' = 0 :=
  List.count_eq_zero.2 fun hmem => absurd (h '.' hmem) (by decide)

/-- A text with one point at most has none, or parts without a point before and behind it. These
are the shapes of numerals. -/
theorem exists_parts_of_count_le_one (h : cs.count '.' ≤ 1) : '.' ∉ cs ∨
    ∃ whole fraction, cs = whole ++ '.' :: fraction ∧ '.' ∉ whole ∧ '.' ∉ fraction := by
  by_cases hpoint : '.' ∈ cs
  · obtain ⟨whole, fraction, rfl, hwhole⟩ := List.eq_append_cons_of_mem hpoint
    rw [List.count_append, List.count_cons_self] at h
    exact .inr ⟨whole, fraction, rfl, hwhole, List.count_eq_zero.1 (by omega)⟩
  · exact .inl hpoint

/-- A numeral consists of digits and at most one point, and some digit is among them. It is one
direction of `numeral_iff`. -/
theorem Numeral.shape (h : Numeral cs) :
    OnlyDigitsAndPoints cs ∧ cs.count '.' ≤ 1 ∧ ∃ c ∈ cs, c.isDigit := by
  -- Digits with a point behind, between or before them, or without one. Some digit is there in
  -- each case.
  cases h with
  | whole hdigits =>
    obtain ⟨c, hc⟩ := List.exists_mem_of_ne_nil cs hdigits.1
    refine ⟨fun c hc => .inl (hdigits.2 c hc), ?_, c, hc, hdigits.2 c hc⟩
    rw [count_point_of_isDigit hdigits.2]
    exact Nat.zero_le 1
  | @mixed whole fraction hwhole hfraction =>
    obtain ⟨c, hc⟩ := List.exists_mem_of_ne_nil whole hwhole.1
    refine ⟨?_, ?_, c, List.mem_append_left _ hc, hwhole.2 c hc⟩
    · refine List.forall_mem_append.2 ⟨fun c hc => .inl (hwhole.2 c hc), ?_⟩
      exact List.forall_mem_cons.2 ⟨.inr rfl, fun c hc => .inl (hfraction c hc)⟩
    · rw [List.count_append, List.count_cons_self, count_point_of_isDigit hwhole.2,
        count_point_of_isDigit hfraction]
  | @fraction digits hdigits =>
    obtain ⟨c, hc⟩ := List.exists_mem_of_ne_nil digits hdigits.1
    refine ⟨?_, ?_, c, List.mem_cons_of_mem _ hc, hdigits.2 c hc⟩
    · exact List.forall_mem_cons.2 ⟨.inr rfl, fun c hc => .inl (hdigits.2 c hc)⟩
    · rw [List.count_cons_self, count_point_of_isDigit hdigits.2]

/-- Numerals are the texts of digits and points with some digit and one point at most. Whether a
text is a numeral is so a matter of counting. -/
theorem numeral_iff :
    Numeral cs ↔ OnlyDigitsAndPoints cs ∧ cs.count '.' ≤ 1 ∧ ∃ c ∈ cs, c.isDigit := by
  refine ⟨Numeral.shape, ?_⟩
  rintro ⟨honly, hcount, c, hc, hdigit⟩
  rcases exists_parts_of_count_le_one hcount with
    hpoint | ⟨whole, fraction, rfl, hwhole, hfraction⟩
  · exact .whole ⟨List.ne_nil_of_mem hc, honly.isDigit_of_notMem (List.Subset.refl cs) hpoint⟩
  · have hwholeDigits := honly.isDigit_of_notMem (List.subset_append_left _ _) hwhole
    have hfractionDigits : ∀ c ∈ fraction, c.isDigit :=
      honly.isDigit_of_notMem (fun c hc => by simp [hc]) hfraction
    by_cases hne : whole = []
    · -- The digit that there is stands behind the point.
      subst hne
      rcases List.mem_cons.1 hc with rfl | hc
      · exact absurd hdigit (by decide)
      · exact .fraction ⟨List.ne_nil_of_mem hc, hfractionDigits⟩
    · exact .mixed ⟨hne, hwholeDigits⟩ hfractionDigits

/-! ### The text before the second point -/

/-- A text with a point falls into the parts before the first point and from there on. The
hypothesis makes it the first one. -/
theorem parts_append_point (hwhole : '.' ∉ whole) (rest : List Char) :
    (whole ++ '.' :: rest).takeWhile (· ≠ '.') = whole ∧
      (whole ++ '.' :: rest).dropWhile (· ≠ '.') = '.' :: rest := by
  have hall : ∀ c ∈ whole, decide (c ≠ '.') = true := fun c hc =>
    decide_eq_true fun heq => hwhole (heq ▸ hc)
  rw [List.takeWhile_append_of_pos hall, List.dropWhile_append_of_pos hall]
  exact ⟨List.append_nil whole, rfl⟩

/-- A text without a point is all before the first point, and nothing is left. -/
theorem parts_of_point_notMem (h : '.' ∉ cs) :
    cs.takeWhile (· ≠ '.') = cs ∧ cs.dropWhile (· ≠ '.') = [] := by
  have hall : ∀ c ∈ cs, decide (c ≠ '.') = true := fun c hc =>
    decide_eq_true fun heq => h (heq ▸ hc)
  exact ⟨List.takeWhile_eq_self_iff.2 hall, List.dropWhile_eq_nil_iff.2 hall⟩

/-- A text is cut off nowhere, or before a point with just one point before it. All that is said
of the cut below is by these two cases. -/
theorem leadingDecimal_cases (cs : List Char) :
    (leadingDecimal cs = cs ∧ cs.count '.' ≤ 1) ∨
    (leadingDecimal cs ++ ['.'] <+: cs ∧ (leadingDecimal cs).count '.' = 1) := by
  unfold leadingDecimal
  rw [List.span_eq_takeWhile_dropWhile]
  by_cases hpoint : '.' ∈ cs
  · obtain ⟨whole, rest, rfl, hwhole⟩ := List.eq_append_cons_of_mem hpoint
    obtain ⟨hbefore, hbehind⟩ := parts_append_point hwhole rest
    rw [hbefore, hbehind]
    -- What follows the point is cut off in the same way.
    by_cases hsecond : '.' ∈ rest
    · obtain ⟨fraction, more, rfl, hfraction⟩ := List.eq_append_cons_of_mem hsecond
      simp only [(parts_append_point hfraction more).1]
      refine .inr ⟨⟨more, by simp⟩, ?_⟩
      rw [List.count_append, List.count_cons_self, List.count_eq_zero.2 hwhole,
        List.count_eq_zero.2 hfraction]
    · simp only [(parts_of_point_notMem hsecond).1]
      refine .inl ⟨trivial, ?_⟩
      rw [List.count_append, List.count_cons_self, List.count_eq_zero.2 hwhole,
        List.count_eq_zero.2 hsecond]
  · obtain ⟨hbefore, hbehind⟩ := parts_of_point_notMem hpoint
    rw [hbefore, hbehind]
    refine .inl ⟨rfl, ?_⟩
    rw [List.count_eq_zero.2 hpoint]
    exact Nat.zero_le 1

/-- A text is cut off before its second point, so what is left is a front of it. -/
theorem leadingDecimal_isPrefix (cs : List Char) : leadingDecimal cs <+: cs := by
  rcases leadingDecimal_cases cs with ⟨hall, -⟩ | ⟨hcut, -⟩
  · rw [hall]
  · exact (List.prefix_append _ _).trans hcut

theorem count_leadingDecimal (cs : List Char) : (leadingDecimal cs).count '.' ≤ 1 := by
  rcases leadingDecimal_cases cs with ⟨hall, hcount⟩ | ⟨-, hcount⟩
  · rw [hall]
    exact hcount
  · exact Nat.le_of_eq hcount

/-- Each front of a text that has one point at most is left. So the cut takes no numeral away. -/
theorem isPrefix_leadingDecimal (hfront : front <+: cs) (hcount : front.count '.' ≤ 1) :
    front <+: leadingDecimal cs := by
  rcases leadingDecimal_cases cs with ⟨hall, -⟩ | ⟨hcut, hone⟩
  · rw [hall]
    exact hfront
  · -- A longer front would go beyond the second point.
    have hbeyond : ¬ leadingDecimal cs ++ ['.'] <+: front := by
      intro hlonger
      have htwo := hlonger.sublist.count_le '.'
      rw [List.count_append, hone, List.count_singleton_self] at htwo
      omega
    rcases List.prefix_or_prefix_of_prefix hfront hcut with hle | hle
    · rcases List.prefix_concat_iff.1 hle with rfl | hle
      · exact absurd (List.prefix_refl _) hbeyond
      · exact hle
    · exact absurd hle hbeyond

/-- A text with one point at most has a value unless it has no digit. What the value is does not
matter here. -/
theorem decimalValue?_eq_none_iff (h : OnlyDigitsAndPoints cs) (hcount : cs.count '.' ≤ 1) :
    decimalValue? cs = none ↔ ¬ ∃ c ∈ cs, c.isDigit := by
  -- The digits before and behind the point are all digits.
  have hdigits : cs.takeWhile (· ≠ '.') ++ (cs.dropWhile (· ≠ '.')).drop 1 =
      cs.filter Char.isDigit := by
    rcases exists_parts_of_count_le_one hcount with
      hpoint | ⟨whole, fraction, rfl, hwhole, hfraction⟩
    · obtain ⟨hbefore, hbehind⟩ := parts_of_point_notMem hpoint
      have hall := h.isDigit_of_notMem (List.Subset.refl cs) hpoint
      rw [hbefore, hbehind, List.filter_eq_self.2 hall]
      exact List.append_nil cs
    · obtain ⟨hbefore, hbehind⟩ := parts_append_point hwhole fraction
      have hfirst := h.isDigit_of_notMem (List.subset_append_left _ _) hwhole
      have hsecond : ∀ c ∈ fraction, c.isDigit :=
        h.isDigit_of_notMem (fun c hc => by simp [hc]) hfraction
      rw [hbefore, hbehind, List.filter_append, List.filter_eq_self.2 hfirst,
        List.filter_cons_of_neg (by decide), List.filter_eq_self.2 hsecond]
      rfl
  unfold decimalValue?
  simp only [hdigits]
  split
  · rename_i hnone
    simpa using hnone
  · rename_i hsome
    simpa using hsome

/-! ### The longest front -/

/-- A front of the text in the class such that no longer front is in it. There is one at most, so
it can be compared with what is read. -/
def IsLongestFront (P : List Char → Prop) (front cs : List Char) : Prop :=
  front <+: cs ∧ P front ∧ ∀ other, other <+: cs → P other → other.length ≤ front.length

/-- What is left of a text of digits and points is its longest numeral, if there is one. If there
is no digit before the second point, no front is a numeral. -/
theorem isLongestFront_numeral_iff (h : OnlyDigitsAndPoints cs) :
    IsLongestFront Numeral front cs ↔
      (∃ c ∈ leadingDecimal cs, c.isDigit) ∧ front = leadingDecimal cs := by
  have hleft : Numeral (leadingDecimal cs) ↔ ∃ c ∈ leadingDecimal cs, c.isDigit := by
    rw [numeral_iff]
    have honly := h.of_isPrefix (leadingDecimal_isPrefix cs)
    exact ⟨fun hall => hall.2.2, fun hdigit => ⟨honly, count_leadingDecimal cs, hdigit⟩⟩
  -- Any numeral at the front has one point at most, so the cut leaves it.
  have hlonger : ∀ {front}, front <+: cs → Numeral front → front <+: leadingDecimal cs :=
    fun hfront hnumeral => isPrefix_leadingDecimal hfront hnumeral.shape.2.1
  constructor
  · rintro ⟨hfront, hnumeral, hlongest⟩
    have hle := hlonger hfront hnumeral
    obtain ⟨-, -, c, hc, hdigit⟩ := hnumeral.shape
    have hdigits : ∃ c ∈ leadingDecimal cs, c.isDigit := ⟨c, hle.subset hc, hdigit⟩
    exact ⟨hdigits, hle.eq_of_length_le (hlongest _ (leadingDecimal_isPrefix cs) (hleft.2 hdigits))⟩
  · rintro ⟨hdigits, rfl⟩
    exact ⟨leadingDecimal_isPrefix cs, hleft.2 hdigits, fun other hother hnumeral =>
      (hlonger hother hnumeral).length_le⟩

/-- There is a numeral at the front exactly if there is a digit before the second point. -/
theorem exists_numeral_iff (h : OnlyDigitsAndPoints cs) :
    (∃ front, front <+: cs ∧ Numeral front) ↔ ∃ c ∈ leadingDecimal cs, c.isDigit := by
  constructor
  · rintro ⟨front, hfront, hnumeral⟩
    obtain ⟨-, hcount, c, hc, hdigit⟩ := hnumeral.shape
    exact ⟨c, (isPrefix_leadingDecimal hfront hcount).subset hc, hdigit⟩
  · intro hdigits
    obtain ⟨hfront, hnumeral, -⟩ := (isLongestFront_numeral_iff h).2 ⟨hdigits, rfl⟩
    exact ⟨_, hfront, hnumeral⟩

end

/-! ### Numbers in the support module -/

namespace Script

/-- At most one sign. An empty text is none, which is allowed. -/
def IsSign (cs : List Char) : Prop :=
  cs = [] ∨ cs = ['+'] ∨ cs = ['-']

/-- The power of ten at the end of a literal, which may be left out. If there is a mark, there
have to be digits behind it. -/
inductive IsExponent : List Char → Prop
  | absent : IsExponent []
  | given {mark : Char} {sign digits : List Char} (hmark : mark = 'e' ∨ mark = 'E')
    (hsign : IsSign sign) (hdigits : IsDigits digits) : IsExponent (mark :: (sign ++ digits))

/-- The literals that a text is read for as a number, as the generated language has them. It is a
grammar of its own and shares nothing with the reader except for what a numeral is. -/
inductive Literal : List Char → Prop
  | infinity {sign : List Char} (hsign : IsSign sign) : Literal (sign ++ "Infinity".toList)
  | decimal {sign numeral exponent : List Char} (hsign : IsSign sign) (hnumeral : Numeral numeral)
    (hexponent : IsExponent exponent) : Literal (sign ++ numeral ++ exponent)

/-- The code points of white space and of line ends, ascending. They are what is skipped before a
literal. -/
def spaceIntervals : List Text.Interval := [
  (0x9, 0xD), (0x20, 0x20), (0xA0, 0xA0), (0x1680, 0x1680), (0x2000, 0x200A), (0x2028, 0x2029),
  (0x202F, 0x202F), (0x205F, 0x205F), (0x3000, 0x3000), (0xFEFF, 0xFEFF)]

/-- White space, line ends and byte order marks. -/
def isSpace (c : Char) : Bool :=
  Text.inIntervals spaceIntervals c.toNat

/-- What `parseFloat` reads of a text: the longest literal at its front, but for white space. If
there is none, the result is no number. -/
def ParseFloatReads (cs front : List Char) : Prop :=
  IsLongestFront Literal front (cs.dropWhile isSpace)

variable {cs front : List Char}

/-- Among digits and points the literals are the numerals: there is no sign, no exponent and no
name among these characters. -/
theorem literal_iff (h : OnlyDigitsAndPoints cs) : Literal cs ↔ Numeral cs := by
  constructor
  · intro hliteral
    -- Signs, exponents and the word for infinity have characters in them that the text has not.
    cases hliteral with
    | infinity hsign =>
      exact absurd (h 'I' (List.mem_append_right _ (by decide))) (by decide)
    | @decimal sign numeral exponent hsign hnumeral hexponent =>
      have hnosign : sign = [] := by
        rcases hsign with rfl | rfl | rfl
        · rfl
        · exact absurd (h '+' (by simp)) (by decide)
        · exact absurd (h '-' (by simp)) (by decide)
      have hnoexponent : exponent = [] := by
        cases hexponent with
        | absent => rfl
        | @given mark _ _ hmark =>
          have hmark' := h mark (by simp)
          rcases hmark with rfl | rfl <;> exact absurd hmark' (by decide)
      rw [hnosign, hnoexponent, List.append_nil]
      exact hnumeral
  · intro hnumeral
    have hliteral := Literal.decimal (.inl rfl) hnumeral .absent
    rwa [List.append_nil] at hliteral

/-- No digit and no point is white space, so nothing is skipped in such a text. -/
theorem dropWhile_isSpace (h : OnlyDigitsAndPoints cs) : cs.dropWhile isSpace = cs := by
  have hspace : ∀ c ∈ cs, isSpace c = false := by
    intro c hc
    rcases h c hc with hdigit | rfl
    · have hdigits : ∀ n ∈ List.range' 0x30 10, Text.inIntervals spaceIntervals n = false := by
        decide
      exact hdigits c.toNat (toNat_mem_of_isDigit hdigit)
    · decide
  cases cs with
  | nil => rfl
  | cons c rest => exact List.dropWhile_cons_of_neg (by simp [hspace c List.mem_cons_self])

/-- Of a text of digits and points `parseFloat` reads the longest numeral at its front. Every
front is a text of digits and points as well. -/
theorem parseFloatReads_iff (h : OnlyDigitsAndPoints cs) :
    ParseFloatReads cs front ↔ IsLongestFront Numeral front cs := by
  -- Among the fronts of such a text literals and numerals are the same, so the longest are.
  have hfronts : ∀ {front}, front <+: cs → (Literal front ↔ Numeral front) :=
    fun hfront => literal_iff (h.of_isPrefix hfront)
  rw [ParseFloatReads, dropWhile_isSpace h, IsLongestFront, IsLongestFront]
  constructor
  · rintro ⟨hfront, hliteral, hlongest⟩
    exact ⟨hfront, (hfronts hfront).1 hliteral, fun other hother hnumeral =>
      hlongest other hother ((hfronts hother).2 hnumeral)⟩
  · rintro ⟨hfront, hnumeral, hlongest⟩
    exact ⟨hfront, (hfronts hfront).2 hnumeral, fun other hother hliteral =>
      hlongest other hother ((hfronts hother).1 hliteral)⟩

end Script

/-! ### Texts of digits and points -/

/-- The texts that are taken for numbers: those of digits and points, one at least. The hypotheses
of the next theorem are these two. -/
theorem isNumericText_iff {cs : List Char} :
    isNumericText cs = true ↔ cs ≠ [] ∧ OnlyDigitsAndPoints cs := by
  simp [isNumericText, OnlyDigitsAndPoints]

/-- A text of digits and points, one at least, is taken for a number. If there is a numeral at its
front, what is left of the text up to the second point is the longest one, and the number is its
value. There is no number exactly if there is no numeral at the front. So for the same texts
`parseFloat` reads a number, and from the same front of them. -/
theorem reads_longest_numeral {cs : List Char} (hne : cs ≠ [])
    (h : OnlyDigitsAndPoints cs) :
    isNumericText cs ∧
    ((∃ front, front <+: cs ∧ Numeral front) →
      IsLongestFront Numeral (leadingDecimal cs) cs ∧
      ∃ value, decimalValue? (leadingDecimal cs) = some value ∧ leadingFloat? cs = some value) ∧
    (leadingFloat? cs = none ↔ ¬ ∃ front, front <+: cs ∧ Numeral front) ∧
    ∀ front, Script.ParseFloatReads cs front ↔
      leadingFloat? cs ≠ none ∧ front = leadingDecimal cs := by
  -- That a value is read and that some front is a numeral are the same; all parts are by this.
  have hnone : leadingFloat? cs = none ↔ ¬ ∃ front, front <+: cs ∧ Numeral front := by
    rw [exists_numeral_iff h]
    exact decimalValue?_eq_none_iff (h.of_isPrefix (leadingDecimal_isPrefix cs))
      (count_leadingDecimal cs)
  refine ⟨isNumericText_iff.2 ⟨hne, h⟩, ?_, hnone, ?_⟩
  · intro hnumeral
    obtain ⟨value, hvalue⟩ := Option.ne_none_iff_exists'.1 (mt hnone.1 (not_not_intro hnumeral))
    refine ⟨(isLongestFront_numeral_iff h).2 ⟨(exists_numeral_iff h).1 hnumeral, rfl⟩, value, ?_⟩
    exact ⟨hvalue, hvalue⟩
  · intro front
    rw [Script.parseFloatReads_iff h, isLongestFront_numeral_iff h, ← exists_numeral_iff h, Ne,
      hnone, not_not]

/-- Of two points next to each other the first one still belongs to the number. -/
theorem reads_numeral_before_gap :
    "12..5".toList ≠ [] ∧ OnlyDigitsAndPoints "12..5".toList ∧
    (∃ front, front <+: "12..5".toList ∧ Numeral front) ∧
    IsLongestFront Numeral "12.".toList "12..5".toList ∧
    Script.ParseFloatReads "12..5".toList "12.".toList := by
  have hne : "12..5".toList ≠ [] := by decide
  have honly : OnlyDigitsAndPoints "12..5".toList := by decide
  have hnumeral : Numeral "12.".toList :=
    numeral_iff.2 ⟨by decide, by decide, '1', by decide, rfl⟩
  have hfront : ∃ front, front <+: "12..5".toList ∧ Numeral front :=
    ⟨"12.".toList, ⟨['.', '5'], rfl⟩, hnumeral⟩
  obtain ⟨-, hlongest, hnone, hreads⟩ := reads_longest_numeral hne honly
  refine ⟨hne, honly, hfront, (hlongest hfront).1, (hreads _).2 ⟨?_, rfl⟩⟩
  exact mt hnone.1 (not_not_intro hfront)

end StateTree.Time
