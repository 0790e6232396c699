import Mathlib.Data.List.Chain
import Mathlib.Data.Nat.Bitwise
import StateTree.Identifier
import StateTree.Text.Words

/-!
# `StateTree.Proofs.Text.Intervals`: character classes as bit masks

A class of characters is a long list of intervals. What is said of all its characters is checked by
the kernel, for which a list that is searched again and again is too slow. The mask of a list is
one number with the bit `n` set for each code point `n` in it, so a test is one step and classes
are compared as numbers.

- `testBit_mask`, `inIntervals_eq_testBit`: the mask and the search agree.
- `inIntervals_of_mask`: one class of characters lies in another.
- `isIdentifierPart_eq`: an identifier character by its code point.
- `isIdentifierPart_of_isIdentifierStart`: what starts an identifier may go on in it, too.
-/

set_option autoImplicit false

namespace StateTree.Text

/-- The number whose bits are the code points of the intervals. Each interval gives a block of
ones. -/
def mask : List Interval → Nat
  | [] => 0
  | (first, last) :: rest => mask rest ||| ((2 ^ (last + 1 - first) - 1) <<< first)

/-- The bits of the mask are the code points of the intervals. The intervals need not be in any
order for this. -/
theorem testBit_mask (intervals : List Interval) (n : Nat) :
    (mask intervals).testBit n = true ↔
      ∃ interval ∈ intervals, interval.1 ≤ n ∧ n ≤ interval.2 := by
  induction intervals with
  | nil => simp [mask]
  | cons interval rest ih =>
    obtain ⟨first, last⟩ := interval
    -- The bits of the first interval are a block of ones, shifted to where it begins.
    have hhead : n - first < last + 1 - first ∧ first ≤ n ↔ first ≤ n ∧ n ≤ last := by omega
    simp only [mask, Nat.testBit_or, Nat.testBit_shiftLeft, Nat.testBit_two_pow_sub_one,
      Bool.or_eq_true, Bool.and_eq_true, decide_eq_true_eq, ih, List.mem_cons, exists_eq_or_imp]
    rw [and_comm (a := first ≤ n), hhead]
    exact or_comm

/-- In ascending intervals the search finds the code points that lie in one of them. The search
stops at the first interval that begins later, which is right only if all others do as well. -/
theorem inIntervals_iff {intervals : List Interval} (h : intervals.Pairwise fun a b => a.1 ≤ b.1)
    (n : Nat) :
    inIntervals intervals n = true ↔ ∃ interval ∈ intervals, interval.1 ≤ n ∧ n ≤ interval.2 := by
  induction intervals with
  | nil => simp [inIntervals]
  | cons interval rest ih =>
    obtain ⟨first, last⟩ := interval
    obtain ⟨hfirst, hrest⟩ := List.pairwise_cons.1 h
    by_cases hlt : n < first
    · -- The search gives up here, rightly: the later intervals begin later still.
      simp only [inIntervals, hlt, if_true, List.mem_cons, exists_eq_or_imp, Bool.false_eq_true,
        false_iff]
      rintro (hin | ⟨other, hother, hin⟩)
      · omega
      · have := hfirst other hother
        omega
    · have hle : first ≤ n := Nat.le_of_not_lt hlt
      simp only [inIntervals, hlt, if_false, Bool.or_eq_true, decide_eq_true_eq, ih hrest,
        List.mem_cons, exists_eq_or_imp]
      simp [hle]

/-- In ascending intervals the search is a look at one bit of the mask. That the intervals ascend
is checked once for each table. -/
theorem inIntervals_eq_testBit {intervals : List Interval}
    (h : intervals.IsChain fun a b => a.1 ≤ b.1) (n : Nat) :
    inIntervals intervals n = (mask intervals).testBit n := by
  have : IsTrans Interval fun a b => a.1 ≤ b.1 := ⟨fun _ _ _ => Nat.le_trans⟩
  rw [Bool.eq_iff_iff, inIntervals_iff (List.isChain_iff_pairwise.1 h), testBit_mask]

/-- The characters that an identifier may go on with have the code points of this mask. Some
hundred intervals thus become one number. -/
theorem isWordContinue_eq (c : Char) :
    isWordContinue c = (mask wordContinueIntervals).testBit c.toNat :=
  inIntervals_eq_testBit (by decide +kernel) c.toNat

/-- A class of characters lies in another one if its mask has no bit that the other one lacks. All
three hypotheses are checked by evaluation. -/
theorem inIntervals_of_mask {small large : List Interval}
    (hsmall : small.IsChain fun a b => a.1 ≤ b.1) (hlarge : large.IsChain fun a b => a.1 ≤ b.1)
    (hsub : mask small &&& mask large = mask small) {n : Nat} (h : inIntervals small n = true) :
    inIntervals large n = true := by
  rw [inIntervals_eq_testBit hsmall, ← hsub, Nat.testBit_and, Bool.and_eq_true] at h
  rw [inIntervals_eq_testBit hlarge]
  exact h.2

/-- What may begin a word may go on in it, too. The two tables are separate lists, so this is
checked and not by definition. -/
theorem isWordContinue_of_isWordStart {c : Char} (h : isWordStart c = true) :
    isWordContinue c = true :=
  inIntervals_of_mask (by decide +kernel) (by decide +kernel) (by decide +kernel) h

/-- Small letters are letters, which the rules for words take for granted. -/
theorem isAlphabetic_of_isLowercase {c : Char} (h : isLowercase c = true) :
    isAlphabetic c = true :=
  inIntervals_of_mask (by decide +kernel) (by decide +kernel) (by decide +kernel) h

/-- Capitals are letters, as small letters are. -/
theorem isAlphabetic_of_isUppercase {c : Char} (h : isUppercase c = true) :
    isAlphabetic c = true :=
  inIntervals_of_mask (by decide +kernel) (by decide +kernel) (by decide +kernel) h

end StateTree.Text

namespace StateTree

/-- Whether an identifier may go on with the character of a code point. It is `isIdentifierPart`
as a question about numbers, which the kernel answers fast. -/
def isPartCode (n : Nat) : Bool :=
  n == 0x24 || n == 0x200C || n == 0x200D || (Text.mask Text.wordContinueIntervals).testBit n

/-- Whether an identifier may go on with a character is told by its code point. Statements about
all characters of a table are checked in this form. -/
theorem isIdentifierPart_eq (c : Char) : isIdentifierPart c = isPartCode c.toNat := by
  have hcode (d : Char) : decide (c = d) = (c.toNat == d.toNat) := by
    rw [Bool.eq_iff_iff, decide_eq_true_eq, beq_iff_eq, Char.toNat_inj]
  simp only [isIdentifierPart, isPartCode, hcode, Text.isWordContinue_eq]
  rfl

/-- What may start an identifier may go on in it, too. So all characters of an identifier pass one
test. -/
theorem isIdentifierPart_of_isIdentifierStart {c : Char} (h : isIdentifierStart c = true) :
    isIdentifierPart c = true := by
  simp only [isIdentifierStart, Bool.or_eq_true, decide_eq_true_eq] at h
  -- The two signs are looked up; all others are letters.
  obtain (rfl | rfl) | hstart := h
  · rfl
  · rw [isIdentifierPart_eq]
    decide +kernel
  · simp [isIdentifierPart, Text.isWordContinue_of_isWordStart hstart]

/-- The code points of the digits. There are ten of them, so what is said of digits is checked one
by one. -/
theorem toNat_mem_of_isDigit {c : Char} (h : c.isDigit = true) :
    c.toNat ∈ List.range' 0x30 10 := by
  simp only [Char.isDigit, Bool.and_eq_true, decide_eq_true_eq, UInt32.le_iff_toNat_le] at h
  simp only [List.mem_range'_1, Char.toNat]
  exact ⟨h.1, Nat.lt_succ_of_le h.2⟩

/-- An identifier may go on with digits. Names that are told apart by a number stay identifiers by
this. -/
theorem isIdentifierPart_of_isDigit {c : Char} (h : c.isDigit = true) :
    isIdentifierPart c = true := by
  have hdigits : ∀ n ∈ List.range' 0x30 10, isPartCode n = true := by decide +kernel
  rw [isIdentifierPart_eq]
  exact hdigits c.toNat (toNat_mem_of_isDigit h)

/-- Digits are numbers, so they are kept when a name is styled. -/
theorem isAlphanumeric_of_isDigit {c : Char} (h : c.isDigit = true) :
    Text.isAlphanumeric c = true := by
  have hdigits : ∀ n ∈ List.range' 0x30 10, Text.inIntervals Text.numericIntervals n = true := by
    decide
  have hnumeric : Text.isNumeric c = true := hdigits c.toNat (toNat_mem_of_isDigit h)
  simp [Text.isAlphanumeric, hnumeric]

end StateTree
