import StateTree.Proofs.Text.RawLiterals

/-!
# `StateTree.Proofs.Text.LiteralGrammar`: what a literal is

The generated language says what a literal is by a grammar: a quote, pieces, and a quote. A piece is
a character that stands for itself or an escape, and each kind of escape stands for its own units.
Two kinds depend on what comes behind them: a zero is an escape only where no digit follows, and a
carriage return that continues a line only where no line feed follows, as the two belong together.

The reader of literals decides this grammar. From what it reads the pieces can be told one after the
other, and it reads every piece as its units and goes on behind it. So there is at most one way to
read a text as a literal, and since the reader gets the units of a text from the text between its
quotes, there is no other way to read that.

- `Piece`, `Inside`, `Literal`: the grammar.
- `readFrom_piece`, `readFrom_of_inside`: what the grammar allows is read.
- `leads_escape`, `inside_of_readFrom`: what is read the grammar allows.
- `readLiteral?_eq_some_iff`: both.
- `printable_of_mem_escapeChar`: no control and no end of a line is written.
- `escape_writes_one_literal`: an escaped text between quotes is one literal, of the text alone.
-/

set_option autoImplicit false

namespace StateTree.Text

/-! ### The grammar -/

/-- The number that hexadecimal digits make behind those of another number. It is by recursion on
the digits, as the reader takes them. -/
def hexNumber? (value : Nat) : List Char → Option Nat
  | [] => some value
  | c :: rest => (hexValue? c).bind fun digit => hexNumber? (0x10 * value + digit) rest

/-- The characters that make an escape of their own with a backslash before them. Of the others,
two begin longer escapes, the ends of lines continue a line, and digits have a meaning only in a
zero. -/
def isSimple (c : Char) : Bool :=
  c ≠ 'u' && c ≠ 'x' && !isLineEnd c && !c.isDigit

/-- `Piece taken out behind`: the characters `taken` are one piece of a literal and stand for the
units `out`, where the characters `behind` come behind them. -/
inductive Piece : List Char → List Nat → List Char → Prop where
  | itself {c : Char} {behind : List Char} (h : standsForItself c) : Piece [c] (units16 c) behind
  | control {c : Char} {unit : Nat} {behind : List Char} (h : controlOf? c = some unit) :
    Piece ['\\', c] [unit] behind
  | other {c : Char} {behind : List Char} (h : isSimple c) (hcontrol : controlOf? c = none) :
    Piece ['\\', c] (units16 c) behind
  | zero {behind : List Char} (h : ¬ behind.head?.any Char.isDigit) : Piece ['\\', '0'] [0] behind
  | hexadecimal {digits behind : List Char} {n : Nat} (hlength : digits.length = 2)
    (hdigits : hexNumber? 0 digits = some n) : Piece ('\\' :: 'x' :: digits) [n] behind
  | unicode {digits behind : List Char} {n : Nat} (hlength : digits.length = 4)
    (hdigits : hexNumber? 0 digits = some n) : Piece ('\\' :: 'u' :: digits) [n] behind
  | codePoint {digits behind : List Char} {n : Nat} (hdigits : hexNumber? 0 digits = some n)
    (hsome : digits ≠ []) (hlimit : n < 0x110000) :
    Piece ('\\' :: 'u' :: '\x7b' :: digits ++ ['\x7d']) (unitsOf n) behind
  /-- The line goes on. -/
  | continuation {c : Char} {behind : List Char} (h : isLineEnd c)
    (hpair : c = '\r' → behind.head? ≠ some '\n') : Piece ['\\', c] [] behind
  | continuationPair {behind : List Char} : Piece ['\\', '\r', '\n'] [] behind

/-- `Inside cs units tail`: behind the opening quote of a literal that stands for `units` comes
`cs`, and `tail` is what is left behind the closing one. A piece may look at what comes behind it,
but does not take it. -/
inductive Inside : List Char → List Nat → List Char → Prop where
  | close {tail : List Char} : Inside ('"' :: tail) [] tail
  | piece {taken left tail : List Char} {out more : List Nat} (h : Piece taken out left)
    (hrest : Inside left more tail) : Inside (taken ++ left) (out ++ more) tail

/-- `Literal cs units tail`: the characters `cs` begin with a literal that stands for `units`, and
`tail` is left behind it. -/
def Literal (cs : List Char) (units : List Nat) (tail : List Char) : Prop :=
  ∃ inside, cs = '"' :: inside ∧ Inside inside units tail

variable {c : Char} {cs digits taken left tail behind : List Char} {units out : List Nat}
  {value n : Nat}

/-! ### What the grammar allows is read -/

/-- What was read with no units in front of it. A line that goes on gives no units. -/
theorem prepend_nil (result : Option (List Nat × List Char)) : prepend [] result = result := by
  cases result <;> rfl

theorem isSimple_iff : isSimple c = true ↔
    c ≠ 'u' ∧ c ≠ 'x' ∧ isLineEnd c = false ∧ c.isDigit = false := by
  simp [isSimple, and_assoc]

/-- The first digit of a number. It is the step of every induction on digits. -/
theorem hexNumber?_cons_eq_some_iff : hexNumber? value (c :: digits) = some n ↔
    ∃ digit, hexValue? c = some digit ∧ hexNumber? (0x10 * value + digit) digits = some n := by
  rw [hexNumber?, Option.bind_eq_some_iff]

/-- A brace is no hexadecimal digit. So the two escapes with a `u` can be told apart, and digits
in braces end at the brace. -/
theorem ne_brace_of_hexValue? {digit : Nat} (h : hexValue? c = some digit) :
    c ≠ '\x7b' ∧ c ≠ '\x7d' := by
  constructor <;> (rintro rfl; simp [hexValue?] at h)

/-- Digits are read up to the last one that is missing. There has to be one, and the number of
those in the text has to be that of the missing ones. -/
theorem readFrom_digits {missing : Nat} (hlength : digits.length = missing + 1)
    (hdigits : hexNumber? value digits = some n) :
    readFrom (.digits (missing + 1) value) (digits ++ behind) =
      prepend [n] (readFrom .plain behind) := by
  induction digits generalizing missing value with
  | nil => simp at hlength
  | cons c digits ih =>
    obtain ⟨digit, hdigit, hrest⟩ := hexNumber?_cons_eq_some_iff.1 hdigits
    rw [List.length_cons, Nat.add_right_cancel_iff] at hlength
    rw [List.cons_append, readFrom, hdigit]
    -- The last digit gives the unit, the others only add to the value.
    cases missing with
    | zero =>
      obtain rfl : digits = [] := List.length_eq_zero_iff.1 hlength
      obtain rfl : _ = n := by simpa [hexNumber?] using hrest
      rfl
    | succ missing => exact ih hlength hrest

/-- Digits are read up to the closing brace. There may be any number of them, but not none, and
what they make has to be a code point. -/
theorem readFrom_braces {first : Option Nat} (hdigits : hexNumber? (first.getD 0) digits = some n)
    (hsome : first.isSome ∨ digits ≠ []) (hlimit : n < 0x110000) :
    readFrom (.braces first) (digits ++ '\x7d' :: behind) =
      prepend (unitsOf n) (readFrom .plain behind) := by
  induction digits generalizing first with
  | nil =>
    -- Some digit has come before the brace.
    obtain ⟨m, rfl⟩ : ∃ m, first = some m := by simpa [Option.isSome_iff_exists] using hsome
    obtain rfl : m = n := by simpa [hexNumber?] using hdigits
    simp [readFrom, hlimit]
  | cons c digits ih =>
    obtain ⟨digit, hdigit, hrest⟩ := hexNumber?_cons_eq_some_iff.1 hdigits
    have hnot := (ne_brace_of_hexValue? hdigit).2
    have hread : readFrom (.braces (some (0x10 * first.getD 0 + digit)))
        (digits ++ '\x7d' :: behind) = prepend (unitsOf n) (readFrom .plain behind) :=
      ih hrest (.inl rfl)
    cases first <;> simpa [readFrom, hnot, hdigit] using hread

/-- The letters of controls make escapes of their own. They are none of the letters that begin
longer ones. -/
theorem isSimple_of_controlOf? {unit : Nat} (h : controlOf? c = some unit) :
    isSimple c = true := by
  unfold controlOf? at h
  split at h <;> first | decide | cases h

/-- An escape of one character is read as a control or as the character. The conditions on the
character exclude all other branches of the reader. -/
theorem readFrom_simple (h : isSimple c = true) :
    readFrom .plain ('\\' :: c :: left) =
      prepend ((controlOf? c).elim (units16 c) fun unit => [unit]) (readFrom .plain left) := by
  obtain ⟨hu, hx, hline, hdigit⟩ := isSimple_iff.1 h
  have hreturn : c ≠ '\r' := by
    rintro rfl
    cases hline
  have hzero : c ≠ '0' := by
    rintro rfl
    cases hdigit
  simp [readFrom, hu, hx, hline, hdigit, hreturn, hzero]

/-- Behind a backslash a line goes on. The hypothesis keeps a carriage return and its line feed
together; for this pair there is a piece of its own. -/
theorem readFrom_continuation (hline : isLineEnd c = true)
    (hpair : c = '\r' → left.head? ≠ some '\n') :
    readFrom .plain ('\\' :: c :: left) = readFrom .plain left := by
  have hu : c ≠ 'u' := by
    rintro rfl
    cases hline
  have hx : c ≠ 'x' := by
    rintro rfl
    cases hline
  -- A line feed behind a carriage return would be taken together with it.
  have hsingle : ∀ rest, c = '\r' → left = '\n' :: rest → False := by
    rintro rest hc rfl
    exact hpair hc rfl
  show readFrom .escape (c :: left) = _
  rw [readFrom, if_neg hu, if_neg hx, if_pos hline]
  exact hsingle

/-- A piece is read as its units. It is the step from the grammar to the reader, one case for each
kind of piece. -/
theorem readFrom_piece (h : Piece taken out left) :
    readFrom .plain (taken ++ left) = prepend out (readFrom .plain left) := by
  cases h with
  | @itself c _ hitself =>
    have hc : (c ≠ '"' ∧ c ≠ '\\') ∧ isLineEnd c = false := by
      simpa [standsForItself] using hitself
    simp [readFrom, hc]
  | @control c unit _ hcontrol =>
    show readFrom .plain ('\\' :: c :: left) = _
    rw [readFrom_simple (isSimple_of_controlOf? hcontrol), hcontrol]
    rfl
  | @other c _ hsimple hcontrol =>
    show readFrom .plain ('\\' :: c :: left) = _
    rw [readFrom_simple hsimple, hcontrol]
    rfl
  | zero hbehind => simp [readFrom, hbehind, isLineEnd, isSeparator]
  | hexadecimal hlength hdigits => exact readFrom_digits hlength hdigits
  | @unicode digits _ _ hlength hdigits =>
    cases digits with
    | nil => cases hlength
    | cons c digits =>
      -- The first digit is no brace.
      obtain ⟨digit, hdigit, hrest⟩ := hexNumber?_cons_eq_some_iff.1 hdigits
      have hlength : digits.length = 2 + 1 := by simpa using hlength
      have hvalue : 0x10 * 0 + digit = digit := by simp
      rw [hvalue] at hrest
      show readFrom .unicode (c :: (digits ++ left)) = _
      rw [readFrom, if_neg (ne_brace_of_hexValue? hdigit).1, hdigit]
      exact readFrom_digits hlength hrest
  | @codePoint digits _ _ hdigits hsome hlimit =>
    have hread : readFrom (.braces none) (digits ++ '\x7d' :: left) =
        prepend (unitsOf _) (readFrom .plain left) := readFrom_braces hdigits (.inr hsome) hlimit
    simpa [readFrom] using hread
  | @continuation c _ hline hpair =>
    show readFrom .plain ('\\' :: c :: left) = _
    rw [readFrom_continuation hline hpair, prepend_nil]
  | continuationPair =>
    show readFrom .plain left = _
    rw [prepend_nil]

/-- What the grammar allows behind the opening quote is read, piece by piece up to the closing
quote. -/
theorem readFrom_of_inside (h : Inside cs units tail) :
    readFrom .plain cs = some (units, tail) := by
  induction h with
  | close => rfl
  | piece hpiece _ ih => rw [readFrom_piece hpiece, ih]; rfl

/-! ### What is read the grammar allows -/

/-- Some characters come first and stand for some units, and behind them a reader goes on between
characters. The first argument says what the characters have to be; inside of an escape it is the
rest of a piece. -/
def Leads (first : List Char → List Nat → List Char → Prop) (cs : List Char) (units : List Nat)
    (tail : List Char) : Prop :=
  ∃ taken out left more, cs = taken ++ left ∧ units = out ++ more ∧ first taken out left ∧
    readFrom .plain left = some (more, tail)

variable {first first' : List Char → List Nat → List Char → Prop}

/-- With a character in front of what comes first. So a piece is put together from the end of an
escape to its backslash. -/
theorem Leads.cons (h : Leads first cs units tail)
    (hfirst : ∀ taken out left, first taken out left → first' (c :: taken) out left) :
    Leads first' (c :: cs) units tail := by
  obtain ⟨taken, out, left, more, rfl, rfl, hleads, hmore⟩ := h
  exact ⟨c :: taken, out, left, more, rfl, rfl, hfirst taken out left hleads, hmore⟩

/-- One character comes first. It is the last one of an escape. -/
theorem leads_single (h : prepend out (readFrom .plain left) = some (units, tail))
    (hfirst : first [c] out left) : Leads first (c :: left) units tail := by
  obtain ⟨more, hmore, rfl⟩ := prepend_eq_some_iff.1 h
  exact ⟨[c], out, left, more, rfl, rfl, hfirst, hmore⟩

/-- The missing digits come first, and make one unit behind the digits before them. -/
theorem leads_digits {missing : Nat}
    (h : readFrom (.digits (missing + 1) value) cs = some (units, tail)) :
    Leads (fun digits out _ => digits.length = missing + 1 ∧
      ∃ n, hexNumber? value digits = some n ∧ out = [n]) cs units tail := by
  -- On the number of missing digits, which the reader counts down.
  induction missing generalizing value cs with
  | zero =>
    cases cs with
    | nil => simp [readFrom] at h
    | cons c rest =>
      rw [readFrom] at h
      split at h
      · rename_i digit hdigit
        exact leads_single h ⟨rfl, _, by simp [hexNumber?, hdigit], rfl⟩
      · cases h
  | succ missing ih =>
    cases cs with
    | nil => simp [readFrom] at h
    | cons c rest =>
      rw [readFrom] at h
      split at h
      · rename_i digit hdigit
        have hrest : readFrom (.digits (missing + 1) (0x10 * value + digit)) rest =
            some (units, tail) := h
        refine (ih hrest).cons ?_
        rintro digits out left ⟨hlength, n, hdigits, rfl⟩
        exact ⟨by simp [hlength], n, hexNumber?_cons_eq_some_iff.2 ⟨digit, hdigit, hdigits⟩, rfl⟩
      · cases h

/-- Digits and a closing brace come first. Either a digit has come before or there is one here. -/
theorem leads_braces {digit? : Option Nat}
    (h : readFrom (.braces digit?) cs = some (units, tail)) :
    Leads (fun taken out _ => ∃ digits n, taken = digits ++ ['\x7d'] ∧
      hexNumber? (digit?.getD 0) digits = some n ∧ (digit?.isSome ∨ digits ≠ []) ∧
      n < 0x110000 ∧ out = unitsOf n) cs units tail := by
  -- On the text: the reader does not know how many digits there are.
  induction cs generalizing digit? with
  | nil => simp [readFrom] at h
  | cons c rest ih =>
    unfold readFrom at h
    split_ifs at h with hbrace
    · split at h
      · rename_i n
        split_ifs at h with hlimit
        exact leads_single h ⟨[], n, by simp [hbrace], rfl, .inl rfl, hlimit, rfl⟩
      · cases h
    · split at h
      · rename_i digit hdigit
        refine (ih h).cons ?_
        rintro _ out left ⟨digits, n, rfl, hdigits, -, hlimit, rfl⟩
        exact ⟨c :: digits, n, rfl, hexNumber?_cons_eq_some_iff.2 ⟨digit, hdigit, hdigits⟩,
          .inr (List.cons_ne_nil _ _), hlimit, rfl⟩
      · cases h

/-- Behind a backslash and a `u` the rest of a piece comes first: braces or four digits. It puts
`leads_braces` and `leads_digits` together. -/
theorem leads_unicode (h : readFrom .unicode cs = some (units, tail)) :
    Leads (fun taken => Piece ('\\' :: 'u' :: taken)) cs units tail := by
  cases cs with
  | nil => simp [readFrom] at h
  | cons c rest =>
    rw [readFrom] at h
    split_ifs at h with hbrace
    · refine (leads_braces h).cons ?_
      rintro _ out left ⟨digits, n, rfl, hdigits, hsome, hlimit, rfl⟩
      rw [hbrace]
      exact .codePoint hdigits (by simpa using hsome) hlimit
    · -- No brace, so this is the first of four digits and three are missing.
      split at h
      · rename_i digit hdigit
        refine (leads_digits h).cons ?_
        rintro digits out left ⟨hlength, n, hdigits, rfl⟩
        refine .unicode (by simp [hlength]) (hexNumber?_cons_eq_some_iff.2 ⟨digit, hdigit, ?_⟩)
        simpa using hdigits
      · cases h

/-- Behind a backslash the rest of a piece comes first. The cases are the branches of the reader,
and each gives one kind of piece. -/
theorem leads_escape (h : readFrom .escape cs = some (units, tail)) :
    Leads (fun taken => Piece ('\\' :: taken)) cs units tail := by
  cases cs with
  | nil => simp [readFrom] at h
  | cons c rest =>
    unfold readFrom at h
    split_ifs at h with hu hx hline hzero hdigit
    · refine (leads_unicode h).cons fun taken out left hpiece => ?_
      rw [hu]
      exact hpiece
    · refine (leads_digits h).cons ?_
      rintro digits out left ⟨hlength, n, hdigits, rfl⟩
      rw [hx]
      exact .hexadecimal hlength hdigits
    · split at h
      · exact ⟨['\r', '\n'], [], _, units, rfl, rfl, .continuationPair, h⟩
      · rename_i hsingle
        refine ⟨[c], [], rest, units, rfl, rfl, .continuation hline fun hc hhead => ?_, h⟩
        obtain ⟨more, hrest⟩ := List.head?_eq_some_iff.1 hhead
        exact hsingle more hc hrest
    · simp only [Bool.and_eq_true, decide_eq_true_eq, Bool.not_eq_true'] at hzero
      obtain ⟨rfl, hbehind⟩ := hzero
      exact leads_single h (.zero (by simp [hbehind]))
    · -- What is left are the letters of controls and characters that stand for themselves.
      have hsimple : isSimple c = true := by simp [isSimple, hu, hx, hline, hdigit]
      cases hcontrol : controlOf? c with
      | some unit =>
        rw [hcontrol] at h
        exact leads_single h (.control hcontrol)
      | none =>
        rw [hcontrol] at h
        exact leads_single h (.other hsimple hcontrol)

/-- What is read behind the opening quote the grammar allows. The induction is on the number of
characters that are left, since a piece takes several at once. -/
theorem inside_of_readFrom (h : readFrom .plain cs = some (units, tail)) :
    Inside cs units tail := by
  -- On the length of the text: an escape takes more than one character, so what is left is
  -- shorter but not the tail of the list.
  induction hn : cs.length using Nat.strongRecOn generalizing cs units with
  | ind n ih =>
    cases cs with
    | nil => simp [readFrom] at h
    | cons c rest =>
      rw [readFrom] at h
      split_ifs at h with hquote hbackslash hline
      · obtain ⟨rfl, rfl⟩ := Prod.mk.inj (Option.some.inj h)
        rw [hquote]
        exact .close
      · obtain ⟨taken, out, left, more, rfl, rfl, hpiece, hmore⟩ := leads_escape h
        have hshorter : left.length < n := by
          rw [← hn, List.length_cons, List.length_append]
          omega
        rw [hbackslash]
        exact .piece hpiece (ih left.length hshorter hmore rfl)
      · obtain ⟨more, hmore, rfl⟩ := prepend_eq_some_iff.1 h
        have hitself : standsForItself c := by simp [standsForItself, hquote, hbackslash, hline]
        have hshorter : rest.length < n := by
          rw [← hn, List.length_cons]
          omega
        exact .piece (.itself hitself) (ih rest.length hshorter hmore rfl)

/-- The reader of literals decides the grammar. So what is proved by running the reader holds of
literals, and the grammar shows what the reader is meant to read. -/
theorem readLiteral?_eq_some_iff :
    readLiteral? cs = some (units, tail) ↔ Literal cs units tail := by
  constructor
  · intro h
    unfold readLiteral? at h
    split at h
    · exact ⟨_, rfl, inside_of_readFrom h⟩
    · cases h
  · rintro ⟨inside, rfl, hinside⟩
    exact readFrom_of_inside hinside

/-! ### Escaped texts -/

/-- No control and no end of a line is written, so an escaped text stays on its line. The
characters of an escape are all printable ones of their own. -/
theorem printable_of_mem_escapeChar {d : Char} (h : d ∈ escapeChar c) :
    isControl d = false ∧ isLineEnd d = false := by
  obtain ⟨letter, hmem, hc⟩ | ⟨hc, -⟩ | ⟨hc, hplain⟩ := escapeChar_cases c
  · have hletters : ∀ entry ∈ shortEscapes,
        isControl entry.2 = false ∧ isLineEnd entry.2 = false := by decide
    obtain rfl | rfl : d = '\\' ∨ d = letter := by simpa [hc] using h
    · decide
    · exact hletters (c, d) hmem
  -- Of the escape of a unit all characters are known but the digits, of which there are sixteen.
  · have hdigits : ∀ k < 16, isControl (hexDigit k) = false ∧ isLineEnd (hexDigit k) = false := by
      decide
    have hdigit : ∀ k, isControl (hexDigit (k % 16)) = false ∧
        isLineEnd (hexDigit (k % 16)) = false := fun k => hdigits _ (Nat.mod_lt k (by decide))
    rw [hc] at h
    obtain ⟨u, -, hd⟩ := List.mem_flatMap.1 h
    simp only [escapeUnit, List.mem_cons, List.not_mem_nil, or_false] at hd
    rcases hd with rfl | rfl | rfl | rfl | rfl | rfl
    · decide
    · decide
    all_goals exact hdigit _
  · obtain rfl : d = c := by simpa [hc] using h
    obtain ⟨-, -, hcontrol, -⟩ := needsEscape_eq_false_iff.1 hplain
    exact ⟨hcontrol, isLineEnd_of_needsEscape hplain⟩

/-- An escaped text between quotes is a literal of the text and of nothing else. What comes behind
the closing quote does not matter. -/
theorem literal_escape_iff {s : String} : Literal ('"' :: (escape s).toList ++ '"' :: behind) units
    tail ↔ units = utf16 s.toList ∧ tail = behind := by
  have hread : readLiteral? ('"' :: (escape s).toList ++ '"' :: behind) =
      some (utf16 s.toList, behind) := by
    rw [escape, String.toList_ofList]
    exact readFrom_escapeChars s.toList behind
  rw [← readLiteral?_eq_some_iff, hread, Option.some.injEq, Prod.mk.injEq, eq_comm,
    @eq_comm _ behind]

/-- The same of the whole literal with nothing behind it, which is how keys are written. -/
theorem literal_quote_iff {s : String} :
    Literal (quote s).toList units tail ↔ units = utf16 s.toList ∧ tail = [] := by
  have hquote : (quote s).toList = '"' :: (escape s).toList ++ ['"'] := by
    simp [quote, String.toList_append]
  rw [hquote]
  exact literal_escape_iff

/-- Two texts are not escaped alike, since the units that a literal stands for are those of its
text. -/
theorem escape_injective : Function.Injective escape := by
  intro s t h
  have hliteral : Literal ('"' :: (escape t).toList ++ ['"']) (utf16 s.toList) [] := by
    rw [← h]
    exact literal_escape_iff.2 ⟨rfl, rfl⟩
  exact String.toList_inj.1 (utf16_injective (literal_escape_iff.1 hliteral).1)

/-- A text that is escaped and put between quotes is one literal, which ends with the closing quote
whatever comes behind it and stands for the units of the text and nothing else. Inside of it are no
controls and no ends of lines. So no two texts are escaped alike. -/
theorem escape_writes_one_literal :
    (∀ (s : String) (behind : List Char),
      (∀ units tail, Literal ('"' :: (escape s).toList ++ '"' :: behind) units tail ↔
        units = utf16 s.toList ∧ tail = behind) ∧
      ∀ c ∈ (escape s).toList, isControl c = false ∧ isLineEnd c = false) ∧
    Function.Injective escape := by
  refine ⟨fun s behind => ⟨fun units tail => literal_escape_iff, fun c hc => ?_⟩,
    escape_injective⟩
  obtain ⟨source, -, hmem⟩ : ∃ source ∈ s.toList, c ∈ escapeChar source := by
    simpa [escape, escapeChars] using hc
  exact printable_of_mem_escapeChar hmem

end StateTree.Text
