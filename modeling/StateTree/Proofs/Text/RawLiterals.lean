import StateTree.Proofs.Text.Literals

/-!
# `StateTree.Proofs.Text.RawLiterals`: texts put between quotes as they are

A text that is put between quotes without any escapes is a literal of itself exactly if no character
in it is a quote, a backslash or the end of a line. Two things have to be excluded besides: that a
text with escapes in it reads as itself by chance, and that a quote which is taken for a part of the
text makes the literal end in what was written behind it.

The first cannot be because every escape is longer than what it stands for. From a backslash on a
reader owes units for the characters that it has taken, and at the end of the escape it has less
than these would have been. The second is excluded by the semicolon and the line feed behind the
closing quote: an escape does not go on over a semicolon, and outside of one a line feed is refused.

- `standsForItself`: the characters that need no escape.
- `Takes`, `ends_or_goesOn`: what a reader takes at a time.
- `yields_of_readFrom`: what it has got in the end, compared with what it has taken.
- `suffix_of_readFrom`: no literal goes over a semicolon at the end of a line.
- `exists_literal_iff`: which texts are literals of themselves.
-/

set_option autoImplicit false

namespace StateTree.Text

/-- Inside a literal a character stands for itself unless it ends the literal or a line, or begins
an escape. It need not be printable. -/
def standsForItself (c : Char) : Bool :=
  c ≠ '"' && c ≠ '\\' && !isLineEnd c

/-- How many units a reader owes for the characters of an escape that it has taken so far. It owes
no more than it has taken, and gets back less: this is why escapes are longer than what they stand
for. -/
def Reading.owed : Reading → Nat
  | .plain => 0
  | .escape => 1
  | .unicode | .digits .. => 2
  | .braces _ => 3

/-- What a reader takes at a time, the units that it gets for that, and where it is then. The
bounds on what is owed and given are what makes escapes longer than what they stand for. -/
inductive Takes : Reading → List Char → List Nat → Reading → Prop
  /-- A character that stands for itself. -/
  | itself {c : Char} (h : standsForItself c) : Takes .plain [c] (units16 c) .plain
  /-- A character of an escape that goes on. -/
  | inside {state next : Reading} {c : Char} (hnext : next ≠ .plain)
      (howed : next.owed ≤ state.owed + 1) (hc : c ≠ ';') : Takes state [c] [] next
  /-- The end of an escape, which may be both characters that end a line. -/
  | outside {state : Reading} {taken : List Char} {out : List Nat} (hstate : state ≠ .plain)
      (hout : out.length < state.owed + (utf16 taken).length)
      (htaken : (∃ c, taken = [c]) ∨ taken = ['\r', '\n']) : Takes state taken out .plain

/-- A reader takes something and goes on with what is left. The result is what it gets now and
what it gets from the rest. -/
def GoesOn (state : Reading) (cs : List Char) (units : List Nat) (tail : List Char) : Prop :=
  ∃ next taken left out more, cs = taken ++ left ∧ Takes state taken out next ∧
    readFrom next left = some (more, tail) ∧ units = out ++ more

variable {state : Reading} {c : Char} {cs rest tail : List Char} {units : List Nat}

/-! ### One step -/

/-- A result with units in front comes from one without. It turns a reader's equation into what is
left to read. -/
theorem prepend_eq_some_iff {out : List Nat} {result : Option (List Nat × List Char)} :
    prepend out result = some (units, tail) ↔
      ∃ more, result = some (more, tail) ∧ units = out ++ more := by
  rw [prepend, Option.map_eq_some_iff]
  constructor
  · rintro ⟨⟨more, rest⟩, hresult, heq⟩
    obtain ⟨rfl, rfl⟩ := Prod.mk.inj heq
    exact ⟨more, hresult, rfl⟩
  · rintro ⟨more, hresult, rfl⟩
    exact ⟨(more, tail), hresult, rfl⟩

/-- Every character has at least one unit, so taking one is never for free. -/
theorem one_le_length_utf16 (c : Char) : 1 ≤ (utf16 [c]).length := by
  have hne : utf16 [c] ≠ [] := by simpa [utf16] using units16_ne_nil c
  exact List.length_pos_iff.2 hne

/-- A semicolon is no hexadecimal digit, so no escape that goes on takes one. -/
theorem ne_semicolon_of_hexValue? {digit : Nat} (h : hexValue? c = some digit) : c ≠ ';' := by
  rintro rfl
  simp [hexValue?] at h

/-- A reader takes a character of an escape that goes on. It gets nothing for it yet, and owes at
most one unit more. -/
theorem goesOn_inside {next : Reading} (hmore : readFrom next rest = some (units, tail))
    (hnext : next ≠ .plain) (howed : next.owed ≤ state.owed + 1) (hc : c ≠ ';') :
    GoesOn state (c :: rest) units tail :=
  ⟨next, [c], rest, [], units, rfl, .inside hnext howed hc, hmore, rfl⟩

/-- A reader takes the last character of an escape, and gets less than it owes with the units of
that character. -/
theorem goesOn_outside {out : List Nat}
    (h : prepend out (readFrom .plain rest) = some (units, tail)) (hstate : state ≠ .plain)
    (hout : out.length < state.owed + (utf16 [c]).length) :
    GoesOn state (c :: rest) units tail := by
  obtain ⟨more, hmore, rfl⟩ := prepend_eq_some_iff.1 h
  exact ⟨.plain, [c], rest, out, more, rfl, .outside hstate hout (.inl ⟨c, rfl⟩), hmore, rfl⟩

/-- Between characters a reader comes to the closing quote or goes on: with a character that
stands for itself, or into an escape. -/
theorem goesOn_plain (h : readFrom .plain (c :: rest) = some (units, tail)) :
    (c = '"' ∧ units = [] ∧ tail = rest) ∨ GoesOn .plain (c :: rest) units tail := by
  unfold readFrom at h
  split_ifs at h with hquote hbackslash hline
  · rw [Option.some.injEq, Prod.mk.injEq] at h
    exact .inl ⟨hquote, h.1.symm, h.2.symm⟩
  · exact .inr (goesOn_inside h (by decide) (by decide) (by simp [hbackslash]))
  · obtain ⟨more, hmore, rfl⟩ := prepend_eq_some_iff.1 h
    have hitself : standsForItself c := by simp [standsForItself, hquote, hbackslash, hline]
    exact .inr ⟨.plain, _, rest, _, more, rfl, .itself hitself, hmore, rfl⟩

/-- After a backslash a reader goes on. It ends the escape at once, except before a `u` or an `x`.
-/
theorem goesOn_escape (h : readFrom .escape (c :: rest) = some (units, tail)) :
    GoesOn .escape (c :: rest) units tail := by
  have hone := one_le_length_utf16 c
  unfold readFrom at h
  -- The five things that can follow a backslash: two longer escapes, the end of a line, a zero,
  -- and a character of its own. Any other digit is refused.
  split_ifs at h with hu hx hline hzero hdigit
  · exact goesOn_inside h (by decide) (by decide) (by simp [hu])
  · exact goesOn_inside h (by decide) (by decide) (by simp [hx])
  · split at h
    · exact ⟨.plain, ['\r', '\n'], _, [], units, rfl,
        .outside (by decide) (by decide) (.inr rfl), h, rfl⟩
    · exact ⟨.plain, [c], rest, [], units, rfl,
        .outside (by decide) (Nat.add_pos_left Nat.one_pos _) (.inl ⟨c, rfl⟩), h, rfl⟩
  · exact goesOn_outside h (by decide) (Nat.lt_add_of_pos_right hone)
  · refine goesOn_outside h (by decide) ?_
    cases controlOf? c with
    | none => simp [Reading.owed, utf16]
    | some unit => exact Nat.lt_add_of_pos_right hone

/-- After the `u` of an escape a reader goes on, with digits or with a brace. -/
theorem goesOn_unicode (h : readFrom .unicode (c :: rest) = some (units, tail)) :
    GoesOn .unicode (c :: rest) units tail := by
  unfold readFrom at h
  split_ifs at h with hbrace
  · exact goesOn_inside h (by decide) (by decide) (by simp [hbrace])
  · split at h
    · rename_i digit hdigit
      exact goesOn_inside h (by simp) (Nat.le_succ 2) (ne_semicolon_of_hexValue? hdigit)
    · cases h

/-- Before a digit of an escape a reader goes on. The last digit ends the escape with one unit. -/
theorem goesOn_digits {missing value : Nat}
    (h : readFrom (.digits missing value) (c :: rest) = some (units, tail)) :
    GoesOn (.digits missing value) (c :: rest) units tail := by
  unfold readFrom at h
  split at h
  · rename_i digit hdigit
    split_ifs at h with hlast
    · exact goesOn_outside h (by simp) (Nat.lt_add_right _ Nat.one_lt_two)
    · exact goesOn_inside h (by simp) (Nat.le_succ 2) (ne_semicolon_of_hexValue? hdigit)
  · cases h

/-- Inside the braces of an escape a reader goes on. The closing brace ends the escape with two
units at most. -/
theorem goesOn_braces {value : Option Nat}
    (h : readFrom (.braces value) (c :: rest) = some (units, tail)) :
    GoesOn (.braces value) (c :: rest) units tail := by
  have hunits : ∀ n, (unitsOf n).length < 3 := by
    intro n
    unfold unitsOf
    split <;> simp
  unfold readFrom at h
  -- At the closing brace the code point is given, else there is one more digit.
  split_ifs at h with hbrace
  · split at h
    · rename_i n
      split_ifs at h with hlarge
      exact goesOn_outside h (by simp) (Nat.lt_add_right _ (hunits n))
    · cases h
  · split at h
    · rename_i digit hdigit
      exact goesOn_inside h (by simp) (Nat.le_succ 3) (ne_semicolon_of_hexValue? hdigit)
    · cases h

/-- A reader comes to the closing quote or goes on, wherever it is. The inductions below go by
this, and no longer open the reader. -/
theorem ends_or_goesOn (h : readFrom state (c :: rest) = some (units, tail)) :
    (state = .plain ∧ c = '"' ∧ units = [] ∧ tail = rest) ∨
      GoesOn state (c :: rest) units tail := by
  cases state with
  | plain => exact (goesOn_plain h).imp_left fun hend => ⟨rfl, hend⟩
  | escape => exact .inr (goesOn_escape h)
  | unicode => exact .inr (goesOn_unicode h)
  | digits missing value => exact .inr (goesOn_digits h)
  | braces value => exact .inr (goesOn_braces h)

/-- One character is taken at a time, or both that end a line. No semicolon can be skipped so. -/
theorem Takes.taken_cases {next : Reading} {taken : List Char} {out : List Nat}
    (h : Takes state taken out next) : (∃ c, taken = [c]) ∨ taken = ['\r', '\n'] := by
  cases h with
  | @itself c => exact .inl ⟨c, rfl⟩
  | @inside _ _ c => exact .inl ⟨c, rfl⟩
  | outside hstate hout htaken => exact htaken

/-- Something is taken each time, so the text that is left gets shorter. -/
theorem Takes.length_pos {next : Reading} {taken : List Char} {out : List Nat}
    (h : Takes state taken out next) : 0 < taken.length := by
  obtain ⟨c, rfl⟩ | rfl := h.taken_cases
  · exact Nat.one_pos
  · exact Nat.two_pos

/-! ### Whole literals -/

/-- What a reader gets from the characters up to the closing quote: between characters the units of
these, each of which stands for itself, and everywhere fewer than they have with what is owed. -/
def Reading.Yields (state : Reading) (units : List Nat) (inside : List Char) : Prop :=
  (state = .plain ∧ units = utf16 inside ∧ inside.all standsForItself) ∨
    units.length < state.owed + (utf16 inside).length

/-- The units of two texts in a row are those of the one and then those of the other. -/
theorem utf16_append (xs ys : List Char) : utf16 (xs ++ ys) = utf16 xs ++ utf16 ys :=
  List.flatMap_append

/-- What is taken first is reckoned with what is got from the rest. Once a unit is lost, it is not
made up for. -/
theorem Takes.yields {next : Reading} {taken inside : List Char} {out more : List Nat}
    (htakes : Takes state taken out next) (h : next.Yields more inside) :
    state.Yields (out ++ more) (taken ++ inside) := by
  -- Between characters nothing is lost; inside an escape the rest has less; at the end of one it
  -- is less from here on.
  cases htakes with
  | @itself c hitself =>
    have hc : utf16 [c] = units16 c := by simp [utf16]
    obtain ⟨-, rfl, hall⟩ | hlt := h
    · left
      rw [utf16_append, hc]
      exact ⟨rfl, rfl, by simpa [hitself] using hall⟩
    · right
      rw [utf16_append, hc, List.length_append, List.length_append]
      omega
  | @inside _ _ c hnext howed hc =>
    right
    have hone := one_le_length_utf16 c
    obtain ⟨hplain, -⟩ | hlt := h
    · exact absurd hplain hnext
    · rw [utf16_append, List.nil_append, List.length_append]
      omega
  | outside hstate hout htaken =>
    right
    have hle : more.length ≤ (utf16 inside).length := by
      obtain ⟨-, rfl, -⟩ | hlt := h
      · exact Nat.le_refl _
      · rw [Reading.owed, Nat.zero_add] at hlt
        exact Nat.le_of_lt hlt
    rw [utf16_append, List.length_append, List.length_append]
    omega

/-- A literal goes up to a quote, and what is got from it depends on what it is. The induction is on
the number of characters that are left. -/
theorem yields_of_readFrom (h : readFrom state cs = some (units, tail)) :
    ∃ inside, cs = inside ++ '"' :: tail ∧ state.Yields units inside := by
  -- Every step takes something, so the rest is shorter, whatever state the reader is left in.
  induction hn : cs.length using Nat.strongRecOn generalizing state cs units with
  | ind n ih =>
    cases cs with
    | nil => simp [readFrom] at h
    | cons c rest =>
      obtain ⟨rfl, rfl, rfl, rfl⟩ | ⟨next, taken, left, out, more, hcs, htakes, hmore, rfl⟩ :=
        ends_or_goesOn h
      · exact ⟨[], rfl, .inl ⟨rfl, rfl, rfl⟩⟩
      · have hshorter : left.length < n := by
          have hpos := htakes.length_pos
          rw [← hn, hcs, List.length_append]
          omega
        obtain ⟨inside, rfl, hinside⟩ := ih left.length hshorter hmore rfl
        exact ⟨taken ++ inside, by rw [hcs, List.append_assoc], htakes.yields hinside⟩

/-- At a semicolon before the end of a line no literal goes on. If the semicolon is taken, the
line feed comes between characters, where it is refused. -/
theorem readFrom_semicolon (behind : List Char) :
    readFrom state (';' :: '\n' :: behind) = none := by
  cases h : readFrom state (';' :: '\n' :: behind) with
  | none => rfl
  | some result =>
    exfalso
    obtain ⟨-, hc, -⟩ | ⟨next, taken, left, out, more, hcs, htakes, hmore, -⟩ := ends_or_goesOn h
    · cases hc
    · have hleft : left = '\n' :: behind := by
        obtain ⟨c, rfl⟩ | rfl := htakes.taken_cases
        · exact (List.cons.inj hcs).2.symm
        · simp at hcs
      -- An escape that goes on would not have taken the semicolon.
      have hnext : next = .plain := by
        cases htakes with
        | itself => rfl
        | inside hnext howed hc => exact absurd (List.cons.inj hcs).1.symm hc
        | outside => rfl
      rw [hleft, hnext] at hmore
      simp [readFrom, isLineEnd] at hmore

/-- No literal goes over a semicolon at the end of a line: an escape ends with the semicolon, if
not before it, and so the line feed is refused. What is left behind a literal has all of it. -/
theorem suffix_of_readFrom {front behind : List Char}
    (h : readFrom state (front ++ ';' :: '\n' :: behind) = some (units, tail)) :
    ';' :: '\n' :: behind <:+ tail := by
  induction hn : front.length using Nat.strongRecOn generalizing state front units with
  | ind n ih =>
    cases front with
    | nil => simp [readFrom_semicolon] at h
    | cons c front =>
      obtain ⟨-, -, -, rfl⟩ | ⟨next, taken, left, out, more, hcs, htakes, hmore, -⟩ :=
        ends_or_goesOn h
      · exact List.suffix_append _ _
      · -- Both characters that end a line come before the semicolon, if they are what is taken.
        obtain ⟨front', hleft, hshorter⟩ : ∃ front', left = front' ++ ';' :: '\n' :: behind ∧
            front'.length < n := by
          rw [List.length_cons] at hn
          obtain ⟨d, rfl⟩ | rfl := htakes.taken_cases
          · exact ⟨front, (List.cons.inj hcs).2.symm, by omega⟩
          · have hfeed := (List.cons.inj hcs).2
            cases front with
            | nil => simp at hfeed
            | cons d front =>
              exact ⟨front, (List.cons.inj hfeed).2.symm, by simp at hn; omega⟩
        rw [hleft] at hmore
        exact ih front'.length hshorter hmore rfl

/-- Characters that stand for themselves read back as they are. It is the easy direction of
`exists_literal_iff`. -/
theorem readFrom_raw {inside : List Char} (h : inside.all standsForItself) (rest : List Char) :
    readFrom .plain (inside ++ '"' :: rest) = some (utf16 inside, rest) := by
  induction inside with
  | nil => rfl
  | cons c inside ih =>
    rw [List.all_cons, Bool.and_eq_true] at h
    have hc : (c ≠ '"' ∧ c ≠ '\\') ∧ isLineEnd c = false := by
      simpa [standsForItself] using h.1
    rw [List.cons_append, readFrom, if_neg hc.1.1, if_neg hc.1.2, hc.2, ih h.2]
    rfl

/-- A text between quotes, with a semicolon and the end of a line behind them, is a literal of
itself up to some semicolon at the end of a line exactly if each of its characters stands for
itself. -/
theorem exists_literal_iff (cs rest : List Char) :
    (∃ literal after, '"' :: cs ++ '"' :: ';' :: '\n' :: rest = literal ++ ';' :: '\n' :: after ∧
      readLiteral? literal = some (utf16 cs, [])) ↔ cs.all standsForItself := by
  constructor
  · rintro ⟨literal, after, htext, hread⟩
    obtain ⟨body, rfl, hbody⟩ : ∃ body, literal = '"' :: body ∧
        readFrom .plain body = some (utf16 cs, []) := by
      unfold readLiteral? at hread
      split at hread
      · exact ⟨_, rfl, hread⟩
      · cases hread
    obtain ⟨inside, rfl, hyields⟩ := yields_of_readFrom hbody
    have htext : cs ++ '"' :: ';' :: '\n' :: rest =
        inside ++ '"' :: ';' :: '\n' :: after := by simpa using htext
    obtain ⟨-, hunits, hall⟩ | hlt := hyields
    · rwa [utf16_injective hunits]
    · rw [Reading.owed, Nat.zero_add] at hlt
      exfalso
      rcases List.append_eq_append_iff.1 htext with ⟨more, rfl, hmore⟩ | ⟨more, rfl, hmore⟩
      · -- The literal would go on behind the closing quote, over the end of the line.
        match more, hmore with
        | [], _ => simp at hlt
        | [_], hmore => simp at hmore
        | [_, _], hmore => simp at hmore
        | _ :: _ :: _ :: more, hmore =>
          obtain ⟨rfl, rfl, rfl, -⟩ := by simpa using hmore
          have hfront : (cs ++ '"' :: ';' :: '\n' :: more) ++ ['"'] =
              (cs ++ ['"']) ++ ';' :: '\n' :: (more ++ ['"']) := by simp
          rw [hfront] at hbody
          exact absurd (List.suffix_nil.1 (suffix_of_readFrom hbody)) (by simp)
      · rw [utf16_append, List.length_append] at hlt
        omega
  · intro hall
    exact ⟨'"' :: cs ++ ['"'], rest, by simp, readFrom_raw hall []⟩

end StateTree.Text
