import Mathlib.Data.List.Chain
import StateTree.Proofs.Layout.Rows

/-!
# `StateTree.Proofs.Layout.DocComments`: documentation ends where it is meant to

A documentation comment ends at the first slash that follows a star. Inside the lines that are put
into one, every such pair is broken up by a backslash. No new pair comes about where the pieces are
put together: a replaced pair begins with its own star and goes on with the backslash, a line begins
with a blank, and margins are blanks or tabs. So the only pair in the whole comment is the one that
the last line is written for.

- `KeepsOpen`: no slash follows a star.
- `ClosesOnce`: a slash follows a star in one place only, and nothing but a line feed comes after.
- `keepsOpen_breakCommentEnd`, `keepsOpen_docLine`: what becomes of the lines of a comment.
- `Buffer.row`, `Buffer.toList_writeRows_text`: the characters of a line at a level, and of many.
- `Buffer.docBlock_closesOnce`: what is written for a documentation comment ends it once.
-/

set_option autoImplicit false

namespace StateTree.Layout

/-- No slash follows a star, so nothing here ends a comment. It is a condition on neighbours,
which is why it says little about where two texts meet. -/
def KeepsOpen (cs : List Char) : Prop :=
  cs.IsChain fun c d => ¬(c = '*' ∧ d = '/')

/-- A slash follows a star in one place, which is right before the line feed at the end. A comment
that is opened before the text ends there, and not earlier. -/
def ClosesOnce (cs : List Char) : Prop :=
  ∃ front, cs = front ++ ['*', '/', '\n'] ∧
    ∀ before after, cs = before ++ '*' :: '/' :: after → before = front ∧ after = ['\n']

/-! ### Texts that keep a comment open -/

/-- Without a star nothing ends. So margins, line feeds and blanks need no further look. -/
theorem keepsOpen_of_notMem {cs : List Char} (h : '*' ∉ cs) : KeepsOpen cs := by
  refine List.isChain_iff_forall_rel_of_append_cons_cons.2 ?_
  rintro c d before after rfl ⟨rfl, -⟩
  simp at h

/-- Where two texts meet, the first must not leave a star for a slash of the second. One of the
two conditions is enough. -/
theorem KeepsOpen.append {xs ys : List Char} (hx : KeepsOpen xs) (hy : KeepsOpen ys)
    (h : xs.getLast? ≠ some '*' ∨ ys.head? ≠ some '/') : KeepsOpen (xs ++ ys) := by
  refine List.IsChain.append hx hy ?_
  rintro c hc d hd ⟨rfl, rfl⟩
  cases h with
  | inl h => exact h hc
  | inr h => exact h hd

/-- A text that stays open up to its last star is closed once by a slash and a line feed. The last
line of a comment is written so. -/
theorem closesOnce_of_keepsOpen {front : List Char} (h : KeepsOpen (front ++ ['*'])) :
    ClosesOnce (front ++ ['*', '/', '\n']) := by
  refine ⟨front, rfl, ?_⟩
  intro before after heq
  -- The line feed is the last character on both sides, and so is the slash before it, unless the
  -- pair stands further to the front. There it would be inside the part that stays open.
  rcases List.eq_nil_or_concat after with rfl | ⟨after, c, rfl⟩
  · have hlast := congrArg List.getLast? heq
    simp at hlast
  · have hsplit : (front ++ ['*', '/']) ++ ['\n'] = (before ++ '*' :: '/' :: after) ++ [c] := by
      simpa using heq
    obtain ⟨hinit, hc⟩ := List.append_inj' hsplit rfl
    obtain rfl : '\n' = c := by simpa using hc
    rcases List.eq_nil_or_concat after with rfl | ⟨after, d, rfl⟩
    · have hfront : front ++ ['*', '/'] = before ++ ['*', '/'] := hinit
      exact ⟨(List.append_cancel_right hfront).symm, rfl⟩
    · have hinner : (front ++ ['*']) ++ ['/'] = (before ++ '*' :: '/' :: after) ++ [d] := by
        simpa using hinit
      obtain ⟨hopen, -⟩ := List.append_inj' hinner rfl
      rw [hopen] at h
      exact absurd ⟨rfl, rfl⟩ (List.isChain_iff_forall_rel_of_append_cons_cons.1 h rfl)

/-! ### Lines of a comment -/

/-- Breaking up ends of comments leaves the first character as it is: a star that is broken off
from its slash stays in front of it. -/
theorem head?_breakCommentEnd (cs : List Char) : (breakCommentEnd cs).head? = cs.head? := by
  fun_cases breakCommentEnd cs <;> rfl

/-- Nothing in a text ends a comment after the ends in it have been broken up. A pair of a star
and a slash gets a backslash between them, and this makes no new pair. -/
theorem keepsOpen_breakCommentEnd (cs : List Char) : KeepsOpen (breakCommentEnd cs) := by
  fun_induction breakCommentEnd cs with
  | case1 rest ih =>
    -- The star is followed by the backslash, and the slash is no star.
    have hslash : KeepsOpen ('/' :: breakCommentEnd rest) := ih.cons (by simp)
    exact (hslash.cons_cons (by simp)).cons_cons (by simp)
  | case2 c rest hpair ih =>
    refine ih.cons ?_
    -- A slash after this star would have made the two a pair to break up.
    rintro d hd ⟨rfl, rfl⟩
    rw [head?_breakCommentEnd] at hd
    obtain ⟨rest, rfl⟩ := List.head?_eq_some_iff.1 hd
    exact hpair rest rfl rfl
  | case3 => exact .nil

/-- Nothing in a line of a documentation comment ends it, whatever the line is. An empty line is a
star and no more. -/
theorem keepsOpen_docLine (line : String) : KeepsOpen (docLine line).toList := by
  unfold docLine
  split
  · simp [KeepsOpen]
  · rw [String.toList_append, String.toList_ofList (l := breakCommentEnd line.toList)]
    -- The blank after the star of the line keeps it from what the line begins with.
    have hstar : KeepsOpen " * ".toList := by simp [KeepsOpen]
    exact hstar.append (keepsOpen_breakCommentEnd _) (.inl (by simp))

/-- Margins have no stars, so a star that begins a line has no other star before it. -/
theorem star_notMem_margin (indent : Indent) (level : Nat) :
    '*' ∉ (indent.margin level).toList := by
  intro h
  obtain h | h := eq_blank_or_tab_of_mem_margin h <;> cases h

namespace Buffer

/-- The characters of a line at the level of a buffer: its margin, the line, and a line feed. -/
def row (buffer : Buffer) (s : String) : List Char :=
  (buffer.indent.margin buffer.level).toList ++ s.toList ++ ['\n']

/-- A line is a row in no body. Here it is about characters, which `KeepsOpen` is about. -/
theorem toList_textAt (buffer : Buffer) (s : String) :
    ((Row.text 0 s).textAt buffer.indent buffer.level).toList = buffer.row s := by
  simp [row, Row.textAt]

/-- Lines are added at the end of the text, all at one level. The level of a buffer does not
change from one line to the next. -/
theorem toList_writeRows_text (buffer : Buffer) (lines : List String) :
    (buffer.writeRows (lines.map (Row.text 0))).text.toList =
      buffer.text.toList ++ lines.flatMap buffer.row := by
  simp [writeRows, List.flatMap_map, toList_textAt]

/-- What is written for a documentation comment, as characters: the first line, the lines of the
comment, and the last one. -/
theorem toList_docBlock (buffer : Buffer) (lines : List String) :
    (buffer.docBlock lines).text.toList =
      buffer.text.toList ++ ("/**" :: lines.map docLine ++ [" */"]).flatMap buffer.row := by
  rw [docBlock_eq_writeRows, toList_writeRows_text]

/-! ### The whole comment -/

/-- A line that keeps a comment open does so with its margin and its line feed. -/
theorem keepsOpen_row (buffer : Buffer) {s : String} (h : KeepsOpen s.toList) :
    KeepsOpen (buffer.row s) := by
  have hmargin := star_notMem_margin buffer.indent buffer.level
  have hlast : (buffer.indent.margin buffer.level).toList.getLast? ≠ some '*' :=
    fun hlast => hmargin (List.mem_of_getLast? hlast)
  have hfeed : KeepsOpen ['\n'] := keepsOpen_of_notMem (by simp)
  exact ((keepsOpen_of_notMem hmargin).append h (.inl hlast)).append hfeed (.inr (by simp))

/-- Lines that keep a comment open do so one after the other: each ends in a line feed. What comes
behind them only has to keep it open, too. -/
theorem keepsOpen_flatMap_row (buffer : Buffer) {lines : List String} {rest : List Char}
    (h : ∀ s ∈ lines, KeepsOpen s.toList) (hrest : KeepsOpen rest) :
    KeepsOpen (lines.flatMap buffer.row ++ rest) := by
  induction lines with
  | nil => exact hrest
  | cons s lines ih =>
    rw [List.flatMap_cons, List.append_assoc]
    refine (buffer.keepsOpen_row (h s (by simp))).append (ih fun s hs => h s (by simp [hs])) ?_
    exact .inl (by simp [row])

/-- What is written for a documentation comment ends it once, right before the last line feed,
whatever the lines are. It is half of `descriptions_stay_in_comments`. -/
theorem docBlock_closesOnce (buffer : Buffer) (lines : List String) :
    ∃ appended : String, (buffer.docBlock lines).text = buffer.text ++ appended ∧
      ClosesOnce appended.toList := by
  -- All lines but the last, and the last up to its star.
  let before := ("/**" :: lines.map docLine).flatMap buffer.row
  let margin := (buffer.indent.margin buffer.level).toList
  refine ⟨String.ofList (before ++ margin ++ [' '] ++ ['*', '/', '\n']), ?_, ?_⟩
  · rw [← String.toList_inj, toList_docBlock, String.toList_append, String.toList_ofList,
      List.flatMap_append]
    simp [before, margin, row]
  · rw [String.toList_ofList]
    refine closesOnce_of_keepsOpen ?_
    have hlines : ∀ s ∈ "/**" :: lines.map docLine, KeepsOpen s.toList := by
      intro s hs
      cases hs with
      | head => simp [KeepsOpen]
      | tail _ hs =>
        obtain ⟨line, -, rfl⟩ := List.mem_map.1 hs
        exact keepsOpen_docLine line
    -- The margin of the last line, and its star.
    have hmargin : KeepsOpen (margin ++ [' ', '*']) := by
      have hopen := keepsOpen_of_notMem (star_notMem_margin buffer.indent buffer.level)
      exact hopen.append (by simp [KeepsOpen]) (.inr (by simp))
    have hfront := buffer.keepsOpen_flatMap_row hlines hmargin
    simpa [before, List.append_assoc] using hfront

end Buffer

end StateTree.Layout
