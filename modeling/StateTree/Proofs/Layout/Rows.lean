import Mathlib.Logic.Function.Iterate
import StateTree.Layout.Buffer

/-!
# `StateTree.Proofs.Layout.Rows`: what fragments are written as

The lines of a fragment can be listed without a buffer: from the first to the last, each with the
number of bodies that it stands in. A buffer adds its own level to that number, and writes the lines
at its end. Nothing else about it changes, since every body goes back to the level it was entered
at. The level only has to be known when a line becomes text, so all this is one induction on
fragments for every level at once.

- `Row`, `Fragment.rows`: the lines of a fragment.
- `Buffer.writeRows`: lines at the level of a buffer.
- `Buffer.write_eq_writeRows`: writing a fragment is writing its lines.
- `exists_render_line`: a text whose first fragment is a line.
- `Enclosure`, `exists_rows_foldr_enclose`: a fragment anywhere in another one.
- `Buffer.write_appends_rows`: all of it, for each of the ways to write.
-/

set_option autoImplicit false

namespace StateTree.Layout

/-- A line of output, before it is known where it starts. A blank line starts nowhere, since it
has no margin. -/
inductive Row where
  | blank
  /-- A line with the number of bodies that it stands in. -/
  | text (bodies : Nat) (content : String)

namespace Row

/-- A row inside further bodies. To a blank one they mean nothing. -/
def inside (bodies : Nat) : Row → Row
  | blank => blank
  | text inner content => text (bodies + inner) content

/-- What a row is written as at a level: its margin, its content, and a line feed. The bodies that
the row stands in count on top of the level. -/
def textAt (indent : Indent) (level : Nat) : Row → String
  | blank => "\n"
  | text bodies content => indent.margin (level + bodies) ++ content ++ "\n"

/-- No further body changes nothing. It is where `bodiesAround` begins to count. -/
@[simp]
theorem inside_zero : inside 0 = id := by
  funext row
  cases row <;> simp [inside]

/-- Bodies in bodies add up, so nested enclosures come to one number. -/
@[simp]
theorem inside_inside (outer inner : Nat) (row : Row) :
    (row.inside inner).inside outer = row.inside (outer + inner) := by
  cases row <;> simp [inside, Nat.add_assoc]

/-- A row inside bodies is written as at a level that is deeper by their number. It is what lets a
fragment be written without its surroundings. -/
@[simp]
theorem textAt_inside (indent : Indent) (level bodies : Nat) (row : Row) :
    (row.inside bodies).textAt indent level = row.textAt indent (level + bodies) := by
  cases row <;> simp [inside, textAt, Nat.add_assoc]

end Row

/-- Margins are blanks or tabs, so nothing in them is taken for a part of a comment or for the end
of a line. -/
theorem eq_blank_or_tab_of_mem_margin {indent : Indent} {level : Nat} {c : Char}
    (h : c ∈ (indent.margin level).toList) : c = ' ' ∨ c = '\t' := by
  -- A margin is the text of one level, repeated.
  induction level with
  | zero => simp [Indent.margin] at h
  | succ level ih =>
    rw [Indent.margin, String.toList_append, List.mem_append] at h
    obtain h | h := h
    · cases indent with
      | spaces width =>
        rw [Indent.text, String.toList_ofList] at h
        exact .inl (List.eq_of_mem_replicate h)
      | tab => exact .inr (by simpa [Indent.text] using h)
    · exact ih h

/-! ### The rows of a fragment -/

mutual

/-- The lines of a fragment, from the first to the last, each with the number of bodies of this
fragment that it stands in. -/
def Fragment.rows : Fragment → List Row
  | .line s => [.text 0 s]
  | .blank => [.blank]
  | .block header body close =>
    .text 0 header :: (rowsOf body).map (Row.inside 1) ++ close.toList.map (Row.text 0)
  | .indented body => (rowsOf body).map (Row.inside 1)
  | .sequence items => rowsOf items
  | .doc lines => ("/**" :: lines.map docLine ++ [" */"]).map (Row.text 0)
  | .comment s => [.text 0 (commentLine s)]

/-- The lines of fragments, one fragment after the other. Between fragments there is nothing. -/
def rowsOf : List Fragment → List Row
  | [] => []
  | fragment :: rest => fragment.rows ++ rowsOf rest

end

/-- Where fragments meet, their rows meet. A fragment can so be looked for in the middle of
others. -/
theorem rowsOf_append (first second : List Fragment) :
    rowsOf (first ++ second) = rowsOf first ++ rowsOf second := by
  induction first with
  | nil => rfl
  | cons fragment rest ih => simp [rowsOf, ih]

namespace Buffer

/-- Writes rows at the current level, at the end of what has been written. Nothing but the text
changes. -/
def writeRows (buffer : Buffer) (rows : List Row) : Buffer :=
  { buffer with
    text := buffer.text ++ String.join (rows.map (Row.textAt buffer.indent buffer.level)) }

/-- Rows are written one after the other. The buffer between the two has the level of before. -/
theorem writeRows_append (buffer : Buffer) (first second : List Row) :
    buffer.writeRows (first ++ second) = (buffer.writeRows first).writeRows second := by
  simp [writeRows, String.append_assoc]

/-- A line is a row in no body, so it starts at the level of the buffer. -/
theorem line_eq_writeRows (buffer : Buffer) (s : String) :
    buffer.line s = buffer.writeRows [.text 0 s] := by
  simp [line, writeRows, Row.textAt, String.append_assoc]

/-- So are many lines, as the lines of a documentation comment are. -/
theorem foldl_line_eq_writeRows (buffer : Buffer) (lines : List String) :
    lines.foldl line buffer = buffer.writeRows (lines.map (Row.text 0)) := by
  induction lines generalizing buffer with
  | nil => simp [writeRows]
  | cons s rest ih =>
    rw [List.foldl_cons, ih, line_eq_writeRows, ← writeRows_append]
    rfl

/-! ### The level around a body -/

/-- Some levels deeper. Every step adds one level and keeps the text. -/
theorem iterate_deeper (buffer : Buffer) (levels : Nat) :
    deeper^[levels] buffer = { buffer with level := buffer.level + levels } := by
  induction levels with
  | zero => rfl
  | succ levels ih => rw [Function.iterate_succ_apply', ih]; rfl

/-- Some levels back. Levels are natural numbers, so taking off more than there are leaves none.
-/
theorem iterate_shallower (buffer : Buffer) (levels : Nat) :
    shallower^[levels] buffer = { buffer with level := buffer.level - levels } := by
  induction levels with
  | zero => rfl
  | succ levels ih => rw [Function.iterate_succ_apply', ih]; rfl

/-- Going deeper for some rows and back puts these into as many bodies. What is taken off the level
has been put on it before, so that the level never stops at zero here. -/
theorem writeRows_inside (buffer : Buffer) (levels : Nat) (rows : List Row) :
    shallower^[levels] ((deeper^[levels] buffer).writeRows rows) =
      buffer.writeRows (rows.map (Row.inside levels)) := by
  simp [iterate_deeper, iterate_shallower, writeRows, Function.comp_def]

/-! ### Writing fragments -/

/-- A closing line is a row in no body, if there is one. It stands at the level of the header. -/
theorem closing_eq_writeRows (buffer : Buffer) (close : Option String) :
    buffer.closing close = buffer.writeRows (close.toList.map (Row.text 0)) := by
  cases close with
  | none => simp [closing, writeRows]
  | some close => exact buffer.line_eq_writeRows close

/-- A documentation comment is rows in no body: its first line, one for each of its lines, and its
last. -/
theorem docBlock_eq_writeRows (buffer : Buffer) (lines : List String) :
    buffer.docBlock lines =
      buffer.writeRows (("/**" :: lines.map docLine ++ [" */"]).map (Row.text 0)) := by
  rw [← foldl_line_eq_writeRows, List.foldl_append]
  rfl

mutual

/-- Writing a fragment is writing its rows. All that is said of texts of fragments comes from
this. -/
theorem write_eq_writeRows (buffer : Buffer) (fragment : Fragment) :
    buffer.write fragment = buffer.writeRows fragment.rows := by
  cases fragment with
  | line s => exact buffer.line_eq_writeRows s
  | blank => simp [write, blank, writeRows, Fragment.rows, Row.textAt]
  | block header body close =>
    -- The header and the closing line are at the level of the buffer, the body between them is not.
    have hbody : ((buffer.line header).deeper.writeAll body).shallower =
        buffer.writeRows (.text 0 header :: (rowsOf body).map (Row.inside 1)) := by
      rw [writeAll_eq_writeRows, line_eq_writeRows]
      exact (writeRows_inside _ 1 _).trans (buffer.writeRows_append _ _).symm
    rw [write, hbody, closing_eq_writeRows, ← writeRows_append, Fragment.rows]
  | indented body =>
    rw [write, writeAll_eq_writeRows]
    exact buffer.writeRows_inside 1 (rowsOf body)
  | sequence items => exact buffer.writeAll_eq_writeRows items
  | doc lines => exact buffer.docBlock_eq_writeRows lines
  | comment s => exact buffer.line_eq_writeRows (commentLine s)

/-- Writing fragments is writing their rows, so the level after them is the one before. -/
theorem writeAll_eq_writeRows (buffer : Buffer) (fragments : List Fragment) :
    buffer.writeAll fragments = buffer.writeRows (rowsOf fragments) := by
  cases fragments with
  | nil => simp [writeAll, writeRows, rowsOf]
  | cons fragment rest =>
    rw [writeAll, writeAll_eq_writeRows, write_eq_writeRows, ← writeRows_append, rowsOf]

end

/-- Fragments are written in their order. The recursion of `writeAll` and a fold are two ways to
say so. -/
theorem foldl_write (buffer : Buffer) (fragments : List Fragment) :
    fragments.foldl write buffer = buffer.writeAll fragments := by
  induction fragments generalizing buffer with
  | nil => rfl
  | cons fragment rest ih => exact ih (buffer.write fragment)

end Buffer

/-- A text whose first fragment is a line begins with this line: at level zero there is no margin.
-/
theorem exists_render_line (indent : Indent) (s : String) (rest : List Fragment) :
    ∃ more, render indent (.line s :: rest) = s ++ "\n" ++ more := by
  refine ⟨String.join ((rowsOf rest).map (Row.textAt indent 0)), ?_⟩
  rw [render, Buffer.writeAll_eq_writeRows]
  simp [Buffer.writeRows, rowsOf, Fragment.rows, Row.textAt, Indent.margin]

/-! ### A fragment inside others -/

/-- A fragment with one place left open among its parts. The parts before and after the place are
any fragments; lines and comments have no parts. -/
inductive Enclosure where
  | block (header : String) (before after : List Fragment) (close : Option String)
  | indented (before after : List Fragment)
  | sequence (before after : List Fragment)

namespace Enclosure

/-- Puts a fragment in the open place. What is said of nested fragments is said of an enclosure
and any fragment in it. -/
def enclose : Enclosure → Fragment → Fragment
  | block header before after close, fragment => .block header (before ++ fragment :: after) close
  | indented before after, fragment => .indented (before ++ fragment :: after)
  | sequence before after, fragment => .sequence (before ++ fragment :: after)

/-- The number of bodies that the open place is in. A sequence is no body of its own, so what is
in it stays at its level. -/
def bodies : Enclosure → Nat
  | block .. => 1
  | indented .. => 1
  | sequence .. => 0

/-- The number of bodies that the innermost open place of nested enclosures is in. The first
enclosure is the outermost. -/
def bodiesAround (enclosures : List Enclosure) : Nat :=
  enclosures.foldr (fun enclosure inside => enclosure.bodies + inside) 0

/-- The rows of the fragment in the open place, with those before and after it, which do not
depend on the fragment. -/
theorem exists_rows_enclose (enclosure : Enclosure) :
    ∃ before after : List Row, ∀ fragment : Fragment,
      (enclosure.enclose fragment).rows =
        before ++ fragment.rows.map (Row.inside enclosure.bodies) ++ after := by
  -- What comes before and after is read off the rows of each enclosure.
  cases enclosure with
  | block header before after close =>
    refine ⟨.text 0 header :: (rowsOf before).map (Row.inside 1),
      (rowsOf after).map (Row.inside 1) ++ close.toList.map (Row.text 0), fun fragment => ?_⟩
    simp [enclose, bodies, Fragment.rows, rowsOf_append, rowsOf]
  | indented before after =>
    refine ⟨(rowsOf before).map (Row.inside 1), (rowsOf after).map (Row.inside 1),
      fun fragment => ?_⟩
    simp [enclose, bodies, Fragment.rows, rowsOf_append, rowsOf]
  | sequence before after =>
    refine ⟨rowsOf before, rowsOf after, fun fragment => ?_⟩
    simp [enclose, bodies, Fragment.rows, rowsOf_append, rowsOf]

/-- The same for any number of enclosures, of which the first is the outermost. Their bodies add
up. -/
theorem exists_rows_foldr_enclose (enclosures : List Enclosure) :
    ∃ before after : List Row, ∀ fragment : Fragment,
      (enclosures.foldr enclose fragment).rows =
        before ++ fragment.rows.map (Row.inside (bodiesAround enclosures)) ++ after := by
  induction enclosures with
  | nil => exact ⟨[], [], fun fragment => by simp [bodiesAround]⟩
  | cons outer rest ih =>
    obtain ⟨before, after, hrows⟩ := ih
    obtain ⟨first, last, houter⟩ := outer.exists_rows_enclose
    -- The rows around the inner enclosures are inside the outer one, too.
    refine ⟨first ++ before.map (Row.inside outer.bodies),
      after.map (Row.inside outer.bodies) ++ last, fun fragment => ?_⟩
    rw [List.foldr_cons, houter, hrows]
    simp [bodiesAround]

end Enclosure

/-- What is written, for every buffer. A fragment adds its rows at the end, each at the level of the
buffer and the number of bodies it stands in, and leaves the rest of the buffer as it is. A list is
written like the sequence of it, a body like the list with the level changed around it, and a
fragment anywhere inside others like that fragment alone, at a level changed by the bodies around
it. -/
theorem Buffer.write_appends_rows (buffer : Buffer) :
    (∀ fragment : Fragment,
      buffer.write fragment =
        { buffer with
          text := buffer.text ++
            String.join (fragment.rows.map (Row.textAt buffer.indent buffer.level)) }) ∧
    (∀ items : List Fragment, items.foldl write buffer = buffer.write (.sequence items)) ∧
    (∀ body : List Fragment,
      buffer.write (.indented body) = (body.foldl write buffer.deeper).shallower) ∧
    (∀ enclosures : List Enclosure, ∃ before after : List Row, ∀ fragment : Fragment,
      buffer.write (enclosures.foldr Enclosure.enclose fragment) =
        (shallower^[Enclosure.bodiesAround enclosures]
          ((deeper^[Enclosure.bodiesAround enclosures] (buffer.writeRows before)).write
            fragment)).writeRows after) := by
  refine ⟨buffer.write_eq_writeRows, buffer.foldl_write, ?_, ?_⟩
  · intro body
    rw [foldl_write, write]
  · intro enclosures
    obtain ⟨before, after, hrows⟩ := Enclosure.exists_rows_foldr_enclose enclosures
    refine ⟨before, after, fun fragment => ?_⟩
    rw [write_eq_writeRows, write_eq_writeRows, hrows, writeRows_append, writeRows_append,
      writeRows_inside]

/-- A blank line in a body has no margin. -/
example : render .tab [.block "a = [" [.blank, .line "b,"] (some "]")] = "a = [\n\n\tb,\n]\n" := by
  decide

end StateTree.Layout
