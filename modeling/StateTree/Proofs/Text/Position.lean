import Mathlib.Data.List.DropRight
import StateTree.Text.Position

/-!
# `StateTree.Proofs.Text.Position`: lines and columns are told from places and back

The line of a place in a text is one more than the line feeds before it, and its column is one more
than the bytes between the beginning of this line and the place. A place is any number of bytes up
to those of the text, also where it falls into a character. From its line and column the place is
found again. Other lines and columns lead to a place in the text, too, as long as there is such a
line.

- `count_lineFeed_bytes`: the line feeds among the bytes of a text are those among its characters.
- `LineBegins`: a line begins behind some bytes.
- `lineStart?_eq_some_iff`, `lineStart?_eq_none_iff`: where the lines of a text begin.
- `lineAt`, `columnAt`: the line and column of a place.
- `lines_and_columns_tell_places`: all this of the places of a text.
-/

set_option autoImplicit false

namespace StateTree.Text

/-! ### The bytes of a text -/

/-- The byte of a line feed. -/
def lineFeed : UInt8 := 0x0A

/-- The bytes of characters one after the other, in the encoding that texts have. -/
def bytes (cs : List Char) : List UInt8 :=
  cs.flatMap String.utf8EncodeChar

theorem bytes_cons (c : Char) (cs : List Char) :
    bytes (c :: cs) = String.utf8EncodeChar c ++ bytes cs := rfl

/-- The bytes of the characters of a text are its bytes. Lines are looked for in characters, and
places are in bytes. -/
theorem bytes_toList (src : String) : bytes src.toList = src.toByteArray.data.toList := by
  have hencode : src.toList.utf8Encode = src.toByteArray := by
    rw [← String.toByteArray_ofList, String.ofList_toList]
  rw [← hencode, List.utf8Encode, List.toList_data_toByteArray]
  rfl

theorem length_bytes (cs : List Char) : (bytes cs).length = byteLength cs := by
  induction cs with
  | nil => rfl
  | cons c rest ih =>
    rw [bytes_cons, List.length_append, ih, String.length_utf8EncodeChar, byteLength]

/-- The length of a text in bytes is that of its characters. The sum is what the search computes.
-/
theorem byteLength_toList (src : String) : byteLength src.toList = src.utf8ByteSize := by
  rw [← length_bytes, bytes_toList, Array.length_toList]
  rfl

/-- A character of several bytes has no byte of a line feed: all of them are greater. This is what
makes a place inside a character harmless. -/
theorem lineFeed_notMem_utf8EncodeChar {c : Char} (hc : ¬ c.toNat ≤ 0x7F) :
    lineFeed ∉ String.utf8EncodeChar c := by
  have hbyte {n : Nat} (hlow : 0x80 ≤ n) (hhigh : n < 0x100) : lineFeed ≠ UInt8.ofNat n := by
    intro h
    have hn : 10 = n % 256 := congrArg UInt8.toNat h
    omega
  -- Beyond ASCII every byte of a character has its high bit set.
  fun_cases String.utf8EncodeChar c with
  | case1 v hv => exact absurd hv hc
  | case2 v =>
    simp only [List.mem_cons, List.not_mem_nil, or_false, not_or]
    exact ⟨hbyte (by omega) (by omega), hbyte (by omega) (by omega)⟩
  | case3 v =>
    simp only [List.mem_cons, List.not_mem_nil, or_false, not_or]
    exact ⟨hbyte (by omega) (by omega), hbyte (by omega) (by omega), hbyte (by omega) (by omega)⟩
  | case4 v =>
    simp only [List.mem_cons, List.not_mem_nil, or_false, not_or]
    exact ⟨hbyte (by omega) (by omega), hbyte (by omega) (by omega), hbyte (by omega) (by omega),
      hbyte (by omega) (by omega)⟩

/-- A line feed is one byte, which no other character has. -/
theorem count_lineFeed_utf8EncodeChar (c : Char) :
    (String.utf8EncodeChar c).count lineFeed = if c = '\n' then 1 else 0 := by
  -- A character of ASCII is one byte with its own number.
  by_cases hc : c.toNat ≤ 0x7F
  · have hsingle : String.utf8EncodeChar c = [UInt8.ofNat c.toNat] := if_pos hc
    have hfeed : UInt8.ofNat c.toNat = lineFeed ↔ c = '\n' := by
      rw [← UInt8.toNat_inj, UInt8.toNat_ofNat', Nat.mod_eq_of_lt (by omega), ← Char.toNat_inj]
      rfl
    simp [hsingle, List.count_singleton, hfeed]
  · have hother : c ≠ '\n' := by
      rintro rfl
      exact hc (by decide)
    rw [List.count_eq_zero.2 (lineFeed_notMem_utf8EncodeChar hc), if_neg hother]

/-- The line feeds among the bytes of a text are those among its characters. So lines can be
counted in either. -/
theorem count_lineFeed_bytes (cs : List Char) : (bytes cs).count lineFeed = cs.count '\n' := by
  induction cs with
  | nil => rfl
  | cons c rest ih =>
    rw [bytes_cons, List.count_append, count_lineFeed_utf8EncodeChar, ih, List.count_cons]
    simp [Nat.add_comm]

/-! ### Where lines begin -/

section

variable {front other more before : List UInt8} {cs : List Char} {line start : Nat}

/-- A line begins behind some bytes if there are none, or the last one is a line feed. It is the
same as that the last line of them is empty. -/
def LineBegins (before : List UInt8) : Prop :=
  before.rtakeWhile (· != lineFeed) = []

theorem lineBegins_iff :
    LineBegins before ↔ ∀ h : before ≠ [], before.getLast h = lineFeed := by
  simp [LineBegins, List.rtakeWhile_eq_nil_iff]

/-- Bytes at the front do not count. It is used to go forward in a text, character by character.
-/
theorem lineBegins_append_iff (hne : more ≠ []) :
    LineBegins (before ++ more) ↔ LineBegins more := by
  rw [lineBegins_iff, lineBegins_iff]
  constructor
  · intro h _
    rw [← h (List.append_ne_nil_of_right_ne_nil before hne), List.getLast_append_of_ne_nil _ hne]
  · intro h _
    rw [List.getLast_append_of_ne_nil _ hne, h hne]

/-- Without a line feed there is no line but the one at the beginning. -/
theorem LineBegins.eq_nil (h : LineBegins before) (hcount : before.count lineFeed = 0) :
    before = [] := by
  by_contra hne
  have hlast := lineBegins_iff.1 h hne
  exact List.count_eq_zero.1 hcount (hlast ▸ List.getLast_mem hne)

/-- Only one line begins behind each number of line feeds. So the search for a line finds the line
that it should. -/
theorem LineBegins.eq_of_count_eq (hfront : LineBegins front) (hother : LineBegins other)
    (hcount : front.count lineFeed = other.count lineFeed) (h : front <+: before)
    (h' : other <+: before) : front = other := by
  -- The longer of the two has no line feed behind the shorter one, so it is not longer.
  have hshorter : ∀ {p q : List UInt8}, LineBegins q → p.count lineFeed = q.count lineFeed →
      p <+: q → p = q := by
    rintro p _ hq hcount ⟨more, rfl⟩
    rw [List.count_append] at hcount
    by_cases hne : more = []
    · rw [hne, List.append_nil]
    · exact absurd (((lineBegins_append_iff hne).1 hq).eq_nil (by omega)) hne
  rcases List.prefix_or_prefix_of_prefix h h' with hle | hle
  · exact hshorter hother hcount hle
  · exact (hshorter hfront hcount.symm hle).symm

/-- There is a line behind each line feed, and one before them all. Nothing is found exactly if
there are too few line feeds. -/
theorem lineStart?_eq_none_iff : lineStart? line cs = none ↔ cs.count '\n' < line := by
  fun_induction lineStart? line cs with
  | case1 cs => simp
  | case2 line => simp
  | case3 line c rest ih =>
    rw [Option.map_eq_none_iff, ih, List.count_cons]
    by_cases hc : c = '\n' <;> simp [hc]

/-- A line that is found begins there, and has as many line feeds before it as it should. -/
theorem exists_of_lineStart?_eq_some (h : lineStart? line cs = some start) :
    ∃ front back, bytes cs = front ++ back ∧ front.length = start ∧
      front.count lineFeed = line ∧ LineBegins front := by
  -- Along the search: at the line, at the end of the text, or before a character to skip.
  fun_induction lineStart? line cs generalizing start with
  | case1 cs =>
    obtain rfl : 0 = start := Option.some.inj h
    exact ⟨[], bytes cs, rfl, rfl, rfl, rfl⟩
  | case2 line => cases h
  | case3 line c rest ih =>
    obtain ⟨shorter, hrest, rfl⟩ := Option.map_eq_some_iff.1 h
    obtain ⟨front, back, hbytes, rfl, hcount, hbegins⟩ := ih hrest
    refine ⟨String.utf8EncodeChar c ++ front, back, ?_, ?_, ?_, ?_⟩
    · rw [bytes_cons, hbytes, List.append_assoc]
    · rw [List.length_append, String.length_utf8EncodeChar]
    · rw [List.count_append, count_lineFeed_utf8EncodeChar, hcount]
      split <;> omega
    · by_cases hne : front = []
      · -- Nothing is left to skip behind the character, so it is the line feed.
        subst hne
        rw [List.count_nil] at hcount
        split at hcount
        · rename_i hc
          rw [hc]
          rfl
        · omega
      · exact (lineBegins_append_iff hne).2 hbegins

/-- A line begins where the bytes before it end with a line feed and have the right number of
them. Of the two ways to speak of a line, this leads from the place to the search. -/
theorem lineStart?_length {back : List UInt8} (hbytes : bytes cs = front ++ back)
    (hbegins : LineBegins front) :
    lineStart? (front.count lineFeed) cs = some front.length := by
  have hfound : lineStart? (front.count lineFeed) cs ≠ none := by
    rw [Ne, lineStart?_eq_none_iff, ← count_lineFeed_bytes, hbytes, List.count_append]
    omega
  -- A line is found, and there is only one that it can be.
  obtain ⟨start, hstart⟩ := Option.ne_none_iff_exists'.1 hfound
  obtain ⟨other, rest, hother, rfl, hcount, hbegins'⟩ := exists_of_lineStart?_eq_some hstart
  have hsame : front = other :=
    hbegins.eq_of_count_eq hbegins' hcount.symm ⟨back, hbytes.symm⟩ ⟨rest, hother.symm⟩
  rw [hstart, hsame]

end

/-! ### Lines and columns -/

/-- The bytes of a text before a place. The place may fall into a character, and then the first
bytes of the character are among them. -/
def bytesBefore (src : String) (offset : Nat) : List UInt8 :=
  src.toByteArray.data.toList.take offset

/-- The line of a place, counted from one: there is one more than line feeds before the place. It
is what a position is, independent of how one is found. -/
def lineAt (src : String) (offset : Nat) : Nat :=
  1 + (bytesBefore src offset).count lineFeed

/-- The column of a place, counted from one: the bytes between the last line feed before the place
and the place, or all bytes before the place if there is no line feed among them. -/
def columnAt (src : String) (offset : Nat) : Nat :=
  1 + ((bytesBefore src offset).rtakeWhile (· != lineFeed)).length

theorem lineColumnOffset?_one_add (src : List Char) (line column : Nat) :
    lineColumnOffset? src (1 + line) column =
      (lineStart? line src).map fun start => min (start + (column - 1)) (byteLength src) := by
  rw [Nat.add_comm]
  rfl

/-- The bytes before a place fall into those before its line and those before it in the line. The
line and the column count the two parts. -/
theorem exists_bytesBefore_eq (src : String) (offset : Nat) :
    ∃ front inLine, bytesBefore src offset = front ++ inLine ∧ LineBegins front ∧
      lineAt src offset = 1 + front.count lineFeed ∧ columnAt src offset = 1 + inLine.length := by
  have hsplit := @List.rdropWhile_append_rtakeWhile _ (· != lineFeed) (bytesBefore src offset)
  refine ⟨_, _, hsplit.symm, ?_, ?_, rfl⟩
  · exact List.rtakeWhile_eq_nil_iff.2 fun hne => List.rdropWhile_last_not _ _ hne
  · -- There is no line feed in the line, so only those before it count.
    have hinLine : ((bytesBefore src offset).rtakeWhile (· != lineFeed)).count lineFeed = 0 := by
      rw [List.count_eq_zero]
      intro hmem
      simpa using List.mem_rtakeWhile_imp hmem
    rw [lineAt, ← congrArg (List.count lineFeed) hsplit, List.count_append, hinLine, Nat.add_zero]

/-- A place in a text is found again by its line and column. The end of the text is such a place,
too. -/
theorem lineColumnOffset?_place {src : String} {offset : Nat} (h : offset ≤ src.utf8ByteSize) :
    lineColumnOffset? src.toList (lineAt src offset) (columnAt src offset) = some offset := by
  obtain ⟨front, inLine, hbefore, hbegins, hline, hcolumn⟩ := exists_bytesBefore_eq src offset
  have hbytes : bytes src.toList = front ++ (inLine ++ (bytes src.toList).drop offset) := by
    rw [← List.append_assoc, ← hbefore, bytesBefore, ← bytes_toList, List.take_append_drop]
  have hlength : front.length + inLine.length = offset := by
    rw [← List.length_append, ← hbefore, bytesBefore, ← bytes_toList, List.length_take,
      length_bytes, byteLength_toList, Nat.min_eq_left h]
  rw [hline, hcolumn, lineColumnOffset?_one_add, lineStart?_length hbytes hbegins,
    byteLength_toList, Option.map_some, Nat.add_sub_cancel_left, hlength, Nat.min_eq_left h]

/-- No place is found exactly if there is no such line. No column is refused. -/
theorem lineColumnOffset?_eq_none_iff {src : List Char} {line column : Nat} :
    lineColumnOffset? src line column = none ↔ line = 0 ∨ src.count '\n' + 1 < line := by
  cases line with
  | zero => simp [lineColumnOffset?]
  | succ line =>
    rw [Nat.add_comm, lineColumnOffset?_one_add, Option.map_eq_none_iff, lineStart?_eq_none_iff]
    omega

/-- A place that is found is as far behind the beginning of its line as the column says, but not
behind the end of the text. It may be in a later line, if the column is behind the end of this
one. -/
theorem exists_of_lineColumnOffset?_eq_some {src : String} {line column offset : Nat}
    (h : lineColumnOffset? src.toList line column = some offset) :
    ∃ start ≤ src.utf8ByteSize, lineAt src start = line ∧ columnAt src start = 1 ∧
      offset = min (start + (column - 1)) src.utf8ByteSize := by
  cases line with
  | zero => cases h
  | succ line =>
    rw [Nat.add_comm, lineColumnOffset?_one_add] at h
    obtain ⟨start, hstart, rfl⟩ := Option.map_eq_some_iff.1 h
    -- The line starts behind as many line feeds as lines come before it.
    obtain ⟨front, back, hbytes, rfl, hcount, hbegins⟩ := exists_of_lineStart?_eq_some hstart
    have hbefore : bytesBefore src front.length = front := by
      rw [bytesBefore, ← bytes_toList, hbytes, List.take_left]
    refine ⟨front.length, ?_, ?_, ?_, ?_⟩
    · rw [← byteLength_toList, ← length_bytes, hbytes, List.length_append]
      omega
    · rw [lineAt, hbefore, hcount, Nat.add_comm]
    · rw [columnAt, hbefore, hbegins, List.length_nil]
    · rw [byteLength_toList]

/-- Each place of a text, its end included, is found again by its line and column. For all lines and
columns there is no place exactly if there is no such line, be it line zero or one behind the last.
Any other place is as far behind the beginning of the line as the column says, or at the end of the
text if that is nearer. -/
theorem lines_and_columns_tell_places (src : String) :
    (∀ offset ≤ src.utf8ByteSize,
      lineColumnOffset? src.toList (lineAt src offset) (columnAt src offset) = some offset) ∧
    ∀ line column,
      (lineColumnOffset? src.toList line column = none ↔
        line = 0 ∨ src.toList.count '\n' + 1 < line) ∧
      ∀ offset, lineColumnOffset? src.toList line column = some offset →
        offset ≤ src.utf8ByteSize ∧
        ∃ start ≤ src.utf8ByteSize, lineAt src start = line ∧ columnAt src start = 1 ∧
          offset = min (start + (column - 1)) src.utf8ByteSize := by
  refine ⟨fun offset => lineColumnOffset?_place, fun line column => ⟨?_, ?_⟩⟩
  · exact lineColumnOffset?_eq_none_iff
  · intro offset h
    obtain ⟨start, hstart, hline, hcolumn, rfl⟩ := exists_of_lineColumnOffset?_eq_some h
    exact ⟨Nat.min_le_right _ _, start, hstart, hline, hcolumn, rfl⟩

/-- The place in the middle of `é`, on the third of four lines, the second and last of which are
empty; and a column behind the end. -/
theorem place_in_accent :
    (5 ≤ "a\n\nbé\n".utf8ByteSize ∧
      lineColumnOffset? "a\n\nbé\n".toList 3 3 = some 5) ∧
    (lineColumnOffset? "a\n\nbé\n".toList 4 9 = some 7 ∧ 7 ≤ "a\n\nbé\n".utf8ByteSize) := by
  obtain ⟨hplaces, hothers⟩ := lines_and_columns_tell_places "a\n\nbé\n"
  have hsize : 5 ≤ "a\n\nbé\n".utf8ByteSize := by decide
  have hfound : lineColumnOffset? "a\n\nbé\n".toList 4 9 = some 7 := by decide
  exact ⟨⟨hsize, hplaces 5 hsize⟩, hfound, ((hothers 4 9).2 7 hfound).1⟩

end StateTree.Text
