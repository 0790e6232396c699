import Mathlib.Data.List.Chain
import StateTree.Text.Lines

/-!
# `StateTree.Proofs.Text.Lines`: what the lines of a text leave out

The lines of a text, each with a line feed behind it again, are the text without the carriage
returns that stood before a line feed, one for each. So the text comes back exactly if there was
none.

- `Returnless`: texts without carriage returns.
- `KeepsReturns`: no line feed follows a carriage return; `keepsReturns_line_iff`: when this holds
  of a line with its line feed.
- `dropReturns`, `dropReturns_eq_self_iff`: a text without the carriage returns before line feeds.
- `newline_notMem_of_mem_lines`: no line has a line feed in it.
- `flatMap_linesFrom`, `toList_intercalate_lines`: what the lines of a text are put together to.
-/

set_option autoImplicit false

namespace StateTree.Text

variable {c : Char} {cs line rest : List Char}

/-- A text without carriage returns. Most texts of a file are such, and their lines lose nothing.
-/
def Returnless (s : String) : Prop :=
  '\r' ∉ s.toList

instance : DecidablePred Returnless := fun s =>
  inferInstanceAs (Decidable ('\r' ∉ s.toList))

@[simp]
theorem returnless_append_iff {s t : String} :
    Returnless (s ++ t) ↔ Returnless s ∧ Returnless t := by
  simp [Returnless]

/-- No line feed follows a carriage return. The name is for what the lines of such a text do: none
of them loses a character. -/
def KeepsReturns (cs : List Char) : Prop :=
  cs.IsChain fun c d => ¬ (c = '\r' ∧ d = '\n')

/-- Without a carriage return there is nothing to keep, whatever line feeds there are. -/
theorem keepsReturns_of_notMem (h : '\r' ∉ cs) : KeepsReturns cs := by
  refine List.isChain_iff_forall_rel_of_append_cons_cons.2 ?_
  rintro c d before after rfl ⟨rfl, -⟩
  simp at h

/-- A front without a carriage return does not count, even if a line feed follows it. -/
theorem keepsReturns_append_of_notMem (h : '\r' ∉ line) :
    KeepsReturns (line ++ rest) ↔ KeepsReturns rest := by
  rw [KeepsReturns, List.isChain_append]
  refine ⟨fun hall => hall.2.1, fun hrest => ⟨keepsReturns_of_notMem h, hrest, ?_⟩⟩
  rintro c hc d - ⟨rfl, -⟩
  exact h (List.mem_of_getLast? hc)

/-- Nor does a rest without a carriage return that does not begin with a line feed. A line feed at
its front would take a carriage return at the end of the other text. -/
theorem keepsReturns_append_of_head?_ne (hrest : '\r' ∉ rest) (hhead : rest.head? ≠ some '\n') :
    KeepsReturns (line ++ rest) ↔ KeepsReturns line := by
  rw [KeepsReturns, List.isChain_append]
  refine ⟨fun hall => hall.1, fun hline => ⟨hline, keepsReturns_of_notMem hrest, ?_⟩⟩
  rintro c - d hd ⟨-, rfl⟩
  exact hhead hd

/-- A text falls into parts behind a line feed: no carriage return before it stands before a line
feed after it. -/
theorem keepsReturns_append_newline_iff :
    KeepsReturns (line ++ ['\n'] ++ rest) ↔ KeepsReturns (line ++ ['\n']) ∧ KeepsReturns rest := by
  rw [KeepsReturns, List.isChain_append]
  refine ⟨fun h => ⟨h.1, h.2.1⟩, fun h => ⟨h.1, h.2, ?_⟩⟩
  rintro c hc d - ⟨rfl, -⟩
  simp at hc

/-- One line with its line feed, which takes a carriage return only from the end of the line. -/
theorem keepsReturns_line_iff (h : '\n' ∉ line) :
    KeepsReturns (line ++ ['\n']) ↔ line.getLast? ≠ some '\r' := by
  -- Inside the line there is no line feed.
  have hline : KeepsReturns line := by
    refine List.isChain_iff_forall_rel_of_append_cons_cons.2 ?_
    rintro c d before after rfl ⟨-, rfl⟩
    simp at h
  rw [KeepsReturns, List.isChain_append]
  constructor
  · intro hall hlast
    exact hall.2.2 '\r' hlast '\n' rfl ⟨rfl, rfl⟩
  · intro hlast
    refine ⟨hline, List.isChain_singleton _, ?_⟩
    rintro c hc d - ⟨rfl, -⟩
    exact hlast hc

/-- A text without the carriage returns that stand before line feeds, one for each of these. Of
two before one line feed, the first is kept. -/
def dropReturns : List Char → List Char
  | '\r' :: '\n' :: rest => '\n' :: dropReturns rest
  | c :: rest => c :: dropReturns rest
  | [] => []

/-- Where no carriage return stands before a line feed, the character stays. It is the second
equation of the definition, as a condition on one character and the next. -/
theorem dropReturns_cons (h : ¬ (c = '\r' ∧ rest.head? = some '\n')) :
    dropReturns (c :: rest) = c :: dropReturns rest := by
  rw [dropReturns]
  rintro rest' rfl rfl
  exact h ⟨rfl, rfl⟩

/-- A text does not get empty: a line feed is always kept. -/
theorem dropReturns_eq_nil_iff : dropReturns cs = [] ↔ cs = [] := by
  fun_cases dropReturns cs <;> simp

/-- Nothing is taken out exactly if no carriage return stands before a line feed. With
`toList_intercalate_lines` it tells which texts come back from their lines. -/
theorem dropReturns_eq_self_iff : dropReturns cs = cs ↔ KeepsReturns cs := by
  fun_induction dropReturns cs with
  | case1 rest ih => exact iff_of_false (by simp) (by simp [KeepsReturns])
  | case2 c rest hpair ih =>
    -- The pair is excluded at the front by the case, and further back by the induction.
    have hhead : ∀ d ∈ rest.head?, ¬ (c = '\r' ∧ d = '\n') := by
      rintro d hd ⟨rfl, rfl⟩
      obtain ⟨rest, rfl⟩ := List.head?_eq_some_iff.1 hd
      exact hpair rest rfl rfl
    rw [List.cons_inj_right, ih, KeepsReturns, KeepsReturns, List.isChain_cons]
    exact ⟨fun h => ⟨hhead, h⟩, And.right⟩
  | case3 => exact iff_of_true rfl .nil

/-- A line stays up to its end, unless this is a carriage return with a line feed behind it. -/
theorem dropReturns_append (hline : '\n' ∉ line)
    (h : line.getLast? = some '\r' → rest.head? ≠ some '\n') :
    dropReturns (line ++ rest) = line ++ dropReturns rest := by
  induction line with
  | nil => rfl
  | cons c line ih =>
    rw [List.mem_cons, not_or] at hline
    -- A character is dropped for the one behind it, so the last of the line is the only one to
    -- meet the rest.
    cases line with
    | nil => exact dropReturns_cons fun hpair => h (by rw [hpair.1]; rfl) hpair.2
    | cons d line =>
      have hd : d ≠ '\n' := fun hd => hline.2 (hd ▸ List.mem_cons_self)
      rw [List.cons_append, dropReturns_cons (by simp [hd]), ih hline.2 (by simpa using h)]
      rfl

/-- A line that is read in reverse loses one carriage return at its end. Lines are collected in
reverse, so this is the form in which they meet `dropReturn`. -/
theorem dropReturns_reverse_append (hline : '\n' ∉ line) (rest : List Char) :
    dropReturns (line.reverse ++ '\n' :: rest) =
      (dropReturn line).reverse ++ '\n' :: dropReturns rest := by
  have hfeed : dropReturns ('\n' :: rest) = '\n' :: dropReturns rest :=
    dropReturns_cons (by simp)
  -- The line is held in reverse, so its last character is the first. If it is a carriage return,
  -- it goes with the line feed.
  unfold dropReturn
  split
  · rename_i line
    have hinit : '\n' ∉ line.reverse := by simpa using hline
    rw [List.reverse_cons, List.append_assoc]
    exact dropReturns_append hinit (by simp)
  · rename_i hreturn
    have hlast : line.reverse.getLast? ≠ some '\r' := by
      rw [List.getLast?_reverse, Ne, List.head?_eq_some_iff]
      rintro ⟨line, rfl⟩
      exact hreturn line rfl
    rw [dropReturns_append (by simpa using hline) fun h => absurd h hlast, hfeed]

/-- The lines of a text that ends in a line feed, each with a line feed behind it. The first of
them is what has been collected before the text. -/
theorem flatMap_linesFrom (hline : '\n' ∉ line) (cs : List Char) :
    (linesFrom line (cs ++ ['\n'])).flatMap (fun line => line ++ ['\n']) =
      dropReturns (line.reverse ++ (cs ++ ['\n'])) := by
  induction cs generalizing line with
  | nil =>
    have hlines : linesFrom line ['\n'] = [(dropReturn line).reverse] := by
      simp [linesFrom]
    rw [List.nil_append, hlines, dropReturns_reverse_append hline, List.flatMap_singleton]
    rfl
  | cons c cs ih =>
    rw [List.cons_append, linesFrom]
    split
    · rename_i hc
      -- A line feed ends the line that is held, and the next one begins with nothing.
      rw [hc, dropReturns_reverse_append hline, List.flatMap_cons, ih List.not_mem_nil]
      simp
    · rename_i hc
      rw [ih (by simp [hline, Ne.symm hc])]
      simp

/-- No line has a line feed in it. What has been collected must not have one either. -/
theorem newline_notMem_of_mem_linesFrom (hline : '\n' ∉ line) {made : List Char}
    (h : made ∈ linesFrom line cs) : '\n' ∉ made := by
  induction cs generalizing line with
  | nil =>
    cases line with
    | nil => cases h
    | cons c line =>
      obtain rfl := List.mem_singleton.1 h
      exact fun hmem => hline (List.mem_reverse.1 hmem)
  | cons c cs ih =>
    rw [linesFrom] at h
    split at h
    · rcases List.mem_cons.1 h with rfl | h
      -- A line is made of what is held, without a carriage return at the end of it.
      · have hdrop : (dropReturn line) <:+ line := by
          unfold dropReturn
          split
          · exact List.suffix_cons _ _
          · exact List.suffix_refl _
        rw [List.mem_reverse]
        exact fun hmem => hline (hdrop.subset hmem)
      · exact ih List.not_mem_nil h
    · rename_i hc
      exact ih (by simp [hline, Ne.symm hc]) h

/-- No line of a text has a line feed in it, so lines of a description stay lines of a comment. -/
theorem newline_notMem_of_mem_lines {s line : String} (h : line ∈ lines s) :
    '\n' ∉ line.toList := by
  obtain ⟨made, hmade, rfl⟩ := List.mem_map.1 h
  rw [String.toList_ofList]
  exact newline_notMem_of_mem_linesFrom List.not_mem_nil hmade

/-- Texts with a separator between each two and one at the end have it behind each of them. -/
theorem intercalate_append_self {sep : List Char} {parts : List (List Char)} (h : parts ≠ []) :
    List.intercalate sep parts ++ sep = parts.flatMap fun part => part ++ sep := by
  induction parts with
  | nil => exact absurd rfl h
  | cons part parts ih =>
    cases parts with
    | nil => simp
    | cons next parts =>
      rw [List.intercalate_cons_cons, List.append_assoc, ih (List.cons_ne_nil _ _)]
      rfl

/-- The lines of a text that ends in a line feed, put together with line feeds between them and one
at the end, are the text without the carriage returns before line feeds. -/
theorem toList_intercalate_lines {s : String} (hs : s.toList.getLast? = some '\n') :
    ("\n".intercalate (lines s) ++ "\n").toList = dropReturns s.toList := by
  obtain ⟨front, hfront⟩ := List.getLast?_eq_some_iff.1 hs
  have hjoined := flatMap_linesFrom List.not_mem_nil front
  rw [← hfront, List.reverse_nil, List.nil_append] at hjoined
  -- A text that ends in a line feed has a line.
  have hne : linesFrom [] s.toList ≠ [] := by
    intro hnil
    rw [hnil, List.flatMap_nil, eq_comm, dropReturns_eq_nil_iff, hfront] at hjoined
    exact List.append_ne_nil_of_right_ne_nil front (List.cons_ne_nil _ _) hjoined
  have hlines : (lines s).map String.toList = linesFrom [] s.toList := by
    rw [lines, List.map_map]
    simp [Function.comp_def]
  rw [String.toList_append, String.toList_intercalate, hlines, ← hjoined]
  exact intercalate_append_self hne

end StateTree.Text
