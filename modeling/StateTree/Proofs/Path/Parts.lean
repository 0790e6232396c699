import Mathlib.Data.List.TakeDrop
import Mathlib.Data.List.TakeWhile
import StateTree.Path.Basic

/-!
# `StateTree.Proofs.Path.Parts`: the parts of a path and its text

- `Proper`: parts that can stand between slashes.
- `proper_parse`, `splitParts_intercalate`: a path has such parts, and they are read back from
  between the slashes.
- `isEmpty_parse_eq_false`: only the empty text is the empty path.
- `withoutExtension_cases`, `proper_withoutExtension`: a name with an extension, and what
  is left of it.
-/

set_option autoImplicit false

namespace StateTree

namespace Path

/-! ### Splitting and joining -/

/-- Parts that can stand between slashes: not empty, and without a slash. A list of such parts is
what comes out when its text is split again. -/
def Proper (parts : List String) : Prop :=
  ∀ part ∈ parts, part ≠ "" ∧ '/' ∉ part.toList

instance : DecidablePred Proper := fun parts =>
  inferInstanceAs (Decidable (∀ part ∈ parts, part ≠ "" ∧ '/' ∉ part.toList))

variable {part cs : List Char}

/-- A character other than a slash goes into the part that has begun. Parts are collected in
reverse, with the latest character first. -/
theorem splitParts_cons {c : Char} (hc : c ≠ '/') :
    splitParts part (c :: cs) = splitParts (c :: part) cs := by
  rw [splitParts, if_neg hc]

/-- A text without a slash goes into the part that has begun, however long it is. -/
theorem splitParts_append (h : '/' ∉ cs) (rest : List Char) :
    splitParts part (cs ++ rest) = splitParts (cs.reverse ++ part) rest := by
  induction cs generalizing part with
  | nil => rfl
  | cons c cs ih =>
    rw [List.mem_cons, not_or] at h
    rw [List.cons_append, splitParts_cons (Ne.symm h.1), ih h.2]
    simp

/-- A part ends with the text. The hypothesis says that there is one: nothing comes of two slashes
in a row, or of one at the end. -/
theorem splitParts_nil (h : part ≠ []) : splitParts part [] = [String.ofList part.reverse] := by
  cases part with
  | nil => exact absurd rfl h
  | cons c part => rfl

/-- A part ends with a slash, and the next one begins empty. -/
theorem splitParts_slash (h : part ≠ []) (rest : List Char) :
    splitParts part ('/' :: rest) = String.ofList part.reverse :: splitParts [] rest := by
  cases part with
  | nil => exact absurd rfl h
  | cons c part => rfl

/-- A part that has begun is one of the parts, so a text with any character but slashes has parts.
-/
theorem splitParts_ne_nil (h : part ≠ []) : splitParts part cs ≠ [] := by
  induction cs generalizing part with
  | nil => simp [splitParts_nil h]
  | cons c cs ih =>
    -- A slash gives out the part that is held, and any other character makes it longer.
    by_cases hc : c = '/'
    · subst hc
      rw [splitParts_slash h]
      exact List.cons_ne_nil _ _
    · rw [splitParts_cons hc]
      exact ih (List.cons_ne_nil c part)

/-- What stands before a slash is a part. It reads the first part off a path, for instance a point
or two. -/
theorem splitParts_name {name : String} (hname : name ≠ "") (hslash : '/' ∉ name.toList)
    (rest : List Char) :
    splitParts [] (name.toList ++ '/' :: rest) = name :: splitParts [] rest := by
  have hne : name.toList.reverse ++ [] ≠ [] := by simpa using hname
  rw [splitParts_append hslash, splitParts_slash hne]
  simp

/-- Parts with a slash between each two are read back. This is what makes a specifier lead where
its parts lead. -/
theorem splitParts_intercalate {parts : List String} (h : Proper parts) :
    splitParts [] ("/".intercalate parts).toList = parts := by
  induction parts with
  | nil => rfl
  | cons name parts ih =>
    obtain ⟨⟨hname, hslash⟩, hparts⟩ := List.forall_mem_cons.1 h
    rw [String.toList_intercalate] at ih ⊢
    cases parts with
    | nil =>
      have hne : name.toList.reverse ++ [] ≠ [] := by simpa using hname
      rw [List.map_singleton, List.intercalate_singleton, ← List.append_nil name.toList,
        splitParts_append hslash, splitParts_nil hne]
      simp
    | cons next parts =>
      -- The first part is followed by a slash, and the others are read as before.
      have hjoined := splitParts_name hname hslash
        (List.intercalate "/".toList ((next :: parts).map String.toList))
      rw [ih hparts] at hjoined
      rw [List.map_cons, List.map_cons, List.intercalate_cons_cons, List.append_assoc]
      exact hjoined

/-- The parts of a text are proper. In the induction the part that has begun must have no slash,
either. -/
theorem proper_splitParts (h : '/' ∉ part) : Proper (splitParts part cs) := by
  -- The part that is read is held in reverse. It has no slash by hypothesis, and is only given
  -- out if it is not empty.
  have hpart : ∀ {part : List Char}, part ≠ [] → '/' ∉ part →
      String.ofList part.reverse ≠ "" ∧ '/' ∉ (String.ofList part.reverse).toList := by
    intro part hne hslash
    exact ⟨fun h => hne (by simpa using h), by simpa using hslash⟩
  induction cs generalizing part with
  | nil =>
    cases part with
    | nil => simp [splitParts, Proper]
    | cons c part =>
      rw [splitParts_nil (List.cons_ne_nil c part)]
      simpa [Proper] using hpart (List.cons_ne_nil c part) h
  | cons c cs ih =>
    by_cases hc : c = '/'
    · subst hc
      cases part with
      | nil => exact ih h
      | cons c part =>
        rw [splitParts_slash (List.cons_ne_nil c part)]
        exact List.forall_mem_cons.2 ⟨hpart (List.cons_ne_nil c part) h, ih List.not_mem_nil⟩
    · rw [splitParts_cons hc]
      exact ih (by simp [Ne.symm hc, h])

/-- Only the empty text is the empty path. A text of slashes is the root. -/
theorem isEmpty_parse_eq_false {s : String} (h : s ≠ "") : (parse s).isEmpty = false := by
  have hne : s.toList ≠ [] := by simpa using h
  unfold isEmpty parse
  cases hs : s.toList with
  | nil => exact absurd hs hne
  | cons c cs =>
    by_cases hc : c = '/'
    · simp [hc]
    · simp [splitParts_cons hc, splitParts_ne_nil]

/-- The parts of a path that is read are proper, so a path can be written with slashes between its
parts and read again. -/
theorem proper_parse (s : String) : Proper (parse s).parts :=
  proper_splitParts List.not_mem_nil

end Path

/-! ### Extensions -/

/-- A name either stays as it is without its extension, or ends in a point and the extension, with
something before them. So a hidden name keeps what comes after its first point, and `..` stays as
well. -/
theorem withoutExtension_cases (name : String) :
    withoutExtension name = name ∨
      ∃ stem extension, name = stem ++ "." ++ extension ∧ stem ≠ "" ∧ '.' ∉ extension.toList ∧
        withoutExtension name = stem := by
  obtain ⟨reversed, rfl⟩ : ∃ reversed : List Char, name = String.ofList reversed.reverse :=
    ⟨name.toList.reverse, by simp⟩
  have hsplit := List.takeWhile_append_dropWhile (p := (· ≠ '.')) (l := reversed)
  have hextension : '.' ∉ reversed.takeWhile (· ≠ '.') :=
    fun h => by simpa using List.mem_takeWhile_imp h
  have hpoint := List.head?_dropWhile_not (· ≠ '.') reversed
  unfold withoutExtension
  rw [String.toList_ofList, List.reverse_reverse, List.span_eq_takeWhile_dropWhile]
  -- The extension goes from the end of the name to the last point.
  revert hsplit hextension hpoint
  generalize reversed.takeWhile (· ≠ '.') = extension
  generalize reversed.dropWhile (· ≠ '.') = rest
  rintro rfl hextension hpoint
  match rest with
  | [] => exact .inl rfl
  | point :: stem =>
    obtain rfl : point = '.' := by simpa using hpoint
    simp only
    split
    · exact .inl rfl
    · rename_i hkeep
      refine .inr ⟨String.ofList stem.reverse, String.ofList extension.reverse, ?_, ?_, ?_, rfl⟩
      · rw [← String.toList_inj]
        simp
      · intro hempty
        obtain rfl : stem = [] := by simpa using hempty
        simp at hkeep
      · simpa using hextension

/-- What is left of the last part of a path can stand between slashes, too: it is not empty, and
it has no slash that was not there before. -/
theorem Path.proper_withoutExtension {name : String} (h : Path.Proper [name]) :
    Path.Proper [withoutExtension name] := by
  obtain hsame | ⟨stem, extension, hname, hstem, -, hwithout⟩ := withoutExtension_cases name
  · rwa [hsame]
  · rw [hwithout]
    rintro part hpart
    obtain rfl := List.mem_singleton.1 hpart
    refine ⟨hstem, fun hslash => (h name (List.mem_singleton_self name)).2 ?_⟩
    rw [hname]
    simp [hslash]

end StateTree
