import StateTree.Keyed

/-!
# `StateTree.Proofs.Keyed`: values under distinct names

- `firstRepeated?_eq_some_iff`, `firstRepeated?_eq_none_iff`: the first text of a list that came
  before in it.
- `Distinct.items_ofList`: texts that are distinct already.
- `eraseDups_of_nodup`, `eraseDups_append_singleton`: the first occurrences in a list.
- `Keyed.names_update`, `Keyed.names_insert`: the names after a change.
- `Keyed.mem_entries_update`, `Keyed.mem_entries_insert`: the values after a change.
-/

set_option autoImplicit false

namespace StateTree

/-! ### Repetitions -/

variable {seen items : List String} {s : String}

/-- The first text that came before in a list or was seen before it: those before it are neither.
What was seen is kept distinct, so that the texts before the repetition and those seen can be
counted as one list. -/
theorem firstRepeated?_go_eq_some_iff (hseen : seen.Nodup) :
    firstRepeated?.go seen items = some s ↔
      ∃ before after, items = before ++ s :: after ∧ (before ++ seen).Nodup ∧
        s ∈ before ++ seen := by
  -- The head of the list goes over to what was seen, in front of it. `List.perm_middle` takes
  -- this back for the texts before the repetition.
  induction items generalizing seen with
  | nil => simp [firstRepeated?.go]
  | cons head rest ih =>
    rw [firstRepeated?.go]
    by_cases hhead : head ∈ seen
    · rw [if_pos hhead]
      constructor
      · rintro ⟨⟩
        exact ⟨[], rest, rfl, hseen, hhead⟩
      · rintro ⟨before, after, hsplit, hnodup, -⟩
        cases before with
        | nil =>
          obtain ⟨rfl, -⟩ := List.cons.inj hsplit
          rfl
        | cons first before =>
          -- What comes before the repetition would begin with the head, which was seen.
          obtain ⟨rfl, -⟩ := List.cons.inj hsplit
          exact absurd (by simp [hhead]) (List.nodup_cons.1 hnodup).1
    · -- The head has been seen from here on; in a split of the whole list it stands in front.
      rw [if_neg hhead, ih (List.nodup_cons.2 ⟨hhead, hseen⟩)]
      constructor
      · rintro ⟨before, after, rfl, hnodup, hs⟩
        exact ⟨head :: before, after, rfl, List.perm_middle.nodup_iff.1 hnodup,
          List.perm_middle.mem_iff.1 hs⟩
      · rintro ⟨before, after, hsplit, hnodup, hs⟩
        cases before with
        | nil =>
          obtain ⟨rfl, -⟩ := List.cons.inj hsplit
          exact absurd hs hhead
        | cons first before =>
          obtain ⟨rfl, rfl⟩ := List.cons.inj hsplit
          exact ⟨before, after, rfl, List.perm_middle.nodup_iff.2 hnodup,
            List.perm_middle.mem_iff.2 hs⟩

/-- The first repetition of a list: all before it are distinct, and it is one of them. A defect of
an enum names this text. -/
theorem firstRepeated?_eq_some_iff :
    firstRepeated? items = some s ↔
      ∃ before after, items = before ++ s :: after ∧ before.Nodup ∧ s ∈ before := by
  rw [firstRepeated?, firstRepeated?_go_eq_some_iff List.nodup_nil]
  simp only [List.append_nil]

/-- Nothing comes twice or was seen before if all the texts are distinct. As above, what was seen
counts as part of the list. -/
theorem firstRepeated?_go_eq_none_iff (hseen : seen.Nodup) :
    firstRepeated?.go seen items = none ↔ (items ++ seen).Nodup := by
  induction items generalizing seen with
  | nil => simpa [firstRepeated?.go] using hseen
  | cons head rest ih =>
    rw [firstRepeated?.go]
    by_cases hhead : head ∈ seen
    · simp [hhead]
    · rw [if_neg hhead, ih (List.nodup_cons.2 ⟨hhead, hseen⟩), List.perm_middle.nodup_iff]
      rfl

/-- A list is without a repetition if its texts are distinct, so the check of an enum decides
this. -/
theorem firstRepeated?_eq_none_iff : firstRepeated? items = none ↔ items.Nodup := by
  rw [firstRepeated?, firstRepeated?_go_eq_none_iff List.nodup_nil, List.append_nil]

namespace Distinct

/-- A new text goes to the end, so the order of a collection is that of the first occurrences. -/
theorem items_insert_of_notMem {distinct : Distinct} {s : String} (h : s ∉ distinct.items) :
    (distinct.insert s).items = distinct.items ++ [s] := by
  rw [insert, dif_neg h]

/-- New distinct texts go to the end in their order. The collection that they are added to is
left open for the induction; `items_ofList` starts from the empty one. -/
theorem items_foldl_insert {items : List String} {distinct : Distinct} (hnodup : items.Nodup)
    (hnew : ∀ s ∈ items, s ∉ distinct.items) :
    (items.foldl insert distinct).items = distinct.items ++ items := by
  induction items generalizing distinct with
  | nil => simp
  | cons s items ih =>
    obtain ⟨hfresh, hnodup⟩ := List.nodup_cons.1 hnodup
    have hs := items_insert_of_notMem (hnew s (by simp))
    rw [List.foldl_cons, ih hnodup, hs, List.append_assoc, List.singleton_append]
    -- The texts after the first one are new to the collection that now has it, being distinct
    -- from it.
    intro t ht
    rw [hs, List.mem_append, List.mem_singleton, not_or]
    exact ⟨hnew t (by simp [ht]), fun h => hfresh (h ▸ ht)⟩

/-- Texts that are distinct already stay as they are. -/
theorem items_ofList {items : List String} (h : items.Nodup) : (ofList items).items = items := by
  rw [ofList, items_foldl_insert h (by simp), List.nil_append]

/-- Two collections of the same texts in the same order are one, since the proof that they are
distinct makes no difference. -/
theorem eq_of_items_eq {distinct distinct' : Distinct} (h : distinct.items = distinct'.items) :
    distinct = distinct' := by
  cases distinct
  cases distinct'
  simp only [mk.injEq]
  exact h

end Distinct

/-! ### First occurrences -/

/-- Texts that are distinct already all occur first. A declared enum has distinct cases, so
nothing is lost when a draft collects them again. -/
theorem eraseDups_of_nodup {items : List String} (h : items.Nodup) : items.eraseDups = items := by
  induction items with
  | nil => rfl
  | cons s items ih =>
    obtain ⟨hfresh, hnodup⟩ := List.nodup_cons.1 h
    have hkeep : (items.filter fun t => !t == s) = items := by
      refine List.filter_eq_self.2 ?_
      intro t ht
      have hne : t ≠ s := fun h => hfresh (h ▸ ht)
      simp [hne]
    rw [List.eraseDups_cons, hkeep, ih hnodup]

/-- One more item occurs first if it is new. This is one step of a collection that keeps the first
occurrences, whether of texts or of keys. -/
theorem eraseDups_append_singleton {α : Type} [BEq α] [LawfulBEq α] (items : List α) (item : α) :
    (items ++ [item]).eraseDups =
      if item ∈ items then items.eraseDups else items.eraseDups ++ [item] := by
  rw [List.eraseDups_append]
  split <;> rename_i h <;> simp [List.removeAll, List.eraseDups_cons, h]

namespace Keyed

variable {α : Type} {keyed : Keyed α} {name : String}

/-- A change of a value leaves the names as they are, and their order with them. -/
theorem names_update (f : α → α) : (keyed.update name f).names = keyed.names := by
  simp [names, update, Function.comp_def]

/-- A new name goes to the end; a known one stays where it is. So the properties of a class keep
the order in which they were first given. -/
theorem names_insert (value : α) :
    (keyed.insert name value).names =
      if name ∈ keyed.names then keyed.names else keyed.names ++ [name] := by
  unfold insert
  split
  · exact names_update _
  · simp [names]

/-- The values after the one under a name is changed. Under all other names the values are those
from before. -/
theorem mem_entries_update {f : α → α} {other : String} {value : α} :
    (other, value) ∈ (keyed.update name f).entries ↔
      ∃ before, (other, before) ∈ keyed.entries ∧
        value = if other = name then f before else before := by
  simp only [update, List.mem_map, Prod.mk.injEq, Prod.exists]
  constructor
  · rintro ⟨other, before, hmem, rfl, rfl⟩
    exact ⟨before, hmem, rfl⟩
  · rintro ⟨before, hmem, rfl⟩
    exact ⟨other, before, hmem, rfl, rfl⟩

/-- The values after one is put under a name. A value that was there is replaced, and the others
stay. -/
theorem mem_entries_insert {value value' : α} {other : String} :
    (other, value') ∈ (keyed.insert name value).entries ↔
      other = name ∧ value' = value ∨ other ≠ name ∧ (other, value') ∈ keyed.entries := by
  -- A known name has its value replaced, as in an update; a new one is put at the end.
  by_cases hname : name ∈ keyed.names
  · rw [insert, dif_pos hname, mem_entries_update]
    by_cases hother : other = name
    · subst hother
      obtain ⟨⟨other, before⟩, hmem, rfl⟩ := List.mem_map.1 hname
      simp only [if_true, true_and, ne_eq, not_true_eq_false, false_and, or_false]
      exact ⟨fun ⟨_, _, h⟩ => h, fun h => ⟨before, hmem, h⟩⟩
    · simp [hother]
  · rw [insert, dif_neg hname]
    have hne : ∀ value', (name, value') ∉ keyed.entries :=
      fun value' hmem => hname (List.mem_map_of_mem hmem)
    by_cases hother : other = name
    · subst hother
      simp [hne]
    · simp [hother]

end Keyed

end StateTree
