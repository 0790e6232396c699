/-!
# `StateTree.Keyed`: values under distinct names, in order

Properties of a class and cases of an enum keep the order in which their names came first, and no
name comes twice.

- `Keyed.insert`: a new name goes to the end; a known one keeps its place and gets the new value.
- `Distinct.insert`: a new text goes to the end; a known one changes nothing.
-/

set_option autoImplicit false

namespace StateTree

/-- Values under distinct names, in order of first insertion. -/
structure Keyed (α : Type) where
  entries : List (String × α) := []
  nodup : (entries.map Prod.fst).Nodup := by exact List.nodup_nil

namespace Keyed

variable {α : Type}

/-- The names in order. -/
def names (keyed : Keyed α) : List String :=
  keyed.entries.map Prod.fst

/-- The values in order. -/
def values (keyed : Keyed α) : List α :=
  keyed.entries.map Prod.snd

/-- The value under a name. -/
def get? (keyed : Keyed α) (name : String) : Option α :=
  keyed.entries.lookup name

/-- Changes the value under a name where there is one. -/
def update (keyed : Keyed α) (name : String) (f : α → α) : Keyed α where
  entries := keyed.entries.map fun entry => (entry.1, if entry.1 = name then f entry.2 else entry.2)
  nodup := by
    simpa [List.map_map, Function.comp_def] using keyed.nodup

/-- Puts a value under a name: in place of the value there, or at the end. -/
def insert (keyed : Keyed α) (name : String) (value : α) : Keyed α :=
  if h : name ∈ keyed.names then keyed.update name fun _ => value
  else
    { entries := keyed.entries ++ [(name, value)]
      nodup := by
        simp only [List.map_append, List.map_cons, List.map_nil]
        rw [List.nodup_append]
        refine ⟨keyed.nodup, by simp, fun a ha b hb => ?_⟩
        simp only [List.mem_singleton] at hb
        exact fun hab => h (hb ▸ hab ▸ ha) }

/-- The values of a list of names, each inserted in turn. -/
def ofList (entries : List (String × α)) : Keyed α :=
  entries.foldl (fun keyed entry => keyed.insert entry.1 entry.2) {}

end Keyed

/-- Distinct texts, in order of first insertion. -/
structure Distinct where
  items : List String := []
  nodup : items.Nodup := by exact List.nodup_nil

namespace Distinct

/-- Adds a text at the end if it is new. -/
def insert (distinct : Distinct) (s : String) : Distinct :=
  if h : s ∈ distinct.items then distinct
  else
    { items := distinct.items ++ [s]
      nodup := by
        rw [List.nodup_append]
        refine ⟨distinct.nodup, by simp, fun a ha b hb => ?_⟩
        simp only [List.mem_singleton] at hb
        exact fun hab => h (hb ▸ hab ▸ ha) }

/-- The texts of a list, each once. -/
def ofList (items : List String) : Distinct :=
  items.foldl insert {}

end Distinct

/-- The first text of a list that came before in it. -/
def firstRepeated? : List String → Option String :=
  go []
where
  /-- The first text that came before in the list or is one of `seen`. -/
  go (seen : List String) : List String → Option String
    | [] => none
    | s :: rest => if s ∈ seen then some s else go (s :: seen) rest

end StateTree
