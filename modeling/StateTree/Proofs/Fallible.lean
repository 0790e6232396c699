import Mathlib.Data.List.Forall2

/-!
# `StateTree.Proofs.Fallible`: computations that may fail

- `map_eq_ok_iff`, `bind_eq_ok_iff`, `pure_eq_ok_iff`: a composed computation succeeds if its parts
  do, and what it returns is its result.
- `map_eq_error_iff`, `bind_eq_error_iff`: it fails as the first of its parts that fails.
- `ok_bind`, `map_bind`, `bind_map`, `map_map`: computations with known or changed results.
- `mapM_eq_ok_iff`: computing over a list succeeds if it does at every entry.
- `exists_of_mapM_eq_error`: it fails as it does at some entry.
- `map_mapError`, `mapM_mapError`: computations with changed errors.
- `exists_map_eq_ok`, `exists_bind_eq_ok`, `exists_mapM_eq_ok`: the same without the results.
- `exists_left_of_forall₂`, `exists_right_of_forall₂`: an entry and its result.
- `forall₂_comp`: entries and the results of their results.
- `Simulates`: one computation succeeds where another does, with a related result.
-/

set_option autoImplicit false

namespace StateTree.Fallible

variable {ε α β : Type}

/-- A computation with its result changed succeeds if it does without. -/
theorem map_eq_ok_iff {x : Except ε α} {f : α → β} {b : β} :
    x.map f = .ok b ↔ ∃ a, x = .ok a ∧ f a = b := by
  cases x <;> simp [Except.map]

/-- Two computations in a row succeed if the first does, and the second from its result. With
`map_eq_ok_iff` this takes a `do` block apart step by step, each with the value it passes on. -/
theorem bind_eq_ok_iff {x : Except ε α} {f : α → Except ε β} {b : β} :
    x >>= f = .ok b ↔ ∃ a, x = .ok a ∧ f a = .ok b := by
  cases x <;> simp [bind, Except.bind]

/-- What a computation returns is its result. It is the last step of a `do` block that is taken
apart. -/
theorem pure_eq_ok_iff {a b : α} : (pure a : Except ε α) = .ok b ↔ a = b := by
  simp [pure, Except.pure]

/-- A computation with its result changed fails as it does without. So an error comes through a
`map` as it is. -/
theorem map_eq_error_iff {x : Except ε α} {f : α → β} {error : ε} :
    x.map f = .error error ↔ x = .error error := by
  cases x <;> simp [Except.map]

/-- Two computations in a row fail as the first, or as the second from the result of the first.
Which of the two it was tells how far a reader got. -/
theorem bind_eq_error_iff {x : Except ε α} {f : α → Except ε β} {error : ε} :
    x >>= f = .error error ↔ x = .error error ∨ ∃ a, x = .ok a ∧ f a = .error error := by
  cases x <;> simp [bind, Except.bind]

/-- A computation goes on from a result. -/
theorem ok_bind (a : α) (f : α → Except ε β) : Except.ok a >>= f = f a :=
  rfl

/-- The result of two computations in a row is changed by the second. Together with `bind_map` and
`map_map` this moves a change of results through a `do` block to where they are made. -/
theorem map_bind {γ : Type} (x : Except ε α) (f : α → Except ε β) (g : β → γ) :
    (x >>= f).map g = x >>= fun a => (f a).map g := by
  cases x <;> rfl

/-- A computation goes on from a changed result. -/
theorem bind_map {γ : Type} (x : Except ε α) (f : α → β) (g : β → Except ε γ) :
    x.map f >>= g = x >>= fun a => g (f a) := by
  cases x <;> rfl

/-- A result that is changed twice. -/
theorem map_map {γ : Type} (x : Except ε α) (f : α → β) (g : β → γ) :
    (x.map f).map g = x.map fun a => g (f a) := by
  cases x <;> rfl

/-- Changing the result and changing the error make no difference to each other. The translation
within a number of steps has an error of its own for running out of them, which is put in last. -/
theorem map_mapError {ε' : Type} (x : Except ε α) (f : α → β) (g : ε → ε') :
    (x.mapError g).map f = (x.map f).mapError g := by
  cases x <;> rfl

/-- A computation that succeeds also does with its result changed. -/
theorem exists_map_eq_ok {x : Except ε α} (f : α → β) (hx : ∃ a, x = .ok a) :
    ∃ b, x.map f = .ok b := by
  obtain ⟨a, rfl⟩ := hx
  exact ⟨f a, rfl⟩

/-- Two computations in a row succeed if the first does, and the second from any result of it.
Where it does not matter what the results are, no value has to be named for them. -/
theorem exists_bind_eq_ok {x : Except ε α} {f : α → Except ε β} (hx : ∃ a, x = .ok a)
    (hf : ∀ a, x = .ok a → ∃ b, f a = .ok b) : ∃ b, x >>= f = .ok b := by
  obtain ⟨a, ha⟩ := hx
  obtain ⟨b, hb⟩ := hf a ha
  exact ⟨b, bind_eq_ok_iff.2 ⟨a, ha, hb⟩⟩

/-- Computing over a list succeeds if it does at every entry. The results are related to the
entries one by one, which says more than that each has one: they are in the same order. -/
theorem mapM_eq_ok_iff {f : α → Except ε β} {xs : List α} {ys : List β} :
    xs.mapM f = .ok ys ↔ List.Forall₂ (fun x y => f x = .ok y) xs ys := by
  induction xs generalizing ys with
  | nil =>
    cases ys with
    | nil => exact iff_of_true rfl .nil
    | cons y ys => exact iff_of_false (by simp [pure_eq_ok_iff]) (by rintro ⟨⟩)
  | cons x xs ih =>
    -- The first entry is computed, then the others, then the two results are put together.
    rw [List.mapM_cons, bind_eq_ok_iff]
    constructor
    · rintro ⟨y, hy, h⟩
      obtain ⟨rest, hrest, h⟩ := bind_eq_ok_iff.1 h
      obtain rfl : y :: rest = ys := pure_eq_ok_iff.1 h
      exact .cons hy (ih.1 hrest)
    · rintro ⟨⟩
      rename_i y ys hy hrest
      exact ⟨y, hy, bind_eq_ok_iff.2 ⟨ys, ih.2 hrest, rfl⟩⟩

/-- What holds at every entry of a list holds of all results of computing over it. That an entry
is one of the list is known in `hP`, which is what a recursion along the types inside a type asks
for. -/
theorem forall₂_of_mapM {f : α → Except ε β} {P : α → β → Prop} {xs : List α} {ys : List β}
    (h : xs.mapM f = .ok ys) (hP : ∀ x ∈ xs, ∀ y, f x = .ok y → P x y) :
    List.Forall₂ (fun x y => f x = .ok y ∧ P x y) xs ys := by
  have hmem : List.Forall₂ (fun x y => x ∈ xs ∧ f x = .ok y) xs ys :=
    (List.forall₂_and_left xs ys).2 ⟨fun _ hx => hx, mapM_eq_ok_iff.1 h⟩
  exact hmem.imp fun x y hxy => ⟨hxy.2, hP x hxy.1 y hxy.2⟩

/-- Computing over a list succeeds if it succeeds at every entry, whatever the results are. -/
theorem exists_mapM_eq_ok {f : α → Except ε β} {xs : List α}
    (h : ∀ x ∈ xs, ∃ y, f x = .ok y) : ∃ ys, xs.mapM f = .ok ys := by
  induction xs with
  | nil => exact ⟨[], rfl⟩
  | cons x xs ih =>
    obtain ⟨y, hy⟩ := h x (by simp)
    obtain ⟨ys, hys⟩ := ih fun x hx => h x (by simp [hx])
    exact ⟨y :: ys, by simp [List.mapM_cons, hy, hys, bind, Except.bind, pure, Except.pure]⟩

/-- Every result of computing over a list is changed. So what is left out of each result is left
out of the list as a whole. -/
theorem mapM_map_result {γ : Type} (f : α → Except ε β) (g : β → γ) (xs : List α) :
    xs.mapM (fun x => (f x).map g) = (xs.mapM f).map (List.map g) := by
  induction xs with
  | nil => rfl
  | cons x xs ih =>
    rw [List.mapM_cons, List.mapM_cons, ih, map_bind, bind_map]
    simp only [map_bind, bind_map]
    rfl

/-- Every error of computing over a list is changed. Only the first one comes out, so it makes no
difference where the change is made. -/
theorem mapM_mapError {ε' : Type} (f : α → Except ε β) (g : ε → ε') (xs : List α) :
    xs.mapM (fun x => (f x).mapError g) = (xs.mapM f).mapError g := by
  induction xs with
  | nil => rfl
  | cons x xs ih =>
    rw [List.mapM_cons, List.mapM_cons, ih]
    cases f x with
    | error error => rfl
    | ok y => cases xs.mapM f <;> rfl

/-- Computing over a list fails as it does at some entry. That it is the first of those that fail
is not needed where errors are only classified. -/
theorem exists_of_mapM_eq_error {f : α → Except ε β} {xs : List α} {error : ε}
    (h : xs.mapM f = .error error) : ∃ x ∈ xs, f x = .error error := by
  induction xs with
  | nil => cases h
  | cons x xs ih =>
    rw [List.mapM_cons, bind_eq_error_iff] at h
    rcases h with hx | ⟨y, -, h⟩
    · exact ⟨x, by simp, hx⟩
    · rcases bind_eq_error_iff.1 h with hrest | ⟨ys, -, h⟩
      · obtain ⟨x', hx', herror⟩ := ih hrest
        exact ⟨x', by simp [hx'], herror⟩
      · cases h

/-- Two computations that agree at every entry of a list agree over the list. The agreement is
asked for at the entries only, since elsewhere the computations may differ. -/
theorem mapM_congr {f g : α → Except ε β} {xs : List α} (h : ∀ x ∈ xs, f x = g x) :
    xs.mapM f = xs.mapM g := by
  induction xs with
  | nil => rfl
  | cons x xs ih =>
    rw [List.mapM_cons, List.mapM_cons, h x (by simp), ih fun x hx => h x (by simp [hx])]

/-- Two computations that agree at the entries of two lists agree over the lists. Here the entries
are different things as well, such as declarations of two files. -/
theorem mapM_eq_of_forall₂ {α' : Type} {f : α → Except ε β} {f' : α' → Except ε β} {xs : List α}
    {xs' : List α'} (h : List.Forall₂ (fun x x' => f x = f' x') xs xs') :
    xs.mapM f = xs'.mapM f' := by
  induction h with
  | nil => rfl
  | cons hx _ ih => rw [List.mapM_cons, List.mapM_cons, hx, ih]

/-- The results of computing over a list, each with the entry that it comes from. This takes a
statement about all results back to one about the entries. -/
theorem exists_left_of_forall₂ {R : α → β → Prop} {xs : List α} {ys : List β}
    (h : List.Forall₂ R xs ys) {y : β} (hy : y ∈ ys) : ∃ x ∈ xs, R x y := by
  induction h with
  | nil => simp at hy
  | @cons x y' xs ys hxy _ ih =>
    rcases List.mem_cons.1 hy with rfl | hy
    · exact ⟨x, by simp, hxy⟩
    · obtain ⟨x, hx, hR⟩ := ih hy
      exact ⟨x, by simp [hx], hR⟩

/-- The entries of a list, each with the result that comes of it; the other direction of
`exists_left_of_forall₂`. -/
theorem exists_right_of_forall₂ {R : α → β → Prop} {xs : List α} {ys : List β}
    (h : List.Forall₂ R xs ys) {x : α} (hx : x ∈ xs) : ∃ y ∈ ys, R x y :=
  exists_left_of_forall₂ (R := flip R) h.flip hx

/-- What holds between the entries of two lists and between those of the second and a third holds
between the first and the third. The lists are walked together, so no entry of the second one has
to be found. -/
theorem forall₂_comp {γ : Type} {R : α → β → Prop} {S : β → γ → Prop} {T : α → γ → Prop}
    (hT : ∀ x y z, R x y → S y z → T x z) {xs : List α} {ys : List β} {zs : List γ}
    (h : List.Forall₂ R xs ys) (h' : List.Forall₂ S ys zs) : List.Forall₂ T xs zs := by
  induction h generalizing zs with
  | nil =>
    cases h'
    exact .nil
  | @cons x y xs ys hxy _ ih =>
    cases h' with
    | cons hyz hrest => exact .cons (hT x y _ hxy hyz) (ih hrest)

/-! ### Two computations side by side -/

/-- The second of two related values that may be missing is there if the first is. The names of
two files are related in this way. -/
theorem exists_of_rel_some {R : α → β → Prop} {a : α} {y : Option β}
    (h : Option.Rel R (some a) y) : ∃ b, y = some b ∧ R a b := by
  cases h with
  | some hab => exact ⟨_, rfl, hab⟩

/-- The second of two related values that may be missing is missing if the first is. -/
theorem eq_none_of_rel_none {R : α → β → Prop} {y : Option β} (h : Option.Rel R none y) :
    y = none := by
  cases h
  rfl

section

variable {ε' γ δ : Type} {R : α → β → Prop} {S : γ → δ → Prop} {x : Except ε α} {y : Except ε' β}

/-- Where the first computation succeeds, so does the second, and their results are related. A
failure of the first is not looked at: the rules below are put together to follow a generator
through two runs, and the first run is known to succeed. -/
def Simulates (R : α → β → Prop) (x : Except ε α) (y : Except ε' β) : Prop :=
  ∀ a, x = .ok a → ∃ b, y = .ok b ∧ R a b

/-- Two results. -/
theorem simulates_ok {a : α} {b : β} (h : R a b) :
    Simulates R (.ok a : Except ε α) (.ok b : Except ε' β) := by
  rintro _ ⟨⟩
  exact ⟨b, rfl, h⟩

/-- Nothing is asked where the first computation fails. -/
theorem simulates_error (error : ε) (y : Except ε' β) : Simulates R (.error error) y := by
  rintro a ⟨⟩

/-- Two results, each changed. What is asked of the changes is that they keep results related. -/
theorem Simulates.map (h : Simulates R x y) {f : α → γ} {g : β → δ}
    (hfg : ∀ a b, R a b → S (f a) (g b)) : Simulates S (x.map f) (y.map g) := by
  intro c hc
  obtain ⟨a, ha, rfl⟩ := map_eq_ok_iff.1 hc
  obtain ⟨b, rfl, hab⟩ := h a ha
  exact ⟨g b, rfl, hfg a b hab⟩

/-- Two computations, each followed by another. The second steps may use the results of the first
ones, of which it is only known that they are related. -/
theorem Simulates.bind (h : Simulates R x y) {f : α → Except ε γ} {g : β → Except ε' δ}
    (hfg : ∀ a b, R a b → Simulates S (f a) (g b)) : Simulates S (x >>= f) (y >>= g) := by
  intro c hc
  obtain ⟨a, ha, hc⟩ := bind_eq_ok_iff.1 hc
  obtain ⟨b, rfl, hab⟩ := h a ha
  exact hfg a b hab c hc

/-- Two computations over lists, entry by entry. Each entry of the one list has its counterpart in
the other, so the lists are of one length. -/
theorem simulates_mapM {f : α → Except ε γ} {g : β → Except ε' δ} {xs : List α} {ys : List β}
    (h : List.Forall₂ (fun x y => Simulates S (f x) (g y)) xs ys) :
    Simulates (List.Forall₂ S) (xs.mapM f) (ys.mapM g) := by
  induction h with
  | nil => exact simulates_ok .nil
  | cons hxy _ ih =>
    rw [List.mapM_cons, List.mapM_cons]
    refine hxy.bind fun a b hab => ih.bind fun as bs habs => ?_
    exact simulates_ok (.cons hab habs)

end

end StateTree.Fallible
