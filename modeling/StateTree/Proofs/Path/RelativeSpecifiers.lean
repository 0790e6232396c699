import StateTree.Proofs.Path.Resolution

/-!
# `StateTree.Proofs.Path.RelativeSpecifiers`: which specifiers are relative

A specifier that is no relative path names a package. The path to a module that begins with a name
gets a point and a slash in front, so that it is relative. A path that begins with a point is left
alone, since it may go up. But the name of a hidden file or directory begins with a point, too.

- `IsRelative`, `IsHidden`: relative specifiers and hidden names.
- `isRelative_intercalate_iff`: when parts that are joined with slashes are a relative specifier.
- `isRelative_specifier_iff`: when the specifier of a module is relative.
- `isRelative_reference_iff`: when the reference to a module is relative.
-/

set_option autoImplicit false

namespace StateTree.Path

/-- A specifier is relative if it is one point or two, or begins with these and a slash. Any other
one is taken for the name of a package or for a path from the root. -/
def IsRelative (specifier : String) : Prop :=
  specifier = "." ∨ specifier = ".." ∨
    "./".toList <+: specifier.toList ∨ "../".toList <+: specifier.toList

instance : DecidablePred IsRelative := fun specifier =>
  inferInstanceAs (Decidable (specifier = "." ∨ specifier = ".." ∨
    "./".toList <+: specifier.toList ∨ "../".toList <+: specifier.toList))

/-- A name is hidden if it begins with a point and is neither one point nor two. It looks like the
beginning of a relative path, but is not. -/
def IsHidden (name : String) : Prop :=
  name.toList.head? = some '.' ∧ name ≠ "." ∧ name ≠ ".."

instance : DecidablePred IsHidden := fun name =>
  inferInstanceAs (Decidable (name.toList.head? = some '.' ∧ name ≠ "." ∧ name ≠ ".."))

variable {directory path common climbed down parts : List String} {name : String}

/-! ### The text of a path -/

/-- A relative specifier is read as parts of which the first is one point or two. It is one
direction of `isRelative_intercalate_iff`. -/
theorem head?_splitParts_of_isRelative {specifier : String} (h : IsRelative specifier) :
    (splitParts [] specifier.toList).head? = some "." ∨
      (splitParts [] specifier.toList).head? = some ".." := by
  -- The four forms of a relative specifier: one or two points, alone or with a slash behind them.
  obtain rfl | rfl | ⟨rest, hrest⟩ | ⟨rest, hrest⟩ := h
  · exact .inl (by decide)
  · exact .inr (by decide)
  · have hsplit : splitParts [] ("./".toList ++ rest) = "." :: splitParts [] rest :=
      @splitParts_name "." (by decide) (by decide) rest
    exact .inl (by rw [← hrest, hsplit]; rfl)
  · have hsplit : splitParts [] ("../".toList ++ rest) = ".." :: splitParts [] rest :=
      @splitParts_name ".." (by decide) (by decide) rest
    exact .inr (by rw [← hrest, hsplit]; rfl)

/-- Parts with a slash between each two begin with the first of them, before the end or a slash.
What a path begins with is so a matter of its first part. -/
theorem toList_intercalate_cons (name : String) (parts : List String) :
    ∃ rest, ("/".intercalate (name :: parts)).toList = name.toList ++ rest ∧
      (rest = [] ∨ ∃ more, rest = '/' :: more) := by
  rw [String.toList_intercalate]
  cases parts with
  | nil => exact ⟨[], by simp, .inl rfl⟩
  | cons next parts =>
    rw [List.map_cons, List.map_cons, List.intercalate_cons_cons, List.append_assoc]
    exact ⟨_, rfl, .inr ⟨_, rfl⟩⟩

/-- Parts with a slash between each two are a relative specifier exactly if the first of them is
one point or two. The hypothesis excludes a first part that has a slash of its own. -/
theorem isRelative_intercalate_iff (h : Proper (name :: parts)) :
    IsRelative ("/".intercalate (name :: parts)) ↔ name = "." ∨ name = ".." := by
  constructor
  · intro hrelative
    have hhead := head?_splitParts_of_isRelative hrelative
    rw [splitParts_intercalate h] at hhead
    simpa using hhead
  · obtain ⟨rest, hjoined, hrest⟩ := toList_intercalate_cons name parts
    intro hname
    -- The first part is the only one, or a slash follows it.
    obtain rfl | ⟨more, rfl⟩ := hrest
    · rw [List.append_nil, String.toList_inj] at hjoined
      rw [hjoined]
      exact hname.imp id .inl
    · refine .inr (.inr (hname.imp ?_ ?_))
      · rintro rfl
        exact ⟨more, hjoined.symm⟩
      · rintro rfl
        exact ⟨more, hjoined.symm⟩

/-! ### The specifier of a module -/

/-- The specifier of a module is relative unless the path to it begins with a hidden name. Such a
path is taken for one that goes up, and gets nothing in front. -/
theorem isRelative_specifier_iff (directory : List String) (hpath : Proper path) :
    IsRelative (specifier directory path) ↔
      ∀ name, (specifierParts directory path).head? = some name → ¬ IsHidden name := by
  have hproper := proper_specifierParts directory hpath
  have hdef : specifier directory path =
      let joined := "/".intercalate (specifierParts directory path)
      if joined.isEmpty then "." else if joined.toList.head? = some '.' then joined
      else "./" ++ joined := rfl
  rw [hdef]
  generalize specifierParts directory path = parts at hproper ⊢
  cases parts with
  | nil => exact iff_of_true (by decide) (by simp)
  | cons name parts =>
    -- The test is on the first character of the path, which is that of its first part.
    obtain ⟨c, cs, hname⟩ : ∃ c cs, name.toList = c :: cs :=
      List.exists_cons_of_ne_nil (by simpa using (hproper name List.mem_cons_self).1)
    have hhead : ("/".intercalate (name :: parts)).toList.head? = some c := by
      obtain ⟨rest, hjoined, -⟩ := toList_intercalate_cons name parts
      rw [hjoined, hname]
      rfl
    have hne : ("/".intercalate (name :: parts)).isEmpty = false := by
      rw [← Bool.not_eq_true, String.isEmpty_iff]
      intro hempty
      simp [hempty] at hhead
    simp only [hne, hhead, Bool.false_eq_true, if_false, List.head?_cons, Option.some.injEq,
      forall_eq']
    split
    · rename_i hpoint
      rw [isRelative_intercalate_iff hproper, IsHidden, hname, List.head?_cons]
      simp only [hpoint, true_and, not_and_or, not_not]
    · rename_i hpoint
      refine iff_of_true (.inr (.inr (.inl ?_))) ?_
      · rw [String.toList_append]
        exact List.prefix_append _ _
      · rintro ⟨hhidden, -⟩
        rw [hname] at hhidden
        exact hpoint (Option.some.inj hhidden)

/-- No part of the path from a directory up to a module is hidden. The path down is led by a
hidden name exactly if the first name without its extension is hidden. So only paths that do not
go up can begin with a hidden name. -/
theorem hidden_specifierParts_iff (h : Forks directory path common climbed down)
    (hrelative : relativeParts directory path = List.replicate climbed.length ".." ++ down) :
    (∀ name, (specifierParts directory path).head? = some name → ¬ IsHidden name) ↔
      (climbed = [] → ∀ name, (stemmed down).head? = some name → ¬ IsHidden name) := by
  -- A point that is left out at the end of the path is not hidden, either.
  have hparts : (∀ name, (specifierParts directory path).head? = some name → ¬ IsHidden name) ↔
      ∀ name, (List.replicate climbed.length ".." ++ stemmed down).head? = some name →
        ¬ IsHidden name := by
    obtain hparts | hparts := specifierParts_cases h hrelative
    · rw [hparts]
    · rw [hparts]
      cases specifierParts directory path with
      | nil =>
        have hpoint : ¬ IsHidden "." := by decide
        simpa using hpoint
      | cons name parts => rfl
  rw [hparts]
  cases climbed with
  | nil => simp
  | cons part climbed =>
    have hup : ¬ IsHidden ".." := by decide
    simpa [List.replicate_succ] using hup

/-! ### The reference to a module -/

/-- An empty path has no reference, and there is none to it. Nothing is looked up, so the files
stay as they are. -/
theorem run_relativeReference?_of_empty (tree : FileTree) {module output : String}
    (h : module = "" ∨ output = "") :
    (relativeReference? (parse module) (parse output) : StateM FileTree _).run tree =
      (none, tree) := by
  have hempty : (parse "").absolute? tree.workingDirectory = none := rfl
  have hhere : (Files.workingDirectory : StateM FileTree _).run tree =
      pure (tree.workingDirectory, tree) := rfl
  unfold relativeReference?
  rw [StateT.run_bind, hhere, pure_bind]
  obtain rfl | rfl := h
  · rw [hempty]
    rfl
  · rw [hempty]
    cases (parse module).absolute? tree.workingDirectory <;> rfl

/-- When the reference to a module is relative.

An empty text has no reference. Every two other texts have one, which asking for does not change the
files. If the path from the directory of the output to the module goes up, the reference is
relative. If it goes down only, the reference is relative exactly if the first name on it is not
hidden. The name of the module itself is taken without its extension. -/
theorem isRelative_reference_iff (tree : FileTree) (hproper : Proper tree.workingDirectory)
    (hpoint : "." ∉ tree.workingDirectory) (module output : String) :
    (module = "" ∨ output = "" →
      (relativeReference? (parse module) (parse output) : StateM FileTree _).run tree =
        (none, tree)) ∧
    (module ≠ "" → output ≠ "" →
      ∃ modulePath outputPath directory common climbed down reference,
        (parse module).absolute? tree.workingDirectory = some modulePath ∧
        (parse output).absolute? tree.workingDirectory = some outputPath ∧
        (outputDirectory outputPath : StateM FileTree _).run tree = (directory, tree) ∧
        Forks directory modulePath.parts common climbed down ∧
        (relativeReference? (parse module) (parse output) : StateM FileTree _).run tree =
          (some reference, tree) ∧
        (IsRelative reference ↔
          (climbed = [] → ∀ name, (stemmed down).head? = some name → ¬ IsHidden name))) := by
  refine ⟨run_relativeReference?_of_empty tree, fun hmodule houtput => ?_⟩
  obtain ⟨modulePath, hmodulePath, hparts, -⟩ := exists_absolute? hproper hpoint hmodule
  obtain ⟨outputPath, houtputPath, -, -⟩ := exists_absolute? hproper hpoint houtput
  have hdirectory := run_outputDirectory tree outputPath
  obtain ⟨common, climbed, down, hforks, hrelative⟩ := exists_forks _ modulePath.parts
  refine ⟨modulePath, outputPath, _, common, climbed, down, _, hmodulePath, houtputPath,
    hdirectory, hforks, run_relativeReference? hmodulePath houtputPath hdirectory, ?_⟩
  rw [isRelative_specifier_iff _ hparts, hidden_specifierParts_iff hforks hrelative]

/-- A working directory with a hidden directory and a module in it. An output beside the directory
has to go down into it. -/
def hideout : FileTree where
  workingDirectory := ["work"]
  directories := [["work"], ["work", ".cache"]]
  files := [(["work", ".cache", "types.ts"], "")]

/-- The reference to a module in a hidden directory beside the output has no point and no slash in
front, so it is not relative. -/
theorem reference_into_hideout :
    (relativeReference? (parse ".cache/types.ts") (parse "models.ts") :
        StateM FileTree _).run hideout = (some ".cache/types", hideout) ∧
      ¬ IsRelative ".cache/types" := by
  obtain ⟨modulePath, outputPath, directory, common, climbed, down, reference, hmodulePath,
    houtputPath, hdirectory, hforks, hreference, hrelative⟩ :=
      (isRelative_reference_iff hideout (by decide) (by decide) ".cache/types.ts" "models.ts").2
        (by decide) (by decide)
  have hrun : (relativeReference? (parse ".cache/types.ts") (parse "models.ts") :
      StateM FileTree _).run hideout = (some ".cache/types", hideout) := rfl
  obtain rfl : ".cache/types" = reference :=
    Option.some.inj (congrArg Prod.fst (hrun.symm.trans hreference))
  obtain rfl : Path.mk true ["work", ".cache", "types.ts"] false = modulePath :=
    Option.some.inj hmodulePath
  obtain rfl : Path.mk true ["work", "models.ts"] false = outputPath := Option.some.inj houtputPath
  obtain rfl : ["work"] = directory := congrArg Prod.fst hdirectory
  obtain ⟨hup, hdown, hapart⟩ := hforks
  refine ⟨hrun, fun h => ?_⟩
  -- Both begin with the working directory, so the path goes down only.
  cases common with
  | nil =>
    obtain rfl : ["work"] = climbed := hup
    obtain rfl : ["work", ".cache", "types.ts"] = down := hdown
    exact hapart "work" ⟨rfl, rfl⟩
  | cons name common =>
    obtain ⟨rfl, hrest⟩ := List.cons.inj hup
    obtain ⟨rfl, rfl⟩ := List.nil_eq_append_iff.1 hrest
    obtain rfl : [".cache", "types.ts"] = down := (List.cons.inj hdown).2
    exact hrelative.1 h rfl ".cache" (by decide) (by decide)

end StateTree.Path
