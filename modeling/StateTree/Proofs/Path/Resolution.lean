import Mathlib.Data.List.DropRight
import StateTree.Files.Tree
import StateTree.Proofs.Path.Parts

/-!
# `StateTree.Proofs.Path.Resolution`: what the reference to a module leads to

The path from a directory to a module goes up once for every part of the directory that the two do
not share. Such a part may itself be `..`. Going up past it does not undo it but goes up once more,
and so the path ends up too high by two parts for each of them.

- `descend`, `normal`: the place that parts lead to.
- `stemmed`: the parts without the extension of the last one.
- `Forks`, `exists_forks`: what a directory and a path share, and the path from one to the other.
- `drop_descend`: going down some parts and up again as often.
- `descend_specifierParts`: the path from a directory to a module, followed from anywhere.
- `absolute?_specifier`: the specifier of a module is read as this path.
- `relativeReference?_resolves`: what the reference to a module leads to from the directory of the
  importing file, and when that is the module without its extension.
-/

set_option autoImplicit false

namespace StateTree.Path

/-! ### The place that parts lead to -/

/-- The place that parts lead to from another one. A place is given by its names, the innermost
first. Above the root there is the root. It follows names, as paths are followed where no
directory is a link to another one. -/
def descend (place : List String) : List String → List String
  | [] => place
  | part :: parts =>
    if part = "." then descend place parts
    else if part = ".." then descend place.tail parts
    else descend (part :: place) parts

/-- The parts that lead to the same place from the root, without `.` and `..`. Two paths lead to
one place if these are the same. -/
def normal (parts : List String) : List String :=
  (descend [] parts).reverse

variable {place parts directory path common climbed down : List String}

/-- A point leads nowhere, so a reference may begin with one. -/
theorem descend_point (place parts : List String) :
    descend place ("." :: parts) = descend place parts := by
  rw [descend, if_pos rfl]

/-- Two points lead up: the innermost name of the place is left. -/
theorem descend_up (place parts : List String) :
    descend place (".." :: parts) = descend place.tail parts := by
  rw [descend, if_neg (by decide), if_pos rfl]

/-- A name leads down. It is the innermost name of the place from then on. -/
theorem descend_name {name : String} (hpoint : name ≠ ".") (hup : name ≠ "..")
    (place parts : List String) :
    descend place (name :: parts) = descend (name :: place) parts := by
  rw [descend, if_neg hpoint, if_neg hup]

/-- Parts are followed one after another. A path in two pieces is followed to the end of the first
and on from there. -/
theorem descend_append (place xs ys : List String) :
    descend place (xs ++ ys) = descend (descend place xs) ys := by
  induction xs generalizing place with
  | nil => rfl
  | cons x xs ih =>
    rw [List.cons_append, descend, descend]
    split
    · exact ih place
    · split
      · exact ih place.tail
      · exact ih (x :: place)

/-- Parts that name the place where they stand can be left out, as they are when a path is read.
-/
theorem descend_filter (place parts : List String) :
    descend place (parts.filter (· ≠ ".")) = descend place parts := by
  induction parts generalizing place with
  | nil => rfl
  | cons part parts ih =>
    by_cases hpart : part = "."
    · rw [List.filter_cons_of_neg (by simp [hpart]), hpart, descend_point]
      exact ih place
    · rw [List.filter_cons_of_pos (by simp [hpart]), descend, descend, if_neg hpart, if_neg hpart,
        ih, ih]

/-- Going up some times takes as many names off the place. At the root, going up changes nothing.
-/
theorem descend_replicate (place : List String) (n : Nat) :
    descend place (List.replicate n "..") = place.drop n := by
  induction n generalizing place with
  | zero => rfl
  | succ n ih => rw [List.replicate_succ, descend_up, ih, List.drop_tail]

/-- Going down some parts, and then up as often, leads to where it began if all of them are names.
Each `..` among them makes it two names less. This is the law behind references that lead too
high. -/
theorem drop_descend (place : List String) (hparts : "." ∉ parts) :
    (descend place parts).drop parts.length = place.drop (2 * parts.count "..") := by
  induction parts generalizing place with
  | nil => rfl
  | cons part parts ih =>
    rw [List.mem_cons, not_or] at hparts
    obtain ⟨hpoint, hparts⟩ := hparts
    by_cases hup : part = ".."
    · -- Up now, and up once more at the end.
      subst hup
      rw [descend_up, List.length_cons, List.count_cons_self, ← List.drop_drop, ih _ hparts,
        List.drop_tail, List.drop_drop]
      rfl
    · -- The name is taken off again by one of the steps up.
      rw [descend_name (Ne.symm hpoint) hup, List.length_cons, List.count_cons_of_ne hup,
        ← List.drop_drop, ih _ hparts, List.drop_drop]
      rfl

/-- The names of a place are names: no point and no two points are left over. -/
theorem mem_descend {name : String} (h : name ∈ descend place parts)
    (hplace : ∀ name ∈ place, name ≠ "." ∧ name ≠ "..") : name ≠ "." ∧ name ≠ ".." := by
  induction parts generalizing place with
  | nil => exact hplace name h
  | cons part parts ih =>
    rw [descend] at h
    -- A point adds nothing, two points take a name away, and only another part is added.
    split at h
    · exact ih h hplace
    · split at h
      · exact ih h fun name hname => hplace name (List.mem_of_mem_tail hname)
      · exact ih h (List.forall_mem_cons.2 ⟨⟨‹_›, ‹_›⟩, hplace⟩)

/-- The names of a place lead to it from the root, the outermost first. -/
theorem descend_reverse (h : ∀ name ∈ place, name ≠ "." ∧ name ≠ "..") :
    descend [] place.reverse = place := by
  induction place with
  | nil => rfl
  | cons name place ih =>
    obtain ⟨⟨hpoint, hup⟩, hplace⟩ := List.forall_mem_cons.1 h
    rw [List.reverse_cons, descend_append, ih hplace, descend_name hpoint hup]
    rfl

/-- The parts of a place, without some at their end, lead as many names up from it. It turns a
statement on places into one on the parts that lead to them. -/
theorem descend_rdrop_normal (parts : List String) (n : Nat) :
    descend [] ((normal parts).rdrop n) = (descend [] parts).drop n := by
  rw [normal, List.rdrop_eq_reverse_drop_reverse, List.reverse_reverse]
  refine descend_reverse ?_
  intro name hname
  exact mem_descend (List.mem_of_mem_drop hname) (by simp)

/-! ### The path to a module -/

/-- The parts of a path, the last one without its extension. A module is imported by such a path.
-/
def stemmed (parts : List String) : List String :=
  parts.dropLast ++ (parts.getLast?.map withoutExtension).toList

/-- `Forks directory path common climbed down`: the directory and the path go the same way as far as
`common`; from there on, `climbed` leads to the directory and `down` is the rest of the path. -/
structure Forks (directory path common climbed down : List String) : Prop where
  directory_eq : directory = common ++ climbed
  path_eq : path = common ++ down
  apart : ∀ part, ¬ (climbed.head? = some part ∧ down.head? = some part)

/-- A directory and a path share a first stretch, and the path from the one to the other goes up
to its end and down from there. The path from one to the other is thus told from the two rests. -/
theorem exists_forks (directory path : List String) :
    ∃ common climbed down, Forks directory path common climbed down ∧
      relativeParts directory path = List.replicate climbed.length ".." ++ down := by
  -- Along the two as long as they agree.
  induction directory generalizing path with
  | nil => exact ⟨[], [], path, ⟨rfl, rfl, by simp⟩, by simp [relativeParts]⟩
  | cons up directory ih =>
    cases path with
    | nil => exact ⟨[], up :: directory, [], ⟨rfl, rfl, by simp⟩,
      by simp [relativeParts, List.replicate_succ]⟩
    | cons first path =>
      by_cases hsame : up = first
      · obtain ⟨common, climbed, down, hforks, hrelative⟩ := ih path
        refine ⟨up :: common, climbed, down, ⟨?_, ?_, hforks.apart⟩, ?_⟩
        · rw [hforks.directory_eq, List.cons_append]
        · rw [hforks.path_eq, List.cons_append, hsame]
        · rw [relativeParts, if_pos hsame, hrelative]
      · refine ⟨[], up :: directory, first :: path, ⟨rfl, rfl, ?_⟩, ?_⟩
        · rintro part ⟨⟨⟩, h⟩
          exact hsame (by simpa using h.symm)
        · rw [relativeParts, if_neg hsame]
          simp [List.replicate_succ]

/-- The parts of the path from a directory to a module, as its specifier has them. The extension
is looked for in the path to the module, but taken off the path from the directory. -/
def specifierParts (directory path : List String) : List String :=
  if hasExtension path then dropExtension (relativeParts directory path)
  else relativeParts directory path

/-- The parts without the extension of the last one, where a point that is left of it is left out.
It makes no difference to where they lead. -/
theorem stemmed_cases (parts : List String) :
    stemmed parts = dropExtension parts ∨ stemmed parts = dropExtension parts ++ ["."] := by
  unfold dropExtension stemmed
  cases hlast : parts.getLast? with
  | none =>
    obtain rfl := List.getLast?_eq_none_iff.1 hlast
    exact .inl rfl
  | some name =>
    simp only [Option.map_some, Option.toList_some]
    -- Only a stem that is a lone point is left out.
    split
    · rename_i hpoint
      rw [hpoint, List.append_nil]
      exact .inr rfl
    · exact .inl rfl

/-- Without an extension, the last part is the same, and so are all parts. -/
theorem stemmed_of_not_hasExtension (h : hasExtension parts = false) : stemmed parts = parts := by
  unfold stemmed
  cases hlast : parts.getLast? with
  | none =>
    obtain rfl := List.getLast?_eq_none_iff.1 hlast
    rfl
  | some name =>
    have hsame : withoutExtension name = name := by simpa [hasExtension, hlast] using h
    rw [Option.map_some, Option.toList_some, hsame]
    exact List.dropLast_append_getLast? name hlast

/-- The last part of two lists is that of the second. The hypothesis excludes that the second has
none. -/
theorem stemmed_append (parts : List String) (h : down ≠ []) :
    stemmed (parts ++ down) = parts ++ stemmed down := by
  unfold stemmed
  rw [List.dropLast_append_of_ne_nil h, List.getLast?_append_of_ne_nil _ h, List.append_assoc]

/-- Two points have no extension: what would be left of them is nothing. -/
theorem stemmed_replicate (n : Nat) : stemmed (List.replicate n "..") = List.replicate n ".." := by
  have hup : withoutExtension ".." = ".." := by decide
  refine stemmed_of_not_hasExtension ?_
  rw [hasExtension, List.getLast?_replicate]
  split
  · rfl
  · simp [hup]

/-- The path from a directory to a module goes up as often as the two differ, and then down to
the module without its extension. A point at the end is left out. All that is said of specifiers
is by way of this. -/
theorem specifierParts_cases (h : Forks directory path common climbed down)
    (hrelative : relativeParts directory path = List.replicate climbed.length ".." ++ down) :
    List.replicate climbed.length ".." ++ stemmed down = specifierParts directory path ∨
      List.replicate climbed.length ".." ++ stemmed down =
        specifierParts directory path ++ ["."] := by
  have hstemmed : List.replicate climbed.length ".." ++ stemmed down =
      stemmed (relativeParts directory path) := by
    rw [hrelative]
    by_cases hdown : down = []
    · -- The extension is looked for in the last step up, or nowhere.
      rw [hdown, List.append_nil, stemmed_replicate]
      exact List.append_nil _
    · rw [stemmed_append _ hdown]
  unfold specifierParts
  split
  · rw [hstemmed]
    exact stemmed_cases _
  · rename_i hnone
    have hkept : stemmed down = down := by
      by_cases hdown : down = []
      · rw [hdown]
        rfl
      · refine stemmed_of_not_hasExtension ?_
        rwa [Bool.not_eq_true, hasExtension, h.path_eq,
          List.getLast?_append_of_ne_nil _ hdown] at hnone
    exact .inl (by rw [hkept, hrelative])

/-- The path from a directory to a module, followed from anywhere, leads up as often as the two
differ, and then down to the module without its extension. From the directory itself,
`drop_descend` tells where going up leads. -/
theorem descend_specifierParts (h : Forks directory path common climbed down)
    (hrelative : relativeParts directory path = List.replicate climbed.length ".." ++ down)
    (place : List String) :
    descend place (specifierParts directory path) =
      descend (place.drop climbed.length) (stemmed down) := by
  rw [← descend_replicate, ← descend_append]
  obtain hparts | hparts := specifierParts_cases h hrelative
  · rw [hparts]
  · rw [hparts, descend_append, descend_point]
    rfl

/-! ### The specifier of a module -/

/-- The parts of the path to a module are proper, so the specifier made of them is read as these
parts. -/
theorem proper_specifierParts (directory : List String) (h : Proper path) :
    Proper (specifierParts directory path) := by
  obtain ⟨common, climbed, down, hforks, hrelative⟩ := exists_forks directory path
  have hparts : Proper (relativeParts directory path) := by
    rw [hrelative]
    intro part hpart
    rcases List.mem_append.1 hpart with hpart | hpart
    · obtain rfl := List.eq_of_mem_replicate hpart
      decide
    · exact h part (by simp [hforks.path_eq, hpart])
  unfold specifierParts
  split
  · unfold dropExtension
    cases hlast : (relativeParts directory path).getLast? with
    | none => simp [Proper]
    | some name =>
      intro part hpart
      rcases List.mem_append.1 hpart with hpart | hpart
      · exact hparts part ((List.dropLast_sublist _).subset hpart)
      -- Only the last part is changed, and it is one of a proper path.
      · have hname : Proper [name] := by
          intro part hpart
          exact hparts part (List.mem_singleton.1 hpart ▸ List.mem_of_getLast? hlast)
        refine proper_withoutExtension hname part ?_
        split at hpart
        · simp at hpart
        · exact hpart
  · exact hparts

/-- The specifier of a module is read as a path that does not begin at the root and leads where
the path to the module leads. The three ways to write it, as a point, as it is, and with a point
in front, make no difference to that. -/
theorem parse_specifier (directory : List String) (h : Proper path) (place : List String) :
    (parse (specifier directory path)).rooted = false ∧
      (parse (specifier directory path)).parts ≠ [] ∧
      descend place (parse (specifier directory path)).parts =
        descend place (specifierParts directory path) := by
  have hproper := proper_specifierParts directory h
  have hsplit := splitParts_intercalate hproper
  have hdef : specifier directory path =
      let joined := "/".intercalate (specifierParts directory path)
      if joined.isEmpty then "." else if joined.toList.head? = some '.' then joined
      else "./" ++ joined := rfl
  -- Three forms: nothing is left and a point stands for it, a point is there, or one is put in
  -- front.
  rw [hdef]
  generalize "/".intercalate (specifierParts directory path) = joined at hsplit ⊢
  rw [← hsplit]
  simp only
  split
  · rename_i hempty
    rw [String.isEmpty_iff.1 hempty]
    exact ⟨by decide, by decide, descend_point place []⟩
  · split
    · rename_i hpoint
      obtain ⟨rest, hrest⟩ := List.head?_eq_some_iff.1 hpoint
      refine ⟨?_, ?_, rfl⟩
      · simp [parse, hrest]
      · show splitParts [] joined.toList ≠ []
        rw [hrest, splitParts_cons (by decide)]
        exact splitParts_ne_nil (List.cons_ne_nil _ _)
    · have hparts : (parse ("./" ++ joined)).parts = "." :: splitParts [] joined.toList := by
        have htext : ("./" ++ joined).toList = ".".toList ++ '/' :: joined.toList := by simp
        rw [parse, htext]
        exact splitParts_name (by decide) (by decide) _
      refine ⟨by simp [parse], by simp [hparts], ?_⟩
      rw [hparts, descend_point]

/-- The specifier of a module leads from the directory to a place that is reckoned from what the
directory and the path of the module share. Each `..` among the other parts of the directory makes
it two names higher; from there, the rest of the path leads down, without the extension. -/
theorem absolute?_specifier (hpath : Proper path) (hdirectory : "." ∉ directory) :
    ∃ common climbed down target, Forks directory path common climbed down ∧
      (parse (specifier directory path)).absolute? directory = some target ∧
      normal target.parts =
        normal ((normal common).rdrop (2 * climbed.count "..") ++ stemmed down) := by
  obtain ⟨common, climbed, down, hforks, hrelative⟩ := exists_forks directory path
  obtain ⟨hrooted, hne, hdescend⟩ := parse_specifier directory hpath (descend [] directory)
  generalize parse (specifier directory path) = read at hrooted hne hdescend ⊢
  have hempty : read.isEmpty = false := by simp [isEmpty, hne]
  refine ⟨common, climbed, down,
    { read with rooted := true, parts := directory ++ read.parts.filter (· ≠ ".") }, hforks, ?_, ?_⟩
  · simp [absolute?, hempty, hrooted]
  · -- From the directory as many steps up as `climbed` has parts, and then down.
    have hclimbed : "." ∉ climbed := fun h => hdirectory (by simp [hforks.directory_eq, h])
    have hplace : descend [] directory = descend (descend [] common) climbed := by
      rw [hforks.directory_eq, descend_append]
    refine congrArg List.reverse ?_
    rw [descend_append, descend_filter, hdescend, descend_specifierParts hforks hrelative, hplace,
      drop_descend _ hclimbed, descend_append, descend_rdrop_normal]

/-- Where the rest of the directory goes down only, the place is that of the module without its
extension, unless the module is the directory or above it and has an extension. In that case there
is no last part on the way down to take the extension off. -/
theorem normal_of_plain (h : Forks directory path common climbed down) (hup : ".." ∉ climbed)
    (hdown : down ≠ [] ∨ hasExtension path = false) :
    normal ((normal common).rdrop (2 * climbed.count "..") ++ stemmed down) =
      normal (stemmed path) := by
  -- The stem only concerns the last part, which is in `down` unless the module is the directory
  -- itself.
  have hstemmed : stemmed path = common ++ stemmed down := by
    by_cases hnil : down = []
    · have hnone := hdown.resolve_left (fun hne => hne hnil)
      rw [stemmed_of_not_hasExtension hnone, h.path_eq, hnil]
      rfl
    · rw [h.path_eq, stemmed_append _ hnil]
  refine congrArg List.reverse ?_
  rw [List.count_eq_zero.2 hup, descend_append, descend_rdrop_normal, hstemmed, descend_append]
  rfl

/-! ### The reference to a module -/

/-- A text that is not empty is a path from the root, by way of the working directory. It has no
points that lead nowhere, since these are left out when it is put together. -/
theorem exists_absolute? {here : List String} (hproper : Proper here) (hpoint : "." ∉ here)
    {s : String} (hs : s ≠ "") :
    ∃ path, (parse s).absolute? here = some path ∧ Proper path.parts ∧ "." ∉ path.parts := by
  have hparts := proper_parse s
  refine ⟨_, by rw [absolute?, isEmpty_parse_eq_false hs]; rfl, ?_, ?_⟩
  · intro part hpart
    simp only at hpart
    -- A rooted path has its own parts only, any other one comes behind the working directory.
    split at hpart
    · exact hparts part (List.mem_of_mem_filter hpart)
    · rcases List.mem_append.1 hpart with hpart | hpart
      · exact hproper part hpart
      · exact hparts part (List.mem_of_mem_filter hpart)
  · simp only
    split <;> simp [hpoint]

/-- The directory of an output is the output if it is a directory, and where it stands if not.
Asking for it does not change the files. -/
theorem run_outputDirectory (tree : FileTree) (output : Path) :
    (outputDirectory output : StateM FileTree _).run tree =
      (if tree.kind? output = some .directory then output.parts else output.parts.dropLast,
        tree) := by
  show (if tree.kind? output = some .directory then (pure output.parts : StateM FileTree _)
    else pure output.parts.dropLast) tree = _
  split <;> rfl

/-- The reference to a module is its specifier in the directory of the output. With this,
references are a matter of paths alone. -/
theorem run_relativeReference? {tree : FileTree} {module output modulePath outputPath : Path}
    (hmodule : module.absolute? tree.workingDirectory = some modulePath)
    (houtput : output.absolute? tree.workingDirectory = some outputPath) {directory : List String}
    (hdirectory : (outputDirectory outputPath : StateM FileTree _).run tree = (directory, tree)) :
    (relativeReference? module output : StateM FileTree _).run tree =
      (some (specifier directory modulePath.parts), tree) := by
  have hhere : (Files.workingDirectory : StateM FileTree _).run tree =
      pure (tree.workingDirectory, tree) := rfl
  unfold relativeReference?
  rw [StateT.run_bind, hhere, pure_bind, hmodule, houtput]
  simp only
  rw [StateT.run_bind, hdirectory]
  rfl

/-- What the reference to a module leads to.

Every two texts that are not empty have a reference, which asking for does not change the files.
Read as a path from the directory that the output is written to, it leads to a place that is
reckoned from what the directory and the path of the module share. Each `..` among the other parts
of the directory makes it two names higher, and from there the rest of the path leads down, without
the extension. So it leads to the module without its extension if none of these parts is `..`,
unless the module is the directory or above it and has an extension. -/
theorem reference_leads_to_module (tree : FileTree) (hproper : Proper tree.workingDirectory)
    (hpoint : "." ∉ tree.workingDirectory) (module output : String) (hmodule : module ≠ "")
    (houtput : output ≠ "") :
    ∃ modulePath outputPath target directory common climbed down reference,
      (parse module).absolute? tree.workingDirectory = some modulePath ∧
      (parse output).absolute? tree.workingDirectory = some outputPath ∧
      (outputDirectory outputPath : StateM FileTree _).run tree = (directory, tree) ∧
      (relativeReference? (parse module) (parse output) : StateM FileTree _).run tree =
        (some reference, tree) ∧
      (parse reference).absolute? directory = some target ∧
      Forks directory modulePath.parts common climbed down ∧
      normal target.parts =
        normal ((normal common).rdrop (2 * climbed.count "..") ++ stemmed down) ∧
      (".." ∉ climbed → down ≠ [] ∨ hasExtension modulePath.parts = false →
        normal target.parts = normal (stemmed modulePath.parts)) := by
  obtain ⟨modulePath, hmodulePath, hparts, -⟩ := exists_absolute? hproper hpoint hmodule
  obtain ⟨outputPath, houtputPath, -, houtputPoint⟩ := exists_absolute? hproper hpoint houtput
  obtain ⟨directory, hdirectory, hdirectoryPoint⟩ : ∃ directory,
      (outputDirectory outputPath : StateM FileTree _).run tree = (directory, tree) ∧
        "." ∉ directory := by
    refine ⟨_, run_outputDirectory tree outputPath, ?_⟩
    split
    · exact houtputPoint
    · exact fun h => houtputPoint ((List.dropLast_sublist _).subset h)
  -- From here on the files are no longer read; the rest is about the two lists of parts.
  obtain ⟨common, climbed, down, target, hforks, htarget, hnormal⟩ :=
    absolute?_specifier hparts hdirectoryPoint
  refine ⟨modulePath, outputPath, target, directory, common, climbed, down, _, hmodulePath,
    houtputPath, hdirectory, run_relativeReference? hmodulePath houtputPath hdirectory, htarget,
    hforks, hnormal, ?_⟩
  intro hup hdown
  exact hnormal.trans (normal_of_plain hforks hup hdown)

/-- A working directory with a directory and a module in it. The directory can be gone through and
left again by two points. -/
def detour : FileTree where
  workingDirectory := ["work"]
  directories := [["work"], ["work", "a"]]
  files := [(["work", "types.ts"], "")]

/-- An output that is given by way of another directory, `a/../models.ts`, has a reference to
the module beside it that leads out of the working directory. -/
theorem reference_of_detour :
    ∃ target, (relativeReference? (parse "types.ts") (parse "a/../models.ts") :
        StateM FileTree _).run detour = (some "../../types", detour) ∧
      (parse "../../types").absolute? ["work", "a", ".."] = some target ∧
      normal target.parts = ["types"] ∧
      normal (stemmed ["work", "types.ts"]) = ["work", "types"] := by
  obtain ⟨modulePath, outputPath, target, directory, common, climbed, down, reference, -,
    houtputPath, hdirectory, hreference, htarget, -⟩ :=
      reference_leads_to_module detour (by decide) (by decide) "types.ts" "a/../models.ts"
        (by decide) (by decide)
  have hrun : (relativeReference? (parse "types.ts") (parse "a/../models.ts") :
      StateM FileTree _).run detour = (some "../../types", detour) := rfl
  -- What the theorem provides is compared with what these paths are evaluated to.
  obtain rfl : "../../types" = reference :=
    Option.some.inj (congrArg Prod.fst (hrun.symm.trans hreference))
  obtain rfl : Path.mk true ["work", "a", "..", "models.ts"] false = outputPath := by
    have h : (parse "a/../models.ts").absolute? detour.workingDirectory =
        some ⟨true, ["work", "a", "..", "models.ts"], false⟩ := rfl
    exact Option.some.inj (h.symm.trans houtputPath)
  obtain rfl : ["work", "a", ".."] = directory := congrArg Prod.fst hdirectory
  obtain rfl : Path.mk true ["work", "a", "..", "..", "..", "types"] false = target := by
    have h : (parse "../../types").absolute? ["work", "a", ".."] =
        some ⟨true, ["work", "a", "..", "..", "..", "types"], false⟩ := rfl
    exact Option.some.inj (h.symm.trans htarget)
  exact ⟨_, hrun, htarget, by decide, by decide⟩

end StateTree.Path
