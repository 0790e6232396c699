import StateTree.Files.Tree

/-!
# `StateTree.Proofs.Files.Lawful`: steps that leave the files as they are

What a program does to files is told from a few laws: looking changes nothing, and a write that
fails changes nothing. Nothing else is assumed about when a write fails, so there is room for files
that nobody may write to. The state stands for all files at once.

- `Keeps`: a step leaves all files as they are.
- `LawfulFiles`: the laws. File trees obey them.
- `keeps_relativeReference?`, `keeps_resolveReference?`: references are found by looking.
-/

set_option autoImplicit false

namespace StateTree

variable {σ α β : Type}

/-- A step leaves all files as they are. The state is the same before and after it, so this covers
files that the step has nothing to do with. -/
def Keeps (step : StateM σ α) : Prop :=
  ∀ before, (step.run before).2 = before

/-- A step without access to files leaves them as they are. -/
theorem keeps_pure (value : α) : Keeps (pure value : StateM σ α) :=
  fun _ => rfl

/-- Two steps leave the files as they are if both do. With `keeps_pure` the reference look-ups
below are put together from single looks. -/
theorem Keeps.bind {step : StateM σ α} {next : α → StateM σ β} (hstep : Keeps step)
    (hnext : ∀ value, Keeps (next value)) : Keeps (step >>= next) := fun before =>
  (hnext _ _).trans (hstep before)

/-- Looking at files changes nothing, and neither does a write that fails. These are all the laws
that a run of the program is judged by: they say nothing about what a write that succeeds does to
other files. -/
class LawfulFiles (σ : Type) [Files (StateM σ)] : Prop where
  keeps_workingDirectory : Keeps (Files.workingDirectory : StateM σ (List String))
  keeps_kind? (path : Path) : Keeps (Files.kind? path : StateM σ (Option FileKind))
  keeps_read? (path : Path) : Keeps (Files.read? path : StateM σ (Option String))
  eq_of_write_failed {path : Path} {content : String} {before after : σ}
    (h : (Files.write path content : StateM σ Bool).run before = (false, after)) : after = before

export LawfulFiles (keeps_workingDirectory keeps_kind? keeps_read? eq_of_write_failed)

/-- A write to a file tree goes through where the path leads to a place for a file. Otherwise it
answers so and the tree stays, which is the law for writes that fail. -/
theorem FileTree.run_write (tree : FileTree) (path : Path) (content : String) :
    (Files.write path content : StateM FileTree Bool).run tree =
      ((tree.write? path content).isSome, (tree.write? path content).getD tree) := by
  simp only [Files.write, StateT.run_bind, StateT.run_get, pure_bind]
  cases tree.write? path content <;> rfl

instance : LawfulFiles FileTree where
  keeps_workingDirectory := fun _ => rfl
  keeps_kind? _ := fun _ => rfl
  keeps_read? _ := fun _ => rfl
  eq_of_write_failed {path content before after} h := by
    rw [FileTree.run_write, Prod.mk.injEq, Option.isSome_eq_false_iff, Option.isNone_iff_eq_none]
      at h
    simp [← h.2, h.1]

/-! ### References -/

variable [Files (StateM σ)] [LawfulFiles σ]

/-- The directory of an output is found by looking, as the output may be a directory itself. -/
theorem keeps_outputDirectory (output : Path) :
    Keeps (outputDirectory output : StateM σ (List String)) := by
  refine (keeps_kind? output).bind fun kind => ?_
  split
  · exact keeps_pure _
  · exact keeps_pure _

/-- The reference to a module is found by looking. The only steps are those that ask for the
working directory and for the kind of the output. -/
theorem keeps_relativeReference? (module output : Path) :
    Keeps (relativeReference? module output : StateM σ (Option String)) := by
  refine keeps_workingDirectory.bind fun here => ?_
  split
  · exact (keeps_outputDirectory _).bind fun directory => keeps_pure _
  · exact keeps_pure _

/-- The reference to what may be a module is found by looking. A run thus reaches its first write
with the files as they were. -/
theorem keeps_resolveReference? (reference : String) (output : Path) :
    Keeps (resolveReference? reference output : StateM σ (Option String)) := by
  refine keeps_workingDirectory.bind fun here => ?_
  split
  · exact keeps_pure _
  · rename_i module _
    refine (keeps_kind? module).bind fun kind => ?_
    split
    · exact keeps_relativeReference? module output
    · exact keeps_pure _

end StateTree
