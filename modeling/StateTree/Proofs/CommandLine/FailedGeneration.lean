import StateTree.CommandLine.Outcome
import StateTree.Proofs.Files.Lawful
import StateTree.Proofs.Graph.Interchange
import StateTree.Proofs.Json.PlainNames
import StateTree.Proofs.Outline.Verdict

/-!
# `StateTree.Proofs.CommandLine.FailedGeneration`: what a failed generation leaves behind

All that can go wrong with the graph, the settings, the reference and the generated text goes wrong
before anything is written. Then there are two writes, and nothing takes the first back if the
second fails.

- `KeepsFiles`: a command that leaves all files as they are.
- `Generation.keepsFiles_text`: the text of a file is made by looking only.
- `Generation.LeavesSupport`: the support module is written and the file is not.
- `failed_run_leaves_files`: a failed run leaves the files as they were, or leaves the support
  module and nothing else.
- `failed_generation_leaves_support`: a run that leaves the support module.
-/

set_option autoImplicit false

namespace StateTree.CommandLine

open StateTree.Graph (TypeGraph)

variable {σ α β : Type}

/-! ### Commands that only look -/

/-- A command leaves all files as they are, whether it fails or not. It may look at them. Reading,
checking and choosing settings are shown to be such commands, so that of a run only the writing is
left to look at. -/
def KeepsFiles (command : Run (StateM σ) α) : Prop :=
  Keeps command.run

/-- The files after a command that leaves them as they are. The result of the command does not
matter. -/
theorem KeepsFiles.eq_of_run {command : Run (StateM σ) α} {before after : σ}
    {result : Except Failure α} (hcommand : KeepsFiles command)
    (h : command.run.run before = (result, after)) : after = before :=
  (congrArg Prod.snd h).symm.trans (hcommand before)

/-- A result leaves the files as they are. The lemmas of this section follow how commands are put
together. -/
theorem keepsFiles_pure (value : α) : KeepsFiles (pure value : Run (StateM σ) α) :=
  keeps_pure _

/-- A failure leaves the files as they are. -/
theorem keepsFiles_throw (failure : Failure) : KeepsFiles (throw failure : Run (StateM σ) α) :=
  keeps_pure _

/-- A step that leaves the files as they are does so as a command, which cannot fail then. -/
theorem keepsFiles_lift {action : StateM σ α} (h : Keeps action) :
    KeepsFiles (ExceptT.lift action : Run (StateM σ) α) :=
  h.bind fun _ => keeps_pure _

/-- Two commands leave the files as they are if both do. If the first one fails, the second is not
run. -/
theorem KeepsFiles.bind {command : Run (StateM σ) α} {next : α → Run (StateM σ) β}
    (hcommand : KeepsFiles command) (hnext : ∀ value, KeepsFiles (next value)) :
    KeepsFiles (command >>= next) := by
  rw [KeepsFiles, ExceptT.run_bind]
  refine Keeps.bind hcommand fun result => ?_
  cases result with
  | ok value => exact hnext value
  | error failure => exact keeps_pure _

/-- The value of a computation is got without files. It may be an error, which becomes a failure.
-/
theorem keepsFiles_attempt {ε : Type} (failure : ε → Failure) (result : Except ε α) :
    KeepsFiles (attempt failure result : Run (StateM σ) α) := by
  cases result with
  | ok value => exact keepsFiles_pure value
  | error error => exact keepsFiles_throw _

/-- A step on files that may fail leaves them as they are if it does so as a step. Reading a graph
is such a step. -/
theorem keepsFiles_step {ε : Type} (failure : ε → Failure) {action : StateM σ (Except ε α)}
    (h : Keeps action) : KeepsFiles (step failure action : Run (StateM σ) α) :=
  (keepsFiles_lift h).bind (keepsFiles_attempt failure)

variable [Files (StateM σ)] [LawfulFiles σ]

/-- A graph is opened by reading one file. What is in the file does not matter to the others. -/
theorem keeps_openGraph (path : String) : Keeps (openGraph path : StateM σ _) := by
  refine (keeps_read? _).bind fun content => ?_
  cases content with
  | none => exact keeps_pure _
  | some src => exact keeps_pure _

/-- Settings are opened by reading. -/
theorem keeps_openSettings (path : String) : Keeps (openSettings path : StateM σ _) := by
  refine (keeps_read? _).bind fun content => ?_
  cases content with
  | none => exact keeps_pure _
  | some src => exact keeps_pure _

/-- Settings are chosen by looking: at the given file, or at the usual one if it is there. -/
theorem keepsFiles_chosenSettings (given : Option String) :
    KeepsFiles (chosenSettings given : Run (StateM σ) Settings) := by
  cases given with
  | some path => exact keepsFiles_step _ (keeps_openSettings path)
  | none =>
    refine (keepsFiles_lift (keeps_kind? _)).bind fun kind => ?_
    split
    · exact keepsFiles_step _ (keeps_openSettings settingsFile)
    · exact keepsFiles_pure _

namespace Generation

variable (generation : Generation)

/-- The settings of a generation are chosen by looking. What the command line says of them is
added after that. -/
theorem keepsFiles_chosen : KeepsFiles (generation.chosen : Run (StateM σ) Settings) := by
  refine (keepsFiles_chosenSettings _).bind fun settings => ?_
  refine (keepsFiles_attempt _ _).bind fun settings => ?_
  exact (keepsFiles_attempt _ _).bind fun _ => keepsFiles_pure settings

/-- The module reference of a generation is found by looking. It may be that there is none, which
is a failure. -/
theorem keepsFiles_reference (settings : Settings) :
    KeepsFiles (generation.reference settings : Run (StateM σ) String) := by
  have hpresent (found : Option String) :
      KeepsFiles (reference.present found : Run (StateM σ) String) := by
    cases found with
    | none => exact keepsFiles_throw _
    | some reference => exact keepsFiles_pure reference
  -- Where a file is written, the reference is one to the support module or the given one as seen
  -- from there, and either may be missing.
  unfold reference
  split
  · exact keepsFiles_pure _
  · exact (keepsFiles_lift (keeps_relativeReference? _ _)).bind hpresent
  · exact (keepsFiles_lift (keeps_resolveReference? _ _)).bind hpresent

/-- The text of a file is made by looking only. Whatever goes wrong up to here leaves all files as
they were. -/
theorem keepsFiles_text : KeepsFiles (generation.text : Run (StateM σ) String) := by
  refine (keepsFiles_step _ (keeps_openGraph _)).bind fun graph => ?_
  refine (generation.keepsFiles_chosen).bind fun settings => ?_
  exact (generation.keepsFiles_reference settings).bind fun _ => keepsFiles_attempt _ _

end Generation

/-- A check of a graph and settings looks only, though it runs the generation to its end. -/
theorem keepsFiles_runCheck (path : String) (given : Option String) :
    KeepsFiles (runCheck path given : Run (StateM σ) String) := by
  refine (keepsFiles_step _ (keeps_openGraph path)).bind fun graph => ?_
  refine (keepsFiles_chosenSettings given).bind fun settings => ?_
  exact ((keepsFiles_attempt _ _).bind fun _ => keepsFiles_pure _).bind fun _ => keepsFiles_pure _

/-! ### Commands in a row -/

section

omit [Files (StateM σ)] [LawfulFiles σ]

variable {command : Run (StateM σ) α} {before after : σ}

/-- A command goes on after one that succeeds, with the files as that one left them. -/
theorem run_bind_of_ok {value : α} (h : command.run.run before = (.ok value, after))
    (next : α → Run (StateM σ) β) :
    (command >>= next).run.run before = (next value).run.run after := by
  rw [ExceptT.run_bind, StateT.run_bind, h]
  rfl

/-- A command ends with one that fails. What comes after it is not run. -/
theorem run_bind_of_error {failure : Failure} (h : command.run.run before = (.error failure, after))
    (next : α → Run (StateM σ) β) :
    (command >>= next).run.run before = (.error failure, after) := by
  rw [ExceptT.run_bind, StateT.run_bind, h]
  rfl

/-- A command that fails does so in its first or its second part. A failed run is taken apart by
this, part by part. -/
theorem run_bind_eq_error {next : α → Run (StateM σ) β} {failure : Failure}
    (h : (command >>= next).run.run before = (.error failure, after)) :
    command.run.run before = (.error failure, after) ∨
      ∃ value middle, command.run.run before = (.ok value, middle) ∧
        (next value).run.run middle = (.error failure, after) := by
  rcases hcommand : command.run.run before with ⟨value | first, middle⟩
  · rw [run_bind_of_error hcommand] at h
    obtain ⟨⟨⟩, rfl⟩ := Prod.mk.inj h
    exact .inl rfl
  · rw [run_bind_of_ok hcommand] at h
    exact .inr ⟨first, middle, rfl, h⟩

end

/-! ### Writing -/

section

omit [LawfulFiles σ]

variable {path content : String} {before after : σ}

/-- What writing a file comes to: the file is written, or there is a failure that names it. -/
theorem run_save {written : Bool}
    (h : (Files.write (Path.parse path) content : StateM σ Bool).run before = (written, after)) :
    (save path content : Run (StateM σ) Unit).run.run before =
      (if written then .ok () else .error (.unwritable path), after) := by
  unfold save
  rw [ExceptT.run_bind_lift, StateT.run_bind, h]
  cases written <;> rfl

/-- A file is written if the command for it succeeds. -/
theorem write_of_save_ok
    (h : (save path content : Run (StateM σ) Unit).run.run before = (.ok (), after)) :
    (Files.write (Path.parse path) content : StateM σ Bool).run before = (true, after) := by
  rcases hwrite : (Files.write (Path.parse path) content : StateM σ Bool).run before with
    ⟨_ | _, middle⟩
  · cases (run_save hwrite).symm.trans h
  · cases (run_save hwrite).symm.trans h
    rfl

/-- A file is not written if the command for it fails. By `eq_of_write_failed` nothing else is,
either. -/
theorem write_of_save_error {failure : Failure}
    (h : (save path content : Run (StateM σ) Unit).run.run before = (.error failure, after)) :
    (Files.write (Path.parse path) content : StateM σ Bool).run before = (false, after) := by
  rcases hwrite : (Files.write (Path.parse path) content : StateM σ Bool).run before with
    ⟨_ | _, middle⟩
  · cases (run_save hwrite).symm.trans h
    rfl
  · cases (run_save hwrite).symm.trans h

/-- A text is not delivered if it goes to a file that is not written. A text that is printed is
always delivered. -/
theorem write_of_emit_error {output : Option String} {failure : Failure}
    (h : (emit output content : Run (StateM σ) String).run.run before = (.error failure, after)) :
    ∃ path, output = some path ∧
      (Files.write (Path.parse path) content : StateM σ Bool).run before = (false, after) := by
  cases output with
  | none => cases h
  | some path =>
    obtain h | ⟨_, middle, -, h⟩ := run_bind_eq_error h
    · exact ⟨path, rfl, write_of_save_error h⟩
    · cases h

end

namespace Generation

variable {generation : Generation} {before after : σ} {failure : Failure}

/-- What is left where the support module is asked for and not written: all files as they were. -/
theorem eq_of_saveSupport_error
    (h : (generation.saveSupport : Run (StateM σ) Unit).run.run before = (.error failure, after)) :
    after = before := by
  unfold saveSupport at h
  split at h
  · exact eq_of_write_failed (write_of_save_error h)
  · cases h

omit [LawfulFiles σ] in
/-- The support module is written where it is asked for, and else nothing is. It is the first of
the two writes. -/
theorem write_of_saveSupport_ok
    (h : (generation.saveSupport : Run (StateM σ) Unit).run.run before = (.ok (), after)) :
    (generation.support = none ∧ after = before) ∨ ∃ path, generation.support = some path ∧
      (Files.write (Path.parse path) (Source.Support.text Expr.standardModule) :
        StateM σ Bool).run before = (true, after) := by
  unfold saveSupport at h
  split at h
  · rename_i path hsupport
    exact .inr ⟨path, hsupport, write_of_save_ok h⟩
  · rename_i hsupport
    cases h
    exact .inl ⟨hsupport, rfl⟩

/-- The support module is written, and the file that was to import from it cannot be written.
Nothing else has gone wrong before. -/
def LeavesSupport (generation : Generation) (before after : σ) : Prop :=
  ∃ support output code,
    generation.support = some support ∧ generation.output = some output ∧
    (generation.text : Run (StateM σ) String).run.run before = (.ok code, before) ∧
    (Files.write (Path.parse support) (Source.Support.text Expr.standardModule) :
      StateM σ Bool).run before = (true, after) ∧
    (Files.write (Path.parse output) code : StateM σ Bool).run after = (false, after)

/-- What is left by a generation that fails: all files as they were, or the support module. The
parts of a generation are the text, the support module, and the file. -/
theorem eq_or_leavesSupport
    (h : (generation.run : Run (StateM σ) String).run.run before = (.error failure, after)) :
    after = before ∨ generation.LeavesSupport before after := by
  obtain htext | ⟨code, middle, htext, hrest⟩ := run_bind_eq_error h
  · exact .inl (generation.keepsFiles_text.eq_of_run htext)
  -- There is a text, and the files are as before.
  obtain rfl := generation.keepsFiles_text.eq_of_run htext
  obtain hsave | ⟨⟨⟩, left, hsave, hemit⟩ := run_bind_eq_error hrest
  · exact .inl (eq_of_saveSupport_error hsave)
  -- The failed write changes nothing, so what is left is what saving the support module left.
  obtain ⟨output, houtput, hwrite⟩ := write_of_emit_error hemit
  obtain rfl := eq_of_write_failed hwrite
  obtain ⟨-, rfl⟩ | ⟨support, hsupport, hsave⟩ := write_of_saveSupport_ok hsave
  · exact .inl rfl
  · exact .inr ⟨support, output, code, hsupport, houtput, htext, hsave, hwrite⟩

omit [LawfulFiles σ] in
/-- A generation fails where the support module is written and the file is not. So the case in
`eq_or_leavesSupport` is not an empty one. -/
theorem LeavesSupport.run_eq (h : generation.LeavesSupport before after) :
    ∃ output, (generation.run : Run (StateM σ) String).run.run before =
      (.error (.unwritable output), after) := by
  obtain ⟨support, output, code, hsupport, houtput, htext, hsave, hwrite⟩ := h
  refine ⟨output, ?_⟩
  have hsaved :
      (generation.saveSupport : Run (StateM σ) Unit).run.run before = (.ok (), after) := by
    rw [saveSupport, hsupport]
    exact run_save hsave
  -- The three steps in turn: the text, the support module, and the write that fails.
  unfold run
  rw [run_bind_of_ok htext, run_bind_of_ok hsaved, houtput]
  exact run_bind_of_error (run_save hwrite) _

end Generation

/-! ### Command lines -/

/-- What is left by a command that fails. Only a generation writes two files, so it is the only
one that can fail between two writes. -/
theorem Command.eq_or_leavesSupport {command : Command} {before after : σ} {failure : Failure}
    (h : (command.run : Run (StateM σ) String).run.run before = (.error failure, after)) :
    after = before ∨ ∃ generation, command = .generate generation ∧
      generation.LeavesSupport before after := by
  cases command with
  | generate generation =>
    exact (Generation.eq_or_leavesSupport h).imp_right fun h => ⟨generation, rfl, h⟩
  | check path given => exact .inl ((keepsFiles_runCheck path given).eq_of_run h)
  | support output base =>
    obtain ⟨path, -, hwrite⟩ := write_of_emit_error h
    exact .inl (eq_of_write_failed hwrite)

omit [LawfulFiles σ] in
/-- What a command line for a command comes to: the outcome of the command, on the same files. -/
theorem run_invoke {arguments : List String} {command : Command} {before after : σ}
    {result : Except Failure String} (hparse : parse arguments = .ok (.execute command))
    (h : (command.run : Run (StateM σ) String).run.run before = (result, after)) :
    (invoke arguments : StateM σ Outcome).run before = (.ofResult result, after) := by
  unfold invoke
  rw [hparse]
  simp only [Request.run]
  rw [StateT.run_bind, h]
  rfl

omit [LawfulFiles σ] in
/-- A command line without a command to run has nothing to do with files. It is refused, or asks
for a page of help. -/
theorem keeps_invoke_of_no_command {arguments : List String}
    (h : ∀ command, parse arguments ≠ .ok (.execute command)) :
    Keeps (invoke arguments : StateM σ Outcome) := by
  unfold invoke
  rcases hparse : parse arguments with error | (_ | page | command)
  · exact keeps_pure _
  · exact keeps_pure _
  · exact keeps_pure _
  · exact absurd hparse (h command)

/-! ### An output in a missing directory -/

/-- A graph without types. -/
def bare : TypeGraph where
  nodes := []
  topLevels := []
  wellFormed := by decide +kernel

/-- Nothing but a file with that graph. The directory that the output is to go into is missing. -/
def bareTree : FileTree where
  files := [(["graph.json"], "\x7b\"types\":[]\x7d")]

/-- A generation into a directory that does not exist, with a support module beside the graph. -/
def astray : Generation where
  graph := "graph.json"
  output := some "missing/models.ts"
  support := some "types.ts"

/-- The graph in the file. It is read from its text. -/
theorem run_openGraph_bareTree :
    (openGraph "graph.json" : StateM FileTree _).run bareTree = (.ok bare, bareTree) := by
  have hdocument : (Json.parse? "\x7b\"types\":[]\x7d").bind Graph.Interchange.document? =
      some ([], []) := by
    rw [show "\x7b\"types\":[]\x7d" = "\x7b\"" ++ "types" ++ "\":[]\x7d" from rfl,
      Json.parse?_emptyField (by simp [Json.IsPlain])]
    rfl
  -- Reading is by evaluation only as far as the document. From there on it is by the theorem on
  -- loading.
  have hread : Graph.Interchange.read "\x7b\"types\":[]\x7d" = .ok bare :=
    Graph.Interchange.read_eq_ok_iff.2
      ⟨[], [], hdocument, Graph.Interchange.load_eq_ok_iff.2 ⟨.nil, rfl⟩⟩
  rw [← hread]
  rfl

/-- The text that goes astray. Up to here all goes well, so it is the write of this text that
fails. -/
theorem exists_run_text_astray : ∃ code,
    (astray.text : Run (StateM FileTree) String).run.run bareTree = (.ok code, bareTree) := by
  have hgraph : (step .graph (openGraph astray.graph) : Run (StateM FileTree) _).run.run bareTree =
      (.ok bare, bareTree) := by
    unfold step
    rw [ExceptT.run_bind_lift, StateT.run_bind, astray, run_openGraph_bareTree]
    rfl
  have hchosen : (astray.chosen : Run (StateM FileTree) _).run.run bareTree = (.ok {}, bareTree) :=
    rfl
  have hreference : (astray.reference {} : Run (StateM FileTree) _).run.run bareTree =
      (.ok "../types", bareTree) :=
    rfl
  -- That there is a text is by the theorem on generation, so nothing is generated here.
  have hnames : ∀ id, ¬ Naming.Nameless bare id := Naming.not_nameless (by decide)
  obtain ⟨code, hcode⟩ := exists_generate (.ofSettings { moduleReference := "../types" }) hnames
  refine ⟨code, ?_⟩
  unfold Generation.text
  rw [run_bind_of_ok hgraph, run_bind_of_ok hchosen, run_bind_of_ok hreference]
  simp only [hcode]
  rfl

/-- The tree with the support module in it. -/
def supportedTree : FileTree :=
  bareTree.put ["types.ts"] (Source.Support.text Expr.standardModule)

/-- The support module is written before it turns out that the output cannot be. -/
theorem astray_leavesSupport : astray.LeavesSupport bareTree supportedTree := by
  obtain ⟨code, hcode⟩ := exists_run_text_astray
  exact ⟨"types.ts", "missing/models.ts", code, rfl, rfl, hcode, rfl, rfl⟩

/-- The arguments for it. -/
def astrayArguments : List String :=
  ["generate", "graph.json", "-o", "missing/models.ts", "--runtime-module", "types.ts"]

/-- The command line asks for that generation. -/
theorem parse_astrayArguments : parse astrayArguments = .ok (.execute (.generate astray)) := by
  decide

/-! ### Failed runs -/

/-- A command line that fails leaves all files as they were, but for one case: if all goes well in a
generation up to writing the support module, and then the generated file cannot be written, the
support module stays. -/
theorem failed_run_leaves_files {arguments : List String} {before after : σ} {outcome : Outcome}
    (hrun : (invoke arguments : StateM σ Outcome).run before = (outcome, after)) :
    (outcome.exitCode ≠ 0 → after = before ∨ ∃ generation,
      parse arguments = .ok (.execute (.generate generation)) ∧
        generation.LeavesSupport before after) ∧
    ∀ generation left, parse arguments = .ok (.execute (.generate generation)) →
      generation.LeavesSupport before left → outcome.exitCode = 1 ∧ after = left := by
  constructor
  · intro hexit
    by_cases hexecutes : ∃ command, parse arguments = .ok (.execute command)
    · obtain ⟨command, hparse⟩ := hexecutes
      rcases hcommand : (command.run : Run (StateM σ) String).run.run before with
        ⟨failure | printed, left⟩
      · cases (run_invoke hparse hcommand).symm.trans hrun
        obtain rfl | ⟨generation, rfl, hleft⟩ := Command.eq_or_leavesSupport hcommand
        · exact .inl rfl
        · exact .inr ⟨generation, hparse, hleft⟩
      · -- A command that succeeds has the exit code zero.
        cases (run_invoke hparse hcommand).symm.trans hrun
        exact absurd rfl hexit
    · have hkeeps := keeps_invoke_of_no_command (not_exists.1 hexecutes) before
      exact .inl ((congrArg Prod.snd hrun).symm.trans hkeeps)
  · intro generation left hparse hleft
    obtain ⟨output, hgeneration⟩ := hleft.run_eq
    cases (run_invoke hparse hgeneration).symm.trans hrun
    exact ⟨rfl, rfl⟩

/-- The generation with its output in a missing directory is such a case: it fails, and the
support module stays behind. So the exception for the support module is a real one. -/
theorem failed_run_astray :
    ∃ outcome, (invoke astrayArguments : StateM FileTree Outcome).run bareTree =
      (outcome, supportedTree) ∧ outcome.exitCode ≠ 0 ∧ supportedTree ≠ bareTree ∧
        ∃ generation, parse astrayArguments = .ok (.execute (.generate generation)) ∧
          generation.LeavesSupport bareTree supportedTree := by
  obtain ⟨output, hgeneration⟩ := astray_leavesSupport.run_eq
  have hrun := run_invoke parse_astrayArguments hgeneration
  have hleaves := failed_run_leaves_files hrun
  have hexit := (hleaves.2 astray supportedTree parse_astrayArguments astray_leavesSupport).1
  have hchanged : supportedTree ≠ bareTree := fun h => by
    simpa [supportedTree, bareTree, FileTree.put] using congrArg FileTree.files h
  have hfailed := hleaves.1 (by simp [hexit])
  exact ⟨_, hrun, by simp [hexit], hchanged, hfailed.resolve_left hchanged⟩

/-- The support module stays where the output was to go into a missing directory. -/
theorem failed_generation_leaves_support :
    ∃ outcome after, (invoke astrayArguments : StateM FileTree Outcome).run bareTree =
      (outcome, after) ∧ outcome.exitCode = 1 ∧ bareTree.content? ["types.ts"] = none ∧
        after.content? ["types.ts"] = some (Source.Support.text Expr.standardModule) := by
  obtain ⟨output, hrun⟩ := astray_leavesSupport.run_eq
  exact ⟨_, supportedTree, run_invoke parse_astrayArguments hrun, rfl, by decide, rfl⟩

end StateTree.CommandLine
