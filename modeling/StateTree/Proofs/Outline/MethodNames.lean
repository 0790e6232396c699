import Mathlib.Data.List.Perm.Basic
import StateTree.Proofs.Naming.FirstProposals
import StateTree.Proofs.Outline.Closure

/-!
# `StateTree.Proofs.Outline.MethodNames`: when the converter methods have distinct names

Types to convert have distinct identifiers. The method that reads a type puts `to` in front of its
identifier, so these methods have distinct names, too. The method that writes a type puts `ToJson`
behind the identifier in camel case, which brings two more ways for a name to come twice:

- two identifiers have one form in camel case, as `URL` and `Url` do;
- one identifier ends in `ToJson` and another one is, in camel case, `to` with what stands before
  that end: the method `toItemToJson` reads an `ItemToJson` and writes a `ToItem`.

Names of types and of enum members are told apart by giving the later one a number. Nothing does so
for methods, and in these two cases, and in no others, a class has a method twice.

- `decoderName_eq_encoderName_iff`: when a reading and a writing method share their name.
- `nodup_methodNames_iff`: when all methods of distinct identifiers have distinct names.
- `generate_nodup_methodNames_iff`: the methods of any file; `twins`: a file with a method twice.
-/

set_option autoImplicit false

namespace StateTree

open StateTree.Fallible
open StateTree.Graph
open StateTree.Naming (NameId TypeNames)
open StateTree.Text (camelCase)

namespace Outline

/-! ### Two methods -/

/-- The methods that read two types share their name only if the types do. Nothing but `to` is put
in front of an identifier, and nothing in it is changed. -/
theorem decoderName_injective {name other : String} (h : decoderName name = decoderName other) :
    name = other :=
  (String.append_right_inj "to").1 h

/-- A method that reads a type has the name of one that writes a type exactly if the first name
ends in `ToJson` and the second one is `to` and the rest of the first. It is the second of the two
ways for a name to come twice. -/
theorem decoderName_eq_encoderName_iff {name other : String} :
    decoderName name = encoderName other ↔
      ∃ stem, name = stem ++ "ToJson" ∧ camelCase .asGiven other = "to" ++ stem := by
  unfold decoderName encoderName
  generalize camelCase .asGiven other = camel
  constructor
  · intro h
    have hlist : ['t', 'o'] ++ name.toList = camel.toList ++ "ToJson".toList := by
      simpa [String.toList_append] using congrArg String.toList h
    -- One text is cut in two places: after `to`, and before `ToJson`. Either cut can be the
    -- first.
    rcases List.append_eq_append_iff.1 hlist with ⟨stem, hcamel, hname⟩ | ⟨stem, hcamel, hname⟩
    · refine ⟨String.ofList stem, String.toList_inj.1 ?_, String.toList_inj.1 ?_⟩
      · simpa [String.toList_append] using hname
      · simpa [String.toList_append] using hcamel
    · -- The end `ToJson` begins inside `to`, of which it has no letter.
      match stem, hname with
      | [], hname =>
        refine ⟨"", String.toList_inj.1 ?_, String.toList_inj.1 ?_⟩
        · simpa using hname.symm
        · simpa using hcamel.symm
      | c :: rest, hname =>
        obtain rfl : 'T' = c := (List.cons.inj hname).1
        have hmem : 'T' ∈ ['t', 'o'] := by simp [hcamel]
        simp at hmem
  · rintro ⟨stem, rfl, rfl⟩
    exact String.append_assoc.symm

/-! ### All methods of a file -/

/-- The names of the methods of the converter class, in the order in which the methods stand. -/
def methodNames (settings : Settings) (clients : List Client) : List String :=
  (methodsOf settings clients).map Source.Method.name

variable {settings : Settings} {clients : List Client}

/-- There are two names for each type to convert. Which types these are is up to the settings;
what the methods are called is not. -/
theorem methodNames_eq (settings : Settings) (clients : List Client) :
    methodNames settings clients =
      clients.flatMap fun client => [decoderName client.name, encoderName client.name] := by
  rw [methodNames, methodsOf, List.map_flatMap]
  rfl

/-- The names of all methods are those of the reading and those of the writing ones. In the class
the two kinds take turns, which makes no difference to whether a name comes twice. -/
theorem methodNames_perm (settings : Settings) (clients : List Client) :
    (methodNames settings clients).Perm
      ((clients.map fun client => decoderName client.name) ++
        clients.map fun client => encoderName client.name) := by
  have hwriting : clients.map (fun client => encoderName client.name) =
      clients.flatMap fun client => [encoderName client.name] := List.map_eq_flatMap
  rw [methodNames_eq, hwriting]
  exact (List.map_append_flatMap_perm clients _ _).symm

/-- Methods that read types with distinct identifiers have distinct names. That identifiers are
distinct is shown for every file in `nodup_clients`. -/
theorem nodup_decoderNames (hclients : (clients.map Client.name).Nodup) :
    (clients.map fun client => decoderName client.name).Nodup := by
  have hnames := hclients.map fun _ _ => decoderName_injective
  rwa [List.map_map] at hnames

/-- Two identifiers lead to a method of one name: the second, in camel case, is `to` and the first
without its end `ToJson`. The two need not differ, but a method name is repeated as soon as they
stand for types of one file. -/
def Confused (name other : String) : Prop :=
  ∃ stem, name = stem ++ "ToJson" ∧ camelCase .asGiven other = "to" ++ stem

/-- The methods of distinct identifiers have distinct names exactly if the forms of the identifiers
in camel case are distinct and no two of the identifiers lead to a method of one name. -/
theorem nodup_methodNames_iff (hclients : (clients.map Client.name).Nodup) :
    (methodNames settings clients).Nodup ↔
      (clients.map fun client => camelCase .asGiven client.name).Nodup ∧
      ∀ client ∈ clients, ∀ other ∈ clients, ¬ Confused client.name other.name := by
  have hencoders : (clients.map fun client => encoderName client.name).Nodup ↔
      (clients.map fun client => camelCase .asGiven client.name).Nodup := by
    -- All of these names end alike, so the ends can be left off.
    have hends : (clients.map fun client => encoderName client.name) =
        (clients.map fun client => camelCase .asGiven client.name).map (· ++ "ToJson") := by
      rw [List.map_map]
      rfl
    rw [hends]
    refine List.nodup_map_iff ?_
    intro camel camel' heq
    exact (String.append_left_inj "ToJson").1 heq
  -- What is left are two writing methods, and one method of each kind.
  rw [(methodNames_perm settings clients).nodup_iff, List.nodup_append, hencoders]
  simp only [nodup_decoderNames hclients, true_and, List.forall_mem_map]
  refine and_congr_right fun _ => forall₂_congr fun client _ => forall₂_congr fun other _ => ?_
  exact not_congr decoderName_eq_encoderName_iff

/-- No name is left twice where names that came before are left out. For the induction, no name
that came before the list is left either. -/
theorem nodup_distinctTargets (graph : TypeGraph) (seen : List NameId)
    (pairs : List (NameId × TypeId)) :
    ((distinctTargets graph seen pairs).map Target.name).Nodup ∧
      ∀ target ∈ distinctTargets graph seen pairs, target.name ∉ seen := by
  induction pairs generalizing seen with
  | nil => simp [distinctTargets]
  | cons pair rest ih =>
    obtain ⟨name, id⟩ := pair
    rw [distinctTargets]
    by_cases hseen : name ∈ seen
    · rw [if_pos hseen]
      exact ih seen
    · rw [if_neg hseen]
      obtain ⟨hnodup, hfresh⟩ := ih (name :: seen)
      constructor
      -- The first name has just come, so it is not among those of the rest.
      · refine List.nodup_cons.2 ⟨?_, hnodup⟩
        intro hmem
        obtain ⟨target, htarget, heq⟩ := List.mem_map.1 hmem
        exact hfresh target htarget (heq ▸ List.mem_cons_self)
      · intro target htarget
        rcases List.mem_cons.1 htarget with rfl | htarget
        · exact hseen
        · exact fun h => hfresh target htarget (List.mem_cons_of_mem _ h)

variable {profile : Profile} {graph : TypeGraph} {names : TypeNames} {outline : Outline}
  {sources : List Source.Declaration} {file : Source.File}

/-- No name is converted twice, whichever of the three choices of types the settings make. Two
names may still get one identifier, which `nodup_clients` excludes. -/
theorem nodup_targets (h : Outline.ofGraph profile graph names = .ok outline) :
    (outline.targets.map Target.name).Nodup := by
  have htargets := (ofGraph_eq_ok h).2.2
  unfold targetsOf at htargets
  -- Nothing is converted, or the names of entry points, or those of classes.
  split at htargets
  · have heq := Except.ok.inj htargets
    rw [← heq]
    exact List.nodup_nil
  · split at htargets
    · obtain ⟨pairs, -, heq⟩ := map_eq_ok_iff.1 htargets
      rw [← heq]
      exact (nodup_distinctTargets graph [] pairs).1
    · have heq := Except.ok.inj htargets
      rw [← heq]
      exact (nodup_distinctTargets graph [] _).1

/-- No two types to convert share an identifier. Handles do not, by `nodup_targets`, and distinct
handles resolve to distinct identifiers. It is the hypothesis of `nodup_methodNames_iff`. -/
theorem nodup_clients {declareUnions : Bool} {acronyms : Text.AcronymStyle}
    (hnames : TypeNames.assign graph declareUnions acronyms = .ok names)
    (h : Outline.ofGraph profile graph names = .ok outline)
    (hfile : WrittenOut profile names outline sources clients file) :
    (clients.map Client.name).Nodup := by
  have hresolve : List.Forall₂ (fun name identifier => names.resolve name = .ok identifier)
      (outline.targets.map Target.name) (clients.map Client.name) := by
    rw [List.forall₂_map_left_iff, List.forall₂_map_right_iff]
    refine hfile.targets.imp fun target client hclient => ?_
    obtain ⟨identifier, hidentifier, rfl⟩ := map_eq_ok_iff.1 hclient
    exact hidentifier
  -- A handle resolves to one identifier, and an identifier belongs to one handle.
  have hunique : Relator.BiUnique fun name identifier => names.resolve name = .ok identifier := by
    refine ⟨?_, ?_⟩
    · intro name other identifier hname hother
      exact TypeNames.resolve_injective hnames hname hother
    · intro name identifier other hidentifier hother
      exact Except.ok.inj (hidentifier.symm.trans hother)
  -- Lists that are related one to one repeat something together or not at all.
  exact (List.rel_nodup hunique hresolve).1 (nodup_targets h)

end Outline

open Outline

/-- In every file the types to convert have distinct identifiers, and so have the methods that read
them. All methods together have distinct names exactly if no two identifiers have one form in camel
case and no two lead to a method of one name. -/
theorem generate_nodup_methodNames_iff {profile : Profile} {graph : TypeGraph} {text : String}
    (h : generate profile graph = .ok text) :
    ∃ names outline sources clients file,
      TypeNames.assign graph profile.settings.declareUnions profile.settings.acronyms = .ok names ∧
      Outline.ofGraph profile graph names = .ok outline ∧
      outline.file profile names = .ok file ∧ file.render = text ∧
      WrittenOut profile names outline sources clients file ∧
      (clients.map Client.name).Nodup ∧
      (clients.map fun client => decoderName client.name).Nodup ∧
      ((methodNames profile.settings clients).Nodup ↔
        (clients.map fun client => camelCase .asGiven client.name).Nodup ∧
        ∀ client ∈ clients, ∀ other ∈ clients, ¬ Confused client.name other.name) := by
  obtain ⟨names, outline, file, hnames, houtline, hfile, htext⟩ := generate_eq_ok_iff.1 h
  obtain ⟨sources, clients, hwritten⟩ := file_eq_ok hfile
  have hclients := nodup_clients hnames houtline hwritten
  exact ⟨names, outline, sources, clients, file, hnames, houtline, hfile, htext, hwritten,
    hclients, nodup_decoderNames hclients, nodup_methodNames_iff hclients⟩

/-- Two classes whose names differ in the case of two letters. If acronyms are left as they are,
these are names of two types, and the same name in camel case. -/
def twins : TypeGraph where
  nodes := [{ kind := .object {}, names := ["URL"] }, { kind := .object {}, names := ["Url"] }]
  topLevels := [{ name := "URL", type := 0 }, { name := "Url", type := 1 }]
  wellFormed := by decide +kernel

/-- The settings that keep acronyms as they are, under which the classes of `twins` keep their
names. -/
def keepAcronyms : Settings :=
  { acronyms := .asGiven }

/-- The names of `twins`: two requests that do not get in each other's way. -/
def twinNames : TypeNames :=
  let requests : Naming.Registry Naming.NameKey :=
    ⟨[⟨.type 0, ["URL"], 100⟩, ⟨.type 1, ["Url"], 100⟩]⟩
  ⟨requests, requests.assign .typeName .asGiven⟩

theorem assign_twins : TypeNames.assign twins false .asGiven = .ok twinNames :=
  rfl

/-- Both classes of `twins` keep their names. It is told from the requests by
`TypeNames.resolve_eq_firstProposal`, so the whole assignment need not be computed. -/
theorem client_twinNames :
    Target.client twinNames ⟨⟨0⟩, false⟩ = .ok ⟨"URL", false⟩ ∧
      Target.client twinNames ⟨⟨1⟩, false⟩ = .ok ⟨"Url", false⟩ := by
  -- With acronyms as they are, the two proposals differ and each class gets its own.
  have huncontested : twinNames.registry.Uncontested .typeName .asGiven :=
    ⟨by decide, by decide⟩
  have hfirst : twinNames.resolve ⟨0⟩ = .ok "URL" := by
    rw [TypeNames.resolve_eq_firstProposal assign_twins huncontested rfl]
    decide
  have hsecond : twinNames.resolve ⟨1⟩ = .ok "Url" := by
    rw [TypeNames.resolve_eq_firstProposal assign_twins huncontested rfl]
    decide
  constructor
  · rw [Target.client, hfirst]
    rfl
  · rw [Target.client, hsecond]
    rfl

/-- The file of `twins` has the method `urlToJson` twice. -/
theorem generate_twins_methodNames :
    ∃ text, generate (.ofSettings keepAcronyms) twins = .ok text ∧
      ∃ names outline sources clients file,
        TypeNames.assign twins false .asGiven = .ok names ∧
        Outline.ofGraph (.ofSettings keepAcronyms) twins names = .ok outline ∧
        outline.file (.ofSettings keepAcronyms) names = .ok file ∧ file.render = text ∧
        WrittenOut (.ofSettings keepAcronyms) names outline sources clients file ∧
        ¬ (methodNames keepAcronyms clients).Nodup := by
  have hnameless : ∀ id, ¬ Naming.Nameless twins id := Naming.not_nameless (by decide)
  obtain ⟨text, htext⟩ := exists_generate (.ofSettings keepAcronyms) hnameless
  obtain ⟨names, outline, sources, clients, file, hnames, houtline, hfile, hrender, hwritten, -,
    -, hiff⟩ := generate_nodup_methodNames_iff htext
  refine ⟨text, htext, names, outline, sources, clients, file, hnames, houtline, hfile, hrender,
    hwritten, fun hnodup => ?_⟩
  obtain rfl : twinNames = names := Except.ok.inj (assign_twins.symm.trans hnames)
  have htargets : [⟨⟨0⟩, false⟩, ⟨⟨1⟩, false⟩] = outline.targets :=
    Except.ok.inj (ofGraph_eq_ok houtline).2.2
  have hclients : List.Forall₂ (fun target client => Target.client twinNames target = .ok client)
      outline.targets [⟨"URL", false⟩, ⟨"Url", false⟩] := by
    rw [← htargets]
    exact .cons client_twinNames.1 (.cons client_twinNames.2 .nil)
  obtain rfl : clients = [⟨"URL", false⟩, ⟨"Url", false⟩] :=
    Except.ok.inj ((mapM_eq_ok_iff.2 hwritten.targets).symm.trans (mapM_eq_ok_iff.2 hclients))
  -- In camel case both identifiers are `url`.
  have hcamel := (hiff.1 hnodup).1
  revert hcamel
  decide

end StateTree
