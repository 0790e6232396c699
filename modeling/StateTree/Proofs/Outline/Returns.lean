import StateTree.Proofs.Expr.Rendering
import StateTree.Proofs.Outline.Bodies
import StateTree.Proofs.Outline.ImportLine
import StateTree.Proofs.Source.Returns
import StateTree.Proofs.Text.LiteralGrammar

/-!
# `StateTree.Proofs.Outline.Returns`: what a file has carriage returns from

Identifiers have letters, numbers and a few signs of their own, literals have escapes for control
characters, and all other words of a file are fixed. So a carriage return in a file is from the
description of something or from the module reference, both of which are written as they are.

- `Text.returnless_escape`, `KeyConvention.returnless_key`, `TypeNames.returnless_of_resolve`,
  `Naming.returnless_of_mem_enumCaseNames`: texts that are made ready have none.
- `Expr.returnless_of_mem_word`, `Outline.returnless_exprText`: nor have expressions.
- `Outline.returnless_of_mem_source`: nor has a declaration besides its descriptions.
- `Outline.allIntact_imports_iff`, `Outline.intact_of_mem_header`,
  `Outline.allIntact_of_mem_converterOf`, `Outline.allIntact_sources_iff`: the parts of a file.
- `Outline.keepsReturns_render_iff`: the text of the file of an outline.
-/

set_option autoImplicit false

namespace StateTree

open StateTree.Expr (Part Vocabulary)
open StateTree.Fallible
open StateTree.Graph
open StateTree.Layout (AllIntact Intact IntactDoc intact_of_returnless)
open StateTree.Naming (Convention NameId TypeNames enumCaseNames)
open StateTree.Text (AcronymStyle KeepsReturns Returnless camelCase returnless_append_iff)

/-! ### Texts that are made ready -/

namespace Text

/-- Every character but the carriage return. As a test of characters it is something that
`CaseClosed` can be asked of. -/
def isNoReturn (c : Char) : Bool :=
  c ≠ '\r'

/-- A text without carriage returns has other characters only. What is known of styled names is
known of all their characters, so this is how it is put to use. -/
theorem returnless_iff {s : String} : Returnless s ↔ s.toList.all isNoReturn = true := by
  simp only [Returnless, isNoReturn, List.all_eq_true, decide_eq_true_eq]
  exact ⟨fun h c hc heq => h (heq ▸ hc), fun h hmem => h _ hmem rfl⟩

/-- No change of case leads to a carriage return or away from one. It is no letter, and letters
are all that case is changed of. -/
theorem caseClosed_isNoReturn : CaseClosed isNoReturn := by
  refine caseClosed_of_letters fun c hc => decide_eq_true ?_
  rintro rfl
  exact absurd hc (by decide)

/-- A carriage return is no letter and no number, so styling a name, which keeps these only,
leaves none. -/
theorem isNoReturn_of_isAlphanumeric (c : Char) (h : isAlphanumeric c = true) :
    isNoReturn c = true := by
  by_contra hc
  obtain rfl : c = '\r' := by simpa [isNoReturn] using hc
  exact absurd h (by decide)

/-- A name in camel case has letters and numbers only. The names of methods and of parameters are
made with it, from identifiers. -/
theorem returnless_camelCase (style : AcronymStyle) (s : String) :
    Returnless (camelCase style s) := by
  rw [returnless_iff, camelCase, String.toList_ofList, caseClosed_isNoReturn.all_camelChars]
  refine List.all_eq_true.2 fun c hc => ?_
  exact isNoReturn_of_isAlphanumeric c (List.mem_filter.1 hc).2

/-- An escaped text has no control characters. This is where carriage returns in names of
properties and in cases of enums go: they are written as `\r` in two characters. -/
theorem returnless_escape (s : String) : Returnless (escape s) := by
  intro h
  rw [escape, String.toList_ofList] at h
  obtain ⟨c, -, hmem⟩ := List.mem_flatMap.1 h
  exact absurd (printable_of_mem_escapeChar hmem).1 (by decide)

/-- Texts without carriage returns are put together to one, if what is put between them has none
either. -/
theorem returnless_intercalate {sep : String} {parts : List String} (hsep : Returnless sep)
    (hparts : ∀ part ∈ parts, Returnless part) : Returnless (sep.intercalate parts) := by
  rw [Returnless, String.toList_intercalate]
  induction parts with
  | nil => simp
  | cons part parts ih =>
    obtain ⟨hpart, hrest⟩ := List.forall_mem_cons.1 hparts
    -- What is put between stands only where another text follows.
    cases parts with
    | nil => simpa [Returnless] using hpart
    | cons next parts =>
      rw [List.map_cons, List.map_cons, List.intercalate_cons_cons, List.mem_append,
        List.mem_append, not_or, not_or]
      exact ⟨⟨hpart, hsep⟩, ih hrest⟩

end Text

/-- The key of a property is a plain name or a literal. A plain name needs no escapes, and a
carriage return would. -/
theorem KeyConvention.returnless_key (convention : KeyConvention) (name : String) :
    Returnless (convention.key name) := by
  unfold key
  split
  · rename_i hbare
    exact fun hmem => absurd (convention.needsEscape_of_isBare hbare _ hmem) (by decide)
  · simp only [Text.quote, returnless_append_iff, Text.returnless_escape, and_true]
    decide

/-- The identifiers of a file have no carriage returns, whatever names are proposed: they are
proposals with other characters taken out, perhaps with a number behind. -/
theorem Naming.TypeNames.returnless_of_resolve {graph : TypeGraph} {declareUnions : Bool}
    {acronyms : AcronymStyle} {names : TypeNames}
    (h : TypeNames.assign graph declareUnions acronyms = .ok names) {id : NameId}
    {identifier : String} (hid : names.resolve id = .ok identifier) : Returnless identifier :=
  Text.returnless_iff.2 (TypeNames.all_of_resolve h Text.caseClosed_isNoReturn
    Text.isNoReturn_of_isAlphanumeric hid)

/-- Nor have the identifiers of the members of an enum, which are made from cases in the same way.
-/
theorem Naming.returnless_of_mem_enumCaseNames {acronyms : AcronymStyle} {cases : List String}
    {identifier : String} (h : identifier ∈ enumCaseNames acronyms cases) :
    Returnless identifier := by
  obtain ⟨proposal, -, hname⟩ := Naming.exists_proposal_of_mem_memberNames h
  exact Text.returnless_iff.2 (Convention.all_of_proposal (by simp) Text.caseClosed_isNoReturn
    Text.isNoReturn_of_isAlphanumeric hname)

/-! ### Expressions -/

namespace Expr

/-- A vocabulary whose words have no carriage returns. The module is not among the words, since it
comes from the settings as it is. -/
structure Vocabulary.IsReturnless (vocabulary : Vocabulary) : Prop where
  root : Returnless vocabulary.root
  expression : ∀ scalar, Returnless (vocabulary.expression scalar)

/-- Such are the standard words, whatever module they come from. So the hypothesis on the
vocabulary that is carried through this file holds of every file with settings. -/
theorem Vocabulary.isReturnless_standard (module : String) :
    (standard.withModule module).IsReturnless where
  root := show Returnless "types" by decide
  expression := by
    have hstandard : ∀ scalar, Returnless (standard.expression scalar) := by
      intro scalar
      cases scalar <;> decide
    exact hstandard

variable {vocabulary : Vocabulary}

/-- A member of the object that builds types. Its name is one of a few fixed words. -/
theorem Vocabulary.IsReturnless.member (h : vocabulary.IsReturnless) {name : String}
    (hname : Returnless name) : Returnless (vocabulary.member name) := by
  simp only [Vocabulary.member, returnless_append_iff, h.root, hname, true_and, and_true]
  decide

mutual

/-- No text in an expression has a carriage return. The other pieces are handles of names, which
`returnless_exprText` looks up. -/
theorem returnless_of_mem_word (h : vocabulary.IsReturnless) (expr : Expr) :
    ∀ s, Part.text s ∈ (word vocabulary expr).parts → Returnless s := by
  -- What expressions open with are fixed words behind the name of the object.
  have hmember : ∀ name ∈ ["array(", "union(", "enumeration<", "late(() => "],
      Returnless (vocabulary.member name) :=
    fun name hname => h.member (List.forall_iff_forall_mem.1 (by decide) name hname)
  intro s hs
  cases expr with
  | scalar type =>
    obtain rfl : s = vocabulary.expression type := by
      simpa [word, Vocabulary.scalar, Word.ofText] using hs
    exact h.expression type
  | array items =>
    simp only [word, nested_word, List.mem_cons, List.mem_append, Part.text.injEq,
      List.not_mem_nil, or_false] at hs
    obtain (rfl | hs) | rfl := hs
    · exact hmember _ (by simp)
    · exact returnless_of_mem_word h items s hs
    · decide
  | union members =>
    simp only [word, List.mem_cons, List.mem_append, Part.text.injEq, List.not_mem_nil,
      or_false] at hs
    obtain (rfl | hs) | rfl := hs
    · exact hmember _ (by simp)
    · exact returnless_of_mem_words h members s hs
    · decide
  | enumeration name =>
    simp only [word, List.mem_cons, Part.text.injEq, reduceCtorEq, false_or, List.not_mem_nil,
      or_false] at hs
    obtain rfl | rfl | rfl | rfl := hs
    · exact hmember _ (by simp)
    all_goals decide
  | reference name => simp [word, Word.ofName] at hs
  | late name =>
    simp only [word, List.mem_cons, Part.text.injEq, reduceCtorEq, false_or, List.not_mem_nil,
      or_false] at hs
    obtain rfl | rfl := hs
    · exact hmember _ (by simp)
    · decide

/-- Nor has any between expressions with commas. -/
theorem returnless_of_mem_words (h : vocabulary.IsReturnless) (exprs : List Expr) :
    ∀ s, Part.text s ∈ separated (words vocabulary exprs) → Returnless s := by
  intro s hs
  -- The induction is on the list, together with the one on expressions. Between two of them there
  -- is a comma.
  match exprs with
  | [] => simp [words, separated] at hs
  | [expr] =>
    simp only [words, separated, nested_word] at hs
    exact returnless_of_mem_word h expr s hs
  | expr :: next :: others =>
    have ihs := returnless_of_mem_words h (next :: others) s
    simp only [words, separated, nested_word, List.mem_append, List.mem_cons, Part.text.injEq]
      at hs ihs
    obtain hs | rfl | hs := hs
    · exact returnless_of_mem_word h expr s hs
    · decide
    · exact ihs hs

end

end Expr

namespace Outline

variable {profile : Profile} {graph : TypeGraph} {names : TypeNames} {written : List TypeId}
  {declareUnions : Bool} {acronyms : AcronymStyle}

/-- The text of an expression has no carriage return: neither have its words nor the identifiers
in it. -/
theorem returnless_exprText (hnames : TypeNames.assign graph declareUnions acronyms = .ok names)
    (hvocabulary : profile.vocabulary.IsReturnless) {expr : Expr} {text : String}
    (h : exprText profile.vocabulary names expr = .ok text) : Returnless text := by
  rw [Returnless, Expr.toList_of_render h]
  intro hmem
  obtain ⟨part, hpart, hmem⟩ := List.mem_flatMap.1 hmem
  cases part with
  | text s => exact Expr.returnless_of_mem_word hvocabulary expr s hpart hmem
  | name id =>
    -- A handle is written as its identifier, or as nothing if it has none.
    rw [Expr.partChars, Expr.nameChars] at hmem
    cases hid : names.names.resolve? id with
    | none => simp [hid] at hmem
    | some identifier =>
      rw [hid] at hmem
      exact TypeNames.returnless_of_resolve hnames (TypeNames.resolve?_eq_some_iff.1 hid) hmem

/-! ### Declarations -/

/-- The texts of a body that are made ready: keys and the identifiers of members. The cases of an
enum are escaped only when they are written. -/
def Body.texts : Body → List String
  | model properties => properties.map Property.key
  | enumeration members => members.map Prod.fst
  | constant _ => []

/-- The descriptions in a declaration: its own and those of its properties. These are written as
they are, but for the ends of comments in them. -/
def Declaration.descriptions (declaration : Declaration) : List String :=
  declaration.doc.toList ++
    match declaration.body with
    | .model properties => properties.filterMap Property.doc
    | _ => []

/-- The texts that bodies are made from have no carriage returns: they are keys and identifiers,
and a constant has no such texts. -/
theorem returnless_of_mem_body {id : TypeId} {content : Body}
    (h : body profile graph names written id = .ok content) :
    ∀ s ∈ content.texts, Returnless s := by
  intro s hs
  -- Keys of properties and identifiers of cases are the only texts; a constant has none of its
  -- own.
  obtain ⟨properties, -, hkind, -⟩ | ⟨cases, -, hkind, -⟩ | ⟨members, expr, hkind, rfl, -⟩ :=
    body_cases h
  · obtain ⟨members, rfl, hkeys, -⟩ := model_of_body hkind h
    rw [Body.texts, hkeys, propertyKeys_eq] at hs
    obtain ⟨name, -, rfl⟩ := List.mem_map.1 hs
    exact profile.keys.returnless_key name
  · simp only [body, hkind] at h
    rw [← Except.ok.inj h] at hs
    obtain ⟨⟨identifier, case⟩, hmember, rfl⟩ := List.mem_map.1 hs
    exact Naming.returnless_of_mem_enumCaseNames (List.of_mem_zip hmember).1
  · cases hs

/-- Nor have those of any item: aliases are made from no such texts. Together with
`returnless_of_mem_source` it says what an item is written with. -/
theorem returnless_of_mem_items {outline : Outline}
    (h : Outline.ofGraph profile graph names = .ok outline) {item : Declaration}
    (hitem : item ∈ outline.items) : ∀ s ∈ item.body.texts, Returnless s := by
  obtain hitem | hitem := List.mem_append.1 hitem
  · obtain ⟨before, after, hsplit⟩ := List.append_of_mem hitem
    exact returnless_of_mem_body (declaration_eq_ok (declaration_of_split h hsplit)).2.2
  · obtain ⟨i, top, -, -, -, -, expr, hbody, -⟩ := aliasAll_eq_ok (ofGraph_eq_ok h).2.1 item hitem
    intro s hs
    rw [hbody] at hs
    cases hs

/-- The type of a property is that of an expression, with `maybe` around it if the property may be
missing. -/
theorem returnless_value (hvocabulary : profile.vocabulary.IsReturnless) (optional : Bool)
    {text : String} (h : Returnless text) :
    Returnless (Property.value profile.vocabulary optional text) := by
  have hmaybe : Returnless (profile.vocabulary.member "maybe") := hvocabulary.member (by decide)
  unfold Property.value
  split
  · simp only [returnless_append_iff, hmaybe, h, true_and, and_true]
    decide
  · exact h

/-- What is written for the properties of a model has their descriptions, and no carriage returns
besides. Descriptions are passed on one by one, which is why both are said at once. -/
theorem returnless_of_mem_entries
    (hnames : TypeNames.assign graph declareUnions acronyms = .ok names)
    (hvocabulary : profile.vocabulary.IsReturnless) {properties : List Property}
    {entries : List Source.ModelProperty} (hkeys : ∀ property ∈ properties, Returnless property.key)
    (h : List.Forall₂ (fun property entry =>
      Property.source profile.vocabulary names property = .ok entry) properties entries) :
    entries.filterMap Source.ModelProperty.doc = properties.filterMap Property.doc ∧
      ∀ entry ∈ entries, Returnless entry.key ∧ Returnless entry.value := by
  induction h with
  | nil => simp
  | @cons property entry properties entries hentry _ ih =>
    obtain ⟨hkey, hrest⟩ := List.forall_mem_cons.1 hkeys
    obtain ⟨text, htext, rfl⟩ := map_eq_ok_iff.1 hentry
    obtain ⟨hdocs, hentries⟩ := ih hrest
    refine ⟨by rw [List.filterMap_cons, List.filterMap_cons, hdocs], ?_⟩
    have htype := returnless_value hvocabulary property.optional
      (returnless_exprText hnames hvocabulary htext)
    exact List.forall_mem_cons.2 ⟨⟨hkey, htype⟩, hentries⟩

/-- What is written for a declaration has its descriptions, and no carriage returns besides. So
carriage returns of an item can be told from its descriptions alone. -/
theorem returnless_of_mem_source
    (hnames : TypeNames.assign graph declareUnions acronyms = .ok names)
    (hvocabulary : profile.vocabulary.IsReturnless) {item : Declaration}
    {source : Source.Declaration} (hbody : ∀ s ∈ item.body.texts, Returnless s)
    (h : item.source profile.vocabulary names = .ok source) :
    source.descriptions = item.descriptions ∧ ∀ s ∈ source.texts, Returnless s := by
  obtain ⟨name, hname, hwritten⟩ := bind_eq_ok_iff.1 h
  have hname : Returnless name := TypeNames.returnless_of_resolve hnames hname
  unfold Declaration.descriptions
  -- For each body, what its declaration writes: the texts that the body has and those that are
  -- resolved, escaped or rendered from it.
  cases hcontent : item.body with
  | model properties =>
    rw [hcontent] at hwritten hbody
    obtain ⟨entries, hentries, hwritten⟩ := bind_eq_ok_iff.1 hwritten
    obtain rfl := Except.ok.inj hwritten
    have hfactory : Returnless (profile.vocabulary.member "model") := hvocabulary.member (by decide)
    obtain ⟨hdocs, htexts⟩ := returnless_of_mem_entries hnames hvocabulary
      (List.forall_mem_map.1 hbody) (mapM_eq_ok_iff.1 hentries)
    refine ⟨congrArg (item.doc.toList ++ ·) hdocs, ?_⟩
    refine List.forall_mem_cons.2 ⟨hname, List.forall_mem_cons.2 ⟨hfactory, fun s hs => ?_⟩⟩
    obtain ⟨entry, hentry, hs⟩ := List.mem_flatMap.1 hs
    obtain rfl | rfl : s = entry.key ∨ s = entry.value := by simpa using hs
    · exact (htexts entry hentry).1
    · exact (htexts entry hentry).2
  | enumeration members =>
    rw [hcontent] at hwritten hbody
    obtain rfl := Except.ok.inj hwritten
    refine ⟨(List.append_nil _).symm, ?_⟩
    refine List.forall_mem_cons.2 ⟨hname, fun s hs => ?_⟩
    obtain ⟨written, hwritten, hs⟩ := List.mem_flatMap.1 hs
    obtain ⟨member, hmember, rfl⟩ := List.mem_map.1 hwritten
    obtain rfl | rfl : s = member.1 ∨ s = Text.escape member.2 := by simpa using hs
    · exact hbody _ (List.mem_map_of_mem hmember)
    · exact Text.returnless_escape _
  | constant expr =>
    rw [hcontent] at hwritten
    obtain ⟨text, htext, hwritten⟩ := bind_eq_ok_iff.1 hwritten
    obtain rfl := Except.ok.inj hwritten
    refine ⟨(List.append_nil _).symm, ?_⟩
    simp [Source.Declaration.texts, hname, returnless_exprText hnames hvocabulary htext]

/-! ### Converters and imports -/

variable {checks : Bool}

/-- The methods of a type have no carriage returns if its identifier has none: everything else in
them is fixed. -/
theorem Client.returnless_of_mem_methods {client : Client} (h : Returnless client.name) :
    ∀ method ∈ client.methods checks, ∀ s ∈ method.texts, Returnless s := by
  -- Types of parameters and results are the identifier, or a helper type of it.
  have htypes : Returnless (client.types checks).1 ∧ Returnless (client.types checks).2 := by
    obtain ⟨htypes, -⟩ | ⟨decoded, encoded, hdecoded, hencoded, htypes, -⟩ :=
      client.types_cases checks
    · rw [htypes]
      exact ⟨h, h⟩
    · have hhelpers : ∀ helper ∈ helperTypes, Returnless helper := by decide
      simp only [htypes, returnless_append_iff, h, hhelpers _ hdecoded, hhelpers _ hencoded,
        true_and]
      decide
  have hdecode : Returnless (client.decode checks) := by
    unfold Client.decode
    split
    · simp only [returnless_append_iff, h, and_true]
      decide
    · decide
  have hdecoder : Returnless (decoderName client.name) := by
    simp only [decoderName, returnless_append_iff, h, and_true]
    decide
  have hencoder : Returnless (encoderName client.name) := by
    simp only [encoderName, returnless_append_iff, Text.returnless_camelCase, true_and]
    decide
  simp only [Client.methods, Source.Method.texts, List.forall_mem_cons, htypes, hdecode, hdecoder,
    hencoder, true_and]
  decide

/-- The header that shows how to call the methods has identifiers of types and fixed words. -/
theorem returnless_of_mem_usage {clients : List Client}
    (h : ∀ client ∈ clients, Returnless client.name) :
    ∀ s ∈ usage clients checks, Returnless s := by
  have hnames : Returnless (", ".intercalate (clients.map Client.name)) :=
    Text.returnless_intercalate (by decide) (List.forall_mem_map.2 h)
  rw [usage, List.forall_mem_append, List.forall_mem_append, List.forall_mem_map]
  -- The lines up to the import, a call for each type, and what is said of checks.
  refine ⟨⟨?_, fun client hclient => ?_⟩, ?_⟩
  · simp only [List.forall_mem_cons, returnless_append_iff, hnames, and_true]
    decide
  · simp only [decoderName, returnless_append_iff, Text.returnless_camelCase, h client hclient,
      and_true]
    decide
  · split <;> decide

/-- The import of helper types is made from fixed words. In particular its module is not that of
the settings. -/
theorem returnless_helpersImport (clients : List Client) (checks : Bool) :
    Returnless (helpersImport (allHelpers clients checks)).statement := by
  have hhelpers : ∀ helper ∈ allHelpers clients checks, Returnless helper := by
    have hall : ∀ helper ∈ helperTypes, Returnless helper := by decide
    exact fun helper hhelper => hall helper (List.mem_filter.1 hhelper).1
  have hmodule : Returnless Expr.standardModule := by decide
  have hbindings : Returnless (", ".intercalate (allHelpers clients checks)) :=
    Text.returnless_intercalate (by decide) hhelpers
  unfold Source.Import.statement helpersImport
  -- Helpers and their module are fixed words, whichever of them are imported.
  split
  · simp only [returnless_append_iff, hmodule, and_true]
    decide
  · simp only [returnless_append_iff, hmodule, hbindings, and_true]
    decide

/-- In the import of the object that builds types, the module stands between quotes. A carriage
return at its end stands before the closing quote, so one is lost only before a line feed of
the module itself. -/
theorem intact_typesImport_iff {vocabulary : Vocabulary} (h : vocabulary.IsReturnless) :
    Intact (typesImport vocabulary).statement ↔ KeepsReturns vocabulary.module.toList := by
  have hfront : Returnless ("import \x7b " ++ vocabulary.root ++ " \x7d from \"") := by
    simp only [returnless_append_iff, h.root, and_true]
    decide
  -- The module is all of the line that is not fixed, and behind it comes a quote.
  have hstatement : (typesImport vocabulary).statement.toList ++ ['\n'] =
      ("import \x7b " ++ vocabulary.root ++ " \x7d from \"").toList ++
        (vocabulary.module.toList ++ "\";\n".toList) := by
    simp [typesImport, Source.Import.statement, Source.Import.isEmpty]
  rw [Intact, hstatement, Text.keepsReturns_append_of_notMem hfront,
    Text.keepsReturns_append_of_head?_ne (by decide) (by decide)]

/-- A file imports helper types besides, or nothing. Which helper types these are does not matter
here. -/
theorem imports_of_file {outline : Outline} {file : Source.File}
    (h : outline.file profile names = .ok file) : ∀ imported ∈ file.imports,
      imported = typesImport profile.vocabulary ∨
        ∃ clients checks, imported = helpersImport (allHelpers clients checks) := by
  obtain ⟨declared, -, h⟩ := bind_eq_ok_iff.1 h
  obtain ⟨aliased, -, h⟩ := bind_eq_ok_iff.1 h
  obtain ⟨clients, -, h⟩ := bind_eq_ok_iff.1 h
  dsimp only at h
  intro imported himported
  -- Without a converter class only the vocabulary is imported. An import that binds nothing is
  -- left out in both cases.
  split at h
  · obtain rfl := Except.ok.inj h
    exact .inl (List.mem_singleton.1 (List.mem_filter.1 himported).1)
  · obtain rfl := Except.ok.inj h
    have hmem := (List.mem_filter.1 himported).1
    simp only [List.mem_cons, List.not_mem_nil, or_false] at hmem
    exact hmem.imp_right fun heq => ⟨clients, _, heq⟩

/-- So the imports of a file have the carriage returns of the module of its types. It is the only
place of a file where the reference of the settings is written. -/
theorem allIntact_imports_iff {outline : Outline} {file : Source.File}
    (h : outline.file profile names = .ok file) (hvocabulary : profile.vocabulary.IsReturnless) :
    (∀ imported ∈ file.imports, Intact imported.statement) ↔
      KeepsReturns profile.vocabulary.module.toList := by
  rw [← intact_typesImport_iff hvocabulary]
  constructor
  · obtain ⟨others, hcons⟩ := exists_imports_eq_cons h
    exact fun hall => hall _ (hcons ▸ List.mem_cons_self)
  · intro htypes imported himported
    obtain rfl | ⟨clients, checks, rfl⟩ := imports_of_file h imported himported
    · exact htypes
    · exact intact_of_returnless (returnless_helpersImport clients checks)

/-! ### Files -/

variable {outline : Outline} {sources : List Source.Declaration} {clients : List Client}
  {file : Source.File}

/-- The header of a file has no carriage returns. Each of its lines is made a comment of its own.
-/
theorem intact_of_mem_header (hwritten : WrittenOut profile names outline sources clients file)
    (hclients : ∀ client ∈ clients, Returnless client.name) :
    ∀ s ∈ file.header, Intact (Layout.commentLine s) := by
  intro s hs
  have husage : Returnless s := by
    rw [hwritten.header] at hs
    split at hs
    · cases hs
    · exact returnless_of_mem_usage hclients s hs
  refine intact_of_returnless ?_
  -- An empty line is written as a bare comment.
  unfold Layout.commentLine
  split
  · decide
  · exact returnless_append_iff.2 ⟨by decide, husage⟩

/-- The converter class has none either. It has no documentation, and its methods are made from
identifiers. -/
theorem allIntact_of_mem_converterOf (settings : Settings)
    (hclients : ∀ client ∈ clients, Returnless client.name) :
    ∀ source ∈ converterOf settings clients, AllIntact source.fragments := by
  unfold converterOf
  split
  · simp
  · refine List.forall_mem_singleton.2 (Source.Declaration.allIntact_fragments_iff ?_ |>.2 ?_)
    · intro s hs
      obtain ⟨method, hmethod, hs⟩ := List.mem_flatMap.1 hs
      obtain ⟨client, hclient, hmethod⟩ := List.mem_flatMap.1 hmethod
      exact Client.returnless_of_mem_methods (hclients client hclient) method hmethod s hs
    · simp [Source.Declaration.descriptions]

/-- The declarations of a file have the carriage returns of their descriptions. Each of them is
written for one item, and each item as one declaration. -/
theorem allIntact_sources_iff (hnames : TypeNames.assign graph declareUnions acronyms = .ok names)
    (houtline : Outline.ofGraph profile graph names = .ok outline)
    (hwritten : WrittenOut profile names outline sources clients file)
    (hvocabulary : profile.vocabulary.IsReturnless) :
    (∀ source ∈ sources, AllIntact source.fragments) ↔
      ∀ item ∈ outline.items, ∀ description ∈ item.descriptions, IntactDoc description := by
  -- For one item first.
  have hsource : ∀ {item source}, item ∈ outline.items →
      item.source profile.vocabulary names = .ok source →
        (AllIntact source.fragments ↔
          ∀ description ∈ item.descriptions, IntactDoc description) := by
    intro item source hitem hok
    obtain ⟨hdescriptions, htexts⟩ := returnless_of_mem_source hnames hvocabulary
      (returnless_of_mem_items houtline hitem) hok
    rw [Source.Declaration.allIntact_fragments_iff htexts, hdescriptions]
  constructor
  · intro hall item hitem
    obtain ⟨source, hmem, hok⟩ := exists_right_of_forall₂ hwritten.items hitem
    exact (hsource hitem hok).1 (hall source hmem)
  · intro hall source hmem
    obtain ⟨item, hitem, hok⟩ := exists_left_of_forall₂ hwritten.items hmem
    exact (hsource hitem hok).2 (hall item hitem)

/-- The text of the file of an outline keeps its carriage returns exactly if the module of its
types and its descriptions do. `generateLines_iff` says so of whole files, with descriptions from
the graph. -/
theorem keepsReturns_render_iff (hnames : TypeNames.assign graph declareUnions acronyms = .ok names)
    (houtline : Outline.ofGraph profile graph names = .ok outline)
    (hfile : outline.file profile names = .ok file)
    (hvocabulary : profile.vocabulary.IsReturnless) :
    KeepsReturns file.render.toList ↔ KeepsReturns profile.vocabulary.module.toList ∧
      ∀ item ∈ outline.items, ∀ description ∈ item.descriptions, IntactDoc description := by
  obtain ⟨sources, clients, hwritten⟩ := file_eq_ok hfile
  have hclients : ∀ client ∈ clients, Returnless client.name := by
    intro client hclient
    obtain ⟨target, -, hresolve⟩ := exists_left_of_forall₂ hwritten.targets hclient
    obtain ⟨name, hname, rfl⟩ := map_eq_ok_iff.1 hresolve
    exact TypeNames.returnless_of_resolve hnames hname
  -- Part by part; the header and the converter class have no carriage returns.
  rw [Source.File.keepsReturns_render_iff, allIntact_imports_iff hfile hvocabulary,
    hwritten.declarations, List.forall_mem_map, List.forall_mem_append,
    allIntact_sources_iff hnames houtline hwritten hvocabulary]
  have hheader := intact_of_mem_header hwritten hclients
  have hconverter := allIntact_of_mem_converterOf profile.settings hclients
  exact and_congr_right fun _ => ⟨fun hall => hall.2.1, fun hall => ⟨hheader, hall, hconverter⟩⟩

end Outline

end StateTree
