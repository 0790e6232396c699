import StateTree.Proofs.Outline.Reading
import StateTree.Proofs.Outline.Unambiguous

/-!
# `StateTree.Proofs.Outline.WrittenMeaning`: texts are read as what types stand for

`TextReads` is a grammar for the texts of expressions. It has one rule for each form, with the
characters that are written: `types.number` is a number, `types.array(` and `)` enclose the type of
items, a name is whatever is declared under it. Nothing in it is about how the texts come about.

What the generator writes for a type is read by this grammar as what the type stands for, and as
nothing else. Reading a text finds an expression that is written as it (`exists_reads_of_textReads`)
and no other expression is, since texts are unambiguous (`textOf_injective`). So reading the text
comes down to reading the expression.

- `textOf`: the text of an expression; `exprText_eq`: it is the one that is written.
- `TextReads`: what a text is read as next to declarations.
- `textReads_textOf_iff`: reading a text and reading its expression are one.
- `generate_preserves_meaning`: all expressions of a file.
-/

set_option autoImplicit false

namespace StateTree

open StateTree.Expr (Assigned Meaning Scalar Vocabulary chars listChars meaning nameChars
  partChars translate word)
open StateTree.Fallible
open StateTree.Graph
open StateTree.Naming (NameId TypeNames)
open StateTree.Outline

/-! ### Texts of expressions -/

section

variable (names : TypeNames) (module : String)

/-- The text of an expression in the standard words. Names that are not assigned have no characters
in it, so it is what is written only where all of them are. -/
def textOf (expr : Expr) : String :=
  String.ofList (chars names.names (Vocabulary.standard.withModule module) expr)

variable {names module}

/-- An expression whose names are assigned is written as its text. Only then: a name without an
identifier makes rendering fail. -/
theorem exprText_eq_textOf {expr : Expr} (h : Assigned names.names expr) :
    exprText (Vocabulary.standard.withModule module) names expr =
      .ok (textOf names module expr) := by
  obtain ⟨text, htext⟩ := Expr.exists_render_word h
  have hchars := Expr.toList_of_render htext
  rw [exprText, htext, textOf, chars, ← hchars, String.ofList_toList]

/-- No two expressions have one text. So a text that was read can be taken for that of the
expression it was written for. -/
theorem textOf_injective (hspelling : Expr.Spelling names.names) {expr expr' : Expr}
    (hexpr : Assigned names.names expr) (hexpr' : Assigned names.names expr')
    (h : textOf names module expr = textOf names module expr') : expr = expr' :=
  Expr.render_injective hspelling hexpr hexpr' (exprText_eq_textOf hexpr)
    (h ▸ exprText_eq_textOf hexpr')

/-- The characters of a name that is assigned are those of its identifier. -/
theorem nameChars_of_resolve {name : NameId} {identifier : String}
    (h : names.resolve name = .ok identifier) : nameChars names.names name = identifier.toList := by
  rw [nameChars, TypeNames.resolve?_eq_some_iff.2 h]
  rfl

/-- The text of a scalar. These equations give the text of each form with the characters that the
rules of `TextReads` have, and are all that reading uses of how expressions are written. -/
theorem textOf_scalar (type : Scalar) :
    textOf names module (.scalar type) = "types." ++ type.member := by
  rw [← String.toList_inj]
  simp [textOf, chars, word, Vocabulary.scalar, Expr.Word.ofText, partChars, Vocabulary.standard,
    Vocabulary.withModule]

theorem textOf_array (items : Expr) :
    textOf names module (.array items) = "types.array(" ++ textOf names module items ++ ")" := by
  rw [← String.toList_inj]
  simp [textOf, chars, word, Expr.nested_word, partChars, Vocabulary.member, Vocabulary.standard,
    Vocabulary.withModule]

/-- Expressions stand one behind the other with commas between them. -/
theorem ofList_listChars (exprs : List Expr) :
    String.ofList (listChars names.names (Vocabulary.standard.withModule module) exprs) =
      ", ".intercalate (exprs.map (textOf names module)) := by
  rw [← String.toList_inj, String.toList_ofList, String.toList_intercalate]
  -- The comma between the first two comes with `listChars_cons`.
  induction exprs with
  | nil => rfl
  | cons expr rest ih =>
    rw [Expr.listChars_cons]
    cases rest with
    | nil => simp [textOf]
    | cons next others =>
      simp only [List.map_cons] at ih ⊢
      rw [List.intercalate_cons_cons, ← ih, textOf, String.toList_ofList, List.append_assoc]
      rfl

theorem textOf_union (members : List Expr) :
    textOf names module (.union members) =
      "types.union(" ++ ", ".intercalate (members.map (textOf names module)) ++ ")" := by
  rw [← ofList_listChars, ← String.toList_inj]
  simp [textOf, chars, listChars, word, partChars, Vocabulary.member, Vocabulary.standard,
    Vocabulary.withModule]

variable {name : NameId} {identifier : String}

/-- The text of an enum. The three names in it are the one of the enum. -/
theorem textOf_enumeration (h : names.resolve name = .ok identifier) :
    textOf names module (.enumeration name) =
      "types.enumeration<" ++ identifier ++ ">(\"" ++ identifier ++ "\", Object.values(" ++
        identifier ++ "))" := by
  rw [← String.toList_inj]
  simp [textOf, chars, word, partChars, nameChars_of_resolve h, Vocabulary.member,
    Vocabulary.standard, Vocabulary.withModule]

theorem textOf_reference (h : names.resolve name = .ok identifier) :
    textOf names module (.reference name) = identifier := by
  rw [← String.toList_inj]
  simp [textOf, chars, word, Expr.Word.ofName, partChars, nameChars_of_resolve h]

theorem textOf_late (h : names.resolve name = .ok identifier) :
    textOf names module (.late name) = "types.late(() => " ++ identifier ++ ")" := by
  rw [← String.toList_inj]
  simp [textOf, chars, word, partChars, nameChars_of_resolve h, Vocabulary.member,
    Vocabulary.standard, Vocabulary.withModule]

end

/-! ### Reading texts -/

/-- What a text is read as next to declarations. Scalars, arrays, unions and enums are what the
words around them say. A name is the model that is declared under it, or what the constant that is
declared under it is read as. A late reference is what its name is. -/
inductive TextReads (vocabulary : Vocabulary) (names : TypeNames)
    (declarations : List Declaration) : String → Meaning → Prop where
  | any : TextReads vocabulary names declarations "types.frozen()" .any
  | null : TextReads vocabulary names declarations "types.null" .null
  | boolean : TextReads vocabulary names declarations "types.boolean" .boolean
  | number : TextReads vocabulary names declarations "types.number" .number
  | string : TextReads vocabulary names declarations "types.string" .string
  | date : TextReads vocabulary names declarations "types.Date" .date
  | array {items : String} {content : Meaning}
    (h : TextReads vocabulary names declarations items content) :
    TextReads vocabulary names declarations ("types.array(" ++ items ++ ")") (.array content)
  | union {members : List String} {contents : List Meaning}
    (h : List.Forall₂ (TextReads vocabulary names declarations) members contents) :
    TextReads vocabulary names declarations ("types.union(" ++ ", ".intercalate members ++ ")")
      (.union contents)
  | enumeration {made : Declaration} (hmade : made ∈ declarations)
    {members : List (String × String)} (hbody : made.body = .enumeration members)
    {name : String} (hname : names.resolve made.name = .ok name) :
    TextReads vocabulary names declarations
      ("types.enumeration<" ++ name ++ ">(\"" ++ name ++ "\", Object.values(" ++ name ++ "))")
      (.enumeration made.type)
  | model {made : Declaration} (hmade : made ∈ declarations) {properties : List Outline.Property}
    (hbody : made.body = .model properties)
    {name : String} (hname : names.resolve made.name = .ok name) :
    TextReads vocabulary names declarations name (.object made.type)
  | constant {made : Declaration} (hmade : made ∈ declarations) {expr : Expr}
    (hbody : made.body = .constant expr)
    {name : String} (hname : names.resolve made.name = .ok name)
    {text : String} (htext : exprText vocabulary names expr = .ok text) {content : Meaning}
    (h : TextReads vocabulary names declarations text content) :
    TextReads vocabulary names declarations name content
  | late {made : Declaration} (hmade : made ∈ declarations)
    {name : String} (hname : names.resolve made.name = .ok name) {content : Meaning}
    (h : TextReads vocabulary names declarations name content) :
    TextReads vocabulary names declarations ("types.late(() => " ++ name ++ ")") content

section

variable {names : TypeNames} {module : String} {declarations : List Declaration}

/-- A name in an expression whose names are assigned has an identifier, with which the text of the
expression can be written down. -/
theorem resolve_of_assigned {expr : Expr} (h : Assigned names.names expr) {use : Expr.Use}
    (huse : use ∈ expr.uses) : ∃ identifier, names.resolve use.name = .ok identifier := by
  obtain ⟨identifier, hidentifier⟩ := h use huse
  exact ⟨identifier, TypeNames.resolve?_eq_some_iff.1 hidentifier⟩

/-- What an expression is read as its text is read as. The names in constants have to be assigned as
well, since a constant is read by its own text. The induction is on how the expression is read: from
the name of a constant it goes on to an expression that is no part of the first one. -/
theorem textReads_of_reads
    (hconstants : ∀ made ∈ declarations, ∀ expr, made.body = .constant expr →
      Assigned names.names expr) {expr : Expr} {content : Meaning}
    (h : Reads declarations expr content) (hexpr : Assigned names.names expr) :
    TextReads (Vocabulary.standard.withModule module) names declarations
      (textOf names module expr) content := by
  revert hexpr
  refine @Reads.rec declarations
    (fun expr content _ => Assigned names.names expr →
      TextReads (Vocabulary.standard.withModule module) names declarations
        (textOf names module expr) content)
    (fun exprs contents _ => (∀ expr ∈ exprs, Assigned names.names expr) →
      List.Forall₂ (TextReads (Vocabulary.standard.withModule module) names declarations)
        (exprs.map (textOf names module)) contents)
    ?scalar ?array ?union ?enumeration ?model ?constant ?late ?nil ?cons expr content h
  case scalar =>
    intro type _
    rw [textOf_scalar]
    cases type
    · exact .any
    · exact .null
    · exact .boolean
    · exact .number
    · exact .string
    · exact .date
  case array =>
    intro items content _ ih hexpr
    rw [textOf_array]
    exact .array (ih hexpr)
  case union =>
    intro members contents _ ih hexpr
    rw [textOf_union]
    refine .union (ih fun member hmember use huse => ?_)
    exact hexpr use (Expr.mem_usesOf_iff.2 ⟨member, hmember, huse⟩)
  case enumeration =>
    intro made hmade members hbody hexpr
    obtain ⟨identifier, hname⟩ := resolve_of_assigned hexpr List.mem_cons_self
    rw [textOf_enumeration hname]
    exact .enumeration hmade hbody hname
  case model =>
    intro made hmade properties hbody hexpr
    obtain ⟨identifier, hname⟩ := resolve_of_assigned hexpr (List.mem_singleton_self _)
    rw [textOf_reference hname]
    exact .model hmade hbody hname
  case constant =>
    intro made hmade expr content hbody _ ih hexpr
    obtain ⟨identifier, hname⟩ := resolve_of_assigned hexpr (List.mem_singleton_self _)
    rw [textOf_reference hname]
    have hconstant := hconstants made hmade expr hbody
    exact .constant hmade hbody hname (exprText_eq_textOf hconstant) (ih hconstant)
  case late =>
    intro name content hreads ih hexpr
    obtain ⟨identifier, hidentifier⟩ := hexpr ⟨name, true⟩ (List.mem_singleton_self _)
    have hname := TypeNames.resolve?_eq_some_iff.1 hidentifier
    have htext := ih fun use huse => by
      obtain rfl := List.mem_singleton.1 huse
      exact ⟨identifier, hidentifier⟩
    rw [textOf_reference hname] at htext
    rw [textOf_late hname]
    -- Whatever a bare name is read as, there is a declaration under it.
    cases hreads with
    | model hmade _ => exact .late hmade hname htext
    | constant hmade _ _ => exact .late hmade hname htext
  case nil => exact fun _ => .nil
  case cons =>
    intro expr content exprs contents _ _ ih ihs hexprs
    obtain ⟨hfirst, hrest⟩ := List.forall_mem_cons.1 hexprs
    exact .cons (ih hfirst) (ihs hrest)

/-- A text that is read is the text of an expression that is read as the same. Two expressions with
one text would be one, which is what the names have to be distinct for: a constant is read by its
text, and a late reference by its name. -/
theorem exists_reads_of_textReads (hspelling : Expr.Spelling names.names) {text : String}
    {content : Meaning}
    (h : TextReads (Vocabulary.standard.withModule module) names declarations text content)
    (hconstants : ∀ made ∈ declarations, ∀ expr, made.body = .constant expr →
      Assigned names.names expr) :
    ∃ expr, Assigned names.names expr ∧ textOf names module expr = text ∧
      Reads declarations expr content := by
  have hscalar : ∀ type : Scalar, Assigned names.names (.scalar type) := fun _ _ huse => by
    cases huse
  have hassigned : ∀ {name identifier}, names.resolve name = .ok identifier →
      ∃ identifier, names.names.resolve? name = some identifier :=
    fun hname => ⟨_, TypeNames.resolve?_eq_some_iff.2 hname⟩
  have hreference : ∀ {name identifier}, names.resolve name = .ok identifier →
      Assigned names.names (.reference name) := fun hname use huse => by
    obtain rfl := List.mem_singleton.1 huse
    exact hassigned hname
  refine @TextReads.rec (Vocabulary.standard.withModule module) names declarations
    (fun text content _ => ∃ expr, Assigned names.names expr ∧ textOf names module expr = text ∧
      Reads declarations expr content)
    (fun texts contents _ => ∃ exprs : List Expr, (∀ expr ∈ exprs, Assigned names.names expr) ∧
      exprs.map (textOf names module) = texts ∧ List.Forall₂ (Reads declarations) exprs contents)
    ⟨_, hscalar .any, textOf_scalar .any, .scalar .any⟩
    ⟨_, hscalar .null, textOf_scalar .null, .scalar .null⟩
    ⟨_, hscalar .boolean, textOf_scalar .boolean, .scalar .boolean⟩
    ⟨_, hscalar .number, textOf_scalar .number, .scalar .number⟩
    ⟨_, hscalar .string, textOf_scalar .string, .scalar .string⟩
    ⟨_, hscalar .date, textOf_scalar .date, .scalar .date⟩
    ?array ?union ?enumeration ?model ?constant ?late ?nil ?cons text content h
  case array =>
    rintro items content _ ⟨expr, hexpr, rfl, hreads⟩
    exact ⟨.array expr, hexpr, textOf_array expr, .array hreads⟩
  case union =>
    rintro members contents _ ⟨exprs, hexprs, rfl, hreads⟩
    refine ⟨.union exprs, fun use huse => ?_, textOf_union exprs, .union hreads⟩
    obtain ⟨expr, hexpr, huse⟩ := Expr.mem_usesOf_iff.1 huse
    exact hexprs expr hexpr use huse
  case enumeration =>
    intro made hmade members hbody name hname
    refine ⟨.enumeration made.name, fun use huse => ?_, textOf_enumeration hname,
      .enumeration hmade hbody⟩
    obtain rfl : use = ⟨made.name, false⟩ := by simpa [Expr.uses] using huse
    exact hassigned hname
  case model =>
    intro made hmade properties hbody name hname
    exact ⟨_, hreference hname, textOf_reference hname, .model hmade hbody⟩
  case constant =>
    rintro made hmade constant hbody name hname text htext content _ ⟨expr, hexpr, rfl, hreads⟩
    have hconstant := hconstants made hmade constant hbody
    rw [exprText_eq_textOf hconstant] at htext
    -- The expression that was found for the text of the constant is the constant.
    obtain rfl := textOf_injective hspelling hconstant hexpr (Except.ok.inj htext)
    exact ⟨_, hreference hname, textOf_reference hname, .constant hmade hbody hreads⟩
  case late =>
    rintro made hmade name hname content _ ⟨expr, hexpr, htext, hreads⟩
    rw [← textOf_reference hname] at htext
    -- The expression that was found for the name is the reference.
    obtain rfl := textOf_injective hspelling hexpr (hreference hname) htext
    refine ⟨.late made.name, fun use huse => ?_, textOf_late hname, .late hreads⟩
    obtain rfl := List.mem_singleton.1 huse
    exact hassigned hname
  case nil => exact ⟨[], List.forall_mem_nil _, rfl, .nil⟩
  case cons =>
    rintro text content texts contents _ _ ⟨expr, hexpr, rfl, hreads⟩ ⟨exprs, hexprs, rfl, hrest⟩
    exact ⟨expr :: exprs, List.forall_mem_cons.2 ⟨hexpr, hexprs⟩, rfl, .cons hreads hrest⟩

/-- To read the text of an expression is to read the expression. With what is known of reading
expressions this says how the texts in a file are read. -/
theorem textReads_textOf_iff (hspelling : Expr.Spelling names.names)
    (hconstants : ∀ made ∈ declarations, ∀ expr, made.body = .constant expr →
      Assigned names.names expr)
    {expr : Expr} (hexpr : Assigned names.names expr) {content : Meaning} :
    TextReads (Vocabulary.standard.withModule module) names declarations
      (textOf names module expr) content ↔ Reads declarations expr content := by
  constructor
  · intro htext
    obtain ⟨expr', hexpr', heq, hreads⟩ := exists_reads_of_textReads hspelling htext hconstants
    rwa [textOf_injective hspelling hexpr hexpr' heq.symm]
  · intro hreads
    exact textReads_of_reads hconstants hreads hexpr

end

/-! ### Files -/

variable {profile : Profile} {graph : TypeGraph} {names : TypeNames} {outline : Outline}
  {declarations : List Declaration} {expr : Expr} {id : TypeId}

/-- A written expression is read as what a type stands for, and as nothing else, whichever
expression it may have been written from. -/
def WordReadsAs (vocabulary : Vocabulary) (declarations : List Declaration) (graph : TypeGraph)
    (word : Expr.Word) (id : TypeId) : Prop :=
  ∀ content, (∃ expr : Expr, expr.word vocabulary = word ∧ Reads declarations expr content) ↔
    content = meaning graph id

/-- An expression has a text, which is read as what a type stands for and as nothing else. The
text is read by `TextReads`, which knows the identifiers and keywords but not the expression. -/
def TextReadsAs (vocabulary : Vocabulary) (names : TypeNames) (declarations : List Declaration)
    (graph : TypeGraph) (expr : Expr) (id : TypeId) : Prop :=
  ∃ text, exprText vocabulary names expr = .ok text ∧
    ∀ content, TextReads vocabulary names declarations text content ↔ content = meaning graph id

/-- An expression says what a type is: it is read so as the sequence of words and names that it is
written as, while the names are open, and as the text that stands in the file. -/
structure SaysType (vocabulary : Vocabulary) (names : TypeNames) (declarations : List Declaration)
    (graph : TypeGraph) (expr : Expr) (id : TypeId) : Prop where
  word : WordReadsAs vocabulary declarations graph (expr.word vocabulary) id
  text : TextReadsAs vocabulary names declarations graph expr id

/-- In legible words an expression is read back as what it is. The names in it are left open, so
nothing has to be known of their identifiers. -/
theorem ReadsAs.word {vocabulary : Vocabulary} (hlegible : vocabulary.Legible)
    (h : ReadsAs declarations graph expr id) :
    WordReadsAs vocabulary declarations graph (expr.word vocabulary) id := by
  intro content
  rw [← h content]
  constructor
  · rintro ⟨expr', hword, hreads⟩
    rwa [← Expr.word_injective hlegible hword]
  · exact fun hreads => ⟨expr, rfl, hreads⟩

/-- With all names assigned, an expression is read back from its text as what it is. -/
theorem ReadsAs.text {module : String} (hspelling : Expr.Spelling names.names)
    (hconstants : ∀ made ∈ declarations, ∀ expr, made.body = .constant expr →
      Assigned names.names expr)
    (hexpr : Assigned names.names expr) (h : ReadsAs declarations graph expr id) :
    TextReadsAs (Vocabulary.standard.withModule module) names declarations graph expr id :=
  ⟨textOf names module expr, exprText_eq_textOf hexpr, fun content =>
    (textReads_textOf_iff hspelling hconstants hexpr).trans (h content)⟩

/-- The names in the expressions of declarations and aliases are assigned, by `hnames` each with
an identifier. -/
theorem assigned_of_mem_items (hnames : names.Covers graph)
    (h : Outline.ofGraph profile graph names = .ok outline) {this : Declaration}
    (hthis : this ∈ outline.items) (hexpr : expr ∈ this.body.exprs) :
    Assigned names.names expr :=
  assigned_of_typeNames hnames fun _ huse => typeName_of_use h hthis hexpr huse

/-- A declaration says what its type is: a model has the properties of the class, each read as what
its type stands for, and a constant is read as what its type stands for. -/
def Outline.Declaration.MeansItsType (vocabulary : Vocabulary) (names : TypeNames)
    (declarations : List Declaration) (graph : TypeGraph) (this : Declaration) : Prop :=
  match this.body with
  | .model members =>
    (∃ properties, graph.kind this.type = .object properties ∧
      members.map Property.type = properties.values.map Graph.Property.type) ∧
    ∀ member ∈ members, SaysType vocabulary names declarations graph member.expr member.type
  | .enumeration _ => (graph.kind this.type).isEnum
  | .constant expr => SaysType vocabulary names declarations graph expr this.type

/-- Every declaration and every alias says what its type is. The names have to be those of the
graph, so that each is assigned and no two have one identifier. -/
theorem meansItsType_of_mem {module : String}
    (hvocabulary : profile.vocabulary = Vocabulary.standard.withModule module)
    {declareUnions : Bool} {acronyms : Text.AcronymStyle}
    (hnames : TypeNames.assign graph declareUnions acronyms = .ok names)
    (h : Outline.ofGraph profile graph names = .ok outline) {this : Declaration}
    (hthis : this ∈ outline.items) :
    this.MeansItsType profile.vocabulary names outline.declarations graph := by
  have hcovers := TypeNames.covers_of_assign hnames
  have hconstants : ∀ made ∈ outline.declarations, ∀ expr, made.body = .constant expr →
      Assigned names.names expr := by
    intro made hmade expr hbody
    refine assigned_of_mem_items hcovers h (List.mem_append_left _ hmade) ?_
    simp [hbody, Body.exprs]
  -- What an expression of this declaration is read as, its word and its text are.
  have hsays : ∀ {expr id}, expr ∈ this.body.exprs → ReadsAs outline.declarations graph expr id →
      SaysType profile.vocabulary names outline.declarations graph expr id := by
    intro expr id hexpr hreads
    have hassigned := assigned_of_mem_items hcovers h hthis hexpr
    rw [hvocabulary]
    exact ⟨hreads.word (Expr.legible_standard module),
      hreads.text (TypeNames.spelling_of_assign hnames) hconstants hassigned⟩
  unfold Declaration.MeansItsType
  rcases List.mem_append.1 hthis with hthis | hthis
  · obtain ⟨before, after, hsplit⟩ := List.append_of_mem hthis
    have hdeclared := reads_declared h hsplit
    have hwritten := fun union hunion => hdeclared union (List.mem_reverse.1 hunion)
    obtain ⟨properties, members, hkind, hbody, htypes, hmembers⟩ |
      ⟨cases, members, hkind, hbody⟩ | ⟨members, expr, hkind, hbody, hexpr⟩ :=
        body_cases (declaration_eq_ok (declaration_of_split h hsplit)).2.2
    · rw [hbody] at hsays ⊢
      refine ⟨⟨properties, hkind, htypes⟩, fun member hmember => ?_⟩
      exact hsays (List.mem_map_of_mem hmember)
        (reads_translate h hwritten (hmembers member hmember))
    · rw [hbody]
      simp [hkind, Kind.isEnum]
    · rw [hbody] at hsays ⊢
      exact hsays (List.mem_singleton_self _) (reads_unionExpression h hwritten hkind hexpr)
  · -- An alias is made after all declarations and may refer to any of them.
    obtain ⟨_, top, _, htype, _, _, expr, hbody, hexpr⟩ :=
      aliasAll_eq_ok (ofGraph_eq_ok h).2.1 this hthis
    rw [hbody] at hsays ⊢
    rw [htype]
    exact hsays (List.mem_singleton_self _)
      (reads_translate h (reads_declared h (List.append_nil _).symm) hexpr)

/-- Every expression of a file is read as what the type that it was made for stands for, whether or
not unions have declarations of their own. The text of the expression is read so as well, with the
identifiers that the names have in the file. -/
theorem generate_preserves_meaning (settings : Settings) (keys : KeyConvention) {text : String}
    (h : generate { Profile.ofSettings settings with keys := keys } graph = .ok text) :
    ∃ names outline file,
      TypeNames.assign graph settings.declareUnions settings.acronyms = .ok names ∧
      Outline.ofGraph { Profile.ofSettings settings with keys := keys } graph names =
        .ok outline ∧
      outline.file { Profile.ofSettings settings with keys := keys } names = .ok file ∧
      file.render = text ∧
      ∀ this ∈ outline.items, this.MeansItsType (Profile.ofSettings settings).vocabulary names
        outline.declarations graph := by
  obtain ⟨names, outline, file, hnames, houtline, hfile, htext⟩ := generate_eq_ok_iff.1 h
  refine ⟨names, outline, file, hnames, houtline, hfile, htext, fun this hthis => ?_⟩
  exact meansItsType_of_mem rfl hnames houtline hthis

/-- A class with a union, which has one of its members twice, and a list of this union. -/
def holder : TypeGraph where
  nodes :=
    [{ kind := .primitive .string }, { kind := .primitive .integer },
      { kind := .union [0, 1, 0], names := ["Value"] }, { kind := .array 2 },
      { kind := .object ⟨[("value", { type := 2 }), ("others", { type := 3 })], by simp⟩
        names := ["Holder"] }]
  topLevels := [{ name := "Holder", type := 4 }]
  wellFormed := by decide +kernel

/-- The file of `holder` with a declaration for the union. The class and the list refer to the
union by its name, and are read as if it were written out. -/
theorem generate_holder_preserves_meaning :
    ∃ text, generate (.ofSettings { declareUnions := true }) holder = .ok text ∧
      ∃ names outline file, TypeNames.assign holder true .pascal = .ok names ∧
        Outline.ofGraph (.ofSettings { declareUnions := true }) holder names = .ok outline ∧
        outline.file (.ofSettings { declareUnions := true }) names = .ok file ∧
        file.render = text ∧ ∀ this ∈ outline.items,
          this.MeansItsType (Profile.ofSettings { declareUnions := true }).vocabulary names
            outline.declarations holder := by
  have hnames : ∀ id, ¬ Naming.Nameless holder id := Naming.not_nameless (by decide)
  obtain ⟨text, htext⟩ := exists_generate (.ofSettings { declareUnions := true }) hnames
  obtain ⟨names, outline, file, hassign, houtline, hfile, hrender, hmeans⟩ :=
    generate_preserves_meaning { declareUnions := true } {} htext
  exact ⟨text, htext, names, outline, file, hassign, houtline, hfile, hrender, hmeans⟩

end StateTree
