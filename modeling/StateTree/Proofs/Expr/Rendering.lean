import StateTree.Proofs.Expr.Legibility
import StateTree.Proofs.Naming.Scope

/-!
# `StateTree.Proofs.Expr.Rendering`: the text of an expression tells what it is

In the text of an expression nothing marks where a name begins and where it ends. It can be read all
the same. Names have none of the characters that the words of the library put around them, and two
names have two identifiers. Every other expression begins with `types.` and a keyword, and behind a
keyword comes a parenthesis, an angle bracket, or whatever follows the expression. So the longest
run of characters of names at the front of a text is a whole keyword or a whole name, and what it is
decides about the rest. The induction is over two expressions at once, with the texts that follow
them left open.

- `isNameCharacter`: the characters of names; `TypeNames.spelling_of_assign`: names have no others.
- `chars`: the text of an expression as a list; `toList_of_render`: it is what is rendered.
- `chars_eq`: every expression as its keyword and what comes behind it.
- `chars_append_injective`: two expressions are not written alike.
-/

set_option autoImplicit false

namespace StateTree

open StateTree.Expr (Part Scalar Vocabulary Word)
open StateTree.Naming (Convention NameId Names TypeNames)
open StateTree.Text (AcronymStyle CaseClosed)

/-! ### Names -/

namespace Expr

/-- The characters that stand around names and keywords in expressions. A name ends at the first
of them. -/
def punctuation : List Char :=
  ['.', ',', '(', ')', '<', '>', '"']

/-- A character that does not stand around names. It is all that reading asks of the characters of
a name, so it does not matter here what an identifier is. -/
def isNameCharacter (c : Char) : Bool :=
  !punctuation.contains c

/-- The class of characters of names as a set of code points. All punctuation comes before the
letters, which is what the tables of the case mappings are about. -/
def isNameCode (n : Nat) : Bool :=
  Nat.ble 0x41 n || !(punctuation.map Char.toNat).contains n

/-- A character is one of names exactly if its code point is. In this form the class can be
compared with the tables, which are of code points. -/
theorem isNameCharacter_eq (c : Char) : isNameCharacter c = isNameCode c.toNat := by
  have hbefore : ∀ d ∈ punctuation, (!Nat.ble 0x41 d.toNat) = true :=
    List.all_eq_true.mp (by decide)
  have hmem : (punctuation.map Char.toNat).contains c.toNat = punctuation.contains c := by
    rw [Bool.eq_iff_iff]
    simp [Char.toNat_inj]
  rw [isNameCharacter, isNameCode, hmem]
  -- Numbers from that of the first letter on pass at once, as no punctuation is among them.
  by_cases hc : c ∈ punctuation
  · have hble : Nat.ble 0x41 c.toNat = false := (Bool.not_eq_true' _).mp (hbefore c hc)
    rw [hble, Bool.false_or]
  · simp [hc]

/-- No change of case leads to a character that stands around names or away from one. So a styled
proposal has characters of names only if the proposal before styling had. -/
theorem caseClosed_isNameCharacter : CaseClosed isNameCharacter := by
  rw [funext isNameCharacter_eq]
  exact Text.caseClosed_of_keepsCase (by decide +kernel) (by decide +kernel) rfl

/-- What stands around names is no letter and no number. The characters of a proposal that are
kept are letters and numbers. -/
theorem isNameCharacter_of_isAlphanumeric (c : Char) (h : Text.isAlphanumeric c = true) :
    isNameCharacter c = true := by
  have hpunctuation : ∀ d ∈ punctuation, (!Text.isAlphanumeric d) = true :=
    List.all_eq_true.mp (by decide)
  by_contra hc
  have hmem : c ∈ punctuation := by simpa [isNameCharacter] using hc
  have hnot := hpunctuation c hmem
  rw [h] at hnot
  exact absurd hnot (by decide)

/-- Identifiers that can be read in a text: they are not empty, have characters of names only, and
are distinct. Reading asks for nothing else of them. -/
structure Spelling (names : Names) : Prop where
  ne_empty : ∀ {id identifier}, names.resolve? id = some identifier → identifier.toList ≠ []
  all : ∀ {id identifier}, names.resolve? id = some identifier →
    identifier.toList.all isNameCharacter = true
  injective : ∀ {id id' identifier}, names.resolve? id = some identifier →
    names.resolve? id' = some identifier → id = id'

end Expr

/-- The identifiers of a file can be read in a text. With it `render_injective` applies to every
file that is generated. -/
theorem Naming.TypeNames.spelling_of_assign {graph : Graph.TypeGraph} {declareUnions : Bool}
    {acronyms : AcronymStyle} {names : TypeNames}
    (h : TypeNames.assign graph declareUnions acronyms = .ok names) :
    Expr.Spelling names.names := by
  refine ⟨?_, ?_, ?_⟩
  · intro id identifier hid
    -- A convention gives a first character to every proposal, and a number is put behind it.
    have hproposal : ∀ proposal, (Convention.typeName.apply acronyms proposal).toList ≠ [] := by
      intro proposal
      obtain ⟨c, rest, hcons, -⟩ :=
        @Convention.exists_start_apply Convention.typeName (by simp) acronyms proposal
      rw [hcons]
      exact List.cons_ne_nil c rest
    obtain ⟨proposal, rfl | ⟨n, rfl⟩⟩ := TypeNames.exists_proposal_of_resolve h
      (TypeNames.resolve?_eq_some_iff.1 hid)
    · exact hproposal proposal
    · rw [String.toList_append]
      exact List.append_ne_nil_of_left_ne_nil (hproposal proposal) _
  · intro id identifier hid
    exact TypeNames.all_of_resolve h Expr.caseClosed_isNameCharacter
      Expr.isNameCharacter_of_isAlphanumeric (TypeNames.resolve?_eq_some_iff.1 hid)
  · intro id id' identifier hid hid'
    exact TypeNames.resolve_injective h (TypeNames.resolve?_eq_some_iff.1 hid)
      (TypeNames.resolve?_eq_some_iff.1 hid')

namespace Expr

/-! ### Texts as lists -/

variable (names : Names)

/-- The characters of a name; a name that is not assigned has none. Only assigned names come up
below. -/
def nameChars (id : NameId) : List Char :=
  ((names.resolve? id).getD "").toList

/-- The characters of a piece. -/
def partChars : Part → List Char
  | .text s => s.toList
  | .name id => nameChars names id

/-- The characters of an expression. -/
def chars (vocabulary : Vocabulary) (expr : Expr) : List Char :=
  (word vocabulary expr).parts.flatMap (partChars names)

variable {names}

/-- The text of a word has the characters of its pieces. It takes a text that was rendered to
`chars`, where it can be compared with another one. -/
theorem toList_of_render {word : Word} {text : String} (h : word.render names = .ok text) :
    text.toList = word.parts.flatMap (partChars names) := by
  obtain ⟨texts, htexts, rfl⟩ := Fallible.map_eq_ok_iff.1 h
  have hparts := Fallible.mapM_eq_ok_iff.1 htexts
  rw [String.toList_join]
  -- Piece by piece, each with the text that it is rendered to.
  clear h htexts
  generalize word.parts = parts at hparts
  induction hparts with
  | nil => rfl
  | @cons part text parts texts hpart hrest ih =>
    have hchars : text.toList = partChars names part := by
      cases part with
      | text s =>
        obtain rfl : s = text := Except.ok.inj hpart
        rfl
      | name id =>
        rw [Part.render] at hpart
        split at hpart
        · rename_i identifier hidentifier
          obtain rfl : identifier = text := Except.ok.inj hpart
          rw [partChars, nameChars, hidentifier]
          rfl
        · cases hpart
    rw [List.flatMap_cons, List.flatMap_cons, hchars, ih]

/-! ### Keywords -/

/-- The keyword of a scalar. -/
def Scalar.keyword : Scalar → String
  | .any => "frozen"
  | type => type.member

/-- What comes behind the keyword of a scalar: the parentheses of a call, in the one case where
the keyword is that of a function. -/
def Scalar.behind : Scalar → String
  | .any => "()"
  | _ => ""

/-- The keyword of an expression; a bare reference has none. It is the first thing that is read of
a text, and tells the kinds of expressions apart. -/
def keyword? : Expr → Option String
  | scalar type => some type.keyword
  | array _ => some "array"
  | union _ => some "union"
  | enumeration _ => some "enumeration"
  | reference _ => none
  | late _ => some "late"

/-- Scalars have keywords of their own. -/
theorem Scalar.keyword_ne : ∀ type : Scalar,
    type.keyword ∉ ["array", "union", "enumeration", "late"] := by
  intro type
  cases type <;> decide

/-- Two scalars have two keywords, as each pair of them shows. -/
theorem Scalar.keyword_injective : ∀ {type type' : Scalar},
    type.keyword = type'.keyword → type = type' := by
  intro type type' h
  cases type <;> cases type' <;> first | rfl | exact absurd h (by decide)

/-- A keyword has characters of names only. So it is the whole run of such characters at the place
where it stands. -/
theorem all_keyword {expr : Expr} {keyword : String} (h : keyword? expr = some keyword) :
    keyword.toList.all isNameCharacter = true := by
  cases expr with
  | scalar type =>
    obtain rfl := Option.some.inj h
    cases type <;> decide
  | reference name => cases h
  | array _ | union _ | enumeration _ | late _ =>
    obtain rfl := Option.some.inj h
    decide

section

variable (names) (vocabulary : Vocabulary)

/-- The characters of expressions with commas between them. -/
def listChars (exprs : List Expr) : List Char :=
  (separated (words vocabulary exprs)).flatMap (partChars names)

/-- The arguments of an enum, in which its name stands twice. They are told by the name in front
of them, so nothing in them has to be read. -/
def valuesChars (name : NameId) : List Char :=
  "(\"".toList ++ (nameChars names name ++ ("\", Object.values(".toList ++
    (nameChars names name ++ "))".toList)))

/-- What comes between the parenthesis of a late reference and its name. -/
def arrow : List Char :=
  "() => ".toList

/-- What comes behind the keyword of an expression, from the first character that is none of
names. -/
def behind : Expr → List Char
  | scalar type => type.behind.toList
  | array items => '(' :: (chars names vocabulary items ++ [')'])
  | union members => '(' :: (listChars names vocabulary members ++ [')'])
  | enumeration name => '<' :: (nameChars names name ++ '>' :: valuesChars names name)
  | reference name => nameChars names name
  | late name => '(' :: (arrow ++ (nameChars names name ++ [')']))

end

variable (names) (module : String)

/-- A member of the object that builds types as a list. -/
theorem toList_member (name : String) :
    ((Vocabulary.standard.withModule module).member name).toList =
      "types.".toList ++ name.toList := by
  have hroot : "types".toList ++ ".".toList = "types.".toList := by decide
  rw [Vocabulary.member, String.toList_append, String.toList_append, ← hroot]
  rfl

/-- A scalar as a list. -/
theorem toList_expression (type : Scalar) :
    ((Vocabulary.standard.withModule module).expression type).toList =
      "types.".toList ++ (type.keyword.toList ++ type.behind.toList) := by
  have hmember : type.member.toList = type.keyword.toList ++ type.behind.toList := by
    cases type <;> decide
  rw [← hmember]
  exact String.toList_append

/-- Every expression but a bare reference begins with the object that builds types and a keyword.
After this equation nothing below looks at how expressions are written. -/
theorem chars_eq (expr : Expr) : chars names (Vocabulary.standard.withModule module) expr =
    (match keyword? expr with
      | some keyword => "types.".toList ++ keyword.toList
      | none => []) ++ behind names (Vocabulary.standard.withModule module) expr := by
  -- The first piece has the keyword and the first character behind it in one text.
  have hopen : ∀ keyword : String, ∀ opening : List Char, ∀ name,
      String.toList name = keyword.toList ++ opening →
      ((Vocabulary.standard.withModule module).member name).toList =
        ("types.".toList ++ keyword.toList) ++ opening := by
    intro keyword opening name hname
    rw [toList_member, hname, List.append_assoc]
  have htext : ∀ parts : List Part, ∀ s : String, (Part.text s :: parts).flatMap (partChars names) =
      s.toList ++ parts.flatMap (partChars names) := fun _ _ => rfl
  have hname : ∀ parts : List Part, ∀ id, (Part.name id :: parts).flatMap (partChars names) =
      nameChars names id ++ parts.flatMap (partChars names) := fun _ _ => rfl
  have hclose : ")".toList = [')'] := by decide
  have hvalues : ">(\"".toList = '>' :: "(\"".toList := by decide
  -- Each kind is written out as pieces, and the first of them is split behind the keyword.
  cases expr with
  | scalar type =>
    show ((Vocabulary.standard.withModule module).expression type).toList ++ [] =
      ("types.".toList ++ type.keyword.toList) ++ type.behind.toList
    rw [List.append_nil, List.append_assoc]
    exact toList_expression module type
  | array items =>
    rw [chars, word, nested_word, List.cons_append, htext, hopen "array" ['('] _ (by decide),
      List.flatMap_append, htext, hclose, List.flatMap_nil, List.append_nil, List.append_assoc]
    rfl
  | union members =>
    rw [chars, word, List.cons_append, htext, hopen "union" ['('] _ (by decide),
      List.flatMap_append, htext, hclose, List.flatMap_nil, List.append_nil, List.append_assoc]
    rfl
  | enumeration name =>
    rw [chars, word, htext, hopen "enumeration" ['<'] _ (by decide), hname, htext, hvalues, hname,
      htext, hname, htext, List.flatMap_nil, List.append_nil, List.append_assoc]
    rfl
  | reference name =>
    rw [chars, word, Word.ofName, hname, List.flatMap_nil, List.append_nil]
    rfl
  | late name =>
    rw [chars, word, htext, hopen "late" ('(' :: arrow) _ (by decide), hname, htext, hclose,
      List.flatMap_nil, List.append_nil, List.append_assoc]
    rfl

variable {names} {module}

/-- The first of expressions with commas between them, and the others. Two expressions have a
comma and a space between them, and the last one is followed by what follows the list. -/
theorem listChars_cons (vocabulary : Vocabulary) (expr : Expr) (exprs : List Expr) :
    listChars names vocabulary (expr :: exprs) = chars names vocabulary expr ++
      match exprs with
      | [] => []
      | _ :: _ => ',' :: ' ' :: listChars names vocabulary exprs := by
  have h := @separated_words_cons vocabulary expr exprs []
  rw [List.append_nil] at h
  rw [listChars, h, List.flatMap_append]
  cases exprs with
  | nil => rfl
  | cons next others => simp [chars, listChars, partChars]

/-! ### Reading texts -/

/-- What may follow an expression: nothing, or what ends a call or an item of it. None of these
characters is one of names. -/
inductive Ends : List Char → Prop
  | nil : Ends []
  | close (rest : List Char) : Ends (')' :: rest)
  | comma (rest : List Char) : Ends (',' :: rest)

/-- A text that does not go on with a character of names. Behind a name in an expression there is
always such a text, so the name can be read off. -/
def Stops (rest : List Char) : Prop :=
  rest.takeWhile isNameCharacter = []

/-- No name goes on after an expression, so a bare reference ends where its name does. -/
theorem Ends.stops {rest : List Char} (h : Ends rest) : Stops rest := by
  cases h <;> rfl

/-- A character that is none of names ends a name. -/
theorem stops_cons {c : Char} (rest : List Char) (hc : isNameCharacter c = false) :
    Stops (c :: rest) := by
  rw [Stops, List.takeWhile_cons_of_neg]
  rw [hc]
  exact Bool.false_ne_true

/-- The run of characters of names at the front of a text can be told from what follows it. Every
word of a text is read by this, keywords and names alike. -/
theorem run_append_injective {run run' rest rest' : List Char}
    (hrun : run.all isNameCharacter = true) (hrun' : run'.all isNameCharacter = true)
    (hrest : Stops rest) (hrest' : Stops rest') (h : run ++ rest = run' ++ rest') :
    run = run' ∧ rest = rest' := by
  -- Both runs are the longest one at the front of the same text.
  have htake := congrArg (List.takeWhile isNameCharacter) h
  rw [List.takeWhile_append_of_pos (List.all_eq_true.1 hrun),
    List.takeWhile_append_of_pos (List.all_eq_true.1 hrun'), hrest, hrest', List.append_nil,
    List.append_nil] at htake
  subst htake
  exact ⟨rfl, List.append_cancel_left h⟩

/-- Behind a keyword comes no character of names. For a scalar without parentheses this is so
because of what follows the expression. -/
theorem stops_behind {vocabulary : Vocabulary} {expr : Expr} {keyword : String}
    (h : keyword? expr = some keyword) {rest : List Char} (hrest : Ends rest) :
    Stops (behind names vocabulary expr ++ rest) := by
  cases expr with
  -- Some scalars are called, with nothing between the parentheses, and the others have nothing
  -- behind them.
  | scalar type =>
    have hbehind : type.behind.toList = [] ∨ type.behind.toList = ['(', ')'] := by
      cases type <;> decide
    rw [behind]
    obtain hbehind | hbehind := hbehind <;> rw [hbehind]
    · exact hrest.stops
    · exact stops_cons _ (by decide)
  | reference name => cases h
  | array _ | union _ | enumeration _ | late _ => exact stops_cons _ (by decide)

/-- All names of an expression are assigned. Rendering fails without it, and `render_injective`
needs it of both expressions. -/
def Assigned (names : Names) (expr : Expr) : Prop :=
  ∀ use ∈ expr.uses, ∃ identifier, names.resolve? use.name = some identifier

/-- A name that is assigned has characters of names only, one at least. That it has one is needed
where a name could be taken for nothing. -/
theorem nameChars_spec (hspelling : Spelling names) {id : NameId}
    (h : ∃ identifier, names.resolve? id = some identifier) :
    (nameChars names id).all isNameCharacter = true ∧ nameChars names id ≠ [] := by
  obtain ⟨identifier, hid⟩ := h
  rw [nameChars, hid]
  exact ⟨hspelling.all hid, hspelling.ne_empty hid⟩

/-- Two names that are assigned can be told from each other and from what follows them. The
characters are the same, so the identifiers are, and two names do not share one. -/
theorem nameChars_append_injective (hspelling : Spelling names) {id id' : NameId}
    (h : ∃ identifier, names.resolve? id = some identifier)
    (h' : ∃ identifier, names.resolve? id' = some identifier) {rest rest' : List Char}
    (hrest : Stops rest) (hrest' : Stops rest')
    (heq : nameChars names id ++ rest = nameChars names id' ++ rest') :
    id = id' ∧ rest = rest' := by
  obtain ⟨hrun, htail⟩ := run_append_injective (nameChars_spec hspelling h).1
    (nameChars_spec hspelling h').1 hrest hrest' heq
  -- The two names are the same text, and no two handles have one.
  refine ⟨?_, htail⟩
  obtain ⟨identifier, hid⟩ := h
  obtain ⟨identifier', hid'⟩ := h'
  have hsame : identifier = identifier' := by
    rw [nameChars, nameChars, hid, hid'] at hrun
    exact String.toList_inj.1 hrun
  exact hspelling.injective hid (hsame ▸ hid')

/-- A name at the end of an expression is not taken for the object that builds types. A class may
well be called `types`; but no point follows its name. -/
theorem nameChars_append_ne (hspelling : Spelling names) {id : NameId}
    (h : ∃ identifier, names.resolve? id = some identifier) {rest : List Char} (hrest : Ends rest)
    (tail : List Char) : nameChars names id ++ rest ≠ "types.".toList ++ tail := by
  intro heq
  have hobject : "types.".toList ++ tail = "types".toList ++ '.' :: tail := by
    have hpoint : "types.".toList = "types".toList ++ ['.'] := by decide
    rw [hpoint, List.append_assoc]
    rfl
  obtain ⟨-, htail⟩ := run_append_injective (nameChars_spec hspelling h).1 (by decide) hrest.stops
    (stops_cons tail (by decide)) (heq.trans hobject)
  -- A point is not among what may follow an expression.
  rw [htail] at hrest
  cases hrest

/-- Two expressions that are written alike have one keyword, or both have none. What is left to
compare is what comes behind. -/
theorem keyword?_eq (hspelling : Spelling names) {expr expr' : Expr} (hexpr : Assigned names expr)
    (hexpr' : Assigned names expr') {rest rest' : List Char} (hrest : Ends rest)
    (hrest' : Ends rest')
    (h : chars names (Vocabulary.standard.withModule module) expr ++ rest =
      chars names (Vocabulary.standard.withModule module) expr' ++ rest') :
    keyword? expr = keyword? expr' ∧
      behind names (Vocabulary.standard.withModule module) expr ++ rest =
        behind names (Vocabulary.standard.withModule module) expr' ++ rest' := by
  -- An expression without a keyword is a name.
  have hreference : ∀ {expr}, Assigned names expr → keyword? expr = none →
      ∃ id, expr = .reference id ∧ ∃ identifier, names.resolve? id = some identifier := by
    intro expr hassigned hnone
    cases expr with
    | reference id => exact ⟨id, rfl, hassigned ⟨id, false⟩ (List.mem_singleton_self _)⟩
    | _ => cases hnone
  rw [chars_eq, chars_eq] at h
  -- Both are names, or both have a keyword; a name is not taken for the front of the other kind.
  cases hkeyword : keyword? expr with
  | none =>
    obtain ⟨id, rfl, hid⟩ := hreference hexpr hkeyword
    cases hkeyword' : keyword? expr' with
    | none =>
      rw [hkeyword, hkeyword'] at h
      exact ⟨rfl, h⟩
    | some keyword' =>
      rw [hkeyword, hkeyword', List.append_assoc, List.append_assoc] at h
      exact absurd h (nameChars_append_ne hspelling hid hrest _)
  | some keyword =>
    cases hkeyword' : keyword? expr' with
    | none =>
      obtain ⟨id, rfl, hid⟩ := hreference hexpr' hkeyword'
      rw [hkeyword, hkeyword', List.append_assoc, List.append_assoc] at h
      exact absurd h.symm (nameChars_append_ne hspelling hid hrest' _)
    | some keyword' =>
      rw [hkeyword, hkeyword', List.append_assoc, List.append_assoc, List.append_assoc,
        List.append_assoc] at h
      obtain ⟨hrun, htail⟩ := run_append_injective (all_keyword hkeyword) (all_keyword hkeyword')
        (stops_behind hkeyword hrest) (stops_behind hkeyword' hrest') (List.append_cancel_left h)
      exact ⟨by rw [String.toList_inj.1 hrun], htail⟩

/-- No expression begins with a closing parenthesis. So a list without members is told from one
with members. -/
theorem chars_append_ne_close (hspelling : Spelling names) {expr : Expr}
    (hexpr : Assigned names expr) (tail rest : List Char) :
    chars names (Vocabulary.standard.withModule module) expr ++ tail ≠ ')' :: rest := by
  intro h
  rw [chars_eq] at h
  cases expr with
  | reference id =>
    -- The first character of a name is one of names.
    obtain ⟨hall, hne⟩ := nameChars_spec hspelling (hexpr ⟨id, false⟩ (List.mem_singleton_self _))
    obtain ⟨c, cs, hcons⟩ := List.exists_cons_of_ne_nil hne
    have hc : isNameCharacter c = true := List.all_eq_true.1 hall c (by simp [hcons])
    have h : nameChars names id ++ tail = ')' :: rest := h
    rw [hcons, List.cons_append] at h
    rw [(List.cons.inj h).1] at hc
    exact absurd hc (by decide)
  | _ => exact absurd (List.cons.inj h).1 (by decide)

-- By recursion on the first of two expressions; the second one has the same keyword, so what it
-- is made of is compared with what the first one is made of.
mutual

/-- An expression can be told from another one and from what follows it. What follows is any text
that may follow an expression, as the expressions inside a call are followed by the rest of the
call. -/
theorem chars_append_injective (hspelling : Spelling names) (expr expr' : Expr)
    (rest rest' : List Char) (hexpr : Assigned names expr) (hexpr' : Assigned names expr')
    (hrest : Ends rest) (hrest' : Ends rest')
    (h : chars names (Vocabulary.standard.withModule module) expr ++ rest =
      chars names (Vocabulary.standard.withModule module) expr' ++ rest') :
    expr = expr' ∧ rest = rest' := by
  obtain ⟨hkeyword, hbehind⟩ := keyword?_eq hspelling hexpr hexpr' hrest hrest' h
  have hne := Scalar.keyword_ne
  simp only [List.mem_cons, List.not_mem_nil, or_false, not_or] at hne
  have hne' := hne
  simp only [ne_comm] at hne'
  -- Two kinds of expressions have two keywords.
  cases expr <;> cases expr' <;> simp [keyword?, hne, hne'] at hkeyword
  case scalar.scalar type type' =>
    obtain rfl := Scalar.keyword_injective hkeyword
    exact ⟨rfl, List.append_cancel_left hbehind⟩
  case array.array items items' =>
    simp only [behind, List.cons_append, List.append_assoc, List.nil_append] at hbehind
    -- The parenthesis of the call follows the items.
    obtain ⟨rfl, hclose⟩ := chars_append_injective hspelling items items' _ _ hexpr hexpr'
      (.close rest) (.close rest') (List.cons.inj hbehind).2
    exact ⟨rfl, (List.cons.inj hclose).2⟩
  case union.union members members' =>
    simp only [behind, List.cons_append, List.append_assoc, List.nil_append] at hbehind
    have hmember : ∀ {members}, Assigned names (.union members) →
        ∀ expr ∈ members, Assigned names expr := fun hassigned expr hmem use huse =>
      hassigned use (mem_usesOf_iff.2 ⟨expr, hmem, huse⟩)
    -- The parenthesis that ends the call ends the list of members, too.
    obtain ⟨rfl, htail⟩ := listChars_append_injective hspelling members members' rest rest'
      (hmember hexpr) (hmember hexpr') (List.cons.inj hbehind).2
    exact ⟨rfl, htail⟩
  case enumeration.enumeration name name' =>
    simp only [behind, List.cons_append, List.append_assoc] at hbehind
    obtain ⟨rfl, htail⟩ := nameChars_append_injective hspelling
      (hexpr ⟨name, false⟩ List.mem_cons_self) (hexpr' ⟨name', false⟩ List.mem_cons_self)
      -- An angle bracket ends the first name; the other two are the same name again.
      (stops_cons _ (by decide)) (stops_cons _ (by decide)) (List.cons.inj hbehind).2
    exact ⟨rfl, List.append_cancel_left (List.cons.inj htail).2⟩
  case reference.reference name name' =>
    obtain ⟨rfl, htail⟩ := nameChars_append_injective hspelling
      (hexpr ⟨name, false⟩ (List.mem_singleton_self _))
      (hexpr' ⟨name', false⟩ (List.mem_singleton_self _)) hrest.stops hrest'.stops hbehind
    exact ⟨rfl, htail⟩
  case late.late name name' =>
    simp only [behind, List.cons_append, List.append_assoc, List.nil_append] at hbehind
    obtain ⟨rfl, htail⟩ := nameChars_append_injective hspelling
      (hexpr ⟨name, true⟩ (List.mem_singleton_self _))
      (hexpr' ⟨name', true⟩ (List.mem_singleton_self _)) (stops_cons _ (by decide))
      (stops_cons _ (by decide)) (List.append_cancel_left (List.cons.inj hbehind).2)
    exact ⟨rfl, (List.cons.inj htail).2⟩

/-- Expressions with commas between them can be told from others and from what follows the
parenthesis after them. Lists of different lengths differ in what follows their last common
expression. -/
theorem listChars_append_injective (hspelling : Spelling names) (exprs exprs' : List Expr)
    (rest rest' : List Char) (hexprs : ∀ expr ∈ exprs, Assigned names expr)
    (hexprs' : ∀ expr ∈ exprs', Assigned names expr)
    (h : listChars names (Vocabulary.standard.withModule module) exprs ++ ')' :: rest =
      listChars names (Vocabulary.standard.withModule module) exprs' ++ ')' :: rest') :
    exprs = exprs' ∧ rest = rest' := by
  -- One list may be empty where the other has an expression, which begins otherwise.
  match exprs, exprs' with
  | [], [] => exact ⟨rfl, (List.cons.inj h).2⟩
  | [], expr' :: others' =>
    rw [listChars_cons, List.append_assoc] at h
    exact absurd h.symm
      (chars_append_ne_close hspelling (hexprs' expr' List.mem_cons_self) _ rest)
  | expr :: others, [] =>
    rw [listChars_cons, List.append_assoc] at h
    exact absurd h (chars_append_ne_close hspelling (hexprs expr List.mem_cons_self) _ rest')
  | expr :: others, expr' :: others' =>
    rw [listChars_cons, listChars_cons, List.append_assoc, List.append_assoc] at h
    have hfirst := hexprs expr List.mem_cons_self
    have hfirst' := hexprs' expr' List.mem_cons_self
    -- After an expression comes the parenthesis, or a comma and then another expression.
    match others, others' with
    | [], [] =>
      obtain ⟨rfl, htail⟩ := chars_append_injective hspelling expr expr' _ _ hfirst hfirst'
        (.close rest) (.close rest') h
      exact ⟨rfl, (List.cons.inj htail).2⟩
    | [], _ :: _ =>
      obtain ⟨-, htail⟩ := chars_append_injective hspelling expr expr' _ _ hfirst hfirst'
        (.close rest) (.comma _) h
      exact absurd (List.cons.inj htail).1 (by decide)
    | _ :: _, [] =>
      obtain ⟨-, htail⟩ := chars_append_injective hspelling expr expr' _ _ hfirst hfirst'
        (.comma _) (.close rest') h
      exact absurd (List.cons.inj htail).1 (by decide)
    | next :: others, next' :: others' =>
      obtain ⟨rfl, htail⟩ := chars_append_injective hspelling expr expr' _ _ hfirst hfirst'
        (.comma _) (.comma _) h
      have hothers : ∀ e ∈ next :: others, Assigned names e := fun e he =>
        hexprs e (List.mem_cons_of_mem _ he)
      have hothers' : ∀ e ∈ next' :: others', Assigned names e := fun e he =>
        hexprs' e (List.mem_cons_of_mem _ he)
      obtain ⟨heq, htail⟩ := listChars_append_injective hspelling (next :: others)
        (next' :: others') rest rest' hothers hothers'
        (List.cons.inj (List.cons.inj htail).2).2
      exact ⟨by rw [heq], htail⟩

end

/-- Two different expressions whose names are assigned do not have one text. This is what makes
the text of a type readable: `typeText_eq_iff_alike` and the meaning of a written text go by it.
-/
theorem render_injective (hspelling : Spelling names) {expr expr' : Expr}
    (hexpr : Assigned names expr) (hexpr' : Assigned names expr') {text : String}
    (h : (word (Vocabulary.standard.withModule module) expr).render names = .ok text)
    (h' : (word (Vocabulary.standard.withModule module) expr').render names = .ok text) :
    expr = expr' := by
  have hchars : chars names (Vocabulary.standard.withModule module) expr ++ [] =
      chars names (Vocabulary.standard.withModule module) expr' ++ [] := by
    rw [List.append_nil, List.append_nil]
    exact (toList_of_render h).symm.trans (toList_of_render h')
  exact (chars_append_injective hspelling expr expr' [] [] hexpr hexpr' .nil .nil hchars).1

end Expr

end StateTree
