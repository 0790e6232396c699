import StateTree.Naming.Error

/-!
# `StateTree.Expr.Word`: written expressions whose names are still open

A word is a sequence of texts and names. The names are put in once they are all assigned.

- `Word.nested`: the parts of a word inside another one, in parentheses if it needs them.
- `Word.render`: the text of a word.
-/

set_option autoImplicit false

namespace StateTree.Expr

open StateTree.Naming (NameId Names)

/-- A piece of a written expression. -/
inductive Part where
  | text (s : String)
  | name (id : NameId)
  deriving DecidableEq, Repr

/-- A written expression. One that is built from operators has to stand in parentheses inside
another expression. -/
structure Word where
  parts : List Part
  needsParens : Bool := false
  deriving DecidableEq, Inhabited, Repr

/-- The text of a piece. It fails only for a handle that no name was assigned to. -/
def Part.render (names : Names) : Part → Except Naming.Error String
  | text s => .ok s
  | name id =>
    match names.resolve? id with
    | some identifier => .ok identifier
    | none => .error (.unresolved id)

namespace Word

/-- A word of one text. -/
def ofText (s : String) : Word :=
  ⟨[.text s], false⟩

/-- A word of one name. -/
def ofName (id : NameId) : Word :=
  ⟨[.name id], false⟩

/-- The parts of a word inside another one. -/
def nested (word : Word) : List Part :=
  if word.needsParens then .text "(" :: word.parts ++ [.text ")"] else word.parts

/-- The text of a word. -/
def render (names : Names) (word : Word) : Except Naming.Error String :=
  (word.parts.mapM (Part.render names)).map String.join

end Word

end StateTree.Expr
