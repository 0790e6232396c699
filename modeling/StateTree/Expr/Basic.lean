import StateTree.Expr.Vocabulary

/-!
# `StateTree.Expr.Basic`: type expressions

- `Expr`: what the types of properties and of declared constants are made of. A bare reference is
  evaluated where it stands; a late one is not evaluated before the whole file has been.
- `Expr.word`: an expression written in a vocabulary.
-/

set_option autoImplicit false

namespace StateTree

open StateTree.Naming (NameId)
open StateTree.Expr (Part Scalar Vocabulary Word)

/-- A type expression. Its names are handles, and the identifiers come in when it is rendered; so
an expression can be compared and read without knowing any names. -/
inductive Expr where
  | scalar (type : Scalar)
  | array (items : Expr)
  | union (members : List Expr)
  /-- An enum, by its name and the values of its declaration. -/
  | enumeration (name : NameId)
  /-- A declaration further up in the file. -/
  | reference (name : NameId)
  /-- A declaration anywhere in the file, looked up late. -/
  | late (name : NameId)

namespace Expr

/-- The parts of a list of expressions with commas between them. -/
def separated : List (List Part) → List Part
  | [] => []
  | [parts] => parts
  | parts :: rest => parts ++ .text ", " :: separated rest

mutual

/-- An expression written in a vocabulary. An enum comes to its name three times, since the enum
is given to the object that builds types as a type, as a text and as values. -/
def word (vocabulary : Vocabulary) : Expr → Word
  | scalar type => vocabulary.scalar type
  | array items =>
    ⟨.text (vocabulary.member "array(") :: (word vocabulary items).nested ++ [.text ")"], false⟩
  | union members =>
    ⟨.text (vocabulary.member "union(") :: separated (words vocabulary members) ++ [.text ")"],
      false⟩
  | enumeration name =>
    ⟨[.text (vocabulary.member "enumeration<"), .name name, .text ">(\"", .name name,
      .text "\", Object.values(", .name name, .text "))"], false⟩
  | reference name => .ofName name
  | late name => ⟨[.text (vocabulary.member "late(() => "), .name name, .text ")"], false⟩

/-- Expressions written in a vocabulary, each as it stands inside another one. -/
def words (vocabulary : Vocabulary) : List Expr → List (List Part)
  | [] => []
  | expr :: rest => (word vocabulary expr).nested :: words vocabulary rest

end

end Expr

end StateTree
