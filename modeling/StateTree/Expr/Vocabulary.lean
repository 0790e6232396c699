import StateTree.Expr.Word

/-!
# `StateTree.Expr.Vocabulary`: the words that expressions are written in

A vocabulary names the object whose members build types, the module it comes from, and the
expression of each scalar.

- `Vocabulary.standard`: the members of `types` as the library itself has them.
- `Vocabulary.withModule`, `Vocabulary.withScalar`: vocabularies for a module of one's own.
-/

set_option autoImplicit false

namespace StateTree.Expr

/-- The module that types and helpers come from by default. -/
def standardModule : String := "mobx-state-tree"

/-- Types that are written as a fixed expression. -/
inductive Scalar where
  | any | null | boolean | number | string | date
  deriving DecidableEq, Repr

/-- The member of the standard vocabulary for a scalar. -/
def Scalar.member : Scalar → String
  | any => "frozen()"
  | null => "null"
  | boolean => "boolean"
  | number => "number"
  | string => "string"
  | date => "Date"

/-- The words that expressions are written in. The standard ones are one value of it, and whatever
does not depend on them is proved for all. -/
structure Vocabulary where
  /-- The object whose members build types. -/
  root : String
  /-- The module that the object is imported from. -/
  module : String
  /-- The expression of each scalar. -/
  expression : Scalar → String

namespace Vocabulary

/-- The vocabulary of the library itself. -/
def standard : Vocabulary where
  root := "types"
  module := standardModule
  expression scalar := "types." ++ scalar.member

/-- The same words from another module. -/
def withModule (vocabulary : Vocabulary) (module : String) : Vocabulary :=
  { vocabulary with module := module }

/-- Another expression for one scalar. -/
def withScalar (vocabulary : Vocabulary) (scalar : Scalar) (text : String) : Vocabulary :=
  { vocabulary with
    expression := fun other => if other = scalar then text else vocabulary.expression other }

/-- A member of the object that builds types. -/
def member (vocabulary : Vocabulary) (name : String) : String :=
  vocabulary.root ++ "." ++ name

/-- A scalar as a word. -/
def scalar (vocabulary : Vocabulary) (scalar : Scalar) : Word :=
  .ofText (vocabulary.expression scalar)

end Vocabulary

end StateTree.Expr
