import StateTree.Text.WordContinue
import StateTree.Text.WordStart

/-!
# `StateTree.Identifier`: identifiers of the generated language

The identifier classes are of version 18 of the Unicode character database, one version later than
the classes that names are split into words by. A letter that is new in version 18 may so stand in
an identifier, but no word has it.

- `isIdentifierStart`, `isIdentifierPart`: what an identifier may begin with and go on with.
- `legalize`: a text with every character that may not stand in an identifier replaced.
-/

set_option autoImplicit false

namespace StateTree

/-- A dollar sign, a low line, or a letter of any script. -/
def isIdentifierStart (c : Char) : Bool :=
  c = '$' || c = '_' || Text.isWordStart c

/-- What may follow in an identifier: marks, digits and connectors too, and the two zero-width
joiners. -/
def isIdentifierPart (c : Char) : Bool :=
  c = '$' || c = '\u200c' || c = '\u200d' || Text.isWordContinue c

/-- Replaces every character that may not stand in an identifier by a low line. The first character
is not held to the stricter rule for the start. -/
def legalizeChars (cs : List Char) : List Char :=
  cs.map fun c => if isIdentifierPart c then c else '_'

/-- Replaces every character that may not stand in an identifier by a low line. -/
def legalize (s : String) : String :=
  String.ofList (legalizeChars s.toList)

end StateTree
