import StateTree.Text.Lowering
import StateTree.Text.Words

/-!
# `StateTree.Text.CaseStyle`: names in Pascal case and camel case

A name is split into words and the words are joined again, each with a capital at its front.
Acronyms (words of capitals) have a style of their own.

- `AcronymStyle`: what becomes of an acronym inside a name, with its spellings.
- `pascalCase`: every word capitalised.
- `camelCase`: the first word in small letters, every other word capitalised.
-/

set_option autoImplicit false

namespace StateTree.Text

/-- How an acronym such as `URL` is written inside a name. Words that are no acronyms are written
alike under every style. -/
inductive AcronymStyle where
  /-- As in the source. -/
  | asGiven
  /-- With a capital at the front only. -/
  | pascal
  /-- As `pascal`: camel case lowers a leading acronym whole under every style. -/
  | camel
  /-- In small letters. -/
  | lowerCase
  deriving DecidableEq, Repr

namespace AcronymStyle

/-- The spelling of a style in settings. -/
def text : AcronymStyle → String
  | asGiven => "original"
  | pascal => "pascal"
  | camel => "camel"
  | lowerCase => "lower-case"

/-- The style with the given spelling, in the form that `text` writes. -/
def ofText? : String → Option AcronymStyle
  | "original" => some asGiven
  | "pascal" => some pascal
  | "camel" => some camel
  | "lower-case" => some lowerCase
  | _ => none

/-- Reads a style, also in its older spelling `lowerCase`; the error is the complaint. -/
def parse (s : String) : Except String AcronymStyle :=
  match s, ofText? s with
  | _, some style => .ok style
  | "lowerCase", none => .ok lowerCase
  | _, none => .error
    s!"unknown acronym style '{s}', expected one of: original, pascal, camel, lower-case"

/-- An acronym in the given style. -/
def apply : AcronymStyle → List Char → List Char
  | asGiven, word => word
  | pascal, word => capitalize (lower word)
  | camel, word => capitalize (lower word)
  | lowerCase, word => lower word

end AcronymStyle

/-- An acronym has two or more characters, some letter, and no letter that is not a capital. -/
def isAcronym (word : List Char) : Bool :=
  2 ≤ word.length && word.any isAlphabetic && word.all fun c => !isAlphabetic c || isUppercase c

/-- A word as it stands inside a name. -/
def styleWord (style : AcronymStyle) (word : List Char) : List Char :=
  if isAcronym word then style.apply word else capitalize word

/-- The words of a text joined with a capital at the front of each and of the whole. -/
def pascalChars (style : AcronymStyle) (cs : List Char) : List Char :=
  capitalize ((splitChars cs).flatMap (styleWord style))

/-- The words of a text joined with the first one in small letters and a capital at the front of
each other. -/
def camelChars (style : AcronymStyle) (cs : List Char) : List Char :=
  match splitChars cs with
  | [] => []
  | word :: words => lower word ++ words.flatMap (styleWord style)

/-- A name in Pascal case. -/
def pascalCase (style : AcronymStyle) (s : String) : String :=
  String.ofList (pascalChars style s.toList)

/-- A name in camel case. -/
def camelCase (style : AcronymStyle) (s : String) : String :=
  String.ofList (camelChars style s.toList)

end StateTree.Text
