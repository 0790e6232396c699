import StateTree.Source.File
import StateTree.Time.Snapshot

/-!
# `StateTree.Source.Support`: the support module

The support module exports the members of a base module's `types` with a date of its own, which
reads the stored forms of an instant.

- `Support.fragments`: the lines of the support module over a base module.
- `Support.text`: its text.
-/

set_option autoImplicit false

namespace StateTree.Source.Support

open StateTree.Layout (Fragment)
open StateTree.Time (InvalidTimestamp)

/-- A block that ends in a brace and the given text. -/
def braces (header : String) (body : List Fragment) (afterBrace : String := "") : Fragment :=
  .block (header ++ " \x7b") body (some ("\x7d" ++ afterBrace))

/-- A call over an object with the given members. -/
def objectCall (header : String) (members : List Fragment) : Fragment :=
  .block (header ++ "(\x7b") members (some "\x7d);")

/-- The imports and re-exports of the base module. -/
def baseLines (base : String) : List Fragment :=
  [.line ("import \x7b types as baseTypes \x7d from \"" ++ base ++ "\";"),
    .blank,
    .line ("export type \x7b Instance, SnapshotIn, SnapshotOut \x7d from \"" ++ base ++ "\";")]

/-- The types of stored forms and of values. -/
def dateTypes : List Fragment :=
  [.line "type DateSnapshot = string | number | null;",
    .line "type DateValue = Date | null;"]

/-- The test for texts of digits and points. -/
def numericTest : List Fragment :=
  [braces "function isNumericString(value: unknown): value is string"
    [.line "return typeof value === \"string\" && /^[\\d.]+$/.test(value);"]]

/-- The milliseconds of a stored form. -/
def normalization : List Fragment :=
  [.doc ["Milliseconds from a date literal or a unix timestamp in seconds."],
    braces "function normalizeTimestampMs(snapshot: DateSnapshot): number | null"
      [braces "if (typeof snapshot === \"string\")"
        [braces "if (isNumericString(snapshot))" [.line "return parseFloat(snapshot) * 1000;"],
          .line "return Date.parse(snapshot);"],
        braces "if (typeof snapshot === \"number\")" [.line "return snapshot * 1000;"],
        .line "return null;"]]

/-- The date type: its name, both conversions, its test and its check. -/
def dateType : List Fragment :=
  [objectCall "export const DateType = baseTypes.custom<DateSnapshot, DateValue>"
    [.line "name: \"Date\",",
      braces "fromSnapshot(snapshot: DateSnapshot): DateValue"
        [.line "const ms = normalizeTimestampMs(snapshot);",
          .line "return ms === null ? null : new Date(ms);"] ",",
      braces "toSnapshot(value: DateValue): string | null"
        [.line "return value ? value.toISOString() : null;"] ",",
      braces "isTargetType(value: DateSnapshot | DateValue): boolean"
        [.line "return value instanceof Date || value === null;"] ",",
      braces "getValidationMessage(snapshot: DateSnapshot): string"
        [.line "const ms = normalizeTimestampMs(snapshot);",
          .line "return ms === null || isFinite(ms)",
          .line "  ? \"\"",
          .line ("  : \x60'$\x7bsnapshot\x7d' " ++ InvalidTimestamp.reason ++ "\x60;")] ","]]

/-- The namespace that the support module exports. -/
def exports : List Fragment :=
  [braces "export const types =" [.line "...baseTypes,", .line "Date: DateType,"] ";"]

/-- The lines of the support module over a base module. -/
def fragments (base : String) : List Fragment :=
  File.joinSections [baseLines base, dateTypes, numericTest, normalization, dateType, exports]

/-- The text of the support module over a base module. -/
def text (base : String) : String :=
  Layout.render .standard (fragments base)

end StateTree.Source.Support
