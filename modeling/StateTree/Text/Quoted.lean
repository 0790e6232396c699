/-!
# `StateTree.Text.Quoted`: escapes in double-quoted literals

The inside of a double-quoted literal of the generated language. Backslashes and quotes take a
backslash, the common controls have short escapes, and every other control, both line separators
and all characters outside the first plane are written as escapes of their UTF-16 units. All else
stands for itself.

- `units16`: the UTF-16 units of a character.
- `escapeChars`, `escape`: the text between the quotes.
- `quote`: the whole literal.
-/

set_option autoImplicit false

namespace StateTree.Text

/-- The UTF-16 units of a character: itself, or a high and a low surrogate. -/
def units16 (c : Char) : List Nat :=
  let n := c.toNat
  if n < 0x10000 then [n]
  else [0xD800 + (n - 0x10000) / 0x400, 0xDC00 + (n - 0x10000) % 0x400]

/-- The small hexadecimal digit of a number below sixteen. -/
def hexDigit (n : Nat) : Char :=
  if n < 10 then Char.ofNat (0x30 + n) else Char.ofNat (0x57 + n)

/-- The escape of one UTF-16 unit: `\u` and four hexadecimal digits. -/
def escapeUnit (u : Nat) : List Char :=
  ['\\', 'u', hexDigit (u / 0x1000 % 16), hexDigit (u / 0x100 % 16), hexDigit (u / 0x10 % 16),
    hexDigit (u % 16)]

/-- A control character: the first and the second block of thirty-two, and the delete between. -/
def isControl (c : Char) : Bool :=
  c.toNat < 0x20 || (0x7F ≤ c.toNat && c.toNat < 0xA0)

/-- The line and paragraph separators, which end a line in some readers of literals. -/
def isSeparator (c : Char) : Bool :=
  c.toNat == 0x2028 || c.toNat == 0x2029

/-- A character as it is written inside a literal. Characters beyond the first plane are written
as two units, each with its own escape. -/
def escapeChar (c : Char) : List Char :=
  if c = '\\' then ['\\', '\\']
  else if c = '"' then ['\\', '"']
  else if c = '\n' then ['\\', 'n']
  else if c = '\r' then ['\\', 'r']
  else if c = '\t' then ['\\', 't']
  else if c = '\x08' then ['\\', 'b']
  else if c = '\x0c' then ['\\', 'f']
  else if isControl c || isSeparator c || 0xFFFF < c.toNat then (units16 c).flatMap escapeUnit
  else [c]

/-- A text as it is written between quotes. -/
def escapeChars (cs : List Char) : List Char :=
  cs.flatMap escapeChar

/-- A text as it is written between quotes. -/
def escape (s : String) : String :=
  String.ofList (escapeChars s.toList)

/-- The literal of a text, quotes included. -/
def quote (s : String) : String :=
  "\"" ++ escape s ++ "\""

end StateTree.Text
