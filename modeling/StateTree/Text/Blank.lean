import StateTree.Text.Interval

/-!
# `StateTree.Text.Blank`: white space

The property `White_Space` of version 17 of the Unicode character database. The zero-width space
and the byte order mark are not in it.
-/

set_option autoImplicit false

namespace StateTree.Text

/-- The code points with the property `White_Space`, ascending. -/
def blankIntervals : List Interval := [
  (0x9, 0xD), (0x20, 0x20), (0x85, 0x85), (0xA0, 0xA0), (0x1680, 0x1680), (0x2000, 0x200A),
  (0x2028, 0x2029), (0x202F, 0x202F), (0x205F, 0x205F), (0x3000, 0x3000)]

/-- White space of any script, line ends included. -/
def isBlank (c : Char) : Bool :=
  inIntervals blankIntervals c.toNat

end StateTree.Text
