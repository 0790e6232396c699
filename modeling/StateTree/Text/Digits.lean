/-!
# `StateTree.Text.Digits`: decimal digits

- `digitsValue`: the number that digits stand for.
- `padded`: a number with leading zeros.
-/

set_option autoImplicit false

namespace StateTree.Text

/-- The number that a list of decimal digits stands for. -/
def digitsValue (digits : List Char) : Nat :=
  digits.foldl (fun n c => 10 * n + (c.toNat - 0x30)) 0

/-- A number with zeros in front, so that it has at least `width` digits. -/
def padded (width n : Nat) : String :=
  let digits := Nat.toDigits 10 n
  String.ofList (List.replicate (width - digits.length) '0' ++ digits)

end StateTree.Text
