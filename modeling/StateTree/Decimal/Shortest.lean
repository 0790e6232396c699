/-!
# `StateTree.Decimal.Shortest`: the fewest digits that read back

A finite binary number of 64 bits is `mantissa * 2 ^ power`. The reals nearer to it than to its
neighbours form an interval around it, and each decimal in that interval reads back as the number.

- `Binary`, `Binary.ofBits?`: the mantissa and power of a number.
- `Binary.readsBack`: whether a decimal lies in the interval.
- `Binary.shortest`: of the decimals with the fewest digits that do, the nearest.
- `Decimal.text`: a decimal in positional notation.
-/

set_option autoImplicit false

namespace StateTree

/-- The number `digits * 10 ^ exponent`. -/
structure Decimal where
  digits : Nat
  exponent : Int
  deriving DecidableEq, Repr

namespace Decimal

/-- The power of ten with the given exponent. -/
def tenTo (exponent : Nat) : Nat :=
  Nat.pow 10 exponent

/-- Drops zeros from the end of a reversed list of digits. -/
def dropZeros : List Char → List Char
  | '0' :: rest => dropZeros rest
  | rest => rest

/-- The digits after the point: `width` of them, less the zeros at the end. -/
def fractionText (width part : Nat) : String :=
  let written := Nat.toDigits 10 part
  let padded := List.replicate (width - written.length) '0' ++ written
  String.ofList (dropZeros padded.reverse).reverse

/-- A decimal in positional notation, with neither a point nor zeros at its end that it can do
without. -/
def text (d : Decimal) : String :=
  if 0 ≤ d.exponent then toString (d.digits * tenTo d.exponent.toNat)
  else
    let width := (-d.exponent).toNat
    let whole := toString (d.digits / tenTo width)
    let part := d.digits % tenTo width
    if part = 0 then whole else whole ++ "." ++ fractionText width part

end Decimal

/-- The number `mantissa * 2 ^ power`. Where the number below it is only half as far away as the
one above, `narrowBelow` is set. -/
structure Binary where
  mantissa : Nat
  power : Int
  narrowBelow : Bool
  deriving DecidableEq, Repr

namespace Binary

/-- The power of two with the given exponent. -/
def twoTo (exponent : Nat) : Nat :=
  Nat.pow 2 exponent

/-- The size of the number that 64 bits stand for, unless they stand for infinity or no number. -/
def ofBits? (bits : UInt64) : Option Binary :=
  let exponent := (bits >>> 52 &&& 0x7ff).toNat
  let fraction := (bits &&& 0xfffffffffffff).toNat
  if exponent = 0x7ff then none
  else if exponent = 0 then some ⟨fraction, -1074, false⟩
  else some ⟨twoTo 52 + fraction, (exponent : Int) - 1075, fraction = 0 && 1 < exponent⟩

/-- Four times the mantissa, and the ends of the interval around it on the same scale. -/
def quarters (x : Binary) : Nat × Nat × Nat :=
  (4 * x.mantissa - (if x.narrowBelow then 1 else 2), 4 * x.mantissa, 4 * x.mantissa + 2)

/-- The factors that bring `n * 2 ^ (power - 2)` and `d * 10 ^ exponent` to whole numbers on one
scale, in this order. -/
def scales (x : Binary) (exponent : Int) : Nat × Nat :=
  let power := x.power - 2
  (twoTo power.toNat * Decimal.tenTo (-exponent).toNat,
    Decimal.tenTo exponent.toNat * twoTo (-power).toNat)

/-- Whether `digits * 10 ^ exponent` lies in the interval around a number. Its ends belong to it
where the mantissa is even. -/
def readsBack (x : Binary) (d : Decimal) : Bool :=
  let (binary, decimal) := x.scales d.exponent
  let (low, _, high) := x.quarters
  let value := d.digits * decimal
  if x.mantissa % 2 = 0 then low * binary ≤ value && value ≤ high * binary
  else low * binary < value && value < high * binary

/-- The nearest decimal with the given exponent that reads back, if there is one. Halfway, the
larger. -/
def nearest? (x : Binary) (exponent : Int) : Option Decimal :=
  let (binary, decimal) := x.scales exponent
  let (_, middle, _) := x.quarters
  -- If any decimal with this exponent reads back, one of the two next to the number does.
  let below : Decimal := ⟨middle * binary / decimal, exponent⟩
  let above : Decimal := ⟨below.digits + 1, exponent⟩
  let fromBelow := middle * binary - below.digits * decimal
  match x.readsBack below, x.readsBack above with
  | true, true => some (if 2 * fromBelow < decimal then below else above)
  | true, false => some below
  | false, true => some above
  | false, false => none

/-- The exponent `e` with `10 ^ (e - 1) ≤ x < 10 ^ e`, for a number other than zero. No number is
below `10 ^ (-324)`, so at `10 ^ 400` times its size its whole part has a digit. -/
def magnitude (x : Binary) : Int :=
  let size := x.mantissa * twoTo x.power.toNat * Decimal.tenTo 400 / twoTo (-x.power).toNat
  ((Nat.toDigits 10 size).length : Int) - 400

/-- The first decimal that reads back, trying `tries` counts of digits from `count` on. -/
def shortestFrom? (x : Binary) (magnitude : Int) (count : Nat) : Nat → Option Decimal
  | 0 => none
  | tries + 1 =>
    (x.nearest? (magnitude - count)).or (x.shortestFrom? magnitude (count + 1) tries)

/-- The decimal with the fewest digits that reads back. Seventeen always do. -/
def shortest (x : Binary) : Decimal :=
  if x.mantissa = 0 then ⟨0, 0⟩ else (x.shortestFrom? x.magnitude 1 17).getD ⟨0, 0⟩

end Binary

/-- The text of a number: the fewest digits that read back, in positional notation. Zero keeps its
sign. -/
def Decimal.ofFloat (x : Float) : String :=
  let bits := x.toBits
  let sign := if bits >>> 63 = 1 then "-" else ""
  match Binary.ofBits? bits with
  | some size => sign ++ size.shortest.text
  | none => if x.isNaN then "NaN" else sign ++ "inf"

end StateTree
