import StateTree.Time.Calendar
import StateTree.Time.Scan
import StateTree.Time.Instant

/-!
# `StateTree.Toml.Plain`: numbers, dates and times of the settings notation

- `isInteger`, `isDecimal`: the forms of numbers.
- `isMoment`: the forms of dates and times.
- `isPlainValue`: all of them.
-/

set_option autoImplicit false

namespace StateTree.Toml

open StateTree.Time (Scan Date Clock)
open StateTree.Time.Scan (need number run token hasToken)

/-! ### Numbers -/

/-- Digits with single underscores between them. `afterDigit` says whether one stands before. -/
def areDigits (isDigit : Char → Bool) (afterDigit : Bool) : List Char → Bool
  | [] => afterDigit
  | '_' :: c :: rest => afterDigit && isDigit c && areDigits isDigit true rest
  | c :: rest => isDigit c && areDigits isDigit true rest

/-- A number without a sign. Only zero itself begins with the digit zero. -/
def isUnsigned : List Char → Bool
  | ['0'] => true
  | '0' :: _ => false
  | cs => areDigits Char.isDigit false cs

/-- The text without a sign at its front. -/
def dropSign : List Char → List Char
  | '+' :: rest => rest
  | '-' :: rest => rest
  | rest => rest

/-- The digits of hexadecimal numbers, in either case. -/
def isHexDigit (c : Char) : Bool :=
  c.isDigit || ('a' ≤ c && c ≤ 'f') || ('A' ≤ c && c ≤ 'F')

/-- A whole number, decimal with or without a sign or in another base without one. -/
def isInteger : List Char → Bool
  | '0' :: 'x' :: rest => areDigits isHexDigit false rest
  | '0' :: 'o' :: rest => areDigits (fun c => '0' ≤ c && c ≤ '7') false rest
  | '0' :: 'b' :: rest => areDigits (fun c => c = '0' || c = '1') false rest
  | cs => isUnsigned (dropSign cs)

/-- Whether a text is what `isFirst` accepts, or that, a separator and what `isSecond` accepts. -/
def splitAtFirst (isSeparator : Char → Bool) (isFirst isSecond : List Char → Bool)
    (cs : List Char) : Bool :=
  match cs.span fun c => !isSeparator c with
  | (first, []) => isFirst first
  | (first, _ :: second) => isFirst first && isSecond second

/-- A number with a point or an exponent, infinity, or no number. -/
def isDecimal (cs : List Char) : Bool :=
  let size := dropSign cs
  size = "inf".toList || size = "nan".toList ||
    splitAtFirst (fun c => c = 'e' || c = 'E')
      (splitAtFirst (· = '.') isUnsigned (areDigits Char.isDigit false))
      (fun exponent => areDigits Char.isDigit false (dropSign exponent)) size

/-! ### Dates and times -/

/-- A date. -/
def dateScan : Scan Unit := do
  let year ← number 4 4
  token '-'
  let month ← number 2 2
  token '-'
  let day ← number 2 2
  discard (need (Date.of? year month day))

/-- The seconds of a time of day, which may be missing. -/
def secondScan : Scan Nat := do
  if ← hasToken ':' then
    let second ← number 2 2
    if ← hasToken '.' then
      if (← run Char.isDigit).isEmpty then failure
    return second
  else return 0

/-- A time of day. -/
def clockScan : Scan Unit := do
  let hour ← number 2 2
  token ':'
  let minute ← number 2 2
  let second ← secondScan
  if (Clock.mk hour minute second 0).IsValid then return () else failure

/-- A difference from universal time, which may be missing. -/
def differenceScan : Scan Unit := fun cs =>
  match cs with
  | 'Z' :: rest => some ((), rest)
  | 'z' :: rest => some ((), rest)
  | [] => some ((), [])
  | _ => do
    let (_, rest) ← Scan.char (fun c => c = '+' || c = '-') cs
    let (hour, rest) ← number 2 2 rest
    let (_, rest) ← token ':' rest
    let (minute, rest) ← number 2 2 rest
    if hour ≤ 23 && minute ≤ 59 then some ((), rest) else none

/-- A date with a time of day. -/
def momentScan : Scan Unit := do
  dateScan
  discard (Scan.char fun c => c = 'T' || c = 't' || c = ' ')
  clockScan
  differenceScan

/-- A date, a time of day or both. -/
def isMoment (cs : List Char) : Bool :=
  [dateScan, clockScan, momentScan].any fun scan => (Scan.whole? scan cs).isSome

/-- A number, a date or a time of day. -/
def isPlainValue (cs : List Char) : Bool :=
  isInteger cs || isDecimal cs || isMoment cs

/-! ### Where they end -/

/-- The characters that these values are written with. -/
def isPlainChar (c : Char) : Bool :=
  c.isAlphanum || c = '_' || c = '-' || c = '+' || c = '.' || c = ':'

/-- A number, a date or a time of day. One space may stand between a date and a time of day. -/
def readPlain (cs : List Char) : Option (String × List Char) :=
  let first := cs.takeWhile isPlainChar
  let rest := cs.dropWhile isPlainChar
  let (written, rest) := match (Scan.whole? dateScan first).isSome, rest with
    | true, ' ' :: c :: after =>
      if c.isDigit then
        (first ++ ' ' :: (c :: after).takeWhile isPlainChar, (c :: after).dropWhile isPlainChar)
      else (first, rest)
    | _, _ => (first, rest)
  if isPlainValue written then some (String.ofList written, rest) else none

end StateTree.Toml
