import DeviceOrchestrator.Core.Json

/-!
# `float` and `int`

The interpreters of the targets convert values of a script with `float(...)` and `int(...)`. Both
accept numbers and numerals and raise for everything else: numerals may stand between blanks, have
single underscores between digits and use the decimal digits of any script. Floats are binary64
words, so an integer that is too large for one raises, and so does `int` of a float that is not
finite.
-/
namespace DeviceOrchestrator

/-- `str.isspace` of one character. -/
def isSpace (char : Char) : Bool :=
  let code := char.toNat
  (9 ≤ code && code ≤ 13) || (28 ≤ code && code ≤ 32) || (8192 ≤ code && code ≤ 8202) ||
    [133, 160, 5760, 8232, 8233, 8239, 8287, 12288].contains code

/-- The zeros of the decimal digits of Unicode 14, as Python 3.11 knows them; nine more digits
follow each. -/
def decimalZeros : List Nat :=
  [0x30, 0x660, 0x6F0, 0x7C0, 0x966, 0x9E6, 0xA66, 0xAE6, 0xB66, 0xBE6, 0xC66, 0xCE6, 0xD66,
    0xDE6, 0xE50, 0xED0, 0xF20, 0x1040, 0x1090, 0x17E0, 0x1810, 0x1946, 0x19D0, 0x1A80, 0x1A90,
    0x1B50, 0x1BB0, 0x1C40, 0x1C50, 0xA620, 0xA8D0, 0xA900, 0xA9D0, 0xA9F0, 0xAA50, 0xABF0,
    0xFF10, 0x104A0, 0x10D30, 0x11066, 0x110F0, 0x11136, 0x111D0, 0x112F0, 0x11450, 0x114D0,
    0x11650, 0x116C0, 0x11730, 0x118E0, 0x11950, 0x11C50, 0x11D50, 0x11DA0, 0x16A60, 0x16AC0,
    0x16B50, 0x1D7CE, 0x1D7D8, 0x1D7E2, 0x1D7EC, 0x1D7F6, 0x1E140, 0x1E2F0, 0x1E950, 0x1FBF0]

/-- The value of a decimal digit of any script. -/
def decimal? (char : Char) : Option Nat :=
  (decimalZeros.find? fun first => first ≤ char.toNat && char.toNat < first + 10).map fun first =>
    char.toNat - first

/-- The blanks that may stand around a numeral: the separators of ASCII, which `str.isspace`
counts, are none of them. -/
def isNumeralSpace (char : Char) : Bool :=
  isSpace char && !(28 ≤ char.toNat && char.toNat ≤ 31)

/-- What stands between the blanks at both ends of a text. -/
def stripped (blank : Char → Bool) (text : String) : List Char :=
  ((text.toList.dropWhile blank).reverse.dropWhile blank).reverse

/-- Drop each underscore between two digits; there may be no other. -/
def dropUnderscores (afterDigit : Bool) : List Char → Option (List Char)
  | [] => some []
  | '_' :: rest =>
    if afterDigit && (rest.head?.bind decimal?).isSome then dropUnderscores false rest else none
  | char :: rest => (dropUnderscores (decimal? char).isSome rest).map (char :: ·)

/-- A sign at the front, and what follows it. -/
def splitSign : List Char → Bool × List Char
  | '-' :: rest => (true, rest)
  | '+' :: rest => (false, rest)
  | chars => (false, chars)

/-- The digits at the front, and what follows them. -/
def splitDigits : List Char → List Nat × List Char
  | [] => ([], [])
  | char :: rest =>
    match decimal? char with
    | none => ([], char :: rest)
    | some digit =>
      let (digits, rest) := splitDigits rest
      (digit :: digits, rest)

/-- The number that digits write. -/
def ofDigits (digits : List Nat) : Nat := digits.foldl (fun value digit => 10 * value + digit) 0

/-- The exponent at the end of a numeral, if there is one and nothing else. -/
def exponent? : List Char → Option Int
  | [] => some 0
  | mark :: rest =>
    if mark = 'e' ∨ mark = 'E' then
      let (negative, rest) := splitSign rest
      match splitDigits rest with
      | ([], _) | (_, _ :: _) => none
      | (digits, []) => some (if negative then -(ofDigits digits) else ofDigits digits)
    else none

/-- A decimal numeral without its sign. -/
def unsignedFloat? (chars : List Char) : Option Float :=
  let (whole, rest) := splitDigits chars
  let (fraction, rest) := match rest with
    | '.' :: rest => splitDigits rest
    | rest => ([], rest)
  if whole.isEmpty && fraction.isEmpty then none
  else (exponent? rest).map fun exponent =>
    let scale : Int := exponent - fraction.length
    Float.ofScientific (ofDigits (whole ++ fraction)) (scale < 0) scale.natAbs

/-- `float(text)`. -/
def floatOfText (text : String) : Option Float :=
  (dropUnderscores false (stripped isNumeralSpace text)).bind fun chars =>
    let (negative, chars) := splitSign chars
    let name := String.ofList (chars.map Char.toLower)
    let value :=
      if name = "inf" ∨ name = "infinity" then some (Float.ofBits 0x7FF0000000000000)
      else if name = "nan" then some (Float.ofBits 0x7FF8000000000000)
      else unsignedFloat? chars
    value.map fun value => if negative then -value else value

/-- The most digits that `int` converts. -/
def maxStrDigits : Nat := 4300

/-- The integer that digits write; too many are refused. -/
def intOfDigits (digits : List Nat) : Option Nat :=
  if digits.length ≤ maxStrDigits then some (ofDigits digits) else none

/-- `int(text)`. -/
def intOfText (text : String) : Option Int :=
  (dropUnderscores false (stripped isNumeralSpace text)).bind fun chars =>
    let (negative, chars) := splitSign chars
    match splitDigits chars with
    | ([], _) | (_, _ :: _) => none
    | (digits, []) => (intOfDigits digits).map fun value => if negative then -value else value

/-- `int(value)` of a float: what follows the point is dropped. -/
def intOfFloat (value : Float) : Except PyError Int :=
  match value.toModel.unpack with
  | .notANumber => .error .valueError
  | .infinity _ => .error .overflowError
  | number => .ok (number.toInt 0 0)

/-- `min(first, second)`: the first unless the second is less. -/
def pyMin (first second : Float) : Float := if second.lt first then second else first

/-- `max(first, second)`: the first unless the second is greater. -/
def pyMax (first second : Float) : Float := if first.lt second then second else first

namespace Json

/-- `float(value)`. -/
def toFloat : Json → Except PyError Float
  | null | arr _ | obj _ => .error .typeError
  | bool value => .ok (if value then 1 else 0)
  | int value =>
    let converted := Float.ofModel (Float.Model.ofInt value)
    if converted.isInf then .error .overflowError else .ok converted
  | float value => .ok value
  | str text => (floatOfText text).elim (.error .valueError) .ok

/-- `int(value)`. -/
def toInt : Json → Except PyError Int
  | null | arr _ | obj _ => .error .typeError
  | bool value => .ok (if value then 1 else 0)
  | int value => .ok value
  | float value => intOfFloat value
  | str text => (intOfText text).elim (.error .valueError) .ok

end Json

/-- Conversions as the interpreter of the language does them. -/
example : (floatOfText " 1_0.5e1 ").map Float.toBits = some (105 : Float).toBits ∧
    floatOfText "1__0" = none ∧ floatOfText "soon" = none ∧ intOfText "+4_2 " = some 42 ∧
    intOfText "4.2" = none ∧ intOfText "7\u001f" = none ∧ intOfText "7\u0085" = some 7 := by
  decide +kernel

end DeviceOrchestrator
