import LineLexer.Json.Basic
import LineLexer.Text.Digit

/-!
**Numerals.**

How a written number is read. An integer that fits 64 bits is kept as it is. Every other number is a
double: its digits are taken into a 64-bit significand, those that no longer fit only count for the
exponent, and the double is that significand multiplied or divided by a power of ten.

* `Numeral.read?`: the number at the start of a text, and what follows it;
* `Json.Number.toFloat?`: the double that a number stands for, `none` when it overflows.
-/

namespace LineLexer

namespace Json.Number

/-- The largest number that 64 bits hold. -/
def largestWord : Nat := 0xffffffffffffffff

/-- The largest power of ten that is scaled by in one step. -/
def largestPower : Nat := 308

/-- Divides by the largest power of ten until the exponent is in reach, then scales once. A zero
stays zero, and an overflow gives `none`. -/
def scale? : Nat → Float → Int → Option Float
  | 0, value, _ => some value
  | steps + 1, value, exponent =>
    if exponent.natAbs ≤ largestPower then
      let power := Float.ofScientific 1 false exponent.natAbs
      if 0 ≤ exponent then
        let scaled := value * power
        if scaled.isInf then none else some scaled
      else some (value / power)
    else if value == 0 then some value
    else if 0 ≤ exponent then none
    else
      scale? steps (value / Float.ofScientific 1 false largestPower) (exponent + largestPower)

/-- The double that a number stands for. -/
def toFloat? : Number → Option Float
  | .natural value => some (Float.ofNat value)
  | .negative magnitude => some (-Float.ofNat magnitude)
  | .decimal below significand exponent =>
    let steps := exponent.natAbs / largestPower + 1
    (scale? steps (Float.ofNat significand) exponent).map fun value =>
      if below then -value else value

end Json.Number

namespace Numeral

open Json.Number (largestWord)

/-- Takes leading digits into a significand while it fits 64 bits. Answers the significand, the
number of digits taken, the number of digits after them that did not fit, and what follows. -/
def digits (significand taken dropped : Nat) : List Char → Nat × Nat × Nat × List Char
  | [] => (significand, taken, dropped, [])
  | next :: rest =>
    match Digit.decimal? next with
    | none => (significand, taken, dropped, next :: rest)
    | some digit =>
      if dropped = 0 ∧ significand * 10 + digit ≤ largestWord then
        digits (significand * 10 + digit) (taken + 1) 0 rest
      else digits significand taken (dropped + 1) rest

/-- The largest exponent that is told apart from greater ones. -/
def largestExponent : Nat := 0x7fffffff

/-- A number in decimal or scientific notation, if it does not overflow. -/
def decimal? (negative : Bool) (significand : Nat) (exponent : Int) (rest : List Char) :
    Option (Json.Number × List Char) :=
  let number := Json.Number.decimal negative significand exponent
  if number.toFloat?.isSome then some (number, rest) else none

/-- The digits of a written exponent, past its mark. -/
def exponentDigits? (text : List Char) : Option (Nat × List Char) :=
  match text.takeWhile Digit.isDecimal with
  | [] => none
  | written => some (Digit.number written, text.dropWhile Digit.isDecimal)

/-- What an exponent makes of the number before it. An exponent that is out of reach makes the
number zero or too large. -/
def exponent? (negative : Bool) (significand : Nat) (start : Int) (text : List Char) :
    Option (Json.Number × List Char) := do
  let (shrinks, text) :=
    match text with
    | '+' :: rest => (false, rest)
    | '-' :: rest => (true, rest)
    | _ => (false, text)
  let (value, rest) ← exponentDigits? text
  if largestExponent < value then
    if significand ≠ 0 ∧ ¬ shrinks then none else some (.decimal negative 0 0, rest)
  else if shrinks then decimal? negative significand (start - value) rest
  else decimal? negative significand (start + value) rest

/-- What may follow the digits of a fraction. -/
def afterFraction? (negative : Bool) (significand : Nat) (exponent : Int) :
    List Char → Option (Json.Number × List Char)
  | 'e' :: rest => exponent? negative significand exponent rest
  | 'E' :: rest => exponent? negative significand exponent rest
  | rest => decimal? negative significand exponent rest

/-- What may follow the digits of an integer, `dropped` of which did not fit. -/
def afterInteger? (negative : Bool) (significand dropped : Nat) :
    List Char → Option (Json.Number × List Char)
  | '.' :: rest =>
    match digits significand 0 0 rest with
    | (_, 0, 0, _) => none
    | (significand, taken, _, rest) => afterFraction? negative significand (dropped - taken) rest
  | 'e' :: rest => exponent? negative significand dropped rest
  | 'E' :: rest => exponent? negative significand dropped rest
  | rest =>
    if dropped ≠ 0 then decimal? negative significand dropped rest
    else if ¬ negative then some (.natural significand, rest)
    else if 0 < significand ∧ significand ≤ 0x8000000000000000 then some (.negative significand, rest)
    else decimal? negative significand 0 rest

/-- The number that starts with the first digit of a text. A leading zero stands alone. -/
def unsigned? (negative : Bool) : List Char → Option (Json.Number × List Char)
  | '0' :: next :: rest =>
    if Digit.isDecimal next then none else afterInteger? negative 0 0 (next :: rest)
  | text =>
    match digits 0 0 0 text with
    | (_, 0, _, _) => none
    | (significand, _, dropped, rest) => afterInteger? negative significand dropped rest

/-- The number at the start of a text, and what follows it. -/
def read? : List Char → Option (Json.Number × List Char)
  | '-' :: rest => unsigned? true rest
  | text => unsigned? false text

end Numeral

end LineLexer
