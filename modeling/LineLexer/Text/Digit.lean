/-!
**Digits.**

The values of ASCII digits: `Digit.decimal?` and `Digit.hexadecimal?`.
-/

namespace LineLexer.Digit

/-- The value of a decimal digit. -/
def decimal? (digit : Char) : Option Nat :=
  if '0' ≤ digit ∧ digit ≤ '9' then some (digit.toNat - '0'.toNat) else none

/-- The value of a hexadecimal digit of either case. -/
def hexadecimal? (digit : Char) : Option Nat :=
  if '0' ≤ digit ∧ digit ≤ '9' then some (digit.toNat - '0'.toNat)
  else if 'a' ≤ digit ∧ digit ≤ 'f' then some (digit.toNat - 'a'.toNat + 10)
  else if 'A' ≤ digit ∧ digit ≤ 'F' then some (digit.toNat - 'A'.toNat + 10)
  else none

/-- Whether a character is a decimal digit. -/
def isDecimal (digit : Char) : Bool := (decimal? digit).isSome

/-- The number that decimal digits write. -/
def number (digits : List Char) : Nat :=
  digits.foldl (fun value digit => value * 10 + (decimal? digit).getD 0) 0

end LineLexer.Digit
