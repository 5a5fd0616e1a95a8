import LineLexer.Unicode.CodeRanges

/-!
**Sets of code points in bytes.**

In UTF-8 a range of code points is written as ranges of bytes, one behind the other. A range that
starts or ends in the middle of what its first bytes cover falls apart into several such sequences:

* `ByteRanges.ofDigits`: the sequences of ranges of digits that spell a range of numbers;
* `ByteRanges.ofSet`: the sequences of ranges of bytes that spell a set, in ascending order.
-/

namespace LineLexer

/-- Ranges of bytes in a row, both ends included: a byte of the first, then one of the second. -/
abbrev ByteRanges := List (Nat × Nat)

namespace ByteRanges

/-- The sequences of ranges of digits to the base 64 that spell the numbers of a range, with `count`
digits behind the first one. Numbers that share their first digit with an end of the range, but not
with all numbers of that digit, are spelled apart from those between them. -/
def ofDigits : Nat → Nat → Nat → List ByteRanges
  | 0, first, last => [[(first, last)]]
  | count + 1, first, last =>
    let unit := 64 ^ (count + 1)
    let low := first / unit
    let high := last / unit
    if low = high then (ofDigits count (first % unit) (last % unit)).map ((low, low) :: ·)
    else
      let lowWhole := first % unit = 0
      let highWhole := last % unit = unit - 1
      let head :=
        if lowWhole then []
        else (ofDigits count (first % unit) (unit - 1)).map ((low, low) :: ·)
      let tail :=
        if highWhole then [] else (ofDigits count 0 (last % unit)).map ((high, high) :: ·)
      let start := if lowWhole then low else low + 1
      let finish := if highWhole then high else high - 1
      let middle :=
        if start ≤ finish then [(start, finish) :: List.replicate (count + 1) (0, 63)] else []
      head ++ middle ++ tail

/-- The ranges of code points whose characters have a number of bytes, each with the number of bytes
behind the first one and with what is added to the digit in that one. -/
def lengths : List ((Nat × Nat) × Nat × Nat) :=
  [((0x0, 0x7F), 0, 0), ((0x80, 0x7FF), 1, 0xC0), ((0x800, 0xD7FF), 2, 0xE0),
    ((0xE000, 0xFFFF), 2, 0xE0), ((0x10000, CodeRanges.largest), 3, 0xF0)]

/-- The bytes that hold given digits: `lead` is added in the first one. -/
def ofDigitRanges (lead : Nat) : ByteRanges → ByteRanges
  | [] => []
  | (first, last) :: rest =>
    (first + lead, last + lead) :: rest.map fun range => (range.1 + 0x80, range.2 + 0x80)

/-- The sequences of ranges of bytes that spell the characters of a range. -/
def ofRange (first last : Nat) : List ByteRanges :=
  lengths.flatMap fun ((least, most), count, lead) =>
    let first := max first least
    let last := min last most
    if first ≤ last then (ofDigits count first last).map (ofDigitRanges lead) else []

/-- The sequences of ranges of bytes that spell the characters of a set, in ascending order. -/
def ofSet (set : CodeRanges) : List ByteRanges :=
  set.flatMap fun range => ofRange range.1 range.2

end ByteRanges

end LineLexer
