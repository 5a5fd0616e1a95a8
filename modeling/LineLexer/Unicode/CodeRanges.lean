import LineLexer.Text.Digit

/-!
**Sets of code points.**

A set is a list of ranges of code points in ascending order, both ends included. Ranges that touch
are one range, so that a set is written in one way:

* `CodeRanges.contains`: membership, which stops at the first range past the code point;
* `CodeRanges.ofHex`: reads a written table such as `30-39 5F`;
* `CodeRanges.ofList`: the set of ranges in any order;
* `CodeRanges.union`, `CodeRanges.complement`, `CodeRanges.intersection`, `CodeRanges.difference`,
  `CodeRanges.symmetricDifference`: the operations on sets of characters.
-/

namespace LineLexer

/-- Ranges of code points in ascending order, both ends included. -/
abbrev CodeRanges := List (Nat × Nat)

namespace CodeRanges

/-- Whether a code point lies in one of the ranges. -/
def contains : CodeRanges → Nat → Bool
  | [], _ => false
  | (first, last) :: rest, code =>
    if code < first then false
    else if code ≤ last then true
    else contains rest code

/-- A range that is being read: its first end, once a hyphen closed it, and the number so far. -/
structure Reading where
  first : Option Nat := none
  number : Option Nat := none

/-- The range that has been read, unless nothing was. -/
def Reading.range? (reading : Reading) : Option (Nat × Nat) :=
  reading.number.map fun last => (reading.first.getD last, last)

/-- Reads a table of ranges in hexadecimal, `first-last` or one code point, parted by blanks. -/
def ofHex (table : String) : CodeRanges :=
  go table.toList {} []
where
  go : List Char → Reading → CodeRanges → CodeRanges
    | [], reading, found => (reading.range?.toList ++ found).reverse
    | '-' :: rest, reading, found => go rest { first := reading.number } found
    | next :: rest, reading, found =>
      match Digit.hexadecimal? next with
      | some digit => go rest { reading with number := reading.number.getD 0 * 16 + digit } found
      | none => go rest {} (reading.range?.toList ++ found)

/-! ### Operations -/

/-- Ranges in the order of their starts, with those joined that overlap or touch. -/
def joined : CodeRanges → CodeRanges
  | [] => []
  | range :: rest => go range rest
where
  go : Nat × Nat → CodeRanges → CodeRanges
    | range, [] => [range]
    | range, next :: rest =>
      if next.1 ≤ range.2 + 1 then go (range.1, max range.2 next.2) rest
      else range :: go next rest

/-- A range put in front of the first one that does not start before it; `others` then goes on with
the rest. -/
def mergeRange (range : Nat × Nat) (others : CodeRanges → CodeRanges) : CodeRanges → CodeRanges
  | [] => range :: others []
  | next :: rest =>
    if range.1 ≤ next.1 then range :: others (next :: rest) else next :: mergeRange range others rest

/-- The ranges of two lists in the order of their starts, if those of each list are in that
order. -/
def merge : CodeRanges → CodeRanges → CodeRanges
  | [] => id
  | range :: rest => mergeRange range (merge rest)

/-- The set of ranges that stand in any order. -/
def ofList (ranges : List (Nat × Nat)) : CodeRanges :=
  joined (ranges.foldr (fun range sorted => merge [range] sorted) [])

/-- The code points in either set. -/
def union (left right : CodeRanges) : CodeRanges := joined (merge left right)

/-- The code points in one of several sets. -/
def unions (sets : List CodeRanges) : CodeRanges := sets.foldr union []

/-- The largest code point. -/
def largest : Nat := 0x10FFFF

/-- The last character before a code point; surrogates are no characters. -/
def before (code : Nat) : Nat := if code = 0xE000 then 0xD7FF else code - 1

/-- The first character behind a code point; surrogates are no characters. -/
def after (code : Nat) : Nat := if code = 0xD7FF then 0xE000 else code + 1

/-- The characters outside a set, from a code point on. -/
def complementFrom (first : Nat) : CodeRanges → CodeRanges
  | [] => if first ≤ largest then [(first, largest)] else []
  | range :: rest =>
    let others := complementFrom (after range.2) rest
    if first < range.1 then (first, before range.1) :: others else others

/-- The characters outside a set. -/
def complement (set : CodeRanges) : CodeRanges := complementFrom 0 set

/-- The characters in both sets. -/
def intersection (left right : CodeRanges) : CodeRanges :=
  complement (union (complement left) (complement right))

/-- The characters in the first set alone. -/
def difference (left right : CodeRanges) : CodeRanges := intersection left (complement right)

/-- The characters in exactly one of the sets. -/
def symmetricDifference (left right : CodeRanges) : CodeRanges :=
  difference (union left right) (intersection left right)

/-- The set of one code point. -/
def single (code : Nat) : CodeRanges := [(code, code)]

/-- Every character. -/
def all : CodeRanges := [(0, largest)]

end CodeRanges

end LineLexer
