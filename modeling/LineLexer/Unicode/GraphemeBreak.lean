import LineLexer.Unicode.Derived

/-!
**Where graphemes break.**

Each character has a part in where a text breaks into graphemes, what a reader takes for one
character. Most parts follow from categories and other properties:

* `GraphemeBreak.extend`, `GraphemeBreak.control`, …: one set a part;
* `GraphemeBreak.find?`: the characters with a part, by its name in lower case and without
  separators.
-/

namespace LineLexer.GraphemeBreak

/-- The line feed. -/
def lineFeed : CodeRanges := .single 0xA

/-- The carriage return. -/
def carriageReturn : CodeRanges := .single 0xD

/-- The joiner of emoji. -/
def joiner : CodeRanges := .single 0x200D

/-- Characters that go on with the grapheme before them, the joiner apart. -/
def extend : CodeRanges :=
  (Property.graphemeExtend.union Property.emojiModifier).difference joiner

/-- Characters that control how a text is laid out, and that stand alone. -/
def control : CodeRanges :=
  let ignorable := Property.defaultIgnorableCodePoint.difference Property.assigned
  let controls := Property.ofCategories [.lineSeparator, .paragraphSeparator, .control, .format]
  let others :=
    .unions [lineFeed, carriageReturn, Property.joinControl, Property.prependedConcatenationMark,
      extend]
  (ignorable.union controls).difference others

/-- Characters that the character behind them goes on with. -/
def prepend : CodeRanges :=
  .union Property.prependedConcatenationMark <| .ofHex
    "D4E 111C2-111C3 113D1 1193F 11941 11A84-11A89 11D46 11F02"

/-- Marks with room of their own that go on with the grapheme before them. -/
def spacingMark : CodeRanges :=
  let vowels := .ofHex "E33 EB3"
  let others := .ofHex
    "102B-102C 1038 1062-1064 1067-106D 1083 1087-108C 108F 109A-109C 1A61 1A63-1A64 AA7B AA7D
    11720-11721"
  ((Category.spacingMark.ranges.difference extend).union vowels).difference others

/-- Leading consonants of Hangul. -/
def hangulLeading : CodeRanges := .ofHex "1100-115F A960-A97C"

/-- Vowels of Hangul. -/
def hangulVowel : CodeRanges := .ofHex "1160-11A7 D7B0-D7C6 16D63 16D67-16D6A"

/-- Trailing consonants of Hangul. -/
def hangulTrailing : CodeRanges := .ofHex "11A8-11FF D7CB-D7FB"

/-- Syllables of Hangul without a trailing consonant; there are 28 syllables to each pair of a
leading consonant and a vowel, this one first. -/
def hangulOpen : CodeRanges :=
  (List.range 399).map fun pair => (0xAC00 + 28 * pair, 0xAC00 + 28 * pair)

/-- Syllables of Hangul with a trailing consonant. -/
def hangulClosed : CodeRanges := .difference [(0xAC00, 0xD7A3)] hangulOpen

/-! ### Names -/

/-- Every part: its names and its characters. -/
def table : List (List String × CodeRanges) := [
  (["cr"], carriageReturn),
  (["lf"], lineFeed),
  (["zwj"], joiner),
  (["control", "cn"], control),
  (["extend", "ex"], extend),
  (["prepend", "pp"], prepend),
  (["regionalindicator", "ri"], Property.regionalIndicator),
  (["spacingmark", "sm"], spacingMark),
  (["l"], hangulLeading),
  (["v"], hangulVowel),
  (["t"], hangulTrailing),
  (["lv"], hangulOpen),
  (["lvt"], hangulClosed)]

/-- The characters with the part of a given name. -/
def find? (name : String) : Option CodeRanges :=
  (table.find? fun entry => entry.1.contains name).map (·.2)

end LineLexer.GraphemeBreak
