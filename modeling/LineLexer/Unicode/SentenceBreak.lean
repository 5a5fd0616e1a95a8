import LineLexer.Unicode.Derived

/-!
**Where sentences break.**

Each character has a part in where a text breaks into sentences. Most parts follow from categories
and other properties:

* `SentenceBreak.terminal`, `SentenceBreak.close`, …: one set a part;
* `SentenceBreak.find?`: the characters with a part, by its name in lower case and without
  separators.
-/

namespace LineLexer.SentenceBreak

/-- Characters that part paragraphs, carriage return and line feed apart. -/
def separator : CodeRanges := .ofHex "85 2028-2029"

/-- Characters that go on with the one before them. -/
def extend : CodeRanges :=
  .unions [Property.graphemeExtend, Category.spacingMark.ranges, .single 0x200D]

/-- The marks that stand before numbers. -/
def numberMark : CodeRanges :=
  Property.prependedConcatenationMark.difference (.single 0x70F)

/-- Characters without a form of their own. -/
def format : CodeRanges :=
  Category.format.ranges.difference (.unions [Property.joinControl, extend, numberMark])

/-- Blanks that part no paragraphs. -/
def blank : CodeRanges := Property.whiteSpace.difference (.ofHex "A D 85 2028-2029")

/-- Small letters. The letters of Georgian have no case here. -/
def lower : CodeRanges :=
  Property.lowercase.difference (Property.graphemeExtend.union (.ofHex "10D0-10FA 10FD-10FF"))

/-- Capital letters. The letters of Georgian have no case here. -/
def upper : CodeRanges :=
  (Category.titlecaseLetter.ranges.union Property.uppercase).difference
    (.ofHex "1C90-1CBA 1CBD-1CBF")

/-- Letters that are neither small nor capital. -/
def otherLetter : CodeRanges :=
  (Property.alphabetic.union (.single 0x5F3)).difference (.unions [lower, upper, extend])

/-- Digits, the marks in them and the marks that stand before numbers. -/
def numeric : CodeRanges :=
  .unions [Category.decimalNumber.ranges, .ofHex "66B-66C 19DA", numberMark]

/-- Full stops, which may end a sentence or an abbreviation. -/
def fullStop : CodeRanges := .ofHex "2E 2024 FE52 FF0E"

/-- Characters that end a sentence. -/
def terminal : CodeRanges := Property.sentenceTerminal.difference fullStop

/-- Characters behind which a sentence goes on. -/
def goesOn : CodeRanges := .ofHex
  "2C-2D 3A-3B 37E 55D 60C-60D 7F8 1802 1808 2013-2014 3001 FE10-FE11 FE13-FE14 FE31-FE32 FE50-FE51
  FE54-FE55 FE58 FE63 FF0C-FF0D FF1A-FF1B FF64"

/-- Brackets and quotation marks, which may stand behind the end of a sentence. -/
def close : CodeRanges :=
  let brackets :=
    Property.ofCategories [.openPunctuation, .closePunctuation, .initialPunctuation,
      .finalPunctuation]
  let quotes := .ofHex "22 27 275B-2760 2E00-2E01 2E06-2E08 2E0B 1F676-1F678"
  (brackets.union quotes).difference (.unions [.single 0x5F3, fullStop, terminal])

/-! ### Names -/

/-- Every part: its names and its characters. -/
def table : List (List String × CodeRanges) := [
  (["cr"], .single 0xD),
  (["lf"], .single 0xA),
  (["extend", "ex"], extend),
  (["sep", "se"], separator),
  (["format", "fo"], format),
  (["sp"], blank),
  (["lower", "lo"], lower),
  (["upper", "up"], upper),
  (["oletter", "le"], otherLetter),
  (["numeric", "nu"], numeric),
  (["aterm", "at"], fullStop),
  (["sterm", "st"], terminal),
  (["scontinue", "sc"], goesOn),
  (["close", "cl"], close)]

/-- The characters with the part of a given name. -/
def find? (name : String) : Option CodeRanges :=
  (table.find? fun entry => entry.1.contains name).map (·.2)

end LineLexer.SentenceBreak
