import LineLexer.Unicode.Derived
import LineLexer.Unicode.Script

/-!
**Where words break.**

Each character has a part in where a text breaks into words. Most parts follow from categories,
scripts and other properties:

* `WordBreak.letter`, `WordBreak.numeric`, …: one set a part;
* `WordBreak.find?`: the characters with a part, by its name in lower case and without separators.
-/

namespace LineLexer.WordBreak

/-- The joiner of emoji. -/
def joiner : CodeRanges := .single 0x200D

/-- Characters that end a line, carriage return and line feed apart. -/
def newline : CodeRanges := .ofHex "B-C 85 2028-2029"

/-- Characters that go on with the one before them, the joiner apart. -/
def extend : CodeRanges :=
  .difference
    (.unions [Property.graphemeExtend, Category.spacingMark.ranges, Property.emojiModifier]) joiner

/-- Characters without a form of their own. -/
def format : CodeRanges :=
  Category.format.ranges.difference
    (.unions [.single 0x200B, Property.joinControl, extend, Property.prependedConcatenationMark])

/-- The characters of the script with a given name, none if there is no such script. -/
def ofScript (name : String) : CodeRanges := (Script.find? name).getD []

/-- Katakana, with the marks that are used in it. -/
def katakana : CodeRanges :=
  ((ofScript "kana").union (.ofHex "3031-3035 309B-309C 30A0 30FC FF70")).difference extend

/-- Letters of Hebrew. -/
def hebrewLetter : CodeRanges := (ofScript "hebr").intersection Category.otherLetter.ranges

/-- Letters of languages that are written without blanks, where words are found in a dictionary. -/
def dictionaryLetter : CodeRanges := .ofHex
  "E01-E30 E32-E33 E40-E46 E81-E82 E84 E86-E8A E8C-EA3 EA5 EA7-EB0 EB2-EB3 EBD EC0-EC4 EC6 EDC-EDF
  1000-102A 103F 1050-1055 105A-105D 1061 1065-1066 106E-1070 1075-1081 108E 1780-17B3 17D7 17DC
  1950-196D 1970-1974 1980-19AB 19B0-19C9 1A20-1A54 1AA7 A9E0-A9E4 A9E6-A9EF A9FA-A9FE AA60-AA76
  AA7A AA7E-AAAF AAB1 AAB5-AAB6 AAB9-AABD AAC0 AAC2 AADB-AADD 11700-1171A 11740-11746"

/-- Letters that make words: alphabetic characters, and signs that words are written with, unless
each character is a word or words are found in a dictionary. -/
def letter : CodeRanges :=
  let signs := .ofHex
    "B8 2C2-2C5 2D2-2D7 2DE-2DF 2E5-2EB 2ED 2EF-2FF 55A-55C 55E 58A 5F3 70F A708-A716 A720-A721
    A789-A78A AB5B"
  (Property.alphabetic.union signs).difference <|
    .unions [Property.ideographic, katakana, dictionaryLetter, ofScript "hira", extend,
      hebrewLetter]

/-- The single quotation mark of typewriters. -/
def singleQuote : CodeRanges := .single 0x27

/-- The double quotation mark of typewriters. -/
def doubleQuote : CodeRanges := .single 0x22

/-- Characters that join letters as well as digits. -/
def midNumLet : CodeRanges := .ofHex "2E 2018-2019 2024 FE52 FF07 FF0E"

/-- Characters that join letters. -/
def midLetter : CodeRanges := .ofHex "3A B7 387 55F 5F4 2027 FE13 FE55 FF1A"

/-- Characters that join digits. -/
def midNum : CodeRanges := .ofHex
  "2C 3B 37E 589 60C-60D 66C 7F8 2044 FE50 FE54 FF0C FF1B"

/-- Digits, and the marks that stand before numbers. -/
def numeric : CodeRanges :=
  .unions [Category.decimalNumber.ranges, .ofHex "66B 19DA",
    Property.prependedConcatenationMark.difference (.single 0x70F)]

/-- Connectors of letters, digits and katakana. -/
def extendNumLet : CodeRanges := Category.connectorPunctuation.ranges.union (.single 0x202F)

/-- Blanks that stick together. -/
def blank : CodeRanges := Category.spaceSeparator.ranges.difference (.ofHex "A0 2007 202F")

/-! ### Names -/

/-- Every part: its names and its characters. -/
def table : List (List String × CodeRanges) := [
  (["cr"], .single 0xD),
  (["lf"], .single 0xA),
  (["zwj"], joiner),
  (["newline", "nl"], newline),
  (["extend"], extend),
  (["regionalindicator", "ri"], Property.regionalIndicator),
  (["format", "fo"], format),
  (["katakana", "ka"], katakana),
  (["hebrewletter", "hl"], hebrewLetter),
  (["aletter", "le"], letter),
  (["singlequote", "sq"], singleQuote),
  (["doublequote", "dq"], doubleQuote),
  (["midnumlet", "mb"], midNumLet),
  (["midletter", "ml"], midLetter),
  (["midnum", "mn"], midNum),
  (["numeric", "nu"], numeric),
  (["extendnumlet", "ex"], extendNumLet),
  (["wsegspace"], blank)]

/-- The characters with the part of a given name. -/
def find? (name : String) : Option CodeRanges :=
  (table.find? fun entry => entry.1.contains name).map (·.2)

end LineLexer.WordBreak
