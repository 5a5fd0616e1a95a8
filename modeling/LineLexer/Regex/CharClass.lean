import LineLexer.Unicode.Age
import LineLexer.Unicode.CaseMap
import LineLexer.Unicode.Derived
import LineLexer.Unicode.GraphemeBreak
import LineLexer.Unicode.Script
import LineLexer.Unicode.SentenceBreak
import LineLexer.Unicode.WordBreak

/-!
**Classes of characters in patterns.**

Patterns have letters and names for sets of characters, and may ask for case variants:

* `CharClass.digit`, `CharClass.space`, `CharClass.word`: the three classes with letters of their
  own;
* `CharClass.named?`: the class of a property, a general category or a script, by name;
* `CharClass.valued?`: the class of a property with a value;
* `CharClass.asciiClosure`: a set with its case variants among the letters of ASCII.
-/

namespace LineLexer.CharClass

/-! ### Case variants -/

/-- The capital letters of ASCII. -/
def asciiUpper : CodeRanges := [(0x41, 0x5A)]

/-- The small letters of ASCII. -/
def asciiLower : CodeRanges := [(0x61, 0x7A)]

/-- The ranges moved by the distance between the two cases of ASCII. -/
def toLower (set : CodeRanges) : CodeRanges :=
  set.map fun range => (range.1 + 0x20, range.2 + 0x20)

/-- The ranges moved back by the distance between the two cases of ASCII. -/
def toUpper (set : CodeRanges) : CodeRanges :=
  set.map fun range => (range.1 - 0x20, range.2 - 0x20)

/-- A set with the case variants of its characters among the letters `A` to `Z`. -/
def asciiClosure (set : CodeRanges) : CodeRanges :=
  set.union
    ((toLower (set.intersection asciiUpper)).union (toUpper (set.intersection asciiLower)))

/-- All case variants of one character. -/
def caseVariants (letter : Char) : CodeRanges :=
  .ofList ((CaseMap.variants letter.toNat).map fun code => (code, code))

/-! ### The classes with letters of their own -/

/-- Decimal digits. -/
def digit : CodeRanges := Category.decimalNumber.ranges

/-- White space. -/
def space : CodeRanges := Property.whiteSpace

/-- Word characters: letters, marks, digits, connectors and joiners. -/
def word : CodeRanges :=
  .unions [Property.alphabetic, Property.joinControl,
    Property.ofCategories [.nonspacingMark, .spacingMark, .enclosingMark, .decimalNumber,
      .connectorPunctuation]]

/-- Decimal digits of ASCII. -/
def asciiDigit : CodeRanges := [(0x30, 0x39)]

/-- White space of ASCII. -/
def asciiSpace : CodeRanges := [(0x09, 0x0D), (0x20, 0x20)]

/-- Word characters of ASCII. -/
def asciiWord : CodeRanges := [(0x30, 0x39), (0x41, 0x5A), (0x5F, 0x5F), (0x61, 0x7A)]

/-- The ASCII classes that are named between brackets and colons. -/
def bracketed? : String → Option CodeRanges
  | "alnum" => some [(0x30, 0x39), (0x41, 0x5A), (0x61, 0x7A)]
  | "alpha" => some [(0x41, 0x5A), (0x61, 0x7A)]
  | "ascii" => some [(0x00, 0x7F)]
  | "blank" => some [(0x09, 0x09), (0x20, 0x20)]
  | "cntrl" => some [(0x00, 0x1F), (0x7F, 0x7F)]
  | "digit" => some asciiDigit
  | "graph" => some [(0x21, 0x7E)]
  | "lower" => some [(0x61, 0x7A)]
  | "print" => some [(0x20, 0x7E)]
  | "punct" => some [(0x21, 0x2F), (0x3A, 0x40), (0x5B, 0x60), (0x7B, 0x7E)]
  | "space" => some asciiSpace
  | "upper" => some [(0x41, 0x5A)]
  | "word" => some asciiWord
  | "xdigit" => some [(0x30, 0x39), (0x41, 0x46), (0x61, 0x66)]
  | _ => none

/-! ### Classes by name -/

/-- A name in lower case without blanks, hyphens, low lines and other than ASCII characters; a
leading `is` does not count, unless only `c` is left. -/
def normalName (name : List Char) : String :=
  let plain (letters : List Char) : List Char :=
    (letters.filter fun next => next.toNat < 0x80 && next != ' ' && next != '_' && next != '-').map
      Char.toLower
  match name with
  | first :: second :: rest =>
    if first.toLower = 'i' ∧ second.toLower = 's' then
      match plain rest with
      | ['c'] => "isc"
      | letters => String.ofList letters
    else String.ofList (plain name)
  | _ => String.ofList (plain name)

/-- The categories that a group of categories joins, by its normal names. -/
def categoryGroup? : String → Option (List Category)
  | "l" | "letter" =>
    some [.uppercaseLetter, .lowercaseLetter, .titlecaseLetter, .modifierLetter, .otherLetter]
  | "lc" | "casedletter" => some [.uppercaseLetter, .lowercaseLetter, .titlecaseLetter]
  | "m" | "mark" | "combiningmark" => some [.nonspacingMark, .spacingMark, .enclosingMark]
  | "n" | "number" => some [.decimalNumber, .letterNumber, .otherNumber]
  | "p" | "punctuation" | "punct" =>
    some [.connectorPunctuation, .dashPunctuation, .openPunctuation, .closePunctuation,
      .initialPunctuation, .finalPunctuation, .otherPunctuation]
  | "s" | "symbol" => some [.mathSymbol, .currencySymbol, .modifierSymbol, .otherSymbol]
  | "z" | "separator" => some [.spaceSeparator, .lineSeparator, .paragraphSeparator]
  | name => (Category.all.find? fun category => category.names.contains name).map ([·])

/-- The class of a general category or of a group of categories, by its normal name. -/
def category? : String → Option CodeRanges
  | "any" => some .all
  | "assigned" => some Property.assigned
  | "ascii" => some [(0x00, 0x7F)]
  | "cn" | "unassigned" => some Property.assigned.complement
  | "c" | "other" =>
    some (Property.ofCategories (Category.all.filter fun category =>
      !([Category.control, .format, .privateUse].contains category))).complement
  | name => (categoryGroup? name).map Property.ofCategories

/-- The class that a single name stands for: a property, else a category, else a script. Three names
of properties are taken by categories. -/
def named? (name : List Char) : Option CodeRanges :=
  let name := normalName name
  let property := if ["cf", "sc", "lc"].contains name then none else Property.find? name
  (property.or (category? name)).or (Script.find? name)

/-- The class that a property with a value stands for. -/
def valued? (property value : List Char) : Option CodeRanges :=
  let value := normalName value
  match normalName property with
  | "gc" | "generalcategory" => category? value
  | "sc" | "script" => Script.find? value
  | "scx" | "scriptextensions" => Script.users? value
  | "age" => Age.upTo? value
  | "gcb" | "graphemeclusterbreak" => GraphemeBreak.find? value
  | "wb" | "wordbreak" => WordBreak.find? value
  | "sb" | "sentencebreak" => SentenceBreak.find? value
  | _ => none

end LineLexer.CharClass
