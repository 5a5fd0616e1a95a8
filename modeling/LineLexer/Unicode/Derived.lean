import LineLexer.Unicode.Category
import LineLexer.Unicode.Property

/-!
**Properties that follow from others.**

Some properties of characters are put together from categories and other properties. What a property
has beyond the categories that it is made of is a property of its own, whose name starts with
`other`:

* `Property.graphemeBase`, `Property.otherAlphabetic`, …: one set a property;
* `Property.find?`: the characters with a property, by its name in lower case and without
  separators.
-/

namespace LineLexer.Property

/-- The characters of several categories. -/
def ofCategories (found : List Category) : CodeRanges := .unions (found.map Category.ranges)

/-- The characters that are assigned. -/
def assigned : CodeRanges := ofCategories Category.all

/-- Letters and the numbers that are written as letters. -/
def letters : CodeRanges :=
  ofCategories [.uppercaseLetter, .lowercaseLetter, .titlecaseLetter, .modifierLetter, .otherLetter,
    .letterNumber]

/-- Characters that change under some case mapping. -/
def changesWhenCasemapped : CodeRanges :=
  .unions [changesWhenLowercased, changesWhenTitlecased, changesWhenUppercased]

/-- Characters that stand for themselves in a text, so that marks can be set on them. -/
def graphemeBase : CodeRanges :=
  (assigned.difference
    (ofCategories [.control, .format, .privateUse, .lineSeparator, .paragraphSeparator])).difference
    graphemeExtend

/-- Alphabetic characters that are no letters. -/
def otherAlphabetic : CodeRanges := alphabetic.difference letters

/-- Lowercase characters that are no lowercase letters. -/
def otherLowercase : CodeRanges := lowercase.difference Category.lowercaseLetter.ranges

/-- Uppercase characters that are no uppercase letters. -/
def otherUppercase : CodeRanges := uppercase.difference Category.uppercaseLetter.ranges

/-- Mathematical characters that are no mathematical symbols. -/
def otherMath : CodeRanges := math.difference Category.mathSymbol.ranges

/-- Characters that identifiers may start with and that are no letters. -/
def otherIdStart : CodeRanges := idStart.difference letters

/-- Characters that identifiers may go on with, but not start with, and that are no marks, digits or
connectors. -/
def otherIdContinue : CodeRanges :=
  (idContinue.difference idStart).difference
    (ofCategories [.nonspacingMark, .spacingMark, .decimalNumber, .connectorPunctuation])

/-- Characters that extend the grapheme before them and that are no marks without room. -/
def otherGraphemeExtend : CodeRanges :=
  graphemeExtend.difference (ofCategories [.nonspacingMark, .enclosingMark])

/-- Characters that do not show where they are not supported and that are neither format characters
nor variation selectors. -/
def otherDefaultIgnorable : CodeRanges :=
  (defaultIgnorableCodePoint.difference Category.format.ranges).difference variationSelector

/-! ### Names -/

/-- Every property: its names and its characters. -/
def table : List (List String × CodeRanges) := [
  (["alphabetic", "alpha"], alphabetic),
  (["lowercase", "lower"], lowercase),
  (["uppercase", "upper"], uppercase),
  (["whitespace", "wspace", "space"], whiteSpace),
  (["cased"], cased),
  (["caseignorable", "ci"], caseIgnorable),
  (["graphemeextend", "grext"], graphemeExtend),
  (["asciihexdigit", "ahex"], asciiHexDigit),
  (["hexdigit", "hex"], hexDigit),
  (["idstart", "ids"], idStart),
  (["idcontinue", "idc"], idContinue),
  (["xidstart", "xids"], xidStart),
  (["xidcontinue", "xidc"], xidContinue),
  (["math"], math),
  (["dash"], dash),
  (["emoji"], emoji),
  (["emojipresentation", "epres"], emojiPresentation),
  (["emojimodifier", "emod"], emojiModifier),
  (["emojimodifierbase", "ebase"], emojiModifierBase),
  (["emojicomponent", "ecomp"], emojiComponent),
  (["extendedpictographic", "extpict"], extendedPictographic),
  (["defaultignorablecodepoint", "di"], defaultIgnorableCodePoint),
  (["diacritic", "dia"], diacritic),
  (["extender", "ext"], extender),
  (["ideographic", "ideo"], ideographic),
  (["unifiedideograph", "uideo"], unifiedIdeograph),
  (["joincontrol", "joinc"], joinControl),
  (["noncharactercodepoint", "nchar"], noncharacterCodePoint),
  (["patternsyntax", "patsyn"], patternSyntax),
  (["patternwhitespace", "patws"], patternWhiteSpace),
  (["quotationmark", "qmark"], quotationMark),
  (["radical"], radical),
  (["regionalindicator", "ri"], regionalIndicator),
  (["sentenceterminal", "sterm"], sentenceTerminal),
  (["softdotted", "sd"], softDotted),
  (["terminalpunctuation", "term"], terminalPunctuation),
  (["variationselector", "vs"], variationSelector),
  (["bidicontrol", "bidic"], bidiControl),
  (["deprecated", "dep"], deprecated),
  (["logicalorderexception", "loe"], logicalOrderException),
  (["idsbinaryoperator", "idsb"], idsBinaryOperator),
  (["idstrinaryoperator", "idst"], idsTrinaryOperator),
  (["changeswhencasefolded", "cwcf"], changesWhenCasefolded),
  (["changeswhencasemapped", "cwcm"], changesWhenCasemapped),
  (["changeswhenlowercased", "cwl"], changesWhenLowercased),
  (["changeswhentitlecased", "cwt"], changesWhenTitlecased),
  (["changeswhenuppercased", "cwu"], changesWhenUppercased),
  (["bidimirrored", "bidim"], bidiMirrored),
  (["graphemebase", "grbase"], graphemeBase),
  (["graphemelink", "grlink"], graphemeLink),
  (["hyphen"], hyphen),
  (["idsunaryoperator", "idsu"], idsUnaryOperator),
  (["idcompatmathstart"], idCompatMathStart),
  (["idcompatmathcontinue"], idCompatMathContinue),
  (["modifiercombiningmark", "mcm"], modifierCombiningMark),
  (["prependedconcatenationmark", "pcm"], prependedConcatenationMark),
  (["otheralphabetic", "oalpha"], otherAlphabetic),
  (["otherdefaultignorablecodepoint", "odi"], otherDefaultIgnorable),
  (["othergraphemeextend", "ogrext"], otherGraphemeExtend),
  (["otheridcontinue", "oidc"], otherIdContinue),
  (["otheridstart", "oids"], otherIdStart),
  (["otherlowercase", "olower"], otherLowercase),
  (["othermath", "omath"], otherMath),
  (["otheruppercase", "oupper"], otherUppercase)]

/-- The characters with the property of a given name. -/
def find? (name : String) : Option CodeRanges :=
  (table.find? fun entry => entry.1.contains name).map (·.2)

end LineLexer.Property
