import LineLexer.Unicode.Category
import LineLexer.Unicode.Property

/-!
**Quoted texts.**

The form of a text inside double quotes that can be read on any terminal:

* `Quoted.literal`: the text between quotes, with the characters escaped that would not show;
* `Quoted.isPrintable`: the characters that show by themselves.
-/

namespace LineLexer.Quoted

/-- The categories of characters that leave no mark of their own. -/
def blankCategories : List Category :=
  [.control, .format, .privateUse, .lineSeparator, .paragraphSeparator, .spaceSeparator]

/-- Whether a character shows by itself: it is assigned, and it is neither a control or format
character nor a separator, the plain space excepted. -/
def isPrintable (letter : Char) : Bool :=
  letter == ' ' ||
    (Category.all.filter fun category => !blankCategories.contains category).any
      fun category => category.ranges.contains letter.toNat

/-- A character between quotes. The quote, the backslash and five controls have escapes of their
own; what does not show, or would attach to the character before it, is written as its code point
in hexadecimal between braces. -/
def escape (letter : Char) : List Char :=
  if letter = '"' then ['\\', '"']
  else if letter = '\\' then ['\\', '\\']
  else if letter = '\x00' then ['\\', '0']
  else if letter = '\t' then ['\\', 't']
  else if letter = '\n' then ['\\', 'n']
  else if letter = '\r' then ['\\', 'r']
  else if isPrintable letter && !Property.graphemeExtend.contains letter.toNat then [letter]
  else ['\\', 'u', '\x7b'] ++ Nat.toDigits 16 letter.toNat ++ ['\x7d']

/-- A text between quotes. -/
def literal (text : String) : String :=
  String.ofList ('"' :: text.toList.flatMap escape ++ ['"'])

end LineLexer.Quoted
