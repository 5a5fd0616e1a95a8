import LineLexer.Regex.Assembly
import LineLexer.Regex.Flags
import LineLexer.Text.Digit

/-!
**The smallest parts of a pattern.**

Single characters, escapes and named classes, and the blanks and comments that a verbose pattern may
have between them. All readers answer `none` for what is not part of a pattern.

* `skip`: drops blanks and comments where they do not count;
* `Primitive.escape?`: what follows a backslash;
* `Primitive.expr?`, `Primitive.member?`: what a primitive means by itself and inside a class.
-/

namespace LineLexer.Regex

/-! ### Blanks -/

/-- Whether a character is white space. -/
def isBlank (letter : Char) : Bool := CharClass.space.contains letter.toNat

/-- Drops leading blanks and comments; `inComment` holds up to the end of a line. -/
def dropComments (inComment : Bool) : List Char → List Char
  | [] => []
  | letter :: rest =>
    if inComment then dropComments (letter != '\n') rest
    else if isBlank letter then dropComments false rest
    else if letter = '#' then dropComments true rest
    else letter :: rest

/-- Drops leading blanks and comments where flags say that they do not count. -/
def skip (flags : Flags) (text : List Char) : List Char :=
  if flags.verbose then dropComments false text else text

/-! ### Primitives -/

/-- A primitive part of a pattern. -/
inductive Primitive where
  /-- A character; `byte` marks one written as two hexadecimal digits. -/
  | literal (letter : Char) (byte : Bool)
  /-- Any character of a line. -/
  | dot
  /-- A condition that ASCII and Unicode patterns share. -/
  | check (assertion : Assertion)
  /-- The start or the end of a line, as the flags define lines. -/
  | lineEdge (atEnd : Bool)
  /-- A word edge. -/
  | wordEdge (edge : WordEdge)
  /-- One of the classes with a letter of its own: its Unicode form, its ASCII form, and whether the
  characters outside are meant. -/
  | lettered (unicode ascii : CodeRanges) (outside : Bool)
  /-- A class by name. -/
  | named (set : CodeRanges) (outside : Bool)
  deriving DecidableEq, Repr

namespace Primitive

/-- Characters that have a meaning in some place of a pattern. -/
def isMeta (letter : Char) : Bool := "\\.+*?()|[]\x7b\x7d^$#&-~".toList.contains letter

/-- A character with a given code, if there is one. -/
def character? (code : Nat) : Option Char :=
  if code.isValidChar then some (Char.ofNat code) else none

/-- Hexadecimal digits up to a closing brace. -/
def braceDigits? (flags : Flags) : Nat → List Char → List Char → Option (List Char × List Char)
  | 0, _, _ => none
  | steps + 1, text, found =>
    match skip flags text with
    | [] => none
    | '\x7d' :: rest => some (found.reverse, skip flags rest)
    | digit :: rest =>
      if (Digit.hexadecimal? digit).isSome then braceDigits? flags steps rest (digit :: found)
      else none

/-- A fixed number of hexadecimal digits. -/
def fixedDigits? (flags : Flags) : Nat → List Char → List Char → Option (List Char × List Char)
  | 0, text, found => some (found.reverse, text)
  | missing + 1, text, found =>
    match skip flags text with
    | [] => none
    | digit :: rest =>
      if (Digit.hexadecimal? digit).isSome then fixedDigits? flags missing rest (digit :: found)
      else none

/-- The character with a hexadecimal code, past the letter that says how many digits it has unless
braces enclose them. -/
def hexadecimal? (flags : Flags) (digits : Nat) (text : List Char) :
    Option (Primitive × List Char) := do
  let text := skip flags text
  let (written, rest, byte) ←
    match text with
    | '\x7b' :: rest =>
      (braceDigits? flags (rest.length + 1) rest []).map fun (found, rest) => (found, rest, false)
    | _ =>
      (fixedDigits? flags digits text []).map fun (found, rest) =>
        (found, skip flags rest, digits == 2)
  if written = [] then none
  else
    let code := written.foldl (fun code digit => code * 16 + (Digit.hexadecimal? digit).getD 0) 0
    (character? code).map fun letter => (literal letter byte, rest)

/-- The part of a text before the first place where `mark` stands, and the part behind the mark. -/
def splitAt? (mark : List Char) : List Char → Option (List Char × List Char)
  | [] => none
  | letter :: rest =>
    if mark.isPrefixOf (letter :: rest) then some ([], (letter :: rest).drop mark.length)
    else (splitAt? mark rest).map fun (before, after) => (letter :: before, after)

/-- The class that a name between braces stands for: a property with a value, which an operator in
front of the value may turn into its opposite, or a single name. -/
def namedClass? (name : List Char) : Option (CodeRanges × Bool) :=
  match splitAt? ['!', '='] name with
  | some (property, value) => (CharClass.valued? property value).map (·, true)
  | none =>
    match (splitAt? [':'] name).or (splitAt? ['='] name) with
    | some (property, value) => (CharClass.valued? property value).map (·, false)
    | none => (CharClass.named? name).map (·, false)

/-- The characters of a name up to the closing brace. -/
def braceName? (flags : Flags) : Nat → List Char → List Char → Option (List Char × List Char)
  | 0, _, _ => none
  | steps + 1, text, found =>
    match skip flags text with
    | [] => none
    | '\x7d' :: rest => some (found.reverse, rest)
    | letter :: rest => braceName? flags steps rest (letter :: found)

/-- A class by name, past the letter that starts it. -/
def property? (flags : Flags) (outside : Bool) (text : List Char) :
    Option (Primitive × List Char) :=
  match skip flags text with
  | [] => none
  | '\x7b' :: rest => do
    let (name, rest) ← braceName? flags (rest.length + 1) rest []
    let (set, opposite) ← namedClass? name
    some (named set (outside != opposite), rest)
  | letter :: rest =>
    if letter = '\\' then none
    else (CharClass.named? [letter]).map fun set => (named set outside, skip flags rest)

/-- The name between braces that may follow the mark of a word boundary. -/
def edgeName? (flags : Flags) : Nat → List Char → List Char → Option (String × List Char)
  | 0, _, _ => none
  | steps + 1, text, found =>
    match skip flags text with
    | '\x7d' :: rest => some (String.ofList found.reverse, rest)
    | letter :: rest =>
      if letter.isAlpha ∨ letter = '-' then edgeName? flags steps rest (letter :: found) else none
    | [] => none

/-- A word boundary, or the edge that a name between braces asks for. What does not look like a name
between braces is left for a counted repetition. -/
def boundary? (flags : Flags) (text : List Char) : Option (Primitive × List Char) :=
  match text with
  | '\x7b' :: inner =>
    match skip flags inner with
    | [] => none
    | letter :: _ =>
      if letter.isAlpha ∨ letter = '-' then do
        let (name, rest) ← edgeName? flags (inner.length + 1) inner []
        match name with
        | "start" => some (wordEdge .start, rest)
        | "end" => some (wordEdge .finish, rest)
        | "start-half" => some (wordEdge .startHalf, rest)
        | "end-half" => some (wordEdge .finishHalf, rest)
        | _ => none
      else some (wordEdge .boundary, text)
  | _ => some (wordEdge .boundary, text)

/-- What a backslash and the text after it stand for. Digits would be references to groups and
unknown letters are kept for later use, so both are refused, as are characters beyond ASCII. -/
def escape? (flags : Flags) : List Char → Option (Primitive × List Char)
  | [] => none
  | 'x' :: rest => hexadecimal? flags 2 rest
  | 'u' :: rest => hexadecimal? flags 4 rest
  | 'U' :: rest => hexadecimal? flags 8 rest
  | 'p' :: rest => property? flags false rest
  | 'P' :: rest => property? flags true rest
  | 'd' :: rest => some (lettered CharClass.digit CharClass.asciiDigit false, rest)
  | 'D' :: rest => some (lettered CharClass.digit CharClass.asciiDigit true, rest)
  | 's' :: rest => some (lettered CharClass.space CharClass.asciiSpace false, rest)
  | 'S' :: rest => some (lettered CharClass.space CharClass.asciiSpace true, rest)
  | 'w' :: rest => some (lettered CharClass.word CharClass.asciiWord false, rest)
  | 'W' :: rest => some (lettered CharClass.word CharClass.asciiWord true, rest)
  | 'a' :: rest => some (literal '\x07' false, rest)
  | 'f' :: rest => some (literal '\x0c' false, rest)
  | 't' :: rest => some (literal '\t' false, rest)
  | 'n' :: rest => some (literal '\n' false, rest)
  | 'r' :: rest => some (literal '\r' false, rest)
  | 'v' :: rest => some (literal '\x0b' false, rest)
  | 'A' :: rest => some (check .textStart, rest)
  | 'z' :: rest => some (check .textEnd, rest)
  | 'b' :: rest => boundary? flags rest
  | 'B' :: rest => some (wordEdge .inside, rest)
  | '<' :: rest => some (wordEdge .start, rest)
  | '>' :: rest => some (wordEdge .finish, rest)
  | letter :: rest =>
    if letter.toNat < 0x80 ∧ ¬ letter.isAlphanum then some (literal letter false, rest) else none

/-- The primitive at the start of a text outside a class. -/
def read? (flags : Flags) : List Char → Option (Primitive × List Char)
  | [] => none
  | '\\' :: rest => escape? flags rest
  | '.' :: rest => some (dot, rest)
  | '^' :: rest => some (lineEdge false, rest)
  | '$' :: rest => some (lineEdge true, rest)
  | letter :: rest => some (literal letter false, rest)

/-! ### Meaning -/

/-- A set with its case variants where flags ask for them. -/
def closure (flags : Flags) (set : CodeRanges) : CodeRanges :=
  if ¬ flags.ignoreCase then set
  else if flags.unicode then CaseMap.closure set
  else CharClass.asciiClosure set

/-- A class with its case variants where flags ask for them, turned into its opposite if `outside`.
Patterns over ASCII have no opposites, which would hold parts of characters. -/
def fold? (flags : Flags) (set : CodeRanges) (outside : Bool) : Option CodeRanges :=
  if ¬ outside then some (closure flags set)
  else if flags.unicode then some (closure flags set).complement
  else none

/-- The class that a class primitive stands for. -/
def class? (flags : Flags) : Primitive → Option CodeRanges
  | lettered unicode ascii outside =>
    if flags.unicode then some (if outside then unicode.complement else unicode)
    else if outside then none
    else some ascii
  | named set outside => if flags.unicode then fold? flags set outside else none
  | _ => none

/-- One character, or one of its case variants where flags ask for them. -/
def letterExpr (flags : Flags) (letter : Char) : Expr :=
  if ¬ flags.ignoreCase then .literal [letter]
  else if flags.unicode then .ofSet (CharClass.caseVariants letter) false
  else if letter.toNat < 0x80 then .ofSet (CharClass.asciiClosure (.single letter.toNat)) true
  else .literal [letter]

/-- What a primitive means by itself. -/
def expr? (flags : Flags) : Primitive → Option Expr
  | literal letter byte =>
    if ¬ flags.unicode ∧ byte ∧ 0x80 ≤ letter.toNat then none else some (letterExpr flags letter)
  | dot =>
    if ¬ flags.unicode then none
    else if flags.dotAll then some (.ofSet .all false)
    else if flags.anyLineEnd then
      some (.ofSet (CodeRanges.complement [(0x0A, 0x0A), (0x0D, 0x0D)]) false)
    else some (.ofSet (CodeRanges.complement (.single 0x0A)) false)
  | check assertion => some (.check assertion)
  | lineEdge atEnd =>
    some (.check (match flags.multiLine, flags.anyLineEnd, atEnd with
      | false, _, false => .textStart
      | false, _, true => .textEnd
      | true, false, false => .lineStart
      | true, false, true => .lineEnd
      | true, true, false => .anyLineStart
      | true, true, true => .anyLineEnd))
  | wordEdge edge => some (.check (.word edge flags.unicode))
  | primitive => (primitive.class? flags).map fun set => .ofSet set (!flags.unicode)

/-- The character that a primitive stands for inside a class. -/
def member? (flags : Flags) : Primitive → Option Char
  | literal letter _ => if flags.unicode ∨ letter.toNat < 0x80 then some letter else none
  | _ => none

end Primitive

end LineLexer.Regex
