import LineLexer.Grammar.Settings
import LineLexer.Text.Digit

/-!
**Templates.**

Tokens, state names, language names, log messages and guards may refer to the match at hand. A
template is read once, into pieces, and a piece is filled from the match; what is filled in is never
read again.

* `Template.pieces`: the letters and references of a template;
* `Template.fill`: a template filled in from a match;
* `stateComponents`: the parts of a state name that templates refer to;
* `Classification.sanitize`: a token without the characters that markup gives a meaning to.
-/

namespace LineLexer

/-- What is known about a match. -/
structure MatchContext where
  /-- The matched text, or the text of the group at hand. -/
  matched : Text
  /-- The texts of the rule's groups, the whole match first. -/
  captures : List Text
  /-- The state in which the rule matched. -/
  state : String
  /-- Whether the match reaches the end of the line. -/
  atLineEnd : Bool
  deriving DecidableEq, Repr, Inhabited

/-! ### State names -/

/-- The parts of a text between dots. -/
def splitDots : Text → List Text
  | [] => [[]]
  | letter :: rest =>
    if letter = '.' then [] :: splitDots rest
    else
      match splitDots rest with
      | [] => [[letter]]
      | part :: parts => (letter :: part) :: parts

/-- A state name followed by its parts, so that part one is at place one. -/
def stateComponents (state : String) : List String :=
  state :: (splitDots state.toList).map String.ofList

/-! ### Pieces -/

/-- A piece of a template. -/
inductive Piece where
  /-- A letter that stands for itself. -/
  | letter (letter : Char)
  /-- The matched text. -/
  | matched
  /-- The text of a group. -/
  | capture (index : Nat)
  /-- A part of the state name. -/
  | component (index : Nat)
  /-- The text of an attribute. -/
  | attributeText (name : String)
  deriving DecidableEq, Repr

namespace Template

/-- Whether a character may stand in the name of an attribute. -/
def isNameChar (letter : Char) : Bool := letter.isAlphanum || letter == '_'

/-- The number in the one or two digits at the start of a text, and what follows them. -/
def index? : Text → Option (Nat × Text)
  | first :: second :: rest =>
    if Digit.isDecimal first then
      if Digit.isDecimal second then some (Digit.number [first, second], rest)
      else some (Digit.number [first], second :: rest)
    else none
  | [first] => if Digit.isDecimal first then some (Digit.number [first], []) else none
  | [] => none

/-- The reference that a dollar sign starts, past that sign. -/
def reference? : Text → Option (Piece × Text)
  | [] => none
  | letter :: rest =>
    if letter = '$' then some (.letter '$', rest)
    else if letter = '#' then some (.matched, rest)
    else if letter = 's' ∨ letter = 'S' then
      (index? rest).map fun (index, rest) => (.component index, rest)
    else if letter = '@' then
      match rest.takeWhile isNameChar with
      | [] => none
      | name => some (.attributeText (String.ofList name), rest.dropWhile isNameChar)
    else (index? (letter :: rest)).map fun (index, rest) => (.capture index, rest)

/-- The pieces of a text. Each step takes a character at least, so the length bounds the steps. -/
def piecesWithin : Nat → Text → List Piece
  | 0, _ => []
  | _ + 1, [] => []
  | steps + 1, letter :: rest =>
    if letter = '$' then
      match reference? rest with
      | some (piece, rest) => piece :: piecesWithin steps rest
      | none => .letter '$' :: piecesWithin steps rest
    else .letter letter :: piecesWithin steps rest

/-- The pieces of a template. A dollar sign that starts no reference stands for itself. -/
def pieces (template : String) : List Piece :=
  piecesWithin template.toList.length template.toList

/-- What a piece becomes. What is missing becomes nothing. -/
def fillPiece (settings : Settings) (context : MatchContext) : Piece → Text
  | .letter letter => [letter]
  | .matched => settings.foldText context.matched
  | .capture index => settings.foldText (context.captures[index]?.getD [])
  | .component index =>
    settings.foldText (((stateComponents context.state)[index]?.getD "").toList)
  | .attributeText name => ((settings.textAttribute? name).getD "").toList

/-- A template filled in from a match. -/
def fill (settings : Settings) (template : String) (context : MatchContext) : String :=
  String.ofList ((pieces template).flatMap (fillPiece settings context))

end Template

/-! ### Classifications -/

/-- Whether a character has a meaning in markup. -/
def Classification.isMarkup (letter : Char) : Bool :=
  letter == '&' || letter == '<' || letter == '>' || letter == '\'' || letter == '"' ||
    letter == '_'

/-- A token with hyphens in place of characters that have a meaning in markup. -/
def Classification.sanitize (token : String) : String :=
  String.ofList (token.toList.map fun letter => if isMarkup letter then '-' else letter)

/-- No character of a sanitized token has a meaning in markup. -/
theorem Classification.isMarkup_of_mem_sanitize {token : String} {letter : Char}
    (present : letter ∈ (sanitize token).toList) : isMarkup letter = false := by
  simp only [sanitize, String.toList_ofList, List.mem_map] at present
  obtain ⟨written, _, rfl⟩ := present
  split
  · decide
  · next plain => simpa using plain

end LineLexer
