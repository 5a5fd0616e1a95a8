import LineLexer.Regex.CharClass

/-!
**Pattern expressions.**

What a pattern means once its flags are resolved: a text, characters of a set, assertions about a
position, sequences, ordered alternatives, repetitions and numbered groups.

* `Assertion.holds`: an assertion looks only at the characters next to a position;
* `Expr`: the expressions;
* `Expr.matchesEmpty`, `Expr.matchesOnlyEmpty`: whether an expression can, or can only, take
  nothing.
-/

namespace LineLexer.Regex

/-- The edges of a word at a position. -/
inductive WordEdge where
  /-- A word starts or ends. -/
  | boundary
  /-- No word starts or ends. -/
  | inside
  /-- A word starts. -/
  | start
  /-- A word ends. -/
  | finish
  /-- No word character stands before. -/
  | startHalf
  /-- No word character stands after. -/
  | finishHalf
  deriving DecidableEq, Repr

/-- A condition on a position. -/
inductive Assertion where
  /-- The text starts here. -/
  | textStart
  /-- The text ends here. -/
  | textEnd
  /-- A line starts here, after a line feed. -/
  | lineStart
  /-- A line ends here, before a line feed. -/
  | lineEnd
  /-- A line starts here, where a carriage return, a line feed or both end a line. -/
  | anyLineStart
  /-- A line ends here, where a carriage return, a line feed or both end a line. -/
  | anyLineEnd
  /-- A word has this edge here; `unicode` tells which characters make words. -/
  | word (edge : WordEdge) (unicode : Bool)
  deriving DecidableEq, Repr

/-- Whether a character that may be missing is a word character. -/
def isWord (unicode : Bool) : Option Char → Bool
  | none => false
  | some letter =>
    CharClass.asciiWord.contains letter.toNat ||
      (unicode && CharClass.word.contains letter.toNat)

/-- Whether an edge lies between two characters, each told apart as a word character or not. -/
def WordEdge.between : WordEdge → Bool → Bool → Bool
  | boundary, before, after => before != after
  | inside, before, after => before == after
  | start, before, after => !before && after
  | finish, before, after => before && !after
  | startHalf, before, _ => !before
  | finishHalf, _, after => !after

/-- Whether an assertion holds between two characters, either of which may be missing. -/
def Assertion.holds (before after : Option Char) : Assertion → Bool
  | textStart => before.isNone
  | textEnd => after.isNone
  | lineStart => before.isNone || before == some '\n'
  | lineEnd => after.isNone || after == some '\n'
  | anyLineStart =>
    before.isNone || before == some '\n' || (before == some '\r' && after != some '\n')
  | anyLineEnd =>
    after.isNone || after == some '\r' || (after == some '\n' && before != some '\r')
  | word edge unicode => edge.between (isWord unicode before) (isWord unicode after)

/-- A pattern expression. -/
inductive Expr where
  /-- Nothing. -/
  | empty
  /-- The characters of a text, one at least, in order. -/
  | literal (text : List Char)
  /-- One character of a set; `ascii` tells whether it was written where only ASCII counts. -/
  | one (set : CodeRanges) (ascii : Bool)
  /-- Nothing, where the assertion holds. -/
  | check (assertion : Assertion)
  /-- The first, then the second. -/
  | sequence (first second : Expr)
  /-- Either, the first preferred. -/
  | either (first second : Expr)
  /-- A number of times; `greedy` prefers more. -/
  | times (body : Expr) (least : Nat) (most : Option Nat) (greedy : Bool)
  /-- A group whose text is remembered under a number. -/
  | group (index : Nat) (body : Expr)
  deriving DecidableEq, Repr, Inhabited

namespace Expr

/-- Whether an expression can take nothing. -/
def matchesEmpty : Expr → Bool
  | empty => true
  | literal _ | one _ _ => false
  | check _ => true
  | sequence first second => first.matchesEmpty && second.matchesEmpty
  | either first second => first.matchesEmpty || second.matchesEmpty
  | times body least _ _ => least == 0 || body.matchesEmpty
  | group _ body => body.matchesEmpty

/-- Whether an expression never takes a character. -/
def matchesOnlyEmpty : Expr → Bool
  | empty => true
  | literal _ | one _ _ => false
  | check _ => true
  | sequence first second => first.matchesOnlyEmpty && second.matchesOnlyEmpty
  | either first second => first.matchesOnlyEmpty && second.matchesOnlyEmpty
  | times body _ _ _ => body.matchesOnlyEmpty
  | group _ body => body.matchesOnlyEmpty

/-- One more than the largest number of a group, the whole match counting as group zero. -/
def groupCount : Expr → Nat
  | empty | literal _ | one _ _ | check _ => 1
  | sequence first second | either first second => max first.groupCount second.groupCount
  | times body _ _ _ => body.groupCount
  | group index body => max (index + 1) body.groupCount

/-- Whether a match can only start where the text starts. -/
def startsText : Expr → Bool
  | check .textStart => true
  | empty | literal _ | one _ _ | check _ => false
  | sequence first second => first.startsText || (first.matchesOnlyEmpty && second.startsText)
  | either first second => first.startsText && second.startsText
  | times body least _ _ => least != 0 && body.startsText
  | group _ body => body.startsText

end Expr

end LineLexer.Regex
