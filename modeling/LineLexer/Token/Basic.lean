/-!
**Tokens and the events that they come from.**

A tokenizer tells about a line in two kinds of events: from here on the text is in a language, and
from here on it has a classification. A token is what the second kind means under the first:

* `Event`: what a tokenizer tells;
* `Token`: an offset with its classification, language and bracket side;
* `Token.label`: all of a token but its offset.
-/

namespace LineLexer

/-- The side of a bracket. -/
inductive Side where
  | opening
  | closing
  deriving DecidableEq, Repr

/-- What a tokenizer tells about a line. -/
inductive Event where
  /-- What follows is in a language. -/
  | language (name : String)
  /-- From an offset on, the text has a classification and may be a side of a bracket. -/
  | token (offset : Nat) (classification : String) (side : Option Side)
  deriving DecidableEq, Repr

/-- Where a classification starts to hold. -/
structure Token where
  offset : Nat
  /-- The classification, empty for plain text. -/
  classification : String
  /-- The language whose grammar classified the text. -/
  language : String
  /-- The side of the bracket that the token is. -/
  side : Option Side
  deriving DecidableEq, Repr

/-- All of a token but its offset. -/
def Token.label (token : Token) : String × String × Option Side :=
  (token.classification, token.language, token.side)

end LineLexer
