import LineLexer.Token.Basic

/-!
**Listings of tokens.**

The tokens of the lines of a text are listed for a reader, one a line, or for a program:

* `Listing.plain`: the line, the offset, the classification and the side of each token;
* `Listing.json`: an array of the lines with their tokens;
* `Listing.jsonString`: a text as a program reads it.
-/

namespace LineLexer.CommandLine.Listing

/-- The name of a side. -/
def sideName : Side → String
  | .opening => "Open"
  | .closing => "Close"

/-- A token of a line for a reader. -/
def plainToken (line : Nat) (token : Token) : String :=
  toString line ++ ":" ++ toString token.offset ++ "\t" ++ token.classification ++
    ((token.side.map fun side => "\t" ++ sideName side).getD "") ++ "\n"

/-- The tokens of lines for a reader, the lines counted from one. -/
def plain (lines : List (List Token)) : String :=
  String.join ((lines.zipIdx 1).flatMap fun (tokens, line) => tokens.map (plainToken line))

/-! ### For a program -/

/-- A character of a text for a program: what would end the text or does not show is escaped. -/
def escape (letter : Char) : List Char :=
  if letter = '"' then ['\\', '"']
  else if letter = '\\' then ['\\', '\\']
  else if letter = '\n' then ['\\', 'n']
  else if letter = '\r' then ['\\', 'r']
  else if letter = '\t' then ['\\', 't']
  else if letter = '\x08' then ['\\', 'b']
  else if letter = '\x0c' then ['\\', 'f']
  else if letter.toNat < 0x20 ∨ letter.toNat = 0x7f then
    let digits := Nat.toDigits 16 letter.toNat
    ['\\', 'u'] ++ List.replicate (4 - digits.length) '0' ++ digits
  else [letter]

/-- A text for a program. -/
def jsonString (text : String) : String :=
  String.ofList ('"' :: text.toList.flatMap escape ++ ['"'])

/-- Values for a program, one after the other. -/
def jsonArray (values : List String) : String := "[" ++ ",".intercalate values ++ "]"

/-- Named values for a program, one after the other. -/
def jsonObject (members : List (String × String)) : String :=
  let written := members.map fun (name, value) => jsonString name ++ ":" ++ value
  "\x7b" ++ ",".intercalate written ++ "\x7d"

/-- A token for a program. -/
def jsonToken (token : Token) : String :=
  jsonObject [
    ("offset", toString token.offset),
    ("classification", jsonString token.classification),
    ("language", jsonString token.language),
    ("bracket", (token.side.map fun side => jsonString (sideName side)).getD "null")]

/-- The tokens of lines for a program, the lines counted from one. -/
def json (lines : List (List Token)) : String :=
  jsonArray ((lines.zipIdx 1).map fun (tokens, line) =>
    jsonObject [("line", toString line), ("tokens", jsonArray (tokens.map jsonToken))]) ++ "\n"

end LineLexer.CommandLine.Listing
