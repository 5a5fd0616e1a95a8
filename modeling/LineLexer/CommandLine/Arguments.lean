/-!
**Arguments of the command line.**

The command takes a description and a text, and may be told the language and how to list the tokens:

* `Arguments.read?`: the arguments that words say, if they are as they should be;
* `Arguments.languageOrDefault`: the language, which is named like the description if it is not
  told.
-/

namespace LineLexer.CommandLine

/-- What the command is asked to do. -/
structure Arguments where
  /-- Where the description of the grammar is. -/
  grammar : String
  /-- Where the text is. -/
  input : String
  /-- The language that the grammar describes. -/
  language : Option String
  /-- Whether the tokens are listed for a program. -/
  json : Bool
  deriving DecidableEq, Repr

/-- The words so far: the places in order, and what options said. -/
structure Arguments.Words where
  places : List String := []
  language : Option String := none
  json : Bool := false
  deriving DecidableEq, Repr

namespace Arguments

/-- What a value says about a choice: it is made unless the value denies it. -/
def isGiven (value : List Char) : Bool :=
  !(["false", "no", "0", "off"].contains (String.ofList (value.map Char.toLower)))

/-- The rest of a word behind a beginning. -/
def after? (start word : List Char) : Option (List Char) := start.isPrefixOf? word

/-- What an option says that is written out, perhaps with a value in the same word, and whether the
next word is its value. -/
def readLong (words : Words) (name : List Char) : Option (Words × Bool) :=
  if name = "json".toList then some ({ words with json := true }, false)
  else if name = "language".toList then some (words, true)
  else
    match after? "language=".toList name, after? "json=".toList name with
    | some value, _ => some ({ words with language := some (String.ofList value) }, false)
    | none, some value => some ({ words with json := isGiven value }, false)
    | none, none => none

/-- What options of one letter say that share a word, and whether the next word is a value. What
stands behind the option that takes a value is that value. -/
def readShort (words : Words) : List Char → Option (Words × Bool)
  | [] => some (words, false)
  | ['l'] => some (words, true)
  | 'l' :: '=' :: value | 'l' :: value =>
    some ({ words with language := some (String.ofList value) }, false)
  | 'j' :: '=' :: value => some ({ words with json := isGiven value }, false)
  | 'j' :: rest => readShort { words with json := true } rest
  | _ => none

/-- What a word says that is an option by its form, and whether the next word is its value. -/
def readOption (words : Words) : List Char → Option (Words × Bool)
  | '-' :: name => readLong words name
  | letters => readShort words letters

/-- Reads words one by one. Behind a double hyphen every word is a place. -/
def readWords (words : Words) : List String → Option Words
  | [] => some words
  | word :: rest =>
    match word.toList with
    | ['-', '-'] => some { words with places := words.places ++ rest }
    | '-' :: letter :: letters =>
      match readOption words (letter :: letters), rest with
      | some (words, false), rest => readWords words rest
      | some (words, true), language :: rest =>
        readWords { words with language := some language } rest
      | some (_, true), [] => none
      | none, _ => none
    | _ => readWords { words with places := words.places ++ [word] } rest

/-- The arguments that words say: two places and any options. -/
def read? (words : List String) : Option Arguments :=
  match readWords {} words with
  | some { places := [grammar, input], language, json } => some { grammar, input, language, json }
  | _ => none

/-! ### Names of files -/

/-- The last part of a path that is not empty and not a single dot. A path that ends in two dots, or
has no such part, has none. -/
def fileName? (path : String) : Option String :=
  match ((path.splitOn "/").filter fun part => part != "" && part != ".").getLast? with
  | some name => if name = ".." then none else some name
  | none => none

/-- The name of a file without what follows its last dot, unless that dot comes first. -/
def stem (name : String) : String :=
  match (name.toList.reverse.dropWhile (· != '.')).drop 1 with
  | [] => name
  | before => String.ofList before.reverse

/-- The language of a description at a path that is not told its language. -/
def languageOf (path : String) : String := ((fileName? path).map stem).getD "text"

/-- The language that the grammar describes. -/
def languageOrDefault (arguments : Arguments) : String :=
  arguments.language.getD (languageOf arguments.grammar)

end Arguments

end LineLexer.CommandLine
