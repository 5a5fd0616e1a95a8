import LineLexer.CommandLine.Arguments
import LineLexer.CommandLine.Listing
import LineLexer.Document
import LineLexer.Grammar.Compile

/-!
**The command line.**

The command tokenizes a text with the grammar of a description. It is a function of its arguments
and of what the files hold:

* `CommandLine.tokenizeFile`: the listing of a text, or the first thing that went wrong;
* `CommandLine.run`: the exit code and the two outputs.
-/

namespace LineLexer.CommandLine

/-- Why a file cannot be read. -/
inductive ReadFault where
  | missing
  /-- It does not hold a text. -/
  | notText
  /-- Anything else, with the message of the system. -/
  | other (message : String)
  deriving DecidableEq, Repr

/-- What is said about a file that cannot be read. -/
def ReadFault.message : ReadFault → String
  | missing => "No such file or directory (os error 2)"
  | notText => "stream did not contain valid UTF-8"
  | other message => message

/-- Why there is no listing. -/
inductive Failure where
  | read (path : String) (fault : ReadFault)
  | compile (error : CompileError)
  | tokenize (line : Nat) (error : TokenizeError)
  /-- The work broke down at a line: a position was inside a character. -/
  | breakdown (line : Nat)
  deriving DecidableEq, Repr

/-- What is said about a failure. -/
def Failure.message : Failure → String
  | read path fault => "cannot read " ++ path ++ ": " ++ fault.message
  | compile error => error.message
  | tokenize line error => "line " ++ toString line ++ ": " ++ error.message
  | breakdown line => "line " ++ toString line ++ ": a position is inside a character"

/-- The exit code of a failure. -/
def Failure.code : Failure → Nat
  | breakdown _ => 101
  | _ => 1

/-- What the command leaves behind. -/
structure Result where
  code : Nat
  output : String := ""
  errors : String := ""
  deriving DecidableEq, Repr

/-- How the command is called. -/
def usage : String := "usage: <grammar> <input> [--language <id>] [--json]"

/-- A file's text. -/
def readText (files : String → Except ReadFault String) (path : String) : Except Failure String :=
  (files path).mapError (.read path)

/-- The failure at a line. -/
def lineFailure (failure : Document.Failure) : Failure :=
  match failure.stop with
  | .fault error => .tokenize failure.line error
  | _ => .breakdown failure.line

/-- The listing of a text. `files` tells what the file at a path holds. -/
def tokenizeFile (files : String → Except ReadFault String) (arguments : Arguments) :
    Except Failure String := do
  let description ← readText files arguments.grammar
  let compilation := Grammar.compileText arguments.languageOrDefault description false
  let grammar ← compilation.result.mapError .compile
  let text ← readText files arguments.input
  let tokens ← (Document.tokenize grammar text.toList).mapError lineFailure
  pure (if arguments.json then Listing.json tokens else Listing.plain tokens)

/-- What the command leaves behind for the words that it is called with. -/
def run (files : String → Except ReadFault String) (words : List String) : Result :=
  match Arguments.read? words with
  | none => { code := 2, errors := usage ++ "\n" }
  | some arguments =>
    match tokenizeFile files arguments with
    | .ok listing => { code := 0, output := listing }
    | .error failure => { code := failure.code, errors := "error: " ++ failure.message ++ "\n" }

end LineLexer.CommandLine
