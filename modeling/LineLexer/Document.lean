import LineLexer.Text.Lines
import LineLexer.Token.Runs
import LineLexer.Workspace

/-!
**Documents.**

The lines of a document are tokenized in order, each in the state in which the line before it ended.

* `Document.tokenize`: the tokens of each line, or the first line that cannot be tokenized.
-/

namespace LineLexer.Document

/-- A line that cannot be tokenized, counted from one, and the reason. -/
structure Failure where
  line : Nat
  stop : Stop
  deriving Repr

/-- Tokenizes lines from a state on; `number` is the number of the first one. -/
def tokenizeLines (tokenizer : Tokenizer) (workspace : Workspace) (state : LineState)
    (number : Nat) : List Text → Except Failure (List (List Token))
  | [] => .ok []
  | line :: later =>
    let job : Job :=
      { tokenizer, line := line.withoutEnd, ended := line.endsLine, state }
    let (report, workspace) := workspace.tokenize job
    match report.result with
    | .error stop => .error { line := number, stop }
    | .ok state =>
      (tokenizeLines tokenizer workspace state (number + 1) later).map fun tokens =>
        (Runs.ofEvents report.events.toList).tokens.toList :: tokens

/-- The tokens of each line of a text by a grammar that embeds no known languages. -/
def tokenize (grammar : Grammar) (text : Text) : Except Failure (List (List Token)) :=
  let (tokenizer, workspace) := ({ registry := none } : Workspace).add grammar {}
  let (report, workspace) := workspace.initialState tokenizer
  match report.result with
  | .error stop => .error { line := 1, stop }
  | .ok state => tokenizeLines tokenizer workspace state 1 text.lines

end LineLexer.Document
