import LineLexer.Text.Lines
import LineLexer.Token.Runs
import LineLexer.Workspace

/-!
**Tokens by characters.**

A caller that counts characters is told a line as pairs: the number of characters before a token,
and its classification.

* `Report.tokens`: the tokens of a line, without repetitions;
* `Text.pairs?`: tokens in a line as such pairs;
* `Workspace.tokenizeByCharacters`: a line in pairs, and the state in which it ends.
-/

namespace LineLexer

/-- The tokens that were told, without repetitions. -/
def Report.tokens (report : Report) : List Token :=
  (Runs.ofEvents report.events.toList).tokens.toList

/-- Tokens in a line as numbers of characters with classifications, unless a place is inside a
character. -/
def Text.pairs? (line : Text) (tokens : List Token) : Option (List (Nat × String)) :=
  (line.characterOffsets? 0 (tokens.map Token.offset)).map fun offsets =>
    offsets.zip (tokens.map Token.classification)

/-- Tokenizes a line for a caller that counts characters. -/
def Workspace.tokenizeByCharacters (workspace : Workspace) (tokenizer : Tokenizer) (line : Text)
    (ended : Bool) (state : LineState) :
    Except Stop (List (Nat × String) × LineState) × Workspace :=
  let (report, later) := workspace.tokenize { tokenizer, line, ended, state }
  let result := do
    let behind ← report.result
    match line.pairs? report.tokens with
    | some pairs => pure (pairs, behind)
    | none => throw .cut
  (result, later)

end LineLexer
