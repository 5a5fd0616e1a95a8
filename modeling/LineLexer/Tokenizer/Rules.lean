import LineLexer.Tokenizer.Scanning

/-!
**What matches at a position.**

The rules of a state are tried in order on the rest of the line, and the first one that matches is
taken. Where none does, one character is read and gets the default token:

* `Found`: a rule that matched, with the texts of its groups and its action;
* `Tokenizer.firstMatch`, `Tokenizer.findAt`: what matches a text, and what matches at a position;
* `Tokenizer.exits`, `Tokenizer.leavingOffset?`: where in a line an embedded language ends.
-/

namespace LineLexer

/-- A match with the action for it: of a rule, of a group of a rule, or of no rule at all. -/
structure Found where
  /-- What messages call the rule. -/
  rule : String
  /-- The texts of the rule's groups, the whole match first. -/
  captures : List Text
  /-- The matched text, or the text of the group. -/
  matched : Text
  action : Action
  deriving Repr

namespace Tokenizer

open Scanning

/-- The regular expression of a rule for the scan position in a state. -/
def anchored (tokenizer : Tokenizer) (state : String) (rule : Rule) : Scanning Regex := do
  let source := rule.pattern.source
  let result ← remember tokenizer fun memory =>
    let (result, memo) :=
      rule.pattern.anchored tokenizer.grammar.settings state (memory.memos.get? source)
    (result, memory.keep source memo)
  settle tokenizer (result.mapError fun rejection => .invalidRegex source rejection.detail?)

/-- The first of several rules that matches a text in a state. `atStart` tells whether the scan is
still at its start, where alone some rules match. -/
def firstMatch (tokenizer : Tokenizer) (state : String) (atStart : Bool) (rest : Text) :
    List Rule → Scanning (Option Found)
  | [] => pure none
  | rule :: rules =>
    if rule.atLineStart && !atStart then tokenizer.firstMatch state atStart rest rules
    else do
      let regex ← tokenizer.anchored state rule
      match regex.find? rest with
      | some found =>
        let captures := found.captures rest
        let matched := captures.headD []
        pure (some { rule := rule.name, captures, matched, action := rule.action })
      | none => tokenizer.firstMatch state atStart rest rules

/-- What messages call the reading of a character that no rule matches. -/
def fallbackName : String := "(default)"

/-- The reading of a character that no rule matches. -/
def fallback (tokenizer : Tokenizer) (rest : Text) : Found where
  rule := fallbackName
  captures := [rest.take 1]
  matched := rest.take 1
  action := tokenizer.grammar.defaultAction

/-- What matches at a position of a text in a state. -/
def findAt (tokenizer : Tokenizer) (text : Text) (position : Nat) (state : String) :
    Scanning Found := do
  match tokenizer.grammar.findRules? state with
  | none => fail tokenizer (.undefinedState state)
  | some rules =>
    let rest ← cut (text.drop? position)
    let found ← tokenizer.firstMatch state (position == 0) rest rules
    pure (found.getD (tokenizer.fallback rest))

/-! ### Ends of embedded languages -/

/-- Where a rule by which an embedded language ends matches first in a line, as a number of bytes.
A rule for the start of lines has to match there. -/
def exit? (tokenizer : Tokenizer) (state : String) (line : Text) (rule : Rule) :
    Except Fault (Option Nat) :=
  match rule.pattern.search tokenizer.grammar.settings state with
  | .error rejection => .error (.invalidRegex rule.pattern.source rejection.detail?)
  | .ok regex =>
    match regex.find? line with
    | none => .ok none
    | some found =>
      if rule.atLineStart && found.start != 0 then .ok none
      else .ok (some (Text.size (line.take found.start)))

/-- Where several rules match first in a line, those that do. -/
def exits (tokenizer : Tokenizer) (state : String) (line : Text) :
    List Rule → Except Fault (List Nat)
  | [] => .ok []
  | rule :: rules => do
    let offset ← tokenizer.exit? state line rule
    let offsets ← tokenizer.exits state line rules
    pure (offset.toList ++ offsets)

/-- Where in a line the embedded language ends that is active in a state. -/
def leavingOffset? (tokenizer : Tokenizer) (state : String) (line : Text) :
    Except Fault (Option Nat) :=
  match tokenizer.grammar.findRules? state with
  | none => .error (.undefinedState state)
  | some rules =>
    match rules.filter Rule.leavesEmbedded with
    | [] => .error (.noEmbeddedExit state)
    | leaving => (tokenizer.exits state line leaving).map List.min?

end Tokenizer

end LineLexer
