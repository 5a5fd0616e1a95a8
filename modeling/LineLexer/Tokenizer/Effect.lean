import LineLexer.Tokenizer.Rules

/-!
**What a token action brings about.**

The parts of a token action are templates until there is a match. For a match each part has one
meaning, or a fault:

* `TokenAction.text`: the token;
* `TokenAction.changeEmbedded`: the embedded language, and the language to start;
* `StackChange`, `TokenAction.stackChange`: the change of the stack;
* `TokenAction.classify`: the classification and the bracket side of the matched text.
-/

namespace LineLexer

/-- A change of the stack whose templates are filled in. -/
inductive StackChange where
  | keep
  /-- A state goes on top. -/
  | push (state : String)
  | pop
  | toRoot
  /-- A state takes the place of the one on top. -/
  | switchTo (state : String)
  deriving DecidableEq, Repr

namespace Tokenizer

/-- The state that a template becomes for a match, if rules hold in it. -/
def target (tokenizer : Tokenizer) (context : MatchContext) (template : String)
    (undefined : String → Fault) : Except Fault String :=
  let state := withoutAtSign (Template.fill tokenizer.grammar.settings template context)
  if tokenizer.grammar.stateExists state then .ok state else .error (undefined state)

/-- Checks that something may go on top of a stack. -/
def checkDepth (tokenizer : Tokenizer) (stack : Stack) : Except Fault Unit :=
  if stack.depth < tokenizer.limits.stackDepth then .ok ()
  else .error (.stackOverflow (stack.names.take 2))

end Tokenizer

namespace TokenAction

/-- The token for a match. -/
def text (action : TokenAction) (settings : Settings) (context : MatchContext) : String :=
  if action.substitute then Template.fill settings action.token context else action.token

/-- The language that is embedded after a match, and the language that starts with it. -/
def changeEmbedded (action : TokenAction) (settings : Settings) (context : MatchContext)
    (embedded : Option Embedded) : Except Fault (Option Embedded × Option String) :=
  match action.embedding with
  | none => .ok (embedded, none)
  | some .leave => if embedded.isNone then .error .notEmbedded else .ok (none, none)
  | some (.enter template) =>
    if embedded.isSome then .error .nestedEmbedding
    else .ok (none, some (Template.fill settings template context))

/-- The change of a stack for a match of a rule. -/
def stackChange (action : TokenAction) (tokenizer : Tokenizer) (context : MatchContext)
    (rule : String) (stack : Stack) : Except Fault StackChange :=
  match action.switchTo, action.next with
  | some template, _ =>
    (tokenizer.target context template (.undefinedSwitchState · rule)).map .switchTo
  | none, none => .ok .keep
  | none, some .push => (tokenizer.checkDepth stack).map fun _ => .push stack.state
  | none, some .pop => if stack.isRoot then .error (.stackUnderflow rule) else .ok .pop
  | none, some .popAll => .ok .toRoot
  | none, some (.goto template) => do
    let state ← tokenizer.target context template (.undefinedNextState · rule)
    tokenizer.checkDepth stack
    pure (.push state)

/-- The token that stands for the token of a bracket. -/
def bracketsToken : String := "@brackets"

/-- What follows the name of the token that stands for the token of a bracket. -/
def bracketsSuffix? (token : String) : Option String :=
  (bracketsToken.toList.isPrefixOf? token.toList).map String.ofList

/-- The token that asks for the matched text to be read again. -/
def rematchToken : String := "@rematch"

/-- The classification and the side of a matched text for a token. -/
def classify (action : TokenAction) (grammar : Grammar) (token : String) (matched : Text) :
    Except Fault (String × Option Side) :=
  match bracketsSuffix? token with
  | some suffix =>
    match grammar.findBracket? matched with
    | some (bracketToken, side) => .ok (Classification.sanitize (bracketToken ++ suffix), some side)
    | none => .error (.missingBracket (String.ofList matched))
  | none =>
    if token = "" then .ok ("", action.side)
    else .ok (Classification.sanitize (token ++ grammar.tokenPostfix), action.side)

end TokenAction

end LineLexer
