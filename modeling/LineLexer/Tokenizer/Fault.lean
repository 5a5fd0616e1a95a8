import LineLexer.Grammar.Guard

/-!
**Faults of tokenizing.**

A line cannot be tokenized if the grammar asks for something impossible. Each cause has a text:

* `Fault`: the causes;
* `Fault.message`: the text for a cause;
* `TokenizeError.message`: the text with the language in front.
-/

namespace LineLexer

/-- Why a line cannot be tokenized. -/
inductive Fault where
  /-- No rules hold in the state on top of the stack. -/
  | undefinedState (state : String)
  /-- No rules hold in the next state that a template became. -/
  | undefinedNextState (state rule : String)
  /-- No rules hold in the state that a template became and that is switched to. -/
  | undefinedSwitchState (state rule : String)
  /-- The stack is as deep as it may be. `top` holds its uppermost states. -/
  | stackOverflow (top : List String)
  /-- Only the bottom of the stack is left. -/
  | stackUnderflow (rule : String)
  /-- Nothing was read and nothing was changed. -/
  | noProgress (rule : String)
  /-- A text that has to be a side of a bracket is none. -/
  | missingBracket (text : String)
  /-- A group action came up inside another one. -/
  | nestedGroups (rule : String)
  /-- The groups of a pattern are more or fewer than the actions for them. -/
  | groupCountMismatch (rule : String)
  /-- The groups of a pattern leave out a part of the match. -/
  | groupGap (rule : String)
  /-- No rule of the state ends the embedded language. -/
  | noEmbeddedExit (state : String)
  /-- A language has to end and none is embedded. -/
  | notEmbedded
  /-- A language has to start inside an embedded one. -/
  | nestedEmbedding
  /-- A pattern that was made for the state or the match is no regular expression. -/
  | invalidRegex (pattern : String) (detail : Option String)
  deriving DecidableEq, Repr

/-- The fault of a guard that cannot be tested. -/
def GuardFault.toFault (fault : GuardFault) : Fault := .invalidRegex fault.pattern fault.detail

/-- What is said about a fault. -/
def Fault.message : Fault → String
  | undefinedState state => "tokenizer state is not defined: " ++ state
  | undefinedNextState state rule =>
    "trying to set a next state '" ++ state ++ "' that is undefined in rule: " ++ rule
  | undefinedSwitchState state rule =>
    "trying to switch to a state '" ++ state ++ "' that is undefined in rule: " ++ rule
  | stackOverflow top => "maximum tokenizer stack size reached: [" ++ ",".intercalate top ++ ",...]"
  | stackUnderflow rule => "trying to pop an empty stack in rule: " ++ rule
  | noProgress rule => "no progress in tokenizer in rule: " ++ rule
  | missingBracket text => "@brackets token returned but no bracket defined as: " ++ text
  | nestedGroups rule => "groups cannot be nested: " ++ rule
  | groupCountMismatch rule =>
    "matched number of groups does not match the number of actions in rule: " ++ rule
  | groupGap rule =>
    "with groups, all characters should be matched in consecutive groups in rule: " ++ rule
  | noEmbeddedExit state =>
    "no rule containing nextEmbedded: \"@pop\" in tokenizer embedded state: " ++ state
  | notEmbedded => "cannot pop embedded language if not inside one"
  | nestedEmbedding => "cannot enter embedded language from within an embedded language"
  | invalidRegex pattern detail => invalidRegexMessage pattern detail

/-- A fault with the language whose grammar has it. -/
structure TokenizeError where
  language : String
  fault : Fault
  deriving DecidableEq, Repr

/-- The text of an error. -/
def TokenizeError.message (error : TokenizeError) : String :=
  error.language ++ ": " ++ error.fault.message

end LineLexer
