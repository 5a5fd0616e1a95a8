import LineLexer.Regex.Basic

/-!
**Problems of grammar descriptions.**

Each cause for which a description, or a part of it, has no meaning, and what is said about it.

* `Problem`: the causes;
* `Problem.message`: the text for a cause;
* `CompileError.message`: the text with the language in front.
-/

namespace LineLexer

/-- Why a description, or a part of it, has no meaning. -/
inductive Problem where
  /-- The text of the description cannot be read. -/
  | unreadable
  /-- The description is no object. -/
  | notAnObject
  /-- There is no object of states. -/
  | missingTokenizer
  /-- There are no states. -/
  | emptyTokenizer
  /-- The start state is not declared. -/
  | undefinedStart (start : String)
  /-- The rules of a state are no array. -/
  | rulesNotArray (place : String)
  /-- The target of an include is no string. -/
  | includeNotString (place : String)
  /-- The target of an include is not declared. -/
  | undefinedInclude (target place : String)
  /-- The target of an include is being expanded already. -/
  | includeCycle (target place : String)
  /-- A rule has none of the known forms. -/
  | invalidRule (place : String)
  /-- The pattern of a rule is no string. -/
  | patternNotString (place : String)
  /-- A next state is given by position to an action that can have none. -/
  | positionalNextState (place : String)
  /-- A pattern refers to an attribute that does not exist. -/
  | undefinedAttribute (name pattern : String)
  /-- A pattern refers to an attribute that is no string. -/
  | attributeNotString (name pattern : String)
  /-- A pattern is no regular expression. -/
  | invalidRegex (pattern : String) (rejection : Regex.Rejection)
  /-- An action has none of the known forms. -/
  | invalidAction (rule : String)
  /-- A token is no string. -/
  | tokenNotString (rule : String)
  /-- A bracket is neither opening nor closing. -/
  | invalidBracketAttribute (rule : String)
  /-- A next state is no string. -/
  | nextNotString (rule : String)
  /-- A target that depends on no match is not declared. -/
  | undefinedState (state rule : String)
  /-- The branches of an action are no object. -/
  | casesNotObject (rule : String)
  /-- A guard refers to a word list that does not exist. -/
  | undefinedGuardTarget (target rule : String)
  /-- A guard refers to an attribute that is no word list. -/
  | guardTargetNotWords (target rule : String)
  /-- The brackets are no array. -/
  | bracketsNotArray
  /-- A bracket opens and closes with the same text. -/
  | identicalBrackets (text : String)
  /-- A bracket has neither of the known forms. -/
  | invalidBracket
  deriving DecidableEq, Repr

/-- What is said about a pattern that is no regular expression. -/
def invalidRegexMessage (pattern : String) (detail : Option String) : String :=
  "invalid regular expression '" ++ pattern ++ "'" ++ (detail.map (": " ++ ·)).getD ""

/-- What is said about a problem. -/
def Problem.message : Problem → String
  | unreadable => "invalid JSON"
  | notAnObject => "expecting a language definition object"
  | missingTokenizer => "a language definition must define the 'tokenizer' attribute as an object"
  | emptyTokenizer => "the 'tokenizer' attribute must declare at least one state"
  | undefinedStart start => "the start state '" ++ start ++ "' is not defined"
  | rulesNotArray place => "the rules of a state must be an array, at: " ++ place
  | includeNotString place => "an 'include' attribute must be a string at: " ++ place
  | undefinedInclude target place =>
    "include target '" ++ target ++ "' is not defined at: " ++ place
  | includeCycle target place => "include target '" ++ target ++ "' includes itself at: " ++ place
  | invalidRule place =>
    "a rule must either be an array, or an object with a 'regex' or 'include' field at: " ++ place
  | patternNotString place => "rules must start with a match string: " ++ place
  | positionalNextState place =>
    "a next state as the last element of a rule can only be given if the action is either an " ++
      "object or a string, at: " ++ place
  | undefinedAttribute name pattern =>
    "language definition does not contain attribute '" ++ name ++ "', used at: " ++ pattern
  | attributeNotString name pattern =>
    "attribute reference '" ++ name ++ "' must be a string, used at: " ++ pattern
  | invalidRegex pattern rejection => invalidRegexMessage pattern rejection.detail?
  | invalidAction rule =>
    "an action must be a string, an object with a 'token' or 'cases' attribute, or an array of " ++
      "actions; in rule: " ++ rule
  | tokenNotString rule => "a 'token' attribute must be of type string, in rule: " ++ rule
  | invalidBracketAttribute rule =>
    "a 'bracket' attribute must be either '@open' or '@close', in rule: " ++ rule
  | nextNotString rule => "the next state must be a string value in rule: " ++ rule
  | undefinedState state rule =>
    "the next state '" ++ state ++ "' is not defined in rule: " ++ rule
  | casesNotObject rule => "a 'cases' attribute must be an object, in rule: " ++ rule
  | undefinedGuardTarget target rule =>
    "the @ match target '" ++ target ++ "' is not defined, in rule: " ++ rule
  | guardTargetNotWords target rule =>
    "the @ match target '" ++ target ++ "' must be an array of strings, in rule: " ++ rule
  | bracketsNotArray => "the 'brackets' attribute must be defined as an array"
  | identicalBrackets text =>
    "open and close brackets in a 'brackets' attribute must be different: " ++ text
  | invalidBracket =>
    "every element in the 'brackets' array must be a '\x7bopen,close,token\x7d' object or array"

/-- A problem with the language whose description has it. -/
structure CompileError where
  language : String
  problem : Problem
  deriving DecidableEq, Repr

/-- The text of an error. -/
def CompileError.message (error : CompileError) : String :=
  error.language ++ ": " ++ error.problem.message

end LineLexer
