import LineLexer.Grammar.Action

/-!
**Grammars.**

A grammar has states, each with a list of rules in order of preference, and a table of brackets. A
state that is not declared has the rules of the nearest declared state that its name starts with, up
to a dot.

* `lineage`: a state name followed by its shorter forms;
* `Grammar.findRules?`: the rules that hold in a state;
* `Grammar.findBracket?`: the bracket that a text is a side of.
-/

namespace LineLexer

/-- A pattern and what happens when it matches. -/
structure Rule where
  /-- What messages call the rule. -/
  name : String
  pattern : Pattern
  action : Action
  /-- Whether the rule only matches where the scan starts. -/
  atLineStart : Bool
  deriving Repr

/-- Whether an embedded language ends where the rule matches. -/
def Rule.leavesEmbedded (rule : Rule) : Bool := rule.action.leavesEmbedded

/-- A pair of brackets and the token for both. -/
structure Bracket where
  token : String
  opening : String
  closing : String
  deriving DecidableEq, Repr

/-- A compiled grammar. -/
structure Grammar where
  settings : Settings
  /-- The state in which texts start. -/
  start : String
  /-- Whether rules see the line feed that ends a line. -/
  includeLineFeed : Bool
  /-- The token of what no rule matches. -/
  defaultToken : String
  /-- What every token ends with. -/
  tokenPostfix : String
  /-- Whether some action changes the embedded language. -/
  usesEmbedded : Bool
  brackets : List Bracket
  /-- The declared states in order, with their rules. -/
  states : List (String × List Rule)
  deriving Repr

/-! ### State names -/

/-- A name without the at-sign that it may start with. -/
def withoutAtSign (name : String) : String :=
  match name.toList with
  | '@' :: rest => String.ofList rest
  | _ => name

/-- The part of a name before its last dot; a name without a dot has none. -/
def parentName (name : Text) : Text :=
  ((name.reverse.dropWhile (· != '.')).drop 1).reverse

/-- A name followed by its parents, as long as there is a name. A parent is shorter, so the length
bounds the steps. -/
def lineageWithin : Nat → Text → List String
  | 0, _ => []
  | steps + 1, name =>
    if name = [] then [] else String.ofList name :: lineageWithin steps (parentName name)

/-- A state name followed by its shorter forms. -/
def lineage (state : String) : List String :=
  lineageWithin state.toList.length state.toList

namespace Grammar

/-- The language that a grammar describes. -/
def language (grammar : Grammar) : String := grammar.settings.language

/-- The action where no rule matches. -/
def defaultAction (grammar : Grammar) : Action := .token { token := grammar.defaultToken }

/-- The rules that are declared for a state itself. -/
def rules? (grammar : Grammar) (state : String) : Option (List Rule) :=
  grammar.states.lookup state

/-- The rules that hold in a state. -/
def findRules? (grammar : Grammar) (state : String) : Option (List Rule) :=
  (lineage state).findSome? grammar.rules?

/-- Whether any rules hold in a state. -/
def stateExists (grammar : Grammar) (state : String) : Bool := (grammar.findRules? state).isSome

/-- The token and the side of the first bracket that a text is a side of. -/
def findBracket? (grammar : Grammar) (text : Text) : Option (String × Side) :=
  if text = [] then none
  else
    let text := String.ofList (grammar.settings.foldText text)
    grammar.brackets.findSome? fun bracket =>
      if bracket.opening = text then some (bracket.token, .opening)
      else if bracket.closing = text then some (bracket.token, .closing)
      else none

end Grammar

end LineLexer
