import LineLexer.Grammar.Basic
import LineLexer.Json.Reader

/-!
**Grammars from descriptions.**

A description is walked once. Included states are spliced in, patterns are compiled, the forms that
an action may have become one type, and targets that depend on no match are checked against the
declared states. A problem ends the compilation, or is only noted where the caller tolerates it:
then the rule, include or bracket that has it is left out.

* `Compiling`: a compilation with its notes, which outlive a problem;
* `Description.compileAction`, `Description.compileRule`, `Description.expand`: actions, rules and
  the rules of a state with its includes;
* `Grammar.compile`, `Grammar.compileText`: the grammar of a description.
-/

namespace LineLexer

/-- What is noted during a compilation. -/
structure Progress where
  /-- The problems that were tolerated, last first. -/
  tolerated : List Problem := []
  /-- Whether an action changed the embedded language, in a rule that was kept or not. -/
  usesEmbedded : Bool := false
  deriving DecidableEq, Repr

/-- A compilation: it may end with a problem, and its notes are kept in any case. -/
abbrev Compiling := ExceptT Problem (StateM Progress)

/-- A description whose parts are being compiled. -/
structure Description where
  settings : Settings
  /-- The declared states with the descriptions of their rules. -/
  states : Json.Members
  /-- Whether problems of single parts are tolerated. -/
  tolerant : Bool
  /-- The token of what no rule matches. -/
  defaultToken : String
  deriving Repr

namespace Description

/-- Notes a problem where problems are tolerated, and ends with it otherwise. -/
def tolerate (description : Description) (problem : Problem) : Compiling Unit :=
  if description.tolerant then
    modify fun progress => { progress with tolerated := problem :: progress.tolerated }
  else throw problem

/-- The results of a part, or none of them where its problem is tolerated. -/
def tolerating {Result : Type} (description : Description) (part : Compiling (List Result)) :
    Compiling (List Result) :=
  tryCatch part fun problem => do
    description.tolerate problem
    pure []

/-- Whether a state is declared, by itself or by a shorter form of its name. -/
def declares (description : Description) (state : String) : Bool :=
  (lineage state).any description.states.contains

/-! ### Actions -/

/-- Checks a target that depends on no match. -/
def checkTarget (description : Description) (rule target : String) : Compiling Unit :=
  let state := withoutAtSign target
  if state.toList.contains '$' || description.declares state then pure ()
  else description.tolerate (.undefinedState target rule)

/-- The change of the stack that a target asks for. -/
def compileNext (description : Description) (rule next : String) : Compiling NextState :=
  if next = "@push" then pure .push
  else if next = "@pop" then pure .pop
  else if next = "@popall" then pure .popAll
  else do
    description.checkTarget rule next
    pure (.goto (withoutAtSign next))

/-- The side that a bracket attribute asks for. -/
def compileSide (rule : String) : Option Json → Compiling (Option Side)
  | none => pure none
  | some (.string "@open") => pure (some .opening)
  | some (.string "@close") => pure (some .closing)
  | some _ => throw (.invalidBracketAttribute rule)

/-- The change of the stack that a next attribute asks for. -/
def compileNextAttribute (description : Description) (rule : String) :
    Option Json → Compiling (Option NextState)
  | none | some .null | some (.string "") => pure none
  | some (.string next) => some <$> description.compileNext rule next
  | some _ => throw (.nextNotString rule)

/-- The state that a switch attribute asks for. -/
def compileSwitch (description : Description) (rule : String) (value : Option Json) :
    Compiling (Option String) :=
  match value.bind Json.asString? with
  | none => pure none
  | some target => do
    description.checkTarget rule target
    pure (some target)

/-- The change of the embedded language that an attribute asks for. -/
def compileEmbedding (value : Option Json) : Compiling (Option Embedding) :=
  match value.bind Json.asString? with
  | none => pure none
  | some language => do
    modify fun progress => { progress with usesEmbedded := true }
    pure (some (if language = "@pop" then .leave else .enter language))

/-- A token with the changes that the other attributes of its object ask for. -/
def compileToken (description : Description) (rule token : String) (members : Json.Members) :
    Compiling TokenAction := do
  let side ← compileSide rule (members.get? "bracket")
  let next ← description.compileNextAttribute rule (members.get? "next")
  let switchTo ← description.compileSwitch rule (members.get? "switchTo")
  let goBack := (members.get? "goBack").bind Json.asNatural?
  let log := (members.get? "log").bind Json.asString?
  let embedding ← compileEmbedding (members.get? "nextEmbedded")
  pure {
    token, substitute := token.toList.contains '$'
    side, next, switchTo, goBack, embedding, log }

/-- The attributes that make a token action of an object without a token. -/
def directives : List String := ["next", "switchTo", "goBack", "nextEmbedded", "log", "bracket"]

/-- The branches of a choice, each with its action compiled before its guard. -/
def compileBranches (settings : Settings) (rule : String)
    (compileTarget : Json → Compiling Action) : Json.Members → Compiling (List (Branch Action))
  | [] => pure []
  | (key, value) :: rest => do
    let target ← compileTarget value
    let guard ← liftM (Guard.compile settings rule key)
    let branches ← compileBranches settings rule compileTarget rest
    pure (⟨key, guard, target⟩ :: branches)

/-- The action of a value that nests at most `depth` deep, for a given rule. -/
def compileWithin (description : Description) (rule : String) : Nat → Json → Compiling Action
  | 0, _ => throw (.invalidAction rule)
  | depth + 1, value =>
    match value with
    | .null => pure (.token { token := "" })
    | .string token => pure (.token { token, substitute := token.toList.contains '$' })
    | .array [] => throw (.invalidAction rule)
    | .array items => .group <$> items.mapM (description.compileWithin rule depth)
    | .object members =>
      match Json.Members.get? members "token", Json.Members.get? members "cases" with
      | some (.string token), _ => .token <$> description.compileToken rule token members
      | some _, _ => throw (.tokenNotString rule)
      | none, some (.object branches) => do
        let branches ←
          compileBranches description.settings rule (description.compileWithin rule depth) branches
        pure (.cases branches description.defaultToken)
      | none, some _ => throw (.casesNotObject rule)
      | none, none =>
        if directives.any (Json.Members.contains members) then
          .token <$> description.compileToken rule "" members
        else throw (.invalidAction rule)
    | _ => throw (.invalidAction rule)

/-- The action of a value for a given rule; without a value there is nothing to do. -/
def compileAction (description : Description) (rule : String) (value : Option Json) :
    Compiling Action :=
  let value := value.getD .null
  description.compileWithin rule (value.height + 1) value

/-! ### Rules -/

/-- A rule whose form has been recognised. -/
structure RawRule where
  /-- The name that it gives itself. -/
  name : Option String
  pattern : String
  action : Option Json
  atLineStart : Bool

/-- The action of a rule in array form, from its items behind the pattern. -/
def positionalAction (place : String) : List Json → Except Problem (Option Json)
  | [] => .ok none
  | [action] => .ok (some action)
  | [.string token, next] => .ok (some (.object [("token", .string token), ("next", next)]))
  | [.object members, next] => .ok (some (.object (Json.Members.put members "next" next)))
  | _ => .error (.positionalNextState place)

/-- The parts of a rule in either of its forms. -/
def readRule (place : String) : Json → Except Problem RawRule
  | .array (pattern :: rest) =>
    if 2 < rest.length then .error (.invalidRule place)
    else
      match pattern with
      | .string pattern =>
        (positionalAction place rest).map fun action =>
          { name := none, pattern, action, atLineStart := false }
      | _ => .error (.patternNotString place)
  | .object members =>
    let part (name : String) : Option Json := Json.Members.get? members name
    match part "regex" with
    | some (.string pattern) =>
      .ok {
        name := (part "name").bind Json.asString?
        pattern
        action := part "action"
        atLineStart := ((part "matchOnlyAtLineStart").bind Json.asBool?).getD false }
    | some _ => .error (.patternNotString place)
    | none => .error (.invalidRule place)
  | _ => .error (.invalidRule place)

/-- A pattern without the mark that binds it to the start of a line, and whether it had that mark.
-/
def lineStartMark (pattern : String) : String × Bool :=
  match pattern.toList with
  | '^' :: rest => (String.ofList rest, true)
  | _ => (pattern, false)

/-- The rule that a value describes at a place of the description. -/
def compileRule (description : Description) (place : String) (value : Json) : Compiling Rule := do
  let raw ← liftM (readRule place value)
  let name := raw.name.getD place ++ ": " ++ raw.pattern
  let action ← description.compileAction name raw.action
  let (body, marked) := lineStartMark raw.pattern
  let pattern ← liftM (Pattern.compile description.settings body action.leavesEmbedded)
  pure { name, pattern, action, atLineStart := raw.atLineStart || marked }

/-- The rules of a list of values, where `expandInclude` gives the rules of a state to include. -/
def collect (description : Description) (place : String)
    (expandInclude : Json → Compiling (List Rule)) : List Json → Compiling (List Rule)
  | [] => pure []
  | value :: rest => do
    let found ← description.tolerating <|
      match value.asObject?.bind (·.get? "include") with
      | some target => expandInclude target
      | none => ([·]) <$> description.compileRule place value
    let later ← description.collect place expandInclude rest
    pure (found ++ later)

/-- The rules of a state with those of its includes spliced in. `path` holds the states that are
being expanded, and no state may come on it twice, so the number of declared states bounds the
steps. -/
def expand (description : Description) :
    Nat → (place : String) → (path : List String) → Json → Compiling (List Rule)
  | 0, _, _, _ => pure []
  | steps + 1, place, path, rules =>
    match rules.asArray? with
    | none => do
      description.tolerate (.rulesNotArray place)
      pure []
    | some values =>
      description.collect place (fun target => do
        match target.asString? with
        | none => throw (.includeNotString place)
        | some target =>
          let target := withoutAtSign target
          match description.states.get? target with
          | none => throw (.undefinedInclude target place)
          | some included =>
            if path.contains target then throw (.includeCycle target place)
            else description.expand steps (place ++ "." ++ target) (target :: path) included) values

/-- The states with their rules. -/
def compileStates (description : Description) :
    Json.Members → Compiling (List (String × List Rule))
  | [] => pure []
  | (state, rules) :: rest => do
    let compiled ←
      description.expand description.states.length ("tokenizer." ++ state) [state] rules
    let later ← description.compileStates rest
    pure ((state, compiled) :: later)

/-! ### Brackets -/

/-- The brackets of a description that has none. -/
def defaultBrackets : List (String × String × String) := [
  ("\x7b", "\x7d", "delimiter.curly"),
  ("[", "]", "delimiter.square"),
  ("(", ")", "delimiter.parenthesis"),
  ("<", ">", "delimiter.angle")]

/-- A bracket in the form in which texts are compared with it. -/
def bracket (settings : Settings) (postfixText opening closing token : String) : Bracket where
  token := token ++ postfixText
  opening := settings.fold opening
  closing := settings.fold closing

/-- The opening text, the closing text and the token of a bracket, as far as they are texts. -/
def bracketParts? : Json → Option (Option String × Option String × Option String)
  | .array [opening, closing, token] =>
    some (opening.asString?, closing.asString?, token.asString?)
  | .object members =>
    let part (name : String) : Option String := (Json.Members.get? members name).bind Json.asString?
    some (part "open", part "close", part "token")
  | _ => none

/-- The bracket that a value describes. -/
def compileBracket (description : Description) (postfixText : String) (value : Json) :
    Except Problem Bracket :=
  match bracketParts? value with
  | some (some opening, some closing, token) =>
    if opening = closing then .error (.identicalBrackets opening)
    else
      match token with
      | some token => .ok (bracket description.settings postfixText opening closing token)
      | none => .error .invalidBracket
  | _ => .error .invalidBracket

/-- The brackets that a list of values describes. -/
def collectBrackets (description : Description) (postfixText : String) :
    List Json → Compiling (List Bracket)
  | [] => pure []
  | value :: rest => do
    let found ← description.tolerating
      (([·]) <$> liftM (description.compileBracket postfixText value))
    let later ← description.collectBrackets postfixText rest
    pure (found ++ later)

/-- The table of brackets. -/
def compileBrackets (description : Description) (postfixText : String) :
    Compiling (List Bracket) :=
  match description.settings.attributes.get? "brackets" with
  | none | some .null =>
    pure (defaultBrackets.map fun (opening, closing, token) =>
      bracket description.settings postfixText opening closing token)
  | some (.array values) => description.collectBrackets postfixText values
  | some _ => do
    description.tolerate .bracketsNotArray
    pure []

end Description

/-! ### Grammars -/

/-- What a compilation came to: a grammar or a problem, and the problems that were tolerated. -/
structure Compilation where
  result : Except CompileError Grammar
  tolerated : List Problem

namespace Grammar

/-- Whether a description has an attribute that says yes. -/
def flag (attributes : Json.Members) (name : String) : Bool :=
  ((attributes.get? name).bind Json.asBool?).getD false

/-- The state in which texts start: the one that the description names, or the first one. -/
def startState (attributes states : Json.Members) : Except Problem String :=
  match (attributes.get? "start").bind Json.asString? with
  | some start =>
    if states.contains start then .ok start else .error (.undefinedStart start)
  | none => .ok ((states.head?.map (·.1)).getD "")

/-- The states of a description, of which there has to be one. -/
def declaredStates (attributes : Json.Members) : Except Problem Json.Members :=
  match (attributes.get? "tokenizer").bind Json.asObject? with
  | none => .error .missingTokenizer
  | some [] => .error .emptyTokenizer
  | some states => .ok states

/-- The grammar of a description for a language. -/
def ofDescription (language : String) (tolerant : Bool) (value : Json) : Compiling Grammar := do
  let attributes ← liftM (match value.asObject? with
    | some attributes => Except.ok attributes
    | none => Except.error Problem.notAnObject)
  let states ← liftM (declaredStates attributes)
  let start ← liftM (startState attributes states)
  let settings : Settings := {
    language
    ignoreCase := flag attributes "ignoreCase"
    unicode := flag attributes "unicode"
    attributes }
  let defaultToken := ((attributes.get? "defaultToken").bind Json.asString?).getD "source"
  let tokenPostfix :=
    ((attributes.get? "tokenPostfix").bind Json.asString?).getD ("." ++ language)
  let description : Description := { settings, states, tolerant, defaultToken }
  let compiled ← description.compileStates states
  let brackets ← description.compileBrackets tokenPostfix
  let progress ← get
  pure {
    settings
    start
    includeLineFeed := flag attributes "includeLF" || flag attributes "includeLineFeed"
    defaultToken
    tokenPostfix
    usesEmbedded := progress.usesEmbedded
    brackets
    states := compiled }

/-- Compiles a description for a language; `tolerant` says whether problems of single parts are
tolerated. -/
def compile (language : String) (value : Json) (tolerant : Bool) : Compilation :=
  let (result, progress) := (ofDescription language tolerant value).run.run {}
  { result := result.mapError fun problem => { language, problem }
    tolerated := progress.tolerated.reverse }

/-- Compiles the text of a description for a language. -/
def compileText (language text : String) (tolerant : Bool) : Compilation :=
  match Json.parse? text with
  | some value => compile language value tolerant
  | none => { result := .error { language, problem := .unreadable }, tolerated := [] }

end Grammar

end LineLexer
