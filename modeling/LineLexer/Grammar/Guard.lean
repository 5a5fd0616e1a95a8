import LineLexer.Grammar.Pattern

/-!
**Guards of branches.**

The key of a branch is read once into a guard, which is then tested on matches. A key names what to
look at, `$n`, `$Sn` or `$#` and otherwise the matched text, and then says what has to hold of it.

* `Guard.splitSubject`, `Guard.splitOperator`: the two parts of a key;
* `Guard.compile`: the guard of a key;
* `Guard.holds`: whether a guard holds of a match.
-/

namespace LineLexer

/-- What a guard looks at. -/
inductive Subject where
  | matched
  | capture (index : Nat)
  | component (index : Nat)
  deriving DecidableEq, Repr

/-- What may have to hold of a text. -/
inductive Test where
  /-- It is one of the words. -/
  | words (words : List String)
  /-- A regular expression matches it. -/
  | regex (regex : Regex)
  /-- The regular expression that a template becomes matches it. -/
  | filledRegex (template : String)
  /-- It is the text. -/
  | equals (text : String)
  /-- It is what a template becomes. -/
  | filledEquals (template : String)
  deriving DecidableEq, Repr

/-- A condition on a match. -/
inductive Guard where
  | always
  | lineEnd
  | test (subject : Subject) (test : Test) (negated : Bool)
  deriving DecidableEq, Repr

/-- Why a guard cannot be tested: the pattern that it made is no regular expression. `detail` says
more where there is more to say. -/
structure GuardFault where
  pattern : String
  detail : Option String
  deriving DecidableEq, Repr

namespace Subject

/-- The text that a subject stands for in a match; a missing one is empty. -/
def select (subject : Subject) (context : MatchContext) : Text :=
  match subject with
  | matched => context.matched
  | capture index => context.captures[index]?.getD []
  | component index => ((stateComponents context.state)[index]?.getD "").toList

end Subject

namespace Guard

/-! ### Keys -/

/-- The operators of keys. -/
inductive Operator where
  /-- Membership in a word list. -/
  | member
  /-- A whole match of a regular expression. -/
  | matching
  /-- Equality with a text. -/
  | equal
  deriving DecidableEq, Repr

/-- What a key looks at, and the rest of the key. -/
def splitSubject (key : Text) : Subject × Text :=
  match key with
  | '$' :: '#' :: rest => (.matched, rest)
  | '$' :: letter :: rest =>
    if letter = 's' ∨ letter = 'S' then
      match Template.index? rest with
      | some (index, rest) => (.component index, rest)
      | none => (.matched, key)
    else
      match Template.index? (letter :: rest) with
      | some (index, rest) => (.capture index, rest)
      | none => (.matched, key)
  | _ => (.matched, key)

/-- What has to hold of the subject: an operator, whether it is negated, and its operand. Without a
rest the subject must not be empty, a bare word asks for equality, and anything else without an
operator is a regular expression. -/
def splitOperator (rest : Text) : Operator × Bool × Text :=
  if rest = [] then (.equal, true, [])
  else if rest.all Template.isNameChar then (.equal, false, rest)
  else
    match rest with
    | '!' :: '@' :: operand => (.member, true, operand)
    | '!' :: '~' :: operand => (.matching, true, operand)
    | '=' :: '=' :: operand => (.equal, false, operand)
    | '!' :: '=' :: operand => (.equal, true, operand)
    | '@' :: operand => (.member, false, operand)
    | '~' :: operand => (.matching, false, operand)
    | _ => (.matching, false, rest)

/-- The words between bars. -/
def splitBars : Text → List Text
  | [] => [[]]
  | letter :: rest =>
    if letter = '|' then [] :: splitBars rest
    else
      match splitBars rest with
      | [] => [[letter]]
      | word :: words => (letter :: word) :: words

/-- The pattern that matches whole texts. -/
def wholePattern (body : String) : String := "^(?:" ++ body ++ ")$"

/-- The words of a word list in the description. -/
def wordList? (settings : Settings) (value : Json) : Option (List String) :=
  value.asArray?.bind fun items =>
    items.mapM fun item => item.asString?.map settings.fold

/-- The test that an operator with its operand asks for, in a given rule. -/
def compileTest (settings : Settings) (rule : String) (operator : Operator) (operand : Text) :
    Except Problem Test :=
  let text := String.ofList operand
  match operator with
  | .member =>
    match settings.attributes.get? text with
    | none => .error (.undefinedGuardTarget text rule)
    | some value =>
      match wordList? settings value with
      | none => .error (.guardTargetNotWords text rule)
      | some words => .ok (.words words)
  | .matching =>
    if operand.all fun letter => Template.isNameChar letter || letter == '|' then
      .ok (.words ((splitBars operand).map fun word => settings.fold (String.ofList word)))
    else if operand.contains '$' then .ok (.filledRegex text)
    else do
      let expanded ← Pattern.expand settings text
      let regex ← Pattern.regexOf settings (wholePattern expanded)
      pure (.regex regex)
  | .equal =>
    if operand.contains '$' then .ok (.filledEquals (settings.fold text))
    else .ok (.equals (settings.fold text))

/-- The guard of a key in a given rule. -/
def compile (settings : Settings) (rule key : String) : Except Problem Guard :=
  if key = "@default" ∨ key = "@" ∨ key = "" then .ok always
  else if key = "@eos" then .ok lineEnd
  else
    let (subject, rest) := splitSubject key.toList
    let (operator, negated, operand) := splitOperator rest
    (compileTest settings rule operator operand).map fun test => .test subject test negated

/-! ### Tests -/

/-- The regular expression that a template becomes for a match. -/
def filledRegex (settings : Settings) (template : String) (context : MatchContext) :
    Except GuardFault Regex :=
  let body := Template.fill settings template context
  match Pattern.expand settings body with
  | .error problem => .error { pattern := body, detail := some problem.message }
  | .ok expanded =>
    let pattern := wholePattern expanded
    match Regex.compile settings.ignoreCase pattern with
    | .ok regex => .ok regex
    | .error rejection => .error { pattern, detail := rejection.detail? }

/-- Whether a test succeeds on a text. -/
def succeeds (settings : Settings) (context : MatchContext) (subject : Text) :
    Test → Except GuardFault Bool
  | .words words => .ok (words.contains (String.ofList (settings.foldText subject)))
  | .regex regex => .ok (regex.isMatch subject)
  | .filledRegex template =>
    (filledRegex settings template context).map fun regex => regex.isMatch subject
  | .equals text => .ok (String.ofList (settings.foldText subject) == text)
  | .filledEquals template =>
    .ok (String.ofList (settings.foldText subject) == Template.fill settings template context)

/-- Whether a guard holds of a match. -/
def holds (settings : Settings) (context : MatchContext) : Guard → Except GuardFault Bool
  | always => .ok true
  | lineEnd => .ok context.atLineEnd
  | test subject asked negated =>
    (succeeds settings context (subject.select context) asked).map (· != negated)

end Guard

end LineLexer
