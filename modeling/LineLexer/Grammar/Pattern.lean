import LineLexer.Grammar.Problem
import LineLexer.Grammar.Template

/-!
**Patterns of rules.**

A rule's pattern may splice in attributes of the description, and it may refer to the parts of the
name of the state it is tried in. A pattern without such references is compiled once; the others are
compiled for the state at hand, and the last one compiled is kept.

* `Pattern.expand`: a pattern with attributes spliced in;
* `Pattern.substituteState`: a pattern with the parts of a state name spliced in literally;
* `Pattern.compile`: the pattern of a rule;
* `Pattern.anchored`, `Pattern.search`: the regular expression for the scan position and the one for
  the whole line, as seen from a state.
-/

namespace LineLexer

/-- How a pattern is kept. -/
inductive Pattern.Form where
  /-- Compiled once: for the scan position, and for a whole line if that is needed. -/
  | fixed (anchored : Regex) (search : Option Regex)
  /-- Compiled for each state. -/
  | perState
  deriving DecidableEq, Repr

/-- The pattern of a rule. -/
structure Pattern where
  /-- The pattern with attributes spliced in. -/
  source : String
  /-- How it is kept. -/
  form : Pattern.Form
  deriving DecidableEq, Repr

namespace Pattern

/-! ### Attributes -/

/-- How often attributes are spliced in at most. -/
def expansionRounds : Nat := 5

/-- What stands for a doubled at-sign while attributes are spliced in. -/
def heldAtSign : Char := '\x01'

/-- Holds back doubled at-signs, paired from the left. -/
def holdAtSigns : Text → Text
  | '@' :: '@' :: rest => heldAtSign :: holdAtSigns rest
  | letter :: rest => letter :: holdAtSigns rest
  | [] => []

/-- Puts single at-signs where doubled ones were held back. -/
def releaseAtSigns (text : Text) : Text :=
  text.map fun letter => if letter = heldAtSign then '@' else letter

/-- What a reference to an attribute becomes: a group around its text, or nothing for the empty
text. `pattern` is the pattern that has the reference. -/
def spliceAttribute (settings : Settings) (pattern : Text) (name : Text) : Except Problem Text :=
  let name := String.ofList name
  match settings.attributes.get? name with
  | none => .error (.undefinedAttribute name (String.ofList pattern))
  | some value =>
    match value.asString? with
    | none => .error (.attributeNotString name (String.ofList pattern))
    | some text =>
      if text = "" then .ok []
      else .ok (['(', '?', ':'] ++ holdAtSigns text.toList ++ [')'])

/-- Splices in the attributes that a text refers to, once. Answers whether there were any. Each step
takes a character at least, so the length bounds the steps. -/
def expandOnce (settings : Settings) (pattern : Text) : Nat → Text → Except Problem (Text × Bool)
  | 0, _ => .ok ([], false)
  | _ + 1, [] => .ok ([], false)
  | steps + 1, letter :: rest =>
    if letter = '@' then
      match rest.takeWhile Template.isNameChar with
      | [] => (expandOnce settings pattern steps rest).map fun (tail, found) => ('@' :: tail, found)
      | name => do
        let spliced ← spliceAttribute settings pattern name
        let (tail, _) ← expandOnce settings pattern steps (rest.dropWhile Template.isNameChar)
        pure (spliced ++ tail, true)
    else (expandOnce settings pattern steps rest).map fun (tail, found) => (letter :: tail, found)

/-- Splices in attributes for a number of rounds, or until no reference is left. -/
def expandRounds (settings : Settings) : Nat → Text → Except Problem Text
  | 0, text => .ok text
  | rounds + 1, text => do
    let (expanded, found) ← expandOnce settings text text.length text
    if found then expandRounds settings rounds expanded else pure text

/-- A pattern with the attributes that it refers to spliced in. -/
def expand (settings : Settings) (pattern : String) : Except Problem String := do
  let expanded ← expandRounds settings expansionRounds (holdAtSigns pattern.toList)
  pure (String.ofList (releaseAtSigns expanded))

/-! ### State names -/

/-- Whether a text refers to a part of a state name. -/
def refersToState : Text → Bool
  | '$' :: letter :: digit :: rest =>
    ((letter == 's' || letter == 'S') && Digit.isDecimal digit) ||
      refersToState (letter :: digit :: rest)
  | _ :: rest => refersToState rest
  | [] => false

/-- The reference to a part of a state name that a dollar sign starts, past that sign. -/
def stateReference? : Text → Option (Nat × Text)
  | letter :: rest => if letter = 's' ∨ letter = 'S' then Template.index? rest else none
  | [] => none

/-- Splices in the parts of a state name. Each step takes a character at least, so the length bounds
the steps. -/
def substituteWithin (settings : Settings) (parts : List String) : Nat → Text → Text
  | 0, _ => []
  | _ + 1, [] => []
  | steps + 1, letter :: rest =>
    if letter = '$' then
      match stateReference? rest with
      | some (index, rest) =>
        Regex.escape (settings.foldText ((parts[index]?.getD "").toList)) ++
          substituteWithin settings parts steps rest
      | none => '$' :: substituteWithin settings parts steps rest
    else letter :: substituteWithin settings parts steps rest

/-- A pattern with the parts of a state name spliced in, each as a text that matches itself. -/
def substituteState (settings : Settings) (source state : String) : String :=
  String.ofList
    (substituteWithin settings (stateComponents state) source.toList.length source.toList)

/-! ### Compilation -/

/-- The pattern that matches at the scan position only. -/
def anchor (body : String) : String := "^(?:" ++ body ++ ")"

/-- Compiles a pattern that a problem would name. -/
def regexOf (settings : Settings) (pattern : String) : Except Problem Regex :=
  match Regex.compile settings.ignoreCase pattern with
  | .ok regex => .ok regex
  | .error rejection => .error (.invalidRegex pattern rejection)

/-- Compiles the pattern of a rule; `searched` tells whether it is searched for in whole lines. -/
def compile (settings : Settings) (body : String) (searched : Bool) : Except Problem Pattern := do
  let source ← expand settings body
  if refersToState source.toList then pure { source, form := .perState }
  else
    let anchored ← regexOf settings (anchor source)
    if searched then
      let search ← regexOf settings source
      pure { source, form := .fixed anchored (some search) }
    else pure { source, form := .fixed anchored none }

/-! ### Use -/

/-- What was compiled last for a pattern: the state and the regular expression. -/
abbrev Memo := Option (String × Regex)

/-- The regular expression for the scan position as seen from a state, and what is kept of it. -/
def anchored (pattern : Pattern) (settings : Settings) (state : String) (memo : Memo) :
    Except Regex.Rejection Regex × Memo :=
  match pattern.form with
  | .fixed regex _ => (.ok regex, memo)
  | .perState =>
    let build :=
      Regex.compile settings.ignoreCase (anchor (substituteState settings pattern.source state))
    let fresh : Except Regex.Rejection Regex × Memo :=
      match build with
      | .ok regex => (.ok regex, some (state, regex))
      | .error rejection => (.error rejection, memo)
    match memo with
    | some (kept, regex) => if kept = state then (.ok regex, memo) else fresh
    | none => fresh

/-- The regular expression for a whole line as seen from a state. -/
def search (pattern : Pattern) (settings : Settings) (state : String) :
    Except Regex.Rejection Regex :=
  match pattern.form with
  | .fixed _ (some regex) => .ok regex
  | .fixed _ none => Regex.compile settings.ignoreCase pattern.source
  | .perState =>
    Regex.compile settings.ignoreCase (substituteState settings pattern.source state)

end Pattern

end LineLexer
