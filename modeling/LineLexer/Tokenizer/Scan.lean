import LineLexer.Tokenizer.Effect

/-!
**Scanning by the rules of one grammar.**

A scan goes through a line in steps. A step takes a match, or a group of an earlier match, and does
what its action says; it ends the scan of this grammar if another language starts:

* `Scan`: where a scan stands;
* `HostLine.step`: one step;
* `HostLine.run`: steps up to the end of the line, or up to where another language starts.
-/

namespace LineLexer

/-- The groups of a match that are still to be taken one by one. -/
structure Replay where
  rule : String
  captures : List Text
  /-- The actions that are left, each with the text of its group. -/
  members : List (Action × Text)
  deriving Repr

/-- Where a scan stands. -/
structure Scan where
  /-- The number of bytes before the next character. -/
  position : Nat
  stack : Stack
  embedded : Option Embedded
  /-- The groups to be taken before anything else is matched. -/
  replay : Option Replay := none
  /-- Where, and with which stack, groups matched last that read nothing. -/
  emptyGroup : Option (Nat × Stack) := none
  /-- Whether a step is due even at the end of the text. -/
  due : Bool := true
  deriving Repr

/-- The number of groups that are still to be taken. -/
def Scan.pending (scan : Scan) : Nat := (scan.replay.map fun replay => replay.members.length).getD 0

/-- What comes after a step. -/
inductive Next where
  /-- The scan goes on. -/
  | goOn (scan : Scan)
  /-- A language starts at a position. -/
  | enter (name : String) (position : Nat) (stack : Stack)
  deriving Repr

/-- How a scan ends. -/
inductive Departure where
  /-- The line ends. -/
  | lineEnd (stack : Stack) (embedded : Option Embedded)
  /-- A language starts at a position. -/
  | enter (name : String) (position : Nat) (stack : Stack)
  deriving Repr

/-- A line as one grammar scans it. -/
structure HostLine where
  tokenizer : Tokenizer
  /-- The line without what ends it. -/
  line : Text
  /-- What the rules see. -/
  text : Text
  /-- What is added to offsets in the line. -/
  shift : Nat
  /-- The number of bytes of the line. -/
  lineSize : Nat
  /-- The number of bytes of what the rules see. -/
  textSize : Nat
  lineSize_eq : lineSize = line.size
  textSize_eq : textSize = text.size
  deriving Repr

namespace HostLine

open Scanning

/-- A line whose end the rules see if the grammar asks for that. `ended` tells whether a line feed
ends the line. -/
def make (tokenizer : Tokenizer) (line : Text) (ended : Bool) (shift : Nat) : HostLine :=
  let text := if ended && tokenizer.grammar.includeLineFeed then line ++ ['\n'] else line
  { tokenizer, line, text, shift
    lineSize := line.size, textSize := text.size, lineSize_eq := rfl, textSize_eq := rfl }

/-- The settings of the grammar. -/
def settings (host : HostLine) : Settings := host.tokenizer.grammar.settings

/-! ### Groups -/

/-- Checks that the groups of a match make up the match and that there is an action for each, and
takes them next. Groups that read nothing may not come up again at once. -/
def splitGroups (scan : Scan) (found : Found) (members : List Action) : Except Fault Scan :=
  let groups := found.captures.drop 1
  if scan.replay.isSome then .error (.nestedGroups found.rule)
  else if found.captures.length ≠ members.length + 1 then .error (.groupCountMismatch found.rule)
  else if (groups.map Text.size).foldr (· + ·) 0 ≠ found.matched.size then .error (.groupGap found.rule)
  else
    let replay : Replay :=
      { rule := found.rule, captures := found.captures, members := members.zip groups }
    if found.matched = [] then
      if scan.emptyGroup.any fun seen => seen.1 == scan.position && seen.2 == scan.stack then
        .error (.noProgress found.rule)
      else
        .ok { scan with
          replay := some replay, emptyGroup := some (scan.position, scan.stack), due := false }
    else .ok { scan with replay := some replay, due := false }

/-! ### Tokens -/

/-- The change of a stack, made through the cache of the tokenizer. -/
def changeStack (tokenizer : Tokenizer) (stack : Stack) : StackChange → Scanning Stack
  | .keep => pure stack
  | .push state => share tokenizer fun cache => cache.push stack state
  | .pop => pure (stack.pop?.getD stack)
  | .toRoot => pure stack.toRoot
  | .switchTo state => share tokenizer fun cache => cache.switchTo stack state

/-- Whether a step that read nothing has changed anything. On the empty text nothing needs to
change, as the text is at its end. -/
def progressed (host : HostLine) (before after : Scan) : Bool :=
  host.text == [] || before.stack.depth != after.stack.depth ||
    before.stack.state != after.stack.state || before.pending != after.pending

/-- Tells the token of a step that started inside the line. -/
def tellToken (host : HostLine) (offset : Nat) (classification : String) (side : Option Side) :
    Scanning Unit :=
  if offset < host.lineSize then tell (.token (offset + host.shift) classification side)
  else pure ()

/-- Does what a token action says. `before` is the scan before the step, and `after` the scan behind
the match. -/
def applyToken (host : HostLine) (before after : Scan) (found : Found) (context : MatchContext)
    (action : TokenAction) : Scanning Next := do
  let tokenizer := host.tokenizer
  let token := action.text host.settings context
  let (embedded, entering) ←
    settle tokenizer (action.changeEmbedded host.settings context after.embedded)
  let position ← cut (host.text.rewind? after.position (action.goBack.getD 0))
  let change ← settle tokenizer (action.stackChange tokenizer context found.rule after.stack)
  let stack ← changeStack tokenizer after.stack change
  if let some template := action.log then
    note { language := tokenizer.language, message := Template.fill host.settings template context }
  let again := token == TokenAction.rematchToken
  let position := if again then position - found.matched.size else position
  let after := { after with position, stack, embedded }
  if again || found.matched == [] then
    unless entering.isSome || host.progressed before after do
      fail tokenizer (.noProgress found.rule)
  else
    let (classification, side) ←
      settle tokenizer (action.classify tokenizer.grammar token found.matched)
    host.tellToken before.position classification side
  match entering with
  | some name => pure (.enter name position stack)
  | none => pure (.goOn after)

/-! ### Steps -/

/-- Does what the action of a match says. `before` is the scan before the step, and `after` the scan
where the match starts. -/
def apply (host : HostLine) (before after : Scan) (found : Found) : Scanning Next := do
  let position := after.position + found.matched.size
  let context : MatchContext := {
    matched := found.matched
    captures := found.captures
    state := before.stack.state
    atLineEnd := position == host.textSize }
  let resolved ← settle host.tokenizer
    ((found.action.resolve host.settings context).mapError GuardFault.toFault)
  match resolved with
  | .group members => .goOn <$> settle host.tokenizer (splitGroups before found members)
  | .token action => host.applyToken before { after with position } found context action

/-- One step: the next group if groups are left, and otherwise what matches. -/
def step (host : HostLine) (scan : Scan) : Scanning Next := do
  match scan.replay with
  | some replay =>
    match replay.members with
    | [] => pure (.goOn { scan with replay := none })
    | (action, matched) :: members =>
      let left := if members.isEmpty then none else some { replay with members }
      host.apply scan { scan with replay := left }
        { rule := replay.rule, captures := replay.captures, matched, action }
  | none =>
    let found ← host.tokenizer.findAt host.text scan.position scan.stack.state
    host.apply scan { scan with due := false } found

/-- Whether a step follows. -/
def isDue (host : HostLine) (scan : Scan) : Bool := scan.due || scan.position < host.textSize

/-- Steps up to the end of the line, or up to where another language starts; `steps` is a limit. -/
def run (host : HostLine) : Nat → Scan → Scanning Departure
  | 0, _ => throw .exhausted
  | steps + 1, scan =>
    if host.isDue scan then do
      match ← host.step scan with
      | .goOn scan => host.run steps scan
      | .enter name position stack => pure (.enter name position stack)
    else pure (.lineEnd scan.stack scan.embedded)

end HostLine

end LineLexer
