import LineLexer.Registry
import LineLexer.Tokenizer.Scan

/-!
**Tokenizing a line.**

A line starts in the state in which the line before it ended. While a language is embedded, the line
up to the first place where that language ends goes to the tokenizer of that language, and the rest
to the host's rules; and where the rules start another language, the rest of the line is treated as
a line that starts in that language.

* `Job`: a line to be tokenized;
* `Job.advance`: what tokenizing a line comes to, given what tokenizing parts of it comes to;
* `Job.tokenizeWithin`, `Job.tokenize`: tokenizing within given bounds, and within bounds that leave
  room for every scan that reads on.
-/

namespace LineLexer

/-- A line to be tokenized. -/
structure Job where
  tokenizer : Tokenizer
  /-- The line without what ends it. -/
  line : Text
  /-- Whether a line feed ends the line. -/
  ended : Bool
  /-- The state in which the line before it ended. -/
  state : LineState
  /-- What is added to offsets in the line. -/
  shift : Nat := 0
  deriving Repr

namespace Tokenizer

open Scanning

/-- The state in which the first line starts. -/
def initialState (tokenizer : Tokenizer) : Scanning LineState := do
  let root ← share tokenizer fun cache => cache.root tokenizer.grammar.start
  share tokenizer fun cache => cache.lineState root none

/-- Where a tokenizer looks up embedded languages. -/
def languages? (tokenizer : Tokenizer) (registry : Option Registry) : Option Registry :=
  if tokenizer.linked then registry else none

/-- A language as it starts: the one that a name stands for, in its first state if it is known. A
name that stands for none is taken for a language itself. -/
def embed (tokenizer : Tokenizer) (registry : Option Registry) (name : String) :
    Scanning Embedded := do
  let languages := tokenizer.languages? registry
  let language := (languages.bind (·.resolve? name)).getD name
  match languages.bind (·.tokenizer? language) with
  | some guest => do
    let state ← guest.initialState
    pure { language, state := some state }
  | none => pure { language, state := none }

end Tokenizer

namespace Job

open Scanning

/-- The number of steps that each scan of a line may take. A scan that reads on takes a step for a
character and one for each group; the rest is room for changes of the stack. -/
def stepLimit (line : Text) : Nat := 1000000 + 1000 * line.size

/-- How deep parts of lines may nest. -/
def nestingLimit : Nat := 1000000

/-- A line that stays unclassified. -/
def skip (language : String) (shift : Nat) : Scanning Unit := do
  tell (.language language)
  tell (.token shift "" none)

/-- Tokenizes a line unless it is too long. A line that is too long changes no state. -/
def unlessLong (tokenizeLine : Job → Scanning LineState) (job : Job) : Scanning LineState :=
  if job.tokenizer.limits.lineLength < job.line.size then do
    skip job.tokenizer.language job.shift
    pure job.state
  else tokenizeLine job

/-- Gives a line to the tokenizer of an embedded language. An unknown language leaves the line
unclassified. -/
def delegate (registry : Option Registry) (tokenizeLine : Job → Scanning LineState) (job : Job)
    (embedded : Embedded) : Scanning (Option LineState) :=
  match embedded.state,
    (job.tokenizer.languages? registry).bind (·.tokenizer? embedded.language) with
  | some state, some guest =>
    some <$> unlessLong tokenizeLine { job with tokenizer := guest, state }
  | _, _ => do
    skip embedded.language job.shift
    pure embedded.state

/-- Scans a line by the rules of its tokenizer, in a number of steps at most. Where another language
starts, the rest of the line is a line in that language. -/
def scanHost (registry : Option Registry) (steps : Nat) (tokenizeLine : Job → Scanning LineState)
    (job : Job) : Scanning LineState := do
  let tokenizer := job.tokenizer
  tell (.language tokenizer.language)
  let host := HostLine.make tokenizer job.line job.ended job.shift
  let departure ← host.run steps
    { position := 0, stack := job.state.stack, embedded := job.state.embedded? }
  match departure with
  | .lineEnd stack embedded => share tokenizer fun cache => cache.lineState stack embedded
  | .enter name position stack => do
    let embedded ← tokenizer.embed registry name
    let state ← share tokenizer fun cache => cache.lineState stack (some embedded)
    if position < job.line.size then do
      let rest ← cut (job.line.drop? position)
      tokenizeLine { job with line := rest, state, shift := job.shift + position }
    else pure state

/-- Tokenizes a line, where `tokenizeLine` tokenizes parts of it. -/
def advance (registry : Option Registry) (steps : Nat) (tokenizeLine : Job → Scanning LineState)
    (job : Job) : Scanning LineState := do
  match job.state.embedded? with
  | none => job.scanHost registry steps tokenizeLine
  | some embedded =>
    let tokenizer := job.tokenizer
    let leaving ← settle tokenizer (tokenizer.leavingOffset? job.state.stack.state job.line)
    match leaving with
    | none => do
      let state ← job.delegate registry tokenizeLine embedded
      share tokenizer fun cache => cache.lineState job.state.stack (some { embedded with state })
    | some offset => do
      if 0 < offset then
        let guestPart ← cut (job.line.take? offset)
        let before := { job with line := guestPart, ended := false }
        let _ ← before.delegate registry tokenizeLine embedded
      let rest ← cut (job.line.drop? offset)
      scanHost registry steps tokenizeLine { job with line := rest, shift := job.shift + offset }

/-- Tokenizes a line in scans of at most `steps` steps, its parts nesting at most `depth` deep. -/
def tokenizeWithin (registry : Option Registry) (steps : Nat) :
    (depth : Nat) → Job → Scanning LineState
  | 0, _ => throw .exhausted
  | depth + 1, job => job.advance registry steps (tokenizeWithin registry steps depth)

/-- Tokenizes a line, unless it is too long. -/
def tokenize (job : Job) (registry : Option Registry) : Scanning LineState :=
  job.unlessLong (tokenizeWithin registry (stepLimit job.line) nestingLimit)

end Job

end LineLexer
