import LineLexer.Token.Basic
import LineLexer.Tokenizer.Basic
import LineLexer.Tokenizer.Fault

/-!
**Computations that scan.**

While a line is scanned, events and notes are told and memories change, and all of that outlives a
stop before the end of the line:

* `Scanning`: such a computation, and `Scanning.outcome`, what it comes to;
* `Scanning.tell`, `Scanning.note`, `Scanning.remember`, `Scanning.fail`: its operations;
* `outcome_bind` and its like: what the operations come to.
-/

namespace LineLexer

/-- Why a computation stops before its end. -/
inductive Stop where
  /-- The grammar asks for something impossible. -/
  | fault (error : TokenizeError)
  /-- A position is inside a character. -/
  | cut
  /-- There have been more steps than are allowed. -/
  | exhausted
  deriving DecidableEq, Repr

/-- A message for the reader of a log, with the language whose grammar has it. -/
structure Note where
  language : String
  message : String
  deriving DecidableEq, Repr

/-- What a computation leaves behind. -/
structure Trace where
  memories : Memories := {}
  events : Array Event := #[]
  notes : Array Note := #[]
  deriving Repr

/-- A computation that scans. -/
abbrev Scanning := ExceptT Stop (StateM Trace)

namespace Scanning

variable {Result Other : Type}

/-- What a computation comes to that starts with a trace. -/
def outcome (scanning : Scanning Result) (trace : Trace) : Except Stop Result × Trace :=
  scanning.run.run trace

/-- Tells an event. -/
def tell (event : Event) : Scanning Unit :=
  modify fun trace => { trace with events := trace.events.push event }

/-- Leaves a note. -/
def note (entry : Note) : Scanning Unit :=
  modify fun trace => { trace with notes := trace.notes.push entry }

/-- Consults and changes the memory of a tokenizer. -/
def remember (tokenizer : Tokenizer) (operation : Memory → Result × Memory) : Scanning Result :=
  modifyGet fun trace =>
    let (result, memory) := operation (trace.memories.read tokenizer.identity)
    (result, { trace with memories := trace.memories.store tokenizer.identity memory })

/-- Makes a stack or a line state through the cache of a tokenizer. -/
def share (tokenizer : Tokenizer) (operation : StateCache → Result × StateCache) :
    Scanning Result :=
  remember tokenizer fun memory =>
    let (result, cache) := operation memory.cache
    (result, { memory with cache })

/-- The part that a cut gives, if it is not inside a character. -/
def cut (part : Option Result) : Scanning Result :=
  match part with
  | some part => pure part
  | none => throw .cut

/-- A result, or the fault of a tokenizer's grammar. -/
def settle (tokenizer : Tokenizer) (result : Except Fault Result) : Scanning Result :=
  match result with
  | .ok result => pure result
  | .error fault => throw (.fault { language := tokenizer.language, fault })

/-- Stops with a fault of a tokenizer's grammar. -/
def fail (tokenizer : Tokenizer) (fault : Fault) : Scanning Result :=
  settle tokenizer (.error fault)

/-! ### What the operations come to -/

@[simp] theorem outcome_pure (result : Result) (trace : Trace) :
    outcome (pure result) trace = (.ok result, trace) := rfl

@[simp] theorem outcome_throw (stop : Stop) (trace : Trace) :
    outcome (throw stop : Scanning Result) trace = (.error stop, trace) := rfl

/-- A stop of the first part is a stop of the whole. -/
theorem outcome_bind (first : Scanning Other) (next : Other → Scanning Result) (trace : Trace) :
    outcome (first >>= next) trace =
      match outcome first trace with
      | (.ok result, later) => outcome (next result) later
      | (.error stop, later) => (.error stop, later) := by
  show (ExceptT.bind first next).run.run trace = _
  simp only [outcome, ExceptT.bind, ExceptT.run, ExceptT.mk, StateT.run, bind, StateT.bind]
  rcases first trace with ⟨_ | _, _⟩ <;> rfl

@[simp] theorem outcome_tell (event : Event) (trace : Trace) :
    outcome (tell event) trace = (.ok (), { trace with events := trace.events.push event }) := rfl

@[simp] theorem outcome_note (entry : Note) (trace : Trace) :
    outcome (note entry) trace = (.ok (), { trace with notes := trace.notes.push entry }) := rfl

@[simp] theorem outcome_remember (tokenizer : Tokenizer) (operation : Memory → Result × Memory)
    (trace : Trace) :
    outcome (remember tokenizer operation) trace =
      (.ok (operation (trace.memories.read tokenizer.identity)).1,
        { trace with
          memories := trace.memories.store tokenizer.identity
            (operation (trace.memories.read tokenizer.identity)).2 }) := rfl

@[simp] theorem outcome_fail (tokenizer : Tokenizer) (fault : Fault) (trace : Trace) :
    outcome (fail tokenizer fault : Scanning Result) trace =
      (.error (.fault { language := tokenizer.language, fault }), trace) := rfl

end Scanning

end LineLexer
