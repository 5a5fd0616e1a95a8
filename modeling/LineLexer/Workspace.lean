import LineLexer.Tokenizer.Line

/-!
**Workspaces.**

A workspace holds the tokenizers that have been made, their memories, and a registry through which
they find each other, unless it has been given up:

* `Workspace.add`, `Workspace.dropRegistry`, `Workspace.changeRegistry`: changes of what is known;
* `Workspace.initialState`, `Workspace.tokenize`: work of tokenizers, answered by a `Report`.
-/

namespace LineLexer

/-- What the work of a tokenizer came to, and what it told. -/
structure Report where
  result : Except Stop LineState
  events : Array Event
  notes : Array Note
  deriving Repr

/-- Tokenizers at work. -/
structure Workspace where
  registry : Option Registry := some {}
  /-- The tokenizers that were made last for each language, registered or not. -/
  tokenizers : Table String Tokenizer := {}
  memories : Memories := {}
  /-- The number of tokenizers made so far. -/
  made : Nat := 0
  deriving Repr

namespace Workspace

/-- Makes a tokenizer of a grammar, and registers it if there is a registry. -/
def add (workspace : Workspace) (grammar : Grammar) (limits : Limits) : Tokenizer × Workspace :=
  let linked := workspace.registry.isSome
  let tokenizer : Tokenizer := { identity := workspace.made, grammar, limits, linked }
  (tokenizer, { workspace with
    registry := workspace.registry.map (·.register tokenizer)
    tokenizers := workspace.tokenizers.put tokenizer.language tokenizer
    made := workspace.made + 1 })

/-- Gives up the registry. Embedded languages are unknown from then on. -/
def dropRegistry (workspace : Workspace) : Workspace := { workspace with registry := none }

/-- Changes what is registered. -/
def changeRegistry (workspace : Workspace) (change : Registry → Registry) : Workspace :=
  { workspace with registry := workspace.registry.map change }

/-- The tokenizer that was made last for a language. -/
def tokenizer? (workspace : Workspace) (language : String) : Option Tokenizer :=
  workspace.tokenizers.get? language

/-- Does the work of a tokenizer. -/
def perform (workspace : Workspace) (work : Scanning LineState) : Report × Workspace :=
  let (result, trace) := work.outcome { memories := workspace.memories }
  ({ result, events := trace.events, notes := trace.notes },
    { workspace with memories := trace.memories })

/-- The state in which the first line of a language starts. -/
def initialState (workspace : Workspace) (tokenizer : Tokenizer) : Report × Workspace :=
  workspace.perform tokenizer.initialState

/-- Tokenizes a line. -/
def tokenize (workspace : Workspace) (job : Job) : Report × Workspace :=
  workspace.perform (job.tokenize workspace.registry)

end Workspace

end LineLexer
