import LineLexer.Grammar.Basic
import LineLexer.State.Cache
import LineLexer.Table

/-!
**Tokenizers.**

A tokenizer is a grammar with limits. What it keeps from line to line for its own use is held apart
from it, so that a tokenizer is a value:

* `Tokenizer`, `Limits`: a grammar ready for lines;
* `Memory`: the stacks and line states that a tokenizer shares, and the patterns that it compiled
  last;
* `Memories`: the memories of all tokenizers at work.
-/

namespace LineLexer

/-- The limits of a tokenizer. -/
structure Limits where
  /-- Nothing goes on top of a stack of this depth. -/
  stackDepth : Nat := 100
  /-- Longer lines, in bytes, are not tokenized. -/
  lineLength : Nat := 20000
  deriving DecidableEq, Repr, Inhabited

/-- A grammar ready for lines. -/
structure Tokenizer where
  /-- What tells this tokenizer from others. -/
  identity : Nat
  grammar : Grammar
  limits : Limits := {}
  /-- Whether embedded languages are looked up in a registry. -/
  linked : Bool := false
  deriving Repr

namespace Tokenizer

/-- The language that a tokenizer classifies. -/
def language (tokenizer : Tokenizer) : String := tokenizer.grammar.language

/-- A tokenizer for the reader of a log. -/
def describe (tokenizer : Tokenizer) : String :=
  "Tokenizer \x7b language_id: " ++ Quoted.literal tokenizer.language ++
    ", options: TokenizerOptions \x7b max_stack_depth: " ++ toString tokenizer.limits.stackDepth ++
    ", max_line_length: " ++ toString tokenizer.limits.lineLength ++
    " \x7d, has_resolver: " ++ (if tokenizer.linked then "true" else "false") ++ ", .. \x7d"

/-- A tokenizer in one short term. -/
def brief (tokenizer : Tokenizer) : String :=
  "Tokenizer(" ++ Quoted.literal tokenizer.language ++ ")"

end Tokenizer

/-! ### Memories -/

/-- What a tokenizer keeps from line to line for its own use. -/
structure Memory where
  /-- The stacks and line states that are shared. -/
  cache : StateCache
  /-- What was compiled last for a pattern, by its source. -/
  memos : Table String (String × Regex) := {}
  deriving Repr

namespace Memory

/-- The memory of a tokenizer that has seen no line. -/
def blank (identity : Nat) : Memory where
  cache := { owner := identity }

/-- Keeps what was compiled last for a pattern. -/
def keep (memory : Memory) (source : String) : Pattern.Memo → Memory
  | none => memory
  | some memo => { memory with memos := memory.memos.put source memo }

end Memory

/-- The memories of tokenizers, by their identities. -/
structure Memories where
  table : Table Nat Memory := {}
  deriving Repr

namespace Memories

/-- The memory of a tokenizer; one that is not known yet has seen no line. -/
def read (memories : Memories) (identity : Nat) : Memory :=
  (memories.table.get? identity).getD (.blank identity)

/-- Replaces the memory of a tokenizer. -/
def store (memories : Memories) (identity : Nat) (memory : Memory) : Memories where
  table := memories.table.put identity memory

/-- A memory is replaced for its own tokenizer and for no other. -/
theorem read_store (memories : Memories) (identity other : Nat) (memory : Memory) :
    (memories.store identity memory).read other =
      if other = identity then memory else memories.read other := by
  simp only [read, store, Table.get?_put]
  split <;> rfl

end Memories

end LineLexer
