import LineLexer.Regex.Expr

/-!
**Programs for patterns.**

An expression becomes a list of instructions that refer to each other by position. Instructions are
laid out from the end of the pattern to its start, so each is written when its successor is known;
a loop reserves the place of its branching instruction first.

* `Program.ofExpr`: the program of an expression, whose whole match is group zero.
-/

namespace LineLexer.Regex

/-- An instruction of a program. Instructions name their successors by position. -/
inductive Instruction where
  /-- Takes one character of a set. -/
  | take (set : CodeRanges) (next : Nat)
  /-- Goes on in two ways, the first preferred. -/
  | branch (first second : Nat)
  /-- Goes on where the assertion holds. -/
  | check (assertion : Assertion) (next : Nat)
  /-- Remembers the position in a slot. -/
  | save (slot next : Nat)
  /-- The pattern has matched. -/
  | accept
  deriving DecidableEq, Repr

/-- A program: its instructions, the one to start with, and the number of slots it saves to. -/
structure Program where
  code : Array Instruction
  start : Nat
  slots : Nat
  deriving DecidableEq, Repr

namespace Program

/-- Writes an instruction and answers its position. -/
def emit (code : Array Instruction) (instruction : Instruction) : Nat × Array Instruction :=
  (code.size, code.push instruction)

/-- A branch that prefers to enter a body if `greedy`, and to go on otherwise. -/
def choice (greedy : Bool) (body next : Nat) : Instruction :=
  if greedy then .branch body next else .branch next body

/-- How a part of a pattern is written before the instruction that follows it. -/
abbrev Writer := Nat → Array Instruction → Nat × Array Instruction

/-- A part written a number of times in a row. -/
def replicate (body : Writer) : Nat → Writer
  | 0, next, code => (next, code)
  | count + 1, next, code =>
    let (entry, code) := replicate body count next code
    body entry code

/-- A part written so that each of a number of times is optional once the one before it is there. -/
def optional (body : Writer) (greedy : Bool) (exit : Nat) : Nat → Array Instruction →
    Nat × Array Instruction
  | 0, code => (exit, code)
  | count + 1, code =>
    let (inner, code) := optional body greedy exit count code
    let (entry, code) := body inner code
    emit code (choice greedy entry exit)

/-- A part written so that it may come again. Answers the entry of the body and the branch behind
it. -/
def loop (body : Writer) (greedy : Bool) (next : Nat) (code : Array Instruction) :
    Nat × Nat × Array Instruction :=
  let (again, code) := emit code .accept
  let (entry, code) := body again code
  (entry, again, code.setIfInBounds again (choice greedy entry next))

/-- Writes an expression before the instruction that follows it, and answers where it starts. A loop
whose body can take nothing is entered behind a branch of its own, so that the order of preference
among empty matches is that of its alternatives. -/
def write : Expr → Writer
  | .empty, next, code => (next, code)
  | .literal text, next, code =>
    text.foldr (fun letter (entry, code) => emit code (.take (.single letter.toNat) entry))
      (next, code)
  | .one set _, next, code => emit code (.take set next)
  | .check assertion, next, code => emit code (.check assertion next)
  | .sequence first second, next, code =>
    let (entry, code) := write second next code
    write first entry code
  | .either first second, next, code =>
    let (left, code) := write first next code
    let (right, code) := write second next code
    emit code (.branch left right)
  | .times body least (some most) greedy, next, code =>
    let (entry, code) := optional (write body) greedy next (most - least) code
    replicate (write body) least entry code
  | .times body 0 none greedy, next, code =>
    let (entry, again, code) := loop (write body) greedy next code
    if body.matchesEmpty then emit code (choice greedy entry next) else (again, code)
  | .times body (least + 1) none greedy, next, code =>
    let (entry, _, code) := loop (write body) greedy next code
    replicate (write body) least entry code
  | .group index body, next, code =>
    let (close, code) := emit code (.save (2 * index + 1) next)
    let (entry, code) := write body close code
    emit code (.save (2 * index) entry)

/-- The program of an expression. -/
def ofExpr (expr : Expr) : Program :=
  let (final, code) := emit #[] .accept
  let (start, code) := write (.group 0 expr) final code
  { code, start, slots := 2 * expr.groupCount }

end Program

end LineLexer.Regex
