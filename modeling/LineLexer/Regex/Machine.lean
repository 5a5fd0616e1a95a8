import LineLexer.Regex.Program

/-!
**Running of programs.**

A program is run on a text by a list of threads in order of preference. At each position every
thread follows the instructions that take no character; then each thread that waits for a character
takes the next one. A place in the program that one thread has reached at a position is closed to
all later threads there, so the work at a position is bounded by the size of the program.

* `Machine.follow`: the places that threads reach without taking a character;
* `Machine.run`: the slots of the preferred match that starts at a position;
* `Machine.search?`: the first position from which there is a match, with its slots.
-/

namespace LineLexer.Regex.Machine

/-- A thread: a place in the program, and the positions remembered on the way to it. -/
structure Thread where
  place : Nat
  slots : List (Option Nat)
  deriving DecidableEq, Repr

/-- Follows instructions that take no character, depth first and in order of preference, from the
places of `todo`. `seen` has a bit for each place that was reached before. Every step drops a thread
that came too late, or reaches a place, which adds at most two threads, so the number of steps is
bounded. -/
def follow (code : Array Instruction) (before after : Option Char) (position : Nat) :
    Nat → List Thread → Nat → List Thread → List Thread
  | 0, _, _, reached => reached.reverse
  | _ + 1, [], _, reached => reached.reverse
  | steps + 1, thread :: todo, seen, reached =>
    if seen.testBit thread.place then follow code before after position steps todo seen reached
    else
      let seen := seen ||| (1 <<< thread.place)
      match code[thread.place]? with
      | some (.branch first second) =>
        follow code before after position steps
          ({ thread with place := first } :: { thread with place := second } :: todo) seen reached
      | some (.check assertion next) =>
        if assertion.holds before after then
          follow code before after position steps ({ thread with place := next } :: todo) seen
            reached
        else follow code before after position steps todo seen reached
      | some (.save slot next) =>
        follow code before after position steps
          ({ place := next, slots := thread.slots.set slot (some position) } :: todo) seen reached
      | some (.take _ _) | some .accept =>
        follow code before after position steps todo seen (thread :: reached)
      | none => follow code before after position steps todo seen reached

/-- The threads that wait for a character before the first one that has matched, and the slots of
that one. -/
def untilMatch (code : Array Instruction) : List Thread → List Thread × Option (List (Option Nat))
  | [] => ([], none)
  | thread :: rest =>
    match code[thread.place]? with
    | some .accept => ([], some thread.slots)
    | _ =>
      let (waiting, found) := untilMatch code rest
      (thread :: waiting, found)

/-- What becomes of a thread that takes a character. -/
def advance? (code : Array Instruction) (letter : Char) (thread : Thread) : Option Thread :=
  match code[thread.place]? with
  | some (.take set next) =>
    if set.contains letter.toNat then some { thread with place := next } else none
  | _ => none

/-- Runs threads on the rest of a text. `best` holds the slots of the match found so far, which a
thread that is still alive would be preferred to. -/
def runThreads (program : Program) (before : Option Char) (position : Nat) (threads : List Thread)
    (best : Option (List (Option Nat))) : List Char → Option (List (Option Nat))
  | [] =>
    let reached := follow program.code before none position
      (threads.length + 2 * program.code.size + 1) threads 0 []
    (untilMatch program.code reached).2.or best
  | letter :: rest =>
    let reached := follow program.code before (some letter) position
      (threads.length + 2 * program.code.size + 1) threads 0 []
    let (waiting, found) := untilMatch program.code reached
    let best := found.or best
    match waiting.filterMap (advance? program.code letter) with
    | [] => best
    | moved => runThreads program (some letter) (position + 1) moved best rest

/-- The slots of the preferred match that starts at a position, where `rest` follows `before`. -/
def run (program : Program) (before : Option Char) (position : Nat) (rest : List Char) :
    Option (List (Option Nat)) :=
  runThreads program before position
    [{ place := program.start, slots := List.replicate program.slots none }] none rest

/-- The slots of the preferred match at the first position that has one. Where `startsText` says
that matches start with the text, no later position is tried. -/
def search? (program : Program) (startsText : Bool) (before : Option Char) (position : Nat) :
    List Char → Option (List (Option Nat))
  | [] => run program before position []
  | letter :: rest =>
    match run program before position (letter :: rest) with
    | some slots => some slots
    | none =>
      if startsText then none
      else search? program startsText (some letter) (position + 1) rest

end LineLexer.Regex.Machine
