import LineLexer.Unicode.ByteRanges

/-!
**Automata laid out.**

What a pattern needs room for is an automaton that reads bytes. Its states are numbered as they are
laid out; each takes the same room and perhaps some for its transitions. Where one character of a
set is read, states are shared: a state is looked up by what it does in a table with a number of
places, where each state takes the place of an earlier one, and is laid out only if it is not found.

* `Layout`: how many states are laid out, and what room they take;
* `Layout.readAhead`, `Layout.readBack`: the states that read one character of a set, from its
  first byte on or from its last byte on;
* `Layout.texts`: the states that read one of several texts.
-/

namespace LineLexer.Regex

/-- States that are laid out: how many there are, and the bytes that their transitions take. -/
structure Layout where
  states : Nat := 0
  transitions : Nat := 0
  deriving DecidableEq, Repr

namespace Layout

/-- The room in bytes that a regular expression may take. -/
def limit : Nat := 10485760

/-- The bytes that a state takes apart from its transitions. -/
def stateRoom : Nat := 32

/-- The bytes that a transition on a range of bytes takes. -/
def rangeRoom : Nat := 8

/-- The bytes that a transition without a byte takes. -/
def choiceRoom : Nat := 4

/-- The room that the states take. -/
def room (layout : Layout) : Nat := stateRoom * layout.states + layout.transitions

/-- Whether the states take more room than there is. -/
def isFull (layout : Layout) : Bool := limit < layout.room

/-- Lays out a number of states, whose transitions take no room of their own. -/
def plain (count : Nat) (layout : Layout) : Layout :=
  { layout with states := layout.states + count }

/-- Lays out a state with transitions on a number of ranges of bytes. -/
def ranges (count : Nat) (layout : Layout) : Layout :=
  { states := layout.states + 1, transitions := layout.transitions + rangeRoom * count }

/-- Lays out a state from which there are several ways on. -/
def ways (count : Nat) (layout : Layout) : Layout :=
  { states := layout.states + 1, transitions := layout.transitions + choiceRoom * count }

/-- Lays out the same a number of times, until there is no more room. -/
def times (body : Layout → Layout) : Nat → Layout → Layout
  | 0, layout => layout
  | count + 1, layout => if layout.isFull then layout else times body count (body layout)

/-! ### Shared states -/

/-- A layout with the states that can be shared: each place holds what one state does and its
number. -/
structure Sharing where
  layout : Layout
  places : Array (Option (List Nat × Nat))

/-- Where nothing can be shared yet, with a number of places. -/
def withPlaces (count : Nat) (layout : Layout) : Sharing :=
  { layout, places := Array.replicate count none }

/-- The number that a list of numbers is known by, mixed from one after the other. -/
def digest (numbers : List Nat) : UInt64 :=
  numbers.foldl (fun mixed number => (mixed ^^^ number.toUInt64) * 1099511628211)
    14695981039346656037

/-- Lays out a state by `add`, which takes a place of its own. -/
def Sharing.lay (action : List Nat) (place : Nat) (add : Layout → Layout) :
    Sharing → Nat × Sharing
  | { layout, places } =>
    let number := layout.states
    (number,
      { layout := add layout, places := places.setIfInBounds place (some (action, number)) })

/-- The state that does what `action` tells, laid out by `add` if it is not found. -/
def Sharing.state (action : List Nat) (add : Layout → Layout) (sharing : Sharing) :
    Nat × Sharing :=
  let place := (digest action).toNat % sharing.places.size
  match sharing.places[place]? with
  | some (some (known, number)) =>
    if known = action then (number, sharing) else sharing.lay action place add
  | _ => sharing.lay action place add

/-! ### One character of a set -/

/-- Whether two sequences start with the same range. -/
def sameHead : ByteRanges → ByteRanges → Bool
  | left :: _, right :: _ => left = right
  | _, _ => false

/-- The state that reads one of several sequences and goes on with the state `next`: it has a
transition on each range that sequences start with. No sequence is longer than `depth`. -/
def stateAhead (next : Nat) : Nat → List ByteRanges → Sharing → Nat × Sharing
  | 0, _, sharing => (next, sharing)
  | depth + 1, sequences, sharing =>
    let groups := sequences.splitBy sameHead
    let (action, sharing) := groups.foldl (fun (action, sharing) group =>
      match group with
      | ((first, last) :: rest) :: _ =>
        let (target, sharing) :=
          if rest.isEmpty then (next, sharing)
          else stateAhead next depth (group.map List.tail) sharing
        (target :: last :: first :: action, sharing)
      | _ => (action, sharing)) ([], sharing)
    sharing.state action.reverse (ranges groups.length)

/-- Lays out what reads a character of a set from its first byte on. -/
def readAhead (set : CodeRanges) (layout : Layout) : Layout :=
  let next := layout.states
  (stateAhead next 4 (ByteRanges.ofSet set) ((layout.plain 1).withPlaces 10000)).2.layout

/-- Lays out what reads a character of a set from its last byte on, so that a state is shared by
sequences that end alike in reading, which are those that start alike. -/
def readBack (set : CodeRanges) (layout : Layout) : Layout :=
  let sequences := ByteRanges.ofSet set
  let next := layout.states + 1
  let sharing := sequences.foldl (fun sharing sequence =>
    (sequence.foldl (fun (target, sharing) (first, last) =>
      sharing.state [target, first, last] (plain 1)) (next, sharing)).2)
    (((layout.ways sequences.length).plain 1).withPlaces 1000)
  sharing.layout

/-! ### One of several texts -/

/-- The lists of bytes between those that are empty. -/
def chunks : List (List Nat) → List (List (List Nat))
  | [] => [[]]
  | [] :: rest => [] :: chunks rest
  | text :: rest =>
    match chunks rest with
    | chunk :: later => (text :: chunk) :: later
    | [] => [[text]]

/-- Lays out the states that read one of several lists of bytes, those with the same first byte
together. Where one of them ends and others go on, those before and behind it are kept apart, for
the order in which they are preferred. No list is longer than `depth`. -/
def tree : Nat → List (List Nat) → Layout → Layout
  | 0, _, layout => layout
  | depth + 1, texts, layout =>
    if texts.all List.isEmpty then layout
    else
      let ends := if texts.head? = some [] then 1 else 0
      let chunks := chunks (texts.dropWhile List.isEmpty)
      let layout := chunks.foldl (fun layout chunk =>
        let heads := (chunk.filterMap List.head?).eraseDups
        let layout := heads.foldl (fun layout head =>
          tree depth ((chunk.filter fun text => text.head? = some head).map List.tail) layout)
          layout
        match heads.length with
        | 0 => layout
        | 1 => layout.plain 1
        | count => layout.ranges count) layout
      layout.ways (ends + (chunks.length - 1) + (chunks.filter fun chunk => !chunk.isEmpty).length)

/-- Lays out the states that read one of several lists of bytes. -/
def texts (texts : List (List Nat)) (layout : Layout) : Layout :=
  tree ((texts.map List.length).foldl max 0 + 1) texts (layout.plain 1)

end Layout

end LineLexer.Regex
