import LineLexer.Token.Basic

/-!
**Runs of equal tokens.**

A token that has the label of the token before it says nothing new. The runs of a sequence of events
are its tokens without those:

* `Runs.add`: one event more;
* `Runs.ofEvents`: the runs of a sequence;
* `ofEvents_append`: the runs of a longer sequence go on where those of the shorter one ended.
-/

namespace LineLexer

/-- The runs of the events so far. -/
structure Runs where
  /-- The first token of each run. -/
  tokens : Array Token := #[]
  /-- The language that holds; at first it has no name. -/
  language : String := ""
  deriving DecidableEq, Repr

namespace Runs

/-- Adds an event. -/
def add (runs : Runs) : Event → Runs
  | .language name => { runs with language := name }
  | .token offset classification side =>
    let token : Token := { offset, classification, language := runs.language, side }
    if runs.tokens.back?.map Token.label = some token.label then runs
    else { runs with tokens := runs.tokens.push token }

/-- The runs of a sequence of events. -/
def ofEvents (events : List Event) : Runs := events.foldl add {}

theorem ofEvents_append (earlier later : List Event) :
    ofEvents (earlier ++ later) = later.foldl add (ofEvents earlier) := by
  simp [ofEvents]

end Runs

end LineLexer
