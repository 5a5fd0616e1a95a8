import LineLexer.Token.Basic

/-!
**Encoded tokens.**

A host may want a number in place of each label. Here, too, a token that has the number of the token
before it says nothing new, unless the language has changed in between:

* `Encoder`: the number for a language, a classification and a side;
* `EncodedRuns.add`, `EncodedRuns.ofEvents`: the encoded runs of a sequence of events;
* `Encoder.fingerprint`, `Encoder.lengths`, `Encoder.sides`, `Encoder.constant`: four encoders.
-/

namespace LineLexer

/-- The number for a language, a classification and a side. -/
abbrev Encoder := String → String → Option Side → UInt32

/-- Where a number starts to hold. -/
structure EncodedToken where
  offset : Nat
  metadata : UInt32
  deriving DecidableEq, Repr

/-- The encoded runs of the events so far. -/
structure EncodedRuns where
  tokens : Array EncodedToken := #[]
  /-- The language that holds; at first it has no name. -/
  language : String := ""
  /-- The last number since the language changed. -/
  last : Option UInt32 := none
  deriving DecidableEq, Repr

namespace EncodedRuns

/-- Adds an event. -/
def add (encoder : Encoder) (runs : EncodedRuns) : Event → EncodedRuns
  | .language name =>
    if runs.language = name then runs else { runs with language := name, last := none }
  | .token offset classification side =>
    let metadata := encoder runs.language classification side
    if runs.last = some metadata then runs
    else { runs with tokens := runs.tokens.push { offset, metadata }, last := some metadata }

/-- The encoded runs of a sequence of events. -/
def ofEvents (encoder : Encoder) (events : List Event) : EncodedRuns :=
  events.foldl (add encoder) {}

theorem ofEvents_append (encoder : Encoder) (earlier later : List Event) :
    ofEvents encoder (earlier ++ later) = later.foldl (add encoder) (ofEvents encoder earlier) := by
  simp [ofEvents]

end EncodedRuns

namespace Encoder

/-- The number of a side. -/
def sideNumber : Option Side → UInt32
  | none => 0
  | some .opening => 1
  | some .closing => 2

/-- A fingerprint of bytes: starting from an offset basis, each byte is mixed in by an exclusive or,
and the result is multiplied by a prime. -/
def fingerprintOf (bytes : List UInt8) : UInt32 :=
  bytes.foldl (fun hash byte => (hash ^^^ byte.toUInt32) * 0x01000193) 0x811c9dc5

/-- The fingerprint of the whole label, its parts kept apart by zeros. -/
def fingerprint : Encoder := fun language classification side =>
  fingerprintOf
    (language.toUTF8.toList ++ 0 :: classification.toUTF8.toList ++ [0, (sideNumber side).toUInt8])

/-- The lengths of the language and of the classification in bytes, and the side. -/
def lengths : Encoder := fun language classification side =>
  (language.utf8ByteSize.toUInt32 <<< 16) ||| (classification.utf8ByteSize.toUInt32 <<< 2) |||
    sideNumber side

/-- The side alone. -/
def sides : Encoder := fun _ _ side => sideNumber side

/-- One number for all. -/
def constant (number : UInt32) : Encoder := fun _ _ _ => number

end Encoder

end LineLexer
