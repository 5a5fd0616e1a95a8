import LineLexer.Regex.Assembly
import LineLexer.Regex.Layout

/-!
**Room of patterns.**

A pattern is searched for with two automata, one that reads forward and finds where a match ends,
and one that reads backward and finds where it starts. Both have to fit into the room there is. Only
the one that reads forward has states for groups.

* `Direction`: the two ways to read;
* `Expr.layOut`: the states of an expression;
* `Expr.fits`: whether both automata of a pattern find room.
-/

namespace LineLexer.Regex

/-- The ways to read a text. -/
inductive Direction where
  | forward
  | backward
  deriving DecidableEq, Repr

namespace Expr

/-- The bytes of a text, in the order in which they are read. -/
def bytes (direction : Direction) (text : List Char) : List Nat :=
  let bytes := text.flatMap fun letter => (String.utf8EncodeChar letter).map UInt8.toNat
  match direction with
  | .forward => bytes
  | .backward => bytes.reverse

/-- The text that an expression consists of. -/
def text? : Expr → Option (List Char)
  | literal text => some text
  | _ => none

/-- Lays out one character of a set. What has ASCII alone needs no states for further bytes. -/
def layOutSet (direction : Direction) (set : CodeRanges) (layout : Layout) : Layout :=
  if List.all set fun range => range.2 < 0x80 then (layout.plain 1).ranges set.length
  else
    match direction with
    | .forward => layout.readAhead set
    | .backward => layout.readBack set

/-- Lays out alternatives, each given by how it is laid out. The state in front of them and the one
behind them come after the second. -/
def layOutChoice : List (Layout → Layout) → Layout → Layout
  | [], layout => layout
  | [only], layout => only layout
  | first :: second :: rest, layout =>
    rest.foldl (fun layout next => next layout)
      (((second (first layout)).ways (rest.length + 2)).plain 1)

/-- Lays out an expression whose alternatives are laid out in given ways. Where all alternatives are
texts, they share states. -/
def layOutWhole (direction : Direction) (expr : Expr) (alternatives : List (Layout → Layout))
    (layout : Layout) : Layout :=
  match expr, expr.branches.mapM text? with
  | either _ _, some texts => layout.texts (texts.map (bytes direction))
  | _, _ => layOutChoice alternatives layout

/-- Lays out a repetition of a body. -/
def layOutTimes (matchesEmpty : Bool) (body : Layout → Layout) : Nat → Option Nat → Layout → Layout
  | 0, some 1, layout => (body (layout.ways 2)).plain 1
  | 0, none, layout =>
    if matchesEmpty then (((body layout).ways 2).ways 2).plain 1 else body (layout.ways 2)
  | least, none, layout => (layout.times body least).ways 2
  | least, some most, layout =>
    let layout := if least = 0 then layout.plain 1 else layout.times body least
    if least = most then layout
    else (layout.plain 1).times (fun layout => body (layout.ways 2)) (most - least)

/-- How each of the alternatives of an expression is laid out. -/
def layOuts (direction : Direction) : Expr → List (Layout → Layout)
  | empty => [Layout.plain 1]
  | literal text => [Layout.plain (bytes direction text).length]
  | one set _ => [layOutSet direction set]
  | check _ => [Layout.plain 1]
  | sequence first second =>
    let first := layOutWhole direction first (layOuts direction first)
    let second := layOutWhole direction second (layOuts direction second)
    match direction with
    | .forward => [second ∘ first]
    | .backward => [first ∘ second]
  | either first rest =>
    layOutWhole direction first (layOuts direction first) :: layOuts direction rest
  | times body least most _ =>
    [layOutTimes body.matchesEmpty (layOutWhole direction body (layOuts direction body)) least most]
  | group _ body =>
    let body := layOutWhole direction body (layOuts direction body)
    match direction with
    | .forward => [fun layout => (body (layout.plain 1)).plain 1]
    | .backward => [body]

/-- Lays out an expression. -/
def layOut (direction : Direction) (expr : Expr) : Layout → Layout :=
  layOutWhole direction expr (layOuts direction expr)

/-- Whether a match can only end where the text ends. -/
def endsText : Expr → Bool
  | check .textEnd => true
  | empty | literal _ | one _ _ | check _ => false
  | sequence first second => second.endsText || (second.matchesOnlyEmpty && first.endsText)
  | either first second => first.endsText && second.endsText
  | times body least _ _ => least != 0 && body.endsText
  | group _ body => body.endsText

/-- The whole automaton of a pattern. In front of it stands what skips the text before a match,
unless that is empty; behind it stands the state that accepts. -/
def automaton (direction : Direction) (expr : Expr) : Layout :=
  let atEdge :=
    match direction with
    | .forward => expr.startsText
    | .backward => expr.endsText
  let skip : Layout := if atEdge then { states := 1 } else ((({} : Layout).ways 2).plain 1).ranges 1
  (layOut direction (group 0 expr) skip).plain 1

/-- Whether both automata of a pattern find room. -/
def fits (expr : Expr) : Bool :=
  !(automaton .backward expr).isFull && !(automaton .forward expr).isFull

end Expr

end LineLexer.Regex
