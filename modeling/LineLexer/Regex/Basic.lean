import LineLexer.Regex.Machine
import LineLexer.Regex.Reader
import LineLexer.Regex.Room
import LineLexer.Text.Basic

/-!
**Regular expressions.**

A pattern is compiled once and then searched for in texts. Of all matches the one that starts first
is found, and among those the one that the order of alternatives and the greed of repetitions
prefer.

* `Regex.compile`: the regular expression of a pattern, or the reason why there is none;
* `Regex.find?`: the first match in a text, with the places of its groups;
* `Regex.escape`: the pattern that matches a text literally.
-/

namespace LineLexer

/-- A compiled regular expression. -/
structure Regex where
  /-- The pattern as it was written. -/
  pattern : String
  /-- What the pattern became. -/
  program : Regex.Program
  /-- Whether matches can only start where the text starts. -/
  startsText : Bool
  deriving DecidableEq, Repr

namespace Regex

/-- Why a pattern has no regular expression. -/
inductive Rejection where
  /-- It is not written as one. -/
  | malformed
  /-- It would take too much room. -/
  | tooLarge
  deriving DecidableEq, Repr

/-- What a rejection says beyond that there is no regular expression: nothing if the pattern is not
written as one. -/
def Rejection.detail? : Rejection → Option String
  | malformed => none
  | tooLarge => some ("Compiled regex exceeds size limit of " ++ toString Layout.limit ++ " bytes.")

/-- Compiles a pattern; letters match all their case variants if `ignoreCase`. -/
def compile (ignoreCase : Bool) (pattern : String) : Except Rejection Regex :=
  match Expr.read? { ignoreCase } pattern with
  | none => .error .malformed
  | some expr =>
    if expr.fits then .ok { pattern, program := .ofExpr expr, startsText := expr.startsText }
    else .error .tooLarge

/-- A match: for each group, the whole match first, the places of its characters if it took part. -/
structure Match where
  groups : List (Option (Nat × Nat))
  deriving DecidableEq, Repr

/-- The groups that pairs of slots describe. -/
def Match.ofSlots : List (Option Nat) → List (Option (Nat × Nat))
  | some start :: some finish :: rest => some (start, finish) :: ofSlots rest
  | _ :: _ :: rest => none :: ofSlots rest
  | _ => []

/-- The text of a group; a group that took no part has none. -/
def Match.textOf (text : Text) : Option (Nat × Nat) → Text
  | some (start, finish) => (text.drop start).take (finish - start)
  | none => []

/-- The texts of all groups. -/
def Match.captures (found : Match) (text : Text) : List Text :=
  found.groups.map (textOf text)

/-- The number of characters before a match. -/
def Match.start (found : Match) : Nat :=
  ((found.groups.head?.getD none).map (·.1)).getD 0

/-- The first match in a text. -/
def find? (regex : Regex) (text : Text) : Option Match :=
  (Machine.search? regex.program regex.startsText none 0 text).map fun slots =>
    { groups := Match.ofSlots slots }

/-- Whether there is a match in a text. -/
def isMatch (regex : Regex) (text : Text) : Bool := (regex.find? text).isSome

/-- The pattern that matches a text literally. -/
def escape (text : Text) : Text :=
  text.flatMap fun letter => if Primitive.isMeta letter then ['\\', letter] else [letter]

end Regex

end LineLexer
