import LineLexer.Regex.Expr

/-!
**Expressions put together.**

Expressions are put together in their simplest form. Sequences of sequences are one sequence, texts
that follow each other are one text, and alternatives that begin with the same parts begin with
these parts once: what is preferred in a shared beginning is preferred before any choice among the
alternatives.

* `Expr.ofSet`: one character of a set;
* `Expr.sequenceOf`: expressions one after the other;
* `Expr.eitherOf`: alternatives;
* `Expr.repeated`: a repetition.
-/

namespace LineLexer.Regex.Expr

/-! ### Sets -/

/-- One character of a set. A set of one character is that character, and all empty sets are the
same. -/
def ofSet (set : CodeRanges) (ascii : Bool) : Expr :=
  match set with
  | [] => one [] true
  | [(first, last)] => if first = last then literal [Char.ofNat first] else one set ascii
  | _ => one set ascii

/-! ### Sequences -/

/-- The parts of a sequence in order. -/
def parts : Expr → List Expr
  | empty => []
  | sequence first rest => first :: rest.parts
  | expr => [expr]

/-- The sequence of given parts. -/
def ofParts : List Expr → Expr
  | [] => empty
  | [expr] => expr
  | expr :: rest => sequence expr (ofParts rest)

/-- A part put before others; a text before a text makes one text. -/
def consPart : Expr → List Expr → List Expr
  | literal text, literal next :: rest => literal (text ++ next) :: rest
  | expr, rest => expr :: rest

/-- Expressions one after the other. -/
def sequenceOf (exprs : List Expr) : Expr :=
  ofParts ((exprs.flatMap parts).foldr consPart [])

/-! ### Alternatives -/

/-- The alternatives of an expression in order. -/
def branches : Expr → List Expr
  | either first rest => first :: rest.branches
  | expr => [expr]

/-- The choice among given alternatives. Where there is none, nothing matches. -/
def ofBranches : List Expr → Expr
  | [] => ofSet [] true
  | [expr] => expr
  | expr :: rest => either expr (ofBranches rest)

/-- The character of a text of one character. -/
def letter? : Expr → Option Char
  | literal [letter] => some letter
  | _ => none

/-- The set of which an expression takes a character. -/
def set? : Expr → Option CodeRanges
  | one set _ => some set
  | _ => none

/-- The set of the characters that alternatives take, if all are texts of one character or all are
characters of sets. -/
def commonSet? (branches : List Expr) : Option CodeRanges :=
  let letters := (branches.mapM letter?).map fun letters =>
    CodeRanges.ofList (letters.map fun letter => (letter.toNat, letter.toNat))
  letters.or ((branches.mapM set?).map CodeRanges.unions)

/-- The longest beginning that two lists share. -/
def sharedStart : List Expr → List Expr → List Expr
  | left :: lefts, right :: rights => if left = right then left :: sharedStart lefts rights else []
  | _, _ => []

/-- The parts that all alternatives begin with. Only sequences of several parts share any. -/
def sharedParts : List Expr → List Expr
  | sequence first rest :: others =>
    others.foldl (fun shared branch =>
      match branch with
      | sequence _ _ => sharedStart shared branch.parts
      | _ => []) (first :: rest.parts)
  | _ => []

/-- The choice among several alternatives that share no beginning. -/
def choice (branches : List Expr) : Expr :=
  match commonSet? branches with
  | some set => ofSet set false
  | none => ofBranches branches

/-- Alternatives in order of preference, behind what they share. -/
def eitherOf (exprs : List Expr) : Expr :=
  match exprs.flatMap branches with
  | [] => ofBranches []
  | [expr] => expr
  | alternatives =>
    match sharedParts alternatives with
    | [] => choice alternatives
    | shared =>
      let remaining := alternatives.flatMap fun branch =>
        (ofParts (branch.parts.drop shared.length)).branches
      sequenceOf (shared ++ [choice remaining])

/-! ### Repetitions -/

/-- A repetition in its simplest form: what takes no character is needed at most once, no time at
all is nothing, and exactly once is the body itself. -/
def repeated (body : Expr) (least : Nat) (most : Option Nat) (greedy : Bool) : Expr :=
  let once := body.matchesOnlyEmpty
  let least := if once then min least 1 else least
  let most := if once then some (min (most.getD 1) 1) else most
  if most = some 0 then empty
  else if least = 1 ∧ most = some 1 then body
  else times body least most greedy

end LineLexer.Regex.Expr
