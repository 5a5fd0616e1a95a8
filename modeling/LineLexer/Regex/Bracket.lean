import LineLexer.Regex.Primitive

/-!
**Classes between brackets.**

A class lists characters, ranges, named classes and further classes; `&&`, `--` and `~~` combine
what stands before them with what follows, from left to right.

* `Bracket.read?`: the class at the start of a text, with the height of its nesting.
-/

namespace LineLexer.Regex.Bracket

/-- The operators between the parts of a class. -/
inductive Operator where
  | intersection
  | difference
  | symmetricDifference
  deriving DecidableEq, Repr

/-- The class that an operator makes of two. -/
def Operator.apply : Operator → CodeRanges → CodeRanges → CodeRanges
  | intersection, left, right => left.intersection right
  | difference, left, right => left.difference right
  | symmetricDifference, left, right => left.symmetricDifference right

/-- A class with the height of its nesting. -/
structure Nested where
  set : CodeRanges
  height : Nat

/-- The part of a class since its last operator: the items so far, their number and the greatest
height among them. -/
structure Items where
  set : CodeRanges := []
  count : Nat := 0
  height : Nat := 0

/-- Adds an item. -/
def Items.push (items : Items) (set : CodeRanges) (height : Nat) : Items :=
  { set := items.set.union set
    count := items.count + 1
    height := max items.height height }

/-- The items as one class. Only several items need a level of their own. -/
def Items.nested (items : Items) : Nested :=
  { set := items.set, height := if items.count < 2 then items.height else items.height + 1 }

/-- What stands before the last operator, with the operator. -/
abbrev Left := Option (Nested × Operator)

/-- The part before an operator combined with the one after it. -/
def combine (flags : Flags) (left : Left) (right : Nested) : Nested :=
  match left with
  | none => right
  | some (left, operator) =>
    { set :=
        operator.apply (Primitive.closure flags left.set) (Primitive.closure flags right.set)
      height := max left.height right.height + 1 }

/-- A class between `[:` and `:]`, which may be turned into its opposite by `^`. -/
def named? (text : List Char) : Option (CodeRanges × Bool × List Char) := do
  let (outside, text) ←
    match text with
    | '[' :: ':' :: '^' :: rest => some (true, rest)
    | '[' :: ':' :: rest => some (false, rest)
    | _ => none
  match text.dropWhile (· != ':') with
  | ':' :: ']' :: rest =>
    (CharClass.bracketed? (String.ofList (text.takeWhile (· != ':')))).map (·, outside, rest)
  | _ => none

/-- One character of a class, or a primitive behind a backslash. -/
def primitive? (flags : Flags) : List Char → Option (Primitive × List Char)
  | [] => none
  | '\\' :: rest => Primitive.escape? flags rest
  | letter :: rest => some (.literal letter false, rest)

/-- The character after the next one, past blanks and one comment mark where these do not count. -/
def peek (flags : Flags) : List Char → Option Char
  | [] => none
  | _ :: rest =>
    if flags.verbose then
      match rest.dropWhile isBlank with
      | [] => rest.head?
      | '#' :: comment => (comment.dropWhile isBlank).head?.or rest.head?
      | letter :: _ => some letter
    else rest.head?

/-- The characters that a primitive adds to a class. -/
def members? (flags : Flags) (item : Primitive) : Option CodeRanges :=
  ((item.member? flags).map fun letter => .single letter.toNat).or (item.class? flags)

/-- An item that is no class of its own: a single primitive or a range of characters. -/
def item? (flags : Flags) (text : List Char) : Option (CodeRanges × List Char) := do
  let (first, rest) ← primitive? flags text
  let rest := skip flags rest
  match rest with
  | [] => none
  | '-' :: after =>
    if peek flags rest = some ']' ∨ peek flags rest = some '-' then
      (members? flags first).map (·, rest)
    else
      match skip flags after with
      | [] => none
      | text => do
        let (second, rest) ← primitive? flags text
        let low ← first.member? flags
        let high ← second.member? flags
        if low ≤ high then some ([(low.toNat, high.toNat)], rest) else none
  | _ => (members? flags first).map (·, rest)

/-- Takes the hyphens that start a class and stand for themselves. -/
def hyphens (flags : Flags) : Nat → List Char → Items → Items × List Char
  | 0, text, items => (items, text)
  | steps + 1, text, items =>
    match text with
    | '-' :: rest => hyphens flags steps (skip flags rest) (items.push (.single '-'.toNat) 0)
    | _ => (items, text)

/-- The start of a class, past its opening bracket: whether it is turned into its opposite, and the
hyphens, or else the closing bracket, that stand for themselves there. -/
def start (flags : Flags) (text : List Char) : Bool × Items × List Char :=
  let text := skip flags text
  let (outside, text) :=
    match text with
    | '^' :: rest => (true, skip flags rest)
    | _ => (false, text)
  let (items, text) := hyphens flags text.length text {}
  match items.count, text with
  | 0, ']' :: rest => (outside, items.push (.single ']'.toNat) 0, skip flags rest)
  | _, text => (outside, items, text)

/-- The rest of a class up to and including its closing bracket. `outside` tells whether the class
is turned into its opposite. Each step takes a part of the text, whose length bounds the steps. -/
def rest? (flags : Flags) (outside : Bool) :
    Nat → List Char → Items → Left → Option (Nested × List Char)
  | 0, _, _, _ => none
  | steps + 1, text, items, left => do
    let text := skip flags text
    match text with
    | [] => none
    | ']' :: rest =>
      let whole := combine flags left items.nested
      let set ← Primitive.fold? flags whole.set outside
      some ({ set, height := whole.height + 1 }, rest)
    | '[' :: rest =>
      match named? text with
      | some (set, outsideNamed, rest) =>
        let set ← Primitive.fold? flags set outsideNamed
        rest? flags outside steps rest (items.push set 0) left
      | none =>
        let (outsideInner, inner, rest) := start flags rest
        let (nested, rest) ← rest? flags outsideInner steps rest inner none
        rest? flags outside steps rest (items.push nested.set nested.height) left
    | '&' :: '&' :: rest =>
      rest? flags outside steps rest {} (some (combine flags left items.nested, .intersection))
    | '-' :: '-' :: rest =>
      rest? flags outside steps rest {} (some (combine flags left items.nested, .difference))
    | '~' :: '~' :: rest =>
      rest? flags outside steps rest {}
        (some (combine flags left items.nested, .symmetricDifference))
    | _ =>
      let (set, rest) ← item? flags text
      rest? flags outside steps rest (items.push set 0) left

/-- The class at the start of a text, past its opening bracket. -/
def read? (flags : Flags) (text : List Char) : Option (Nested × List Char) :=
  let (outside, items, rest) := start flags text
  rest? flags outside (text.length + 1) rest items none

end LineLexer.Regex.Bracket
