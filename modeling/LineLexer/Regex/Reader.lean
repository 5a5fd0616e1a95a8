import LineLexer.Regex.Bracket

/-!
**Reading of patterns.**

A pattern is read from left to right into one expression, the flags in force being resolved on the
way. What is no pattern is refused without a reason, because no caller asks for one.

* `Expr.read?`: the expression that a pattern stands for;
* `heightLimit`: how deep groups, classes, repetitions, sequences and alternatives may nest.
-/

namespace LineLexer.Regex

namespace Reader

/-- A part of a pattern: what it means, the height of its nesting, and whether a repetition may
follow it, which a change of flags does not allow. -/
structure Part where
  expr : Expr
  height : Nat
  repeatable : Bool := true

/-- What is left of a pattern, with what earlier parts decided about it. -/
structure Cursor where
  /-- The rest of the pattern. -/
  rest : List Char
  /-- The flags in force. -/
  flags : Flags
  /-- The number that the next numbered group gets. -/
  nextGroup : Nat := 1
  /-- The names of the groups so far. -/
  names : List (List Char) := []

/-- Parts, given last first, as one part. Only several parts need a level of their own. -/
def assemble (join : List Expr → Expr) : List Part → Part
  | [] => { expr := .empty, height := 0 }
  | [part] => part
  | parts =>
    { expr := join (parts.reverse.map Part.expr)
      height := parts.foldl (fun height part => max height part.height) 0 + 1 }

/-- The parts of a sequence, given last first, as one part. -/
def sequence (parts : List Part) : Part := assemble .sequenceOf parts

/-- Alternatives, given last first, as one part. -/
def alternatives (branches : List Part) : Part := assemble .eitherOf branches

/-! ### Groups -/

/-- Whether a character may stand in the name of a group. -/
def isNameChar (first : Bool) (letter : Char) : Bool :=
  letter == '_' || Property.alphabetic.contains letter.toNat ||
    (!first && (letter == '.' || letter == '[' || letter == ']' ||
      [Category.decimalNumber, .letterNumber, .otherNumber].any
        fun category => category.ranges.contains letter.toNat))

/-- The name of a group up to the angle that closes it. -/
def groupName? (text : List Char) : Option (List Char × List Char) :=
  match text.takeWhile (· != '>'), text.dropWhile (· != '>') with
  | first :: name, '>' :: rest =>
    if isNameChar true first && name.all (isNameChar false) then some (first :: name, rest)
    else none
  | _, _ => none

/-- How a parenthesis starts: it changes flags, or it opens a group with or without a number. -/
inductive Opening where
  | flags (flags : Flags)
  | group (flags : Flags) (number : Option Nat)

/-- The opening of a numbered group, after which the next group gets the next number. -/
def Cursor.openNumbered (cursor : Cursor) : Opening × Cursor :=
  (.group cursor.flags (some cursor.nextGroup), { cursor with nextGroup := cursor.nextGroup + 1 })

/-- A numbered group with a name, which no earlier group may have. -/
def Cursor.openNamed? (cursor : Cursor) (text : List Char) : Option (Opening × Cursor) := do
  let (name, rest) ← groupName? text
  if cursor.names.contains name then none
  else some { cursor with rest, names := name :: cursor.names }.openNumbered

/-- What a parenthesis opens. Conditions that look around are no part of patterns. -/
def Cursor.open? (cursor : Cursor) : Option (Opening × Cursor) :=
  let text := skip cursor.flags cursor.rest
  match text with
  | '?' :: '=' :: _ => none
  | '?' :: '!' :: _ => none
  | '?' :: '<' :: '=' :: _ => none
  | '?' :: '<' :: '!' :: _ => none
  | '?' :: 'P' :: '<' :: rest => cursor.openNamed? rest
  | '?' :: '<' :: rest => cursor.openNamed? rest
  | '?' :: rest =>
    (Flags.read? cursor.flags rest).map fun (flags, opensGroup, rest) =>
      (if opensGroup then .group flags none else .flags flags, { cursor with rest })
  | _ => some { cursor with rest := text }.openNumbered

/-! ### Repetitions -/

/-- Whether a repetition is lazy: a question mark right behind it says so. -/
def lazyMark : List Char → Bool × List Char
  | '?' :: rest => (true, rest)
  | rest => (false, rest)

/-- Repeats the last part of a sequence. -/
def repeatLast? (flags : Flags) (least : Nat) (most : Option Nat) (isLazy : Bool) :
    List Part → Option (List Part)
  | [] => none
  | part :: parts =>
    if part.repeatable then
      some ({ expr := part.expr.repeated least most (isLazy == flags.swapGreed)
              height := part.height + 1 } :: parts)
    else none

/-- The digits of a count, between which blanks are dropped where they do not count. -/
def countDigits (flags : Flags) : Nat → List Char → List Char → List Char × List Char
  | 0, text, found => (found.reverse, text)
  | steps + 1, text, found =>
    match text with
    | digit :: rest =>
      if Digit.isDecimal digit then countDigits flags steps (skip flags rest) (digit :: found)
      else (found.reverse, text)
    | [] => (found.reverse, [])

/-- The largest count. -/
def largestCount : Nat := 0xffffffff

/-- A count with the blanks around it. -/
def count? (flags : Flags) (text : List Char) : Option (Nat × List Char) :=
  let text := text.dropWhile isBlank
  match countDigits flags text.length text [] with
  | ([], _) => none
  | (digits, rest) =>
    let count := Digit.number digits
    if count ≤ largestCount then some (count, skip flags (rest.dropWhile isBlank)) else none

/-- The bounds of a counted repetition up to its closing brace, past its opening one. -/
def bounds? (flags : Flags) (text : List Char) : Option (Nat × Option Nat × List Char) := do
  let (least, rest) ← count? flags (skip flags text)
  match rest with
  | '\x7d' :: rest => some (least, some least, rest)
  | ',' :: rest =>
    match skip flags rest with
    | '\x7d' :: rest => some (least, none, rest)
    | text =>
      let (most, rest) ← count? flags text
      match rest with
      | '\x7d' :: rest => if least ≤ most then some (least, some most, rest) else none
      | _ => none
  | _ => none

/-! ### Parts in order -/

/-- Reads alternatives up to a closing parenthesis or the end. `parts` holds the current sequence
and `branches` the alternatives before it, both last first. Each step takes a part of the pattern,
whose length bounds the steps. -/
def parts? : Nat → Cursor → List Part → List Part → Option (Part × Cursor)
  | 0, _, _, _ => none
  | steps + 1, cursor, parts, branches =>
    let text := skip cursor.flags cursor.rest
    match text with
    | [] => some (alternatives (sequence parts :: branches), { cursor with rest := [] })
    | ')' :: _ => some (alternatives (sequence parts :: branches), { cursor with rest := text })
    | '|' :: rest => parts? steps { cursor with rest } [] (sequence parts :: branches)
    | '(' :: rest => do
      match ← { cursor with rest }.open? with
      | (.flags flags, cursor) =>
        parts? steps { cursor with flags }
          ({ expr := .empty, height := 0, repeatable := false } :: parts) branches
      | (.group flags number, inside) =>
        let (body, after) ← parts? steps { inside with flags } [] []
        match after.rest with
        | ')' :: rest =>
          let expr := match number with
            | some index => .group index body.expr
            | none => body.expr
          parts? steps { after with rest, flags := cursor.flags }
            ({ expr, height := body.height + 1 } :: parts) branches
        | _ => none
    | '[' :: rest => do
      let (nested, rest) ← Bracket.read? cursor.flags rest
      let expr := Expr.ofSet nested.set (!cursor.flags.unicode)
      parts? steps { cursor with rest } ({ expr, height := nested.height } :: parts) branches
    | '?' :: rest => do
      let (isLazy, rest) := lazyMark rest
      let parts ← repeatLast? cursor.flags 0 (some 1) isLazy parts
      parts? steps { cursor with rest } parts branches
    | '*' :: rest => do
      let (isLazy, rest) := lazyMark rest
      let parts ← repeatLast? cursor.flags 0 none isLazy parts
      parts? steps { cursor with rest } parts branches
    | '+' :: rest => do
      let (isLazy, rest) := lazyMark rest
      let parts ← repeatLast? cursor.flags 1 none isLazy parts
      parts? steps { cursor with rest } parts branches
    | '\x7b' :: rest => do
      let (least, most, rest) ← bounds? cursor.flags rest
      let (isLazy, rest) := lazyMark (skip cursor.flags rest)
      let parts ← repeatLast? cursor.flags least most isLazy parts
      parts? steps { cursor with rest } parts branches
    | _ => do
      let (primitive, rest) ← Primitive.read? cursor.flags text
      let expr ← primitive.expr? cursor.flags
      parts? steps { cursor with rest } ({ expr, height := 0 } :: parts) branches

end Reader

/-- How deep a pattern may nest. -/
def heightLimit : Nat := 250

/-- The expression that a pattern stands for, starting with given flags. -/
def Expr.read? (flags : Flags) (pattern : String) : Option Expr := do
  let text := pattern.toList
  let (whole, cursor) ← Reader.parts? (text.length + 1) { rest := text, flags } [] []
  if cursor.rest = [] ∧ whole.height ≤ heightLimit then some whole.expr else none

end LineLexer.Regex
