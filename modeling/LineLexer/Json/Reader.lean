import LineLexer.Json.Numeral

/-!
**Reading of data descriptions.**

A strict reader: one value with blanks around it and nothing else, no comments, no trailing commas,
no control characters inside strings, only paired surrogates, and a bounded nesting of arrays and
objects.

* `Json.read?`: the value that a text describes, with its nesting bound;
* `Json.parse?`: the same with the bound of 127 that descriptions have to keep.
-/

namespace LineLexer.Json

/-- Drops leading blanks. -/
def skipBlanks (text : List Char) : List Char :=
  text.dropWhile fun next => next == ' ' || next == '\t' || next == '\n' || next == '\r'

/-! ### Strings -/

/-- Four hexadecimal digits as a number. -/
def codeUnit? : List Char → Option (Nat × List Char)
  | first :: second :: third :: fourth :: rest => do
    let first ← Digit.hexadecimal? first
    let second ← Digit.hexadecimal? second
    let third ← Digit.hexadecimal? third
    let fourth ← Digit.hexadecimal? fourth
    some (((first * 16 + second) * 16 + third) * 16 + fourth, rest)
  | _ => none

/-- The character of a numeric escape, past its first two characters. A leading surrogate needs an
escaped trailing one, and a trailing surrogate may not come first. -/
def numericEscape? (text : List Char) : Option (Char × List Char) := do
  let (unit, rest) ← codeUnit? text
  if 0xDC00 ≤ unit ∧ unit ≤ 0xDFFF then none
  else if 0xD800 ≤ unit ∧ unit ≤ 0xDBFF then
    match rest with
    | '\\' :: 'u' :: rest =>
      let (trailing, rest) ← codeUnit? rest
      if 0xDC00 ≤ trailing ∧ trailing ≤ 0xDFFF then
        some (Char.ofNat (0x10000 + (unit - 0xD800) * 0x400 + (trailing - 0xDC00)), rest)
      else none
    | _ => none
  else some (Char.ofNat unit, rest)

/-- The character of an escape, past its backslash. -/
def escape? : List Char → Option (Char × List Char)
  | '"' :: rest => some ('"', rest)
  | '\\' :: rest => some ('\\', rest)
  | '/' :: rest => some ('/', rest)
  | 'b' :: rest => some ('\x08', rest)
  | 'f' :: rest => some ('\x0c', rest)
  | 'n' :: rest => some ('\n', rest)
  | 'r' :: rest => some ('\r', rest)
  | 't' :: rest => some ('\t', rest)
  | 'u' :: rest => numericEscape? rest
  | _ => none

/-- The rest of a string, past its opening quote; `found` holds its characters so far, last first.
Every step takes a character, so the length of the text bounds the steps. -/
def stringBody? : Nat → List Char → List Char → Option (String × List Char)
  | 0, _, _ => none
  | _ + 1, [], _ => none
  | _ + 1, '"' :: rest, found => some (String.ofList found.reverse, rest)
  | steps + 1, '\\' :: rest, found => do
    let (letter, rest) ← escape? rest
    stringBody? steps rest (letter :: found)
  | steps + 1, letter :: rest, found =>
    if letter.toNat < 0x20 then none else stringBody? steps rest (letter :: found)

/-- The string at the start of a text. -/
def readString? : List Char → Option (String × List Char)
  | '"' :: rest => stringBody? (rest.length + 1) rest []
  | _ => none

/-! ### Values -/

/-- How the values inside an array or object are read. -/
abbrev ValueReader := List Char → Option (Json × List Char)

/-- The items of an array from one of them on; `found` holds the earlier ones, last first. -/
def items? (readValue : ValueReader) : Nat → List Char → List Json → Option (Json × List Char)
  | 0, _, _ => none
  | steps + 1, text, found => do
    let (item, rest) ← readValue text
    match skipBlanks rest with
    | ',' :: rest => items? readValue steps rest (item :: found)
    | ']' :: rest => some (.array (item :: found).reverse, rest)
    | _ => none

/-- The members of an object from one of them on; `found` holds the earlier ones. -/
def members? (readValue : ValueReader) : Nat → List Char → Members → Option (Json × List Char)
  | 0, _, _ => none
  | steps + 1, text, found => do
    let (name, rest) ← readString? (skipBlanks text)
    match skipBlanks rest with
    | ':' :: rest =>
      let (value, rest) ← readValue rest
      match skipBlanks rest with
      | ',' :: rest => members? readValue steps rest (found.put name value)
      | '\x7d' :: rest => some (.object (found.put name value), rest)
      | _ => none
    | _ => none

/-- The value at the start of a text, with at most `depth` arrays and objects inside each other. -/
def readValue? : Nat → ValueReader
  | 0, text => scalar? (skipBlanks text)
  | depth + 1, text =>
    match skipBlanks text with
    | '[' :: rest =>
      match skipBlanks rest with
      | ']' :: rest => some (.array [], rest)
      | rest => items? (readValue? depth) (rest.length + 1) rest []
    | '\x7b' :: rest =>
      match skipBlanks rest with
      | '\x7d' :: rest => some (.object [], rest)
      | rest => members? (readValue? depth) (rest.length + 1) rest []
    | text => scalar? text
where
  /-- A value that is neither an array nor an object. -/
  scalar? : List Char → Option (Json × List Char)
    | 'n' :: 'u' :: 'l' :: 'l' :: rest => some (.null, rest)
    | 't' :: 'r' :: 'u' :: 'e' :: rest => some (.bool true, rest)
    | 'f' :: 'a' :: 'l' :: 's' :: 'e' :: rest => some (.bool false, rest)
    | '"' :: rest => (readString? ('"' :: rest)).map fun (value, rest) => (.string value, rest)
    | text => (Numeral.read? text).map fun (value, rest) => (.number value, rest)

/-- The value that a whole text describes, with at most `depth` arrays and objects inside each
other. -/
def read? (depth : Nat) (text : String) : Option Json :=
  match readValue? depth text.toList with
  | some (value, rest) => if skipBlanks rest = [] then some value else none
  | none => none

/-- How deep the arrays and objects of a description may nest. -/
def depthLimit : Nat := 127

/-- The value that a description describes. -/
def parse? (text : String) : Option Json := read? depthLimit text

end LineLexer.Json
