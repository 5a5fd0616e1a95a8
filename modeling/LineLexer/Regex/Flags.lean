/-!
**Pattern flags.**

Flags change how the rest of a group is read. They are switched on and off by letters, `i`, `m`,
`s`, `U`, `u`, `R` and `x`, those after a hyphen being switched off:

* `Flags.read?`: the flags that a list of letters switches to, and the character that ends the list.
-/

namespace LineLexer.Regex

/-- The flags in force at a place in a pattern. -/
structure Flags where
  /-- Letters match their case variants. -/
  ignoreCase : Bool := false
  /-- `^` and `$` match at the lines of a text. -/
  multiLine : Bool := false
  /-- `.` matches a line feed. -/
  dotAll : Bool := false
  /-- Repetitions are lazy unless a question mark follows. -/
  swapGreed : Bool := false
  /-- Classes and words are those of all characters, not of ASCII alone. -/
  unicode : Bool := true
  /-- A carriage return ends a line, too. -/
  anyLineEnd : Bool := false
  /-- Blanks and comments in the pattern do not count. -/
  verbose : Bool := false
  deriving DecidableEq, Repr

namespace Flags

/-- Switches the flag with a given letter. -/
def switch? (flags : Flags) (letter : Char) (value : Bool) : Option Flags :=
  match letter with
  | 'i' => some { flags with ignoreCase := value }
  | 'm' => some { flags with multiLine := value }
  | 's' => some { flags with dotAll := value }
  | 'U' => some { flags with swapGreed := value }
  | 'u' => some { flags with unicode := value }
  | 'R' => some { flags with anyLineEnd := value }
  | 'x' => some { flags with verbose := value }
  | _ => none

/-- A list of flag letters that is being read. -/
structure Reading where
  /-- The flags as switched so far. -/
  flags : Flags
  /-- The letters seen, last first, the hyphen among them. -/
  seen : List Char := []

/-- Takes one more letter. No letter may come twice, nor a hyphen. -/
def Reading.take? (reading : Reading) (letter : Char) : Option Reading :=
  if reading.seen.contains letter then none
  else if letter = '-' then some { reading with seen := letter :: reading.seen }
  else
    (reading.flags.switch? letter (!reading.seen.contains '-')).map fun flags =>
      { flags, seen := letter :: reading.seen }

/-- Reads letters up to a closing parenthesis or a colon, which is answered with the flags and the
text after it. A hyphen has to be followed by a letter, and before a parenthesis there has to be
something to switch. -/
def readFrom? (reading : Reading) : List Char → Option (Flags × Bool × List Char)
  | [] => none
  | ')' :: rest =>
    if reading.seen.head? = some '-' ∨ reading.seen = [] then none
    else some (reading.flags, false, rest)
  | ':' :: rest =>
    if reading.seen.head? = some '-' then none else some (reading.flags, true, rest)
  | letter :: rest =>
    match reading.take? letter with
    | some reading => readFrom? reading rest
    | none => none

/-- The flags that the letters of a pattern switch to, whether a group follows, and the rest of the
pattern. -/
def read? (flags : Flags) (text : List Char) : Option (Flags × Bool × List Char) :=
  readFrom? { flags } text

end Flags

end LineLexer.Regex
