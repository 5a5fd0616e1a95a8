import LineLexer.Text.Basic

/-!
**Lines of a text.**

A text is cut behind each line feed. A line is tokenized without what ends it:

* `Text.lines`: the lines with what ends them, which make up the text (`flatten_lines`);
* `Text.withoutEnd`, `Text.endsLine`: a line without what ends it, and whether a line feed ends it;
* `Text.characterOffsets?`: places in a line as numbers of characters.
-/

namespace LineLexer.Text

/-- The lines of a text, each with the line feed that ends it. Only the last line may have none, and
then it is not empty. -/
def lines : Text → List Text
  | [] => []
  | letter :: rest =>
    if letter = '\n' then [letter] :: lines rest
    else
      match lines rest with
      | [] => [[letter]]
      | line :: later => (letter :: line) :: later

/-- Whether a line feed ends a line. -/
def endsLine (line : Text) : Bool := line.getLast? == some '\n'

/-- A line without the line feed and the carriage returns that end it. -/
def withoutEnd (line : Text) : Text :=
  ((line.reverse.dropWhile (· == '\n')).dropWhile (· == '\r')).reverse

/-- The lines make up the text. -/
theorem flatten_lines (text : Text) : (lines text).flatten = text := by
  induction text with
  | nil => rfl
  | cons letter rest step =>
    simp only [lines]
    split
    · simp [step]
    · split
      · next none => simp [none] at step; simp [← step]
      · next line later some => rw [some] at step; simpa using step

/-- The numbers of characters before places that are given in bytes. A place past the end counts as
the end, and one behind an earlier place of the list counts as that earlier place. `reached` is the
earlier place. -/
def characterOffsets? (line : Text) : (reached : Nat) → List Nat → Option (List Nat)
  | _, [] => some []
  | reached, offset :: later => do
    let reached := max reached (min offset line.size)
    let before ← line.take? reached
    let others ← characterOffsets? line reached later
    pure (before.length :: others)

end LineLexer.Text
