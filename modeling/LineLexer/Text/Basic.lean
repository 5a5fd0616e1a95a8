/-!
**Texts and byte positions.**

A line of text is a list of characters, and a position in it is a number of UTF-8 bytes. A position
is usable only where a character ends, so a cut answers `none` inside a character or past the end:

* `Text.size`: the number of bytes of a text;
* `Text.take?`, `Text.drop?`: the part before a position and the part from it on;
* `Text.rewind?`: a position moved back by a number of characters;
* `take?_eq_some_iff`, `drop?_eq_some_iff`: a cut succeeds exactly where a leading part has that
  many bytes, and its two parts are that leading part and what follows it.
-/

namespace LineLexer

/-- A text, as the list of its characters. -/
abbrev Text := List Char

namespace Text

/-- The number of bytes of a text in UTF-8. -/
def size : Text → Nat
  | [] => 0
  | first :: rest => first.utf8Size + size rest

/-- The part of a text from a byte position on, if a character starts or the text ends there. -/
def drop? : Text → Nat → Option Text
  | [], position => if position = 0 then some [] else none
  | first :: rest, position =>
    if position = 0 then some (first :: rest)
    else if first.utf8Size ≤ position then drop? rest (position - first.utf8Size)
    else none

/-- The part of a text before a byte position, if a character starts or the text ends there. -/
def take? : Text → Nat → Option Text
  | [], position => if position = 0 then some [] else none
  | first :: rest, position =>
    if position = 0 then some []
    else if first.utf8Size ≤ position then
      (take? rest (position - first.utf8Size)).map (first :: ·)
    else none

/-- Moves a position back by a number of characters, stopping at the start of the text. Moving by
no character needs no cut, so it succeeds at every position. -/
def rewind? (text : Text) (position count : Nat) : Option Nat :=
  if count = 0 then some position
  else (take? text position).map fun before => size (before.take (before.length - count))

/-! ### Sizes -/

@[simp] theorem size_nil : size [] = 0 := rfl

@[simp] theorem size_cons (first : Char) (rest : Text) :
    size (first :: rest) = first.utf8Size + size rest := rfl

@[simp] theorem size_append (left right : Text) :
    size (left ++ right) = size left + size right := by
  induction left with
  | nil => simp
  | cons first rest step => simp [step, Nat.add_assoc]

/-- A text of no bytes has no characters. -/
theorem size_eq_zero_iff {text : Text} : size text = 0 ↔ text = [] := by
  cases text with
  | nil => simp
  | cons first rest =>
    have positive := first.utf8Size_pos
    simp only [size_cons, reduceCtorEq, iff_false]
    omega

/-! ### Cuts -/

@[simp] theorem drop?_zero (text : Text) : drop? text 0 = some text := by
  cases text <;> simp [drop?]

@[simp] theorem take?_zero (text : Text) : take? text 0 = some [] := by
  cases text <;> simp [take?]

/-- A cut where a leading part ends gives what follows that part. -/
theorem drop?_size_append (left right : Text) : drop? (left ++ right) (size left) = some right := by
  induction left with
  | nil => simp
  | cons first rest step =>
    have positive := first.utf8Size_pos
    rw [List.cons_append, drop?, if_neg (by simp only [size_cons]; omega), if_pos (by simp)]
    simpa using step

/-- A cut where a leading part ends gives that part. -/
theorem take?_size_append (left right : Text) : take? (left ++ right) (size left) = some left := by
  induction left with
  | nil => simp
  | cons first rest step =>
    have positive := first.utf8Size_pos
    rw [List.cons_append, take?, if_neg (by simp only [size_cons]; omega), if_pos (by simp)]
    simpa using step

/-- The two parts of a cut make up the text, and the first has the bytes that the position says. -/
theorem take?_eq_some_iff {text before : Text} {position : Nat} :
    take? text position = some before ↔
      size before = position ∧ ∃ after, before ++ after = text := by
  constructor
  · intro cut
    induction text generalizing position before with
    | nil =>
      simp only [take?, Option.ite_none_right_eq_some, Option.some.injEq] at cut
      obtain ⟨rfl, rfl⟩ := cut
      exact ⟨rfl, [], rfl⟩
    | cons first rest step =>
      rw [take?] at cut
      split at cut
      · next start =>
        simp only [Option.some.injEq] at cut
        subst cut
        exact ⟨start.symm, first :: rest, rfl⟩
      · split at cut
        · obtain ⟨shorter, found, rfl⟩ := Option.map_eq_some_iff.1 cut
          obtain ⟨bytes, after, whole⟩ := step found
          exact ⟨by simp only [size_cons]; omega, after, by simp [whole]⟩
        · simp at cut
  · rintro ⟨rfl, after, rfl⟩
    exact take?_size_append before after

/-- What follows a position is the text without a leading part of that many bytes. -/
theorem drop?_eq_some_iff {text after : Text} {position : Nat} :
    drop? text position = some after ↔
      ∃ before, size before = position ∧ before ++ after = text := by
  constructor
  · intro cut
    induction text generalizing position after with
    | nil =>
      simp only [drop?, Option.ite_none_right_eq_some, Option.some.injEq] at cut
      obtain ⟨rfl, rfl⟩ := cut
      exact ⟨[], rfl, rfl⟩
    | cons first rest step =>
      rw [drop?] at cut
      split at cut
      · next start =>
        simp only [Option.some.injEq] at cut
        subst cut
        exact ⟨[], start.symm, rfl⟩
      · split at cut
        · obtain ⟨before, bytes, whole⟩ := step cut
          exact ⟨first :: before, by simp only [size_cons]; omega, by simp [whole]⟩
        · simp at cut
  · rintro ⟨before, rfl, rfl⟩
    exact drop?_size_append before after

end Text

end LineLexer
