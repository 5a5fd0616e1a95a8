import LineLexer.Text.Basic

/-!
**Positions moved back.**

A position is moved back by characters, which have one to four bytes each. Where a character starts
that many characters before the position, the position comes to lie there, and otherwise at the
start of the text. So what lies between is as many characters as were asked for, or all there are,
and moving back twice is moving back once by the sum.

* `Text.starts`: the positions where characters start;
* `Text.rewind?_eq_getElem?`: moving back is counting from the end of these positions;
* `Text.rewind?_of_take?`, `Text.take?_take`: where a position comes to lie, and what is before it;
* `Text.rewind?_counts_characters`: what lies between, and moving back again.
-/

namespace LineLexer.Text

variable {text before : Text} {position : Nat}

/-! ### Where characters start -/

/-- The positions where the characters of a text start that itself starts at an offset. -/
def startsFrom (offset : Nat) : Text → List Nat
  | [] => []
  | letter :: rest => offset :: startsFrom (offset + letter.utf8Size) rest

/-- The positions where the characters of a text start, in order. -/
def starts (text : Text) : List Nat := startsFrom 0 text

theorem length_startsFrom (offset : Nat) (text : Text) :
    (startsFrom offset text).length = text.length := by
  induction text generalizing offset with
  | nil => rfl
  | cons letter rest step => rw [startsFrom, List.length_cons, step, List.length_cons]

@[simp] theorem length_starts (text : Text) : text.starts.length = text.length :=
  length_startsFrom 0 text

/-- A character starts behind the bytes of the characters before it. -/
theorem getElem?_startsFrom {offset index : Nat} (inside : index < text.length) :
    (startsFrom offset text)[index]? = some (offset + size (text.take index)) := by
  induction text generalizing offset index with
  | nil => cases inside
  | cons letter rest step =>
    cases index with
    | zero => simp [startsFrom]
    | succ index =>
      rw [startsFrom, List.getElem?_cons_succ, step (Nat.lt_of_succ_lt_succ inside),
        List.take_succ_cons, size_cons, Nat.add_assoc]

theorem getElem?_starts {index : Nat} (inside : index < text.length) :
    text.starts[index]? = some (size (text.take index)) := by
  rw [starts, getElem?_startsFrom inside, Nat.zero_add]

/-- The last start but some, if there are that many, is behind the bytes of all characters but
these. -/
theorem getElem?_reverse_starts (text : Text) (count : Nat) :
    (text.starts.reverse[count]?).getD 0 = size (text.take (text.length - (count + 1))) := by
  by_cases inside : count < text.length
  · rw [List.getElem?_reverse (by simpa using inside), length_starts,
      getElem?_starts (by omega), Option.getD_some, Nat.sub_sub, Nat.add_comm]
  · have outside : text.starts.reverse[count]? = none := by
      rw [List.getElem?_eq_none_iff, List.length_reverse, length_starts]
      exact Nat.le_of_not_lt inside
    have all : text.length - (count + 1) = 0 := by omega
    rw [outside, all]
    rfl

/-- Moving back is counting, from the last one on, the starts of characters before a position. It
ends at the start of the text if there are too few, and no cut is made where none is needed. -/
theorem rewind?_eq_getElem? (text : Text) (position count : Nat) :
    text.rewind? position count =
      if count = 0 then some position
      else (text.take? position).map fun before =>
        (before.starts.reverse[count - 1]?).getD 0 := by
  unfold rewind?
  by_cases none : count = 0
  · rw [if_pos none, if_pos none]
  · rw [if_neg none, if_neg none]
    refine congrArg (Option.map · _) (funext fun before => ?_)
    rw [getElem?_reverse_starts, Nat.sub_add_cancel (Nat.pos_of_ne_zero none)]

/-! ### Characters that are passed -/

/-- From a position where a cut succeeds, moving back leaves as many characters fewer before it. -/
theorem rewind?_of_take? (boundary : text.take? position = some before) (count : Nat) :
    text.rewind? position count = some (size (before.take (before.length - count))) := by
  unfold rewind?
  by_cases none : count = 0
  · obtain ⟨bytes, -⟩ := take?_eq_some_iff.1 boundary
    rw [if_pos none, none, Nat.sub_zero, List.take_length, bytes]
  · rw [if_neg none, boundary, Option.map_some]

/-- A cut succeeds behind each character of what a cut gives. -/
theorem take?_take (boundary : text.take? position = some before) (count : Nat) :
    text.take? (size (before.take count)) = some (before.take count) := by
  obtain ⟨-, after, rfl⟩ := take?_eq_some_iff.1 boundary
  have parts : before.take count ++ (before.drop count ++ after) = before ++ after := by
    rw [← List.append_assoc, List.take_append_drop]
  rw [← parts]
  exact take?_size_append _ _

/-- Rewinding counts characters. Where a character starts or the text ends, moving back succeeds:
it comes to the start of a character that is counted off from the last one before the position, or
to the start of the text. A cut succeeds there, too, and it is not further on; between the two
positions there are as many characters as were asked for, or all of those before if they are fewer.
Moving back from there is moving back by the sum in the first place. -/
theorem rewind?_counts_characters (boundary : text.take? position = some before)
    (count more : Nat) :
    ∃ place kept passed, text.rewind? position count = some place ∧
      place = (if count = 0 then position else (before.starts.reverse[count - 1]?).getD 0) ∧
      place ≤ position ∧ text.take? place = some kept ∧ kept ++ passed = before ∧
      passed.length = min count before.length ∧
      text.rewind? place more = text.rewind? position (count + more) := by
  let left := before.length - count
  have rewinds : text.rewind? position count = some (size (before.take left)) :=
    rewind?_of_take? boundary count
  have keeps : text.take? (size (before.take left)) = some (before.take left) :=
    take?_take boundary left
  have whole : before.take left ++ before.drop left = before := List.take_append_drop left before
  refine ⟨size (before.take left), before.take left, before.drop left, rewinds, ?_, ?_, keeps,
    whole, ?_, ?_⟩
  · rw [rewind?_eq_getElem?, boundary, Option.map_some, ← apply_ite some] at rewinds
    exact (Option.some.inj rewinds).symm
  · obtain ⟨bytes, -⟩ := take?_eq_some_iff.1 boundary
    have sum := size_append (before.take left) (before.drop left)
    rw [whole, bytes] at sum
    omega
  · rw [List.length_drop]
    omega
  · have fewer : min ((before.take left).length - more) left = before.length - (count + more) := by
      rw [List.length_take]
      omega
    rw [rewind?_of_take? keeps, rewind?_of_take? boundary, List.take_take, fewer]

/-- Characters of one, two, three and four bytes, of which two are passed, and then one more. -/
theorem rewind?_counts_characters_wide :
    let text : Text := ['a', 'é', '€', '😀', 'b']
    text.take? 10 = some ['a', 'é', '€', '😀'] ∧ text.rewind? 10 2 = some 3 ∧
      text.rewind? 10 99 = some 0 ∧ Text.starts ['a', 'é', '€', '😀'] = [0, 1, 3, 6] ∧
      ∃ place kept passed, text.rewind? 10 2 = some place ∧
        place = ((Text.starts ['a', 'é', '€', '😀']).reverse[1]?).getD 0 ∧
        place ≤ 10 ∧ text.take? place = some kept ∧ kept ++ passed = ['a', 'é', '€', '😀'] ∧
        passed.length = min 2 4 ∧ text.rewind? place 1 = text.rewind? 10 3 := by
  have boundary : Text.take? ['a', 'é', '€', '😀', 'b'] 10 = some ['a', 'é', '€', '😀'] := by
    decide
  exact ⟨boundary, by decide, by decide, by decide, rewind?_counts_characters boundary 2 1⟩

end LineLexer.Text
