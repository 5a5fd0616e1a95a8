import LineLexer.Text.Basic
import LineLexer.Unicode.CaseMap
import LineLexer.Unicode.Property

/-!
**Lowercase texts.**

The lowercase form of a text replaces each character by its own lowercase form, with two rules that
are not about one character alone: a capital sigma at the end of a word becomes a final sigma, and a
dotted capital I becomes two characters.

* `Text.lower`: the lowercase form;
* `Text.length_le_length_lower`: no character gets lost.
-/

namespace LineLexer.Text

/-- Whether the first character that can separate letters is one with a case. -/
def reachesCased (text : Text) : Bool :=
  match text.dropWhile fun next => Property.caseIgnorable.contains next.toNat with
  | [] => false
  | next :: _ => Property.cased.contains next.toNat

/-- The lowercase form of one character; `before` is what stands left of it, nearest first, and
`after` what stands right of it. -/
def lowerChar (before : Text) (letter : Char) (after : Text) : Text :=
  if letter = 'Σ' then
    if reachesCased before && !reachesCased after then ['ς'] else ['σ']
  else if letter = 'İ' then ['i', '\u0307']
  else [Char.ofNat (CaseMap.lower letter.toNat)]

/-- The lowercase form of a text that continues `before`, which is given nearest first. -/
def lowerFrom (before : Text) : Text → Text
  | [] => []
  | letter :: after => lowerChar before letter after ++ lowerFrom (letter :: before) after

/-- The lowercase form of a text. -/
def lower (text : Text) : Text := lowerFrom [] text

@[simp] theorem lower_nil : lower [] = [] := rfl

theorem length_le_length_lowerFrom (before text : Text) :
    text.length ≤ (lowerFrom before text).length := by
  induction text generalizing before with
  | nil => simp
  | cons letter after step =>
    have one : 1 ≤ (lowerChar before letter after).length := by
      simp only [lowerChar]
      split
      · split <;> simp
      · split <;> simp
    have rest := step (letter :: before)
    simp only [lowerFrom, List.length_append, List.length_cons]
    omega

/-- The lowercase form has at least as many characters. -/
theorem length_le_length_lower (text : Text) : text.length ≤ (lower text).length :=
  length_le_length_lowerFrom [] text

end LineLexer.Text
