import LineLexer.Regex.Basic
import LineLexer.Text.Casing
import Mathlib.Data.List.Forall2

/-!
**Texts that differ in the case of letters.**

Two texts differ only in the case of ASCII letters if their characters do, one by one. What does not
tell the two forms of such a letter apart does not see the difference:

* `SameLetter`, `Text.SameButCase`: characters and texts that differ in nothing else;
* `Text.lower_eq`: the lowercase forms of two such texts are the same;
* `Regex.IgnoresCase`: a regular expression finds the same in them;
* `Regex.ignoresCase_of_foldsCase`: one does if all its sets have both forms of a letter or none.
-/

namespace LineLexer

/-! ### Characters -/

/-- Two characters are the same, or the two forms of one ASCII letter. -/
def SameLetter (letter other : Char) : Prop := letter.toLower = other.toLower

instance (letter other : Char) : Decidable (SameLetter letter other) :=
  inferInstanceAs (Decidable (letter.toLower = other.toLower))

theorem toNat_toLower (letter : Char) : letter.toLower.toNat =
    if 65 ≤ letter.toNat ∧ letter.toNat ≤ 90 then letter.toNat + 32 else letter.toNat := by
  unfold Char.toLower
  split
  · next capital =>
    have bounds : 65 ≤ letter.toNat ∧ letter.toNat ≤ 90 := capital
    rw [if_pos bounds]
    show (letter.val + 32).toNat = _
    rw [UInt32.toNat_add]
    show (letter.toNat + 32) % 4294967296 = _
    omega
  · next other =>
    have bounds : ¬ (65 ≤ letter.toNat ∧ letter.toNat ≤ 90) := other
    rw [if_neg bounds]

namespace SameLetter

variable {letter other : Char}

theorem refl (letter : Char) : SameLetter letter letter := rfl

/-- The two forms of a letter are the capital and the small one, in some order. -/
theorem eq_or_forms (same : SameLetter letter other) :
    letter = other ∨ ∃ place < 26,
      (letter.toNat = 65 + place ∧ other.toNat = 97 + place) ∨
        (letter.toNat = 97 + place ∧ other.toNat = 65 + place) := by
  have codes := congrArg Char.toNat same
  rw [toNat_toLower, toNat_toLower] at codes
  split at codes
  · split at codes
    · exact Or.inl (Char.toNat_inj.1 (by omega))
    · exact Or.inr ⟨letter.toNat - 65, by omega, Or.inl ⟨by omega, by omega⟩⟩
  · split at codes
    · exact Or.inr ⟨other.toNat - 65, by omega, Or.inr ⟨by omega, by omega⟩⟩
    · exact Or.inl (Char.toNat_inj.1 codes)

/-- What is the same for the two forms of all letters does not see the difference. -/
theorem congr_toNat {Value : Type} (same : SameLetter letter other) (value : Nat → Value)
    (agrees : ∀ place < 26, value (65 + place) = value (97 + place)) :
    value letter.toNat = value other.toNat := by
  rcases same.eq_or_forms with rfl | ⟨place, inside, ⟨capital, small⟩ | ⟨small, capital⟩⟩
  · rfl
  · rw [capital, small, agrees place inside]
  · rw [capital, small, agrees place inside]

/-- A character that is no ASCII letter differs from both. -/
theorem eq_iff (same : SameLetter letter other) {mark : Char}
    (plain : mark.toNat < 65 ∨ 122 < mark.toNat) : letter = mark ↔ other = mark := by
  rw [← Char.toNat_inj, ← Char.toNat_inj]
  rcases same.eq_or_forms with rfl | ⟨place, inside, forms⟩
  · rfl
  · omega

theorem utf8Size_eq (same : SameLetter letter other) : letter.utf8Size = other.utf8Size := by
  have small : ∀ {code : Char}, code.toNat ≤ 122 → code.utf8Size = 1 := by
    intro code bound
    unfold Char.utf8Size
    exact if_pos (show code.toNat ≤ 127 by omega)
  rcases same.eq_or_forms with rfl | ⟨place, inside, forms⟩
  · rfl
  · rw [small (by omega), small (by omega)]

end SameLetter

/-! ### The start of a table -/

namespace CodeRanges

open ofHex

/-- What is read of a table comes behind what has been read before. -/
theorem go_eq_append (table : List Char) (reading : Reading) (found : CodeRanges) :
    go table reading found = found.reverse ++ go table reading [] := by
  induction table generalizing reading found with
  | nil => simp [go]
  | cons next rest step =>
    by_cases hyphen : next = '-'
    · subst hyphen
      exact step _ _
    · rw [go.eq_3 _ _ _ _ hyphen, go.eq_3 _ _ _ _ hyphen]
      cases Digit.hexadecimal? next with
      | some digit => exact step _ _
      | none =>
        dsimp only
        rw [step, step _ (reading.range?.toList ++ []), List.append_nil, List.reverse_append,
          List.append_assoc]

/-- A blank ends what comes before it. -/
theorem go_blank (front rest : List Char) (reading : Reading) (found : CodeRanges) :
    go (front ++ ' ' :: rest) reading found = go front reading found ++ go rest {} [] := by
  induction front generalizing reading found with
  | nil =>
    show go rest {} (reading.range?.toList ++ found) = (reading.range?.toList ++ found).reverse ++ _
    exact go_eq_append rest {} _
  | cons next front step =>
    by_cases hyphen : next = '-'
    · subst hyphen
      exact step _ _
    · rw [List.cons_append, go.eq_3 _ _ _ _ hyphen, go.eq_3 _ _ _ _ hyphen]
      cases Digit.hexadecimal? next with
      | some digit => exact step _ _
      | none => exact step _ _

/-- What a table starts with is the start of its set. -/
theorem ofHex_of_front {table : String} (front : List Char) {rest : List Char}
    (splits : table.toList = front ++ ' ' :: rest) :
    ofHex table = go front {} [] ++ go rest {} [] := by
  unfold ofHex
  rw [splits, go_blank]

/-- Whether one of several ranges ends at a code point or past it. -/
def reaches (front : CodeRanges) (code : Nat) : Bool := front.any fun range => code ≤ range.2

/-- What comes behind a range that ends at a code point or past it does not matter for it. -/
theorem contains_append {front : CodeRanges} (more : CodeRanges) {code : Nat}
    (reaches : front.reaches code = true) :
    contains (front ++ more) code = contains front code := by
  induction front with
  | nil => cases reaches
  | cons range front step =>
    obtain ⟨first, last⟩ := range
    rw [List.cons_append, contains, contains]
    split
    · rfl
    · split
      · rfl
      · next past =>
        refine step ?_
        unfold CodeRanges.reaches at reaches ⊢
        rw [List.any_cons, decide_eq_false past, Bool.false_or] at reaches
        exact reaches

/-- Where the start of a set reaches past the letters, both forms of each are told by it. -/
theorem contains_forms {set front : CodeRanges} (starts : ∃ more, set = front ++ more)
    (agrees : ∀ place < 26, front.reaches (65 + place) = true ∧ front.reaches (97 + place) = true ∧
      contains front (65 + place) = contains front (97 + place)) :
    ∀ place < 26, contains set (65 + place) = contains set (97 + place) := by
  obtain ⟨more, rfl⟩ := starts
  intro place inside
  obtain ⟨capital, small, same⟩ := agrees place inside
  rw [contains_append more capital, contains_append more small, same]

end CodeRanges

set_option maxRecDepth 20000 in
/-- Both forms of each letter have a case. -/
theorem Property.cased_forms :
    ∀ place < 26, cased.contains (65 + place) = cased.contains (97 + place) :=
  CodeRanges.contains_forms
    ⟨_, CodeRanges.ofHex_of_front
      ['4', '1', '-', '5', 'A', ' ', '6', '1', '-', '7', 'A'] String.toList_ofList⟩
    (by decide)

set_option maxRecDepth 20000 in
/-- Neither form of a letter is ignored where a case is looked for. -/
theorem Property.caseIgnorable_forms :
    ∀ place < 26, caseIgnorable.contains (65 + place) = caseIgnorable.contains (97 + place) :=
  CodeRanges.contains_forms
    ⟨_, CodeRanges.ofHex_of_front
      ['2', '7', ' ', '2', 'E', ' ', '3', 'A', ' ', '5', 'E', ' ', '6', '0', ' ', 'A', '8']
      String.toList_ofList⟩
    (by decide)

/-- Both forms of each letter have one lowercase form. -/
theorem CaseMap.lower_forms : ∀ place < 26, lower (65 + place) = lower (97 + place) := by
  decide +kernel

/-! ### Lowercase forms -/

namespace Text

/-- Two texts differ only in the case of ASCII letters. -/
def SameButCase : Text → Text → Prop := List.Forall₂ SameLetter

instance (text other : Text) : Decidable (SameButCase text other) :=
  inferInstanceAs (Decidable (List.Forall₂ SameLetter text other))

variable {text other before beforeOther : Text}

/-- The first character that is not ignored, if there is one, is tested. -/
theorem match_dropWhile_eq (ignored tested : Char → Bool) (text : Text) :
    (match text.dropWhile ignored with
      | [] => false
      | next :: _ => tested next) = (text.dropWhile ignored).head?.any tested := by
  cases text.dropWhile ignored with
  | nil => rfl
  | cons next rest => rfl

theorem reachesCased_eq_any (text : Text) : reachesCased text =
    (text.dropWhile fun next => Property.caseIgnorable.contains next.toNat).head?.any fun next =>
      Property.cased.contains next.toNat :=
  -- The tables are kept closed: no step may compare them with anything but themselves.
  match_dropWhile_eq (fun next => Property.caseIgnorable.contains next.toNat)
    (fun next => Property.cased.contains next.toNat) text

theorem reachesCased_cons (letter : Char) (rest : Text) : reachesCased (letter :: rest) =
    bif Property.caseIgnorable.contains letter.toNat then reachesCased rest
    else Property.cased.contains letter.toNat := by
  rw [reachesCased_eq_any, reachesCased_eq_any, List.dropWhile_cons]
  generalize Property.caseIgnorable.contains letter.toNat = ignored
  cases ignored with
  | true => rw [if_pos rfl, cond_true]
  | false => rw [if_neg Bool.false_ne_true, cond_false, List.head?_cons, Option.any_some]

theorem reachesCased_eq (same : SameButCase text other) :
    reachesCased text = reachesCased other := by
  unfold SameButCase at same
  induction same with
  | nil => rfl
  | cons first _ step =>
    rw [reachesCased_cons, reachesCased_cons, step,
      first.congr_toNat _ Property.caseIgnorable_forms, first.congr_toNat _ Property.cased_forms]

/-- The two forms of a letter have one lowercase form, wherever they stand. -/
theorem lowerChar_eq {letter twin : Char} (first : SameLetter letter twin)
    (left : SameButCase before beforeOther) (right : SameButCase text other) :
    lowerChar before letter text = lowerChar beforeOther twin other := by
  have sigma : letter = 'Σ' ↔ twin = 'Σ' := first.eq_iff (by decide)
  have dotted : letter = 'İ' ↔ twin = 'İ' := first.eq_iff (by decide)
  have code := first.congr_toNat _ CaseMap.lower_forms
  unfold lowerChar
  simp only [sigma, dotted, code, reachesCased_eq left, reachesCased_eq right]

theorem lowerFrom_eq (left : SameButCase before beforeOther) (same : SameButCase text other) :
    lowerFrom before text = lowerFrom beforeOther other := by
  unfold SameButCase at same
  induction same generalizing before beforeOther with
  | nil => rfl
  | cons first rest step =>
    rw [lowerFrom, lowerFrom, lowerChar_eq first left rest, step (.cons first left)]

/-- Texts that differ only in case have the same lowercase form. -/
theorem lower_eq (same : SameButCase text other) : text.lower = other.lower :=
  lowerFrom_eq .nil same

end Text

/-! ### Regular expressions -/

namespace Regex

/-- A regular expression finds the same in texts that differ only in case. -/
def IgnoresCase (regex : Regex) : Prop :=
  ∀ ⦃text other : Text⦄, text.SameButCase other → regex.find? text = regex.find? other

theorem IgnoresCase.isMatch_eq {regex : Regex} (ignores : regex.IgnoresCase) {text other : Text}
    (same : text.SameButCase other) : regex.isMatch text = regex.isMatch other := by
  unfold isMatch
  rw [ignores same]

/-- Whether a set has both forms of each letter or none. -/
def foldsSet (set : CodeRanges) : Bool :=
  (List.range 26).all fun place => set.contains (65 + place) == set.contains (97 + place)

/-- Whether all sets of a program have both forms of each letter or none. -/
def Program.foldsCase (program : Program) : Bool :=
  program.code.all fun instruction =>
    match instruction with
    | .take set _ => foldsSet set
    | _ => true

theorem contains_eq_of_foldsSet {set : CodeRanges} (folds : foldsSet set = true)
    {letter other : Char} (same : SameLetter letter other) :
    set.contains letter.toNat = set.contains other.toNat := by
  refine same.congr_toNat set.contains fun place inside => ?_
  exact eq_of_beq (List.all_eq_true.1 folds place (List.mem_range.2 inside))

/-- Two characters, either of which may be missing, are the same but for the case. -/
def SameEdge : Option Char → Option Char → Prop := Option.Rel SameLetter

section

variable {before beforeOther after afterOther : Option Char}

theorem isWord_eq (same : SameEdge before beforeOther) (unicode : Bool) :
    isWord unicode before = isWord unicode beforeOther := by
  cases same with
  | none => rfl
  | @some letter other same =>
    have words : ∀ place < 26, CharClass.asciiWord.contains (65 + place) = true ∧
        CharClass.asciiWord.contains (97 + place) = true := by decide +kernel
    unfold isWord
    dsimp only
    rcases same.eq_or_forms with rfl | ⟨place, inside, ⟨capital, small⟩ | ⟨small, capital⟩⟩
    · rfl
    · rw [capital, small, (words place inside).1, (words place inside).2, Bool.true_or,
        Bool.true_or]
    · rw [capital, small, (words place inside).1, (words place inside).2, Bool.true_or,
        Bool.true_or]

theorem beq_eq_of_sameEdge (same : SameEdge before beforeOther) {mark : Char}
    (plain : mark.toNat < 65 ∨ 122 < mark.toNat) :
    (before == some mark) = (beforeOther == some mark) := by
  cases same with
  | none => rfl
  | some same =>
    rw [Bool.eq_iff_iff, beq_iff_eq, beq_iff_eq, Option.some.injEq, Option.some.injEq]
    exact same.eq_iff plain

/-- Assertions do not see case. -/
theorem holds_eq (left : SameEdge before beforeOther) (right : SameEdge after afterOther)
    (assertion : Assertion) :
    assertion.holds before after = assertion.holds beforeOther afterOther := by
  have missing : before.isNone = beforeOther.isNone := by cases left <;> rfl
  have missingToo : after.isNone = afterOther.isNone := by cases right <;> rfl
  have feeds : (before == some '\n') = (beforeOther == some '\n') :=
    beq_eq_of_sameEdge left (by decide)
  have feedsToo : (after == some '\n') = (afterOther == some '\n') :=
    beq_eq_of_sameEdge right (by decide)
  have returns : (before == some '\r') = (beforeOther == some '\r') :=
    beq_eq_of_sameEdge left (by decide)
  have returnsToo : (after == some '\r') = (afterOther == some '\r') :=
    beq_eq_of_sameEdge right (by decide)
  unfold Assertion.holds
  cases assertion with
  | word edge unicode =>
    dsimp only
    rw [isWord_eq left, isWord_eq right]
  | _ => simp only [bne, missing, missingToo, feeds, feedsToo, returns, returnsToo]

namespace Machine

variable {code : Array Instruction} {program : Program} {rest restOther : Text}

/-- What is reached without a character does not depend on the case of the characters around. -/
theorem follow_eq (left : SameEdge before beforeOther) (right : SameEdge after afterOther)
    (position steps : Nat) (todo : List Thread) (seen : Nat) (reached : List Thread) :
    follow code before after position steps todo seen reached =
      follow code beforeOther afterOther position steps todo seen reached := by
  induction steps generalizing todo seen reached with
  | zero => rfl
  | succ steps step =>
    cases todo with
    | nil => rfl
    | cons thread todo =>
      unfold follow
      simp only [step, holds_eq left right]

/-- A character is taken in both forms or in none. -/
theorem advance?_eq (folds : program.foldsCase = true) {letter other : Char}
    (same : SameLetter letter other) (thread : Thread) :
    advance? program.code letter thread = advance? program.code other thread := by
  unfold advance?
  split
  · next set next found =>
    have inside : foldsSet set = true :=
      Array.all_eq_true'.1 folds _ (Array.mem_of_getElem? found)
    rw [contains_eq_of_foldsSet inside same]
  · rfl

theorem runThreads_eq (folds : program.foldsCase = true) (left : SameEdge before beforeOther)
    (same : rest.SameButCase restOther) (position : Nat) (threads : List Thread)
    (best : Option (List (Option Nat))) :
    runThreads program before position threads best rest =
      runThreads program beforeOther position threads best restOther := by
  unfold Text.SameButCase at same
  induction same generalizing before beforeOther position threads best with
  | nil =>
    unfold runThreads
    rw [follow_eq left .none]
  | cons first _ step =>
    unfold runThreads
    rw [follow_eq left (.some first), funext (advance?_eq folds first)]
    dsimp only
    split
    · rfl
    · exact step (.some first) _ _ _

theorem search?_eq (folds : program.foldsCase = true) (startsText : Bool)
    (left : SameEdge before beforeOther) (same : rest.SameButCase restOther) (position : Nat) :
    search? program startsText before position rest =
      search? program startsText beforeOther position restOther := by
  unfold Text.SameButCase at same
  induction same generalizing before beforeOther position with
  | nil => exact runThreads_eq folds left .nil _ _ _
  | cons first rest step =>
    unfold search? run
    rw [runThreads_eq folds left (.cons first rest), step (.some first)]

end Machine

/-- A regular expression ignores case if its sets do. -/
theorem ignoresCase_of_foldsCase {regex : Regex} (folds : regex.program.foldsCase = true) :
    regex.IgnoresCase := by
  intro text other same
  unfold find?
  rw [Machine.search?_eq folds _ .none same]

end

end Regex

end LineLexer
