import LineLexer.Regex.Primitive

/-!
**Texts in front of a closing parenthesis.**

When a pattern is put into a group, the parenthesis that closes the group stands behind it, and
perhaps more. A reader of a part of the pattern then reads what it reads alone, and the parenthesis
is what stands behind the part there, unless a comment of the pattern goes on past it.

* `Behind`: what a reader leaves with the parenthesis behind its text, and what it leaves alone;
* `Follows`: a reader that answers whatever another one answers;
* `Behind.skip`: blanks and comments;
* `Primitive.follows_read?`: the smallest parts of a pattern.
-/

namespace LineLexer.Regex

/-! ### What is left -/

/-- A text that may stand behind the parenthesis that closes a group: it can end neither a class nor
a comment. -/
structure Quiet (tail : List Char) : Prop where
  no_bracket : ']' ∉ tail
  no_line_feed : '\n' ∉ tail

/-- What is left of a text, and what is left of it with a parenthesis and a tail behind it. -/
inductive Behind (tail : List Char) : List Char → List Char → Prop where
  /-- The parenthesis still stands behind what is left. -/
  | kept (left : List Char) : Behind tail left (left ++ ')' :: tail)
  /-- A comment took everything. -/
  | taken : Behind tail [] []

/-- Whatever the first of two readers answers, the second one answers it up to a relation. -/
def Follows {Answer Other : Type} (related : Answer → Other → Prop) (alone : Option Answer)
    (within : Option Other) : Prop :=
  ∀ answer, alone = some answer → ∃ other, within = some other ∧ related answer other

/-- Two readers read the same, and leave of a text what is left with a parenthesis behind it. -/
def Same (tail : List Char) {Read : Type} (alone within : Read × List Char) : Prop :=
  within.1 = alone.1 ∧ Behind tail alone.2 within.2

/-- Two readers read the same two things. -/
def SameBoth (tail : List Char) {Read Too : Type} (alone within : Read × Too × List Char) : Prop :=
  within.1 = alone.1 ∧ within.2.1 = alone.2.1 ∧ Behind tail alone.2.2 within.2.2

variable {tail text kept left rest found : List Char} {flags : Flags} {fewer steps : Nat}
  {letter : Char}

/-- Who may take more steps can take a first one too, and still as many after it. -/
theorem exists_succ_of_le (enough : fewer + 1 ≤ steps) :
    ∃ more, steps = more + 1 ∧ fewer ≤ more := by
  obtain ⟨more, rfl⟩ := Nat.exists_eq_add_one.2 (Nat.lt_of_lt_of_le fewer.succ_pos enough)
  exact ⟨more, rfl, Nat.le_of_succ_le_succ enough⟩

theorem Behind.of_cons (behind : Behind tail (letter :: left) kept) :
    ∃ more, kept = letter :: more ∧ Behind tail left more := by
  cases behind
  exact ⟨_, rfl, .kept left⟩

/-- What stands there with a parenthesis behind it, other than that parenthesis, stands there
alone. -/
theorem Behind.to_cons (behind : Behind tail left (letter :: kept)) (other : letter ≠ ')') :
    ∃ rest, left = letter :: rest ∧ Behind tail rest kept := by
  cases left with
  | nil =>
    cases behind
    exact absurd rfl other
  | cons first rest =>
    cases behind
    exact ⟨rest, rfl, .kept rest⟩

theorem Behind.of_cons_cons {second : Char} (behind : Behind tail (letter :: second :: left) kept) :
    ∃ more, kept = letter :: second :: more ∧ Behind tail left more := by
  obtain ⟨_, rfl, others⟩ := behind.of_cons
  obtain ⟨more, rfl, further⟩ := others.of_cons
  exact ⟨more, rfl, further⟩

/-- What does not stand there alone does not stand there with a parenthesis behind it. -/
theorem Behind.ne_cons (behind : Behind tail left kept)
    (absent : ∀ rest, left = letter :: rest → False) (other : letter ≠ ')') (more : List Char) :
    kept = letter :: more → False := by
  rintro rfl
  obtain ⟨rest, rfl, -⟩ := behind.to_cons other
  exact absent rest rfl

theorem Behind.ne_cons_cons {second : Char} (behind : Behind tail left kept)
    (absent : ∀ rest, left = letter :: second :: rest → False) (other : letter ≠ ')')
    (otherToo : second ≠ ')') (more : List Char) : kept = letter :: second :: more → False := by
  rintro rfl
  obtain ⟨rest, rfl, further⟩ := behind.to_cons other
  exact further.ne_cons (fun last same => absent last (by rw [same])) otherToo more rfl

theorem Behind.ne_nil (behind : Behind tail left kept) (filled : left = [] → False) :
    kept = [] → False := by
  rintro rfl
  cases left with
  | nil => exact filled rfl
  | cons => cases behind

theorem Behind.length_le (behind : Behind tail left kept) : left.length ≤ kept.length := by
  cases behind with
  | kept =>
    rw [List.length_append]
    exact Nat.le_add_right _ _
  | taken => exact Nat.le_refl _

theorem Behind.dropWhile {dropped : Char → Bool} (behind : Behind tail text kept)
    (parenthesis : dropped ')' = false) :
    Behind tail (text.dropWhile dropped) (kept.dropWhile dropped) := by
  cases behind with
  | taken => exact .taken
  | kept =>
    induction text with
    | nil =>
      rw [List.nil_append, List.dropWhile_cons_of_neg (by simp [parenthesis])]
      exact .kept []
    | cons first rest step =>
      rw [List.cons_append]
      cases drops : dropped first with
      | true =>
        rw [List.dropWhile_cons_of_pos drops, List.dropWhile_cons_of_pos drops]
        exact step
      | false =>
        rw [List.dropWhile_cons_of_neg (by simp [drops]),
          List.dropWhile_cons_of_neg (by simp [drops])]
        exact .kept (first :: rest)

/-- A character that is not dropped ends what is dropped, whatever stands behind the text. -/
theorem Behind.of_dropWhile {dropped : Char → Bool} (behind : Behind tail text kept)
    (leads : text.dropWhile dropped = letter :: rest) :
    kept.takeWhile dropped = text.takeWhile dropped ∧
      ∃ more, kept.dropWhile dropped = letter :: more ∧ Behind tail rest more := by
  cases behind with
  | taken => cases leads
  | kept =>
    induction text with
    | nil => cases leads
    | cons first others step =>
      rw [List.cons_append]
      cases drops : dropped first with
      | true =>
        rw [List.dropWhile_cons_of_pos drops] at leads
        rw [List.dropWhile_cons_of_pos drops, List.takeWhile_cons_of_pos drops,
          List.takeWhile_cons_of_pos drops]
        obtain ⟨same, more⟩ := step leads
        exact ⟨congrArg _ same, more⟩
      | false =>
        have stays : ¬ dropped first = true := by simp [drops]
        rw [List.dropWhile_cons_of_neg stays] at leads
        rw [List.dropWhile_cons_of_neg stays, List.takeWhile_cons_of_neg stays,
          List.takeWhile_cons_of_neg stays]
        cases leads
        exact ⟨rfl, _, rfl, .kept rest⟩

/-! ### Readers that follow each other -/

section Follows

variable {Answer Other Next Last Read : Type} {related : Answer → Other → Prop}
  {further : Next → Last → Prop} {alone : Option Answer} {within : Option Other}

theorem follows_none : Follows related none within := nofun

theorem follows_some {answer : Answer} {other : Other} (same : related answer other) :
    Follows related (some answer) (some other) := by
  intro _ read
  cases read
  exact ⟨other, rfl, same⟩

theorem follows_same {read : Read} (behind : Behind tail left kept) :
    Follows (Same tail) (some (read, left)) (some (read, kept)) :=
  follows_some ⟨rfl, behind⟩

theorem Follows.bind {next : Answer → Option Next} {last : Other → Option Last}
    (follows : Follows related alone within)
    (goes : ∀ answer other, related answer other → Follows further (next answer) (last other)) :
    Follows further (alone >>= next) (within >>= last) := by
  intro result read
  obtain ⟨answer, first, second⟩ := Option.bind_eq_some_iff.1 read
  obtain ⟨other, otherFirst, same⟩ := follows answer first
  obtain ⟨final, otherSecond, holds⟩ := goes answer other same result second
  exact ⟨final, Option.bind_eq_some_iff.2 ⟨other, otherFirst, otherSecond⟩, holds⟩

theorem Follows.map {next : Answer → Next} {last : Other → Last}
    (follows : Follows related alone within)
    (goes : ∀ answer other, related answer other → further (next answer) (last other)) :
    Follows further (alone.map next) (within.map last) := by
  intro result read
  obtain ⟨answer, first, rfl⟩ := Option.map_eq_some_iff.1 read
  obtain ⟨other, otherFirst, same⟩ := follows answer first
  exact ⟨last other, Option.map_eq_some_iff.2 ⟨other, otherFirst, rfl⟩, goes answer other same⟩

/-- Where the same is computed from what was read, the readers go on with the same. -/
theorem follows_value (value : Option Answer) {next : Answer → Option Next}
    {last : Answer → Option Last} (goes : ∀ answer, Follows further (next answer) (last answer)) :
    Follows further (value >>= next) (value >>= last) := by
  cases value with
  | none => exact follows_none
  | some answer => exact goes answer

end Follows

/-! ### Blanks -/

theorem length_dropComments_le (inComment : Bool) (text : List Char) :
    (dropComments inComment text).length ≤ text.length := by
  induction text generalizing inComment with
  | nil => exact Nat.le_refl _
  | cons letter text step =>
    unfold dropComments
    split
    · exact Nat.le_succ_of_le (step _)
    · split
      · exact Nat.le_succ_of_le (step _)
      · split
        · exact Nat.le_succ_of_le (step _)
        · exact Nat.le_refl _

theorem length_skip_le (flags : Flags) (text : List Char) :
    (skip flags text).length ≤ text.length := by
  unfold skip
  split
  · exact length_dropComments_le false text
  · exact Nat.le_refl _

/-- A comment has no end where there is no line feed. -/
theorem dropComments_of_comment (none : '\n' ∉ text) : dropComments true text = [] := by
  induction text with
  | nil => rfl
  | cons letter text step =>
    rw [List.mem_cons, not_or] at none
    unfold dropComments
    rw [if_pos rfl, bne_iff_ne.2 (Ne.symm none.1)]
    exact step none.2

theorem isBlank_parenthesis : isBlank ')' = false := by decide +kernel

theorem dropComments_of_blank (blank : ∀ letter ∈ text, isBlank letter = true)
    (inComment : Bool) : dropComments inComment text = [] := by
  induction text generalizing inComment with
  | nil => rfl
  | cons letter text step =>
    rw [List.forall_mem_cons] at blank
    unfold dropComments
    rw [if_pos blank.1, step blank.2, step blank.2, ite_self]

/-- Blanks in front are dropped anyway. -/
theorem dropComments_dropWhile (text : List Char) :
    dropComments false (text.dropWhile isBlank) = dropComments false text := by
  induction text with
  | nil => rfl
  | cons letter text step =>
    cases blank : isBlank letter with
    | true =>
      have drops : dropComments false (letter :: text) = dropComments false text := by
        rw [dropComments, if_neg Bool.false_ne_true, if_pos blank]
      rw [List.dropWhile_cons_of_pos blank, step, drops]
    | false => rw [List.dropWhile_cons_of_neg (by simp [blank])]

/-- Blanks lead to what they lead to alone, or a comment takes everything. -/
theorem behind_dropComments (quiet : Quiet tail) (inComment : Bool) (text : List Char) :
    Behind tail (dropComments inComment text) (dropComments inComment (text ++ ')' :: tail)) := by
  induction text generalizing inComment with
  | nil =>
    cases inComment with
    | true =>
      show Behind tail [] (dropComments (')' != '\n') tail)
      rw [show (')' != '\n') = true from rfl, dropComments_of_comment quiet.no_line_feed]
      exact .taken
    | false =>
      show Behind tail [] (if isBlank ')' = true then _ else _)
      rw [isBlank_parenthesis]
      exact .kept []
  | cons letter text step =>
    rw [List.cons_append]
    unfold dropComments
    split
    · exact step _
    · split
      · exact step _
      · split
        · exact step _
        · exact .kept (letter :: text)

theorem Behind.skip (quiet : Quiet tail) (flags : Flags) (behind : Behind tail text kept) :
    Behind tail (skip flags text) (skip flags kept) := by
  unfold Regex.skip
  split
  · cases behind with
    | kept => exact behind_dropComments quiet false text
    | taken => exact .taken
  · exact behind

/-- Blanks that lead to a character alone lead to it with a parenthesis behind the text. -/
theorem Behind.of_skip (quiet : Quiet tail) (behind : Behind tail text kept)
    (leads : Regex.skip flags text = letter :: rest) :
    ∃ more, Regex.skip flags kept = letter :: more ∧ Behind tail rest more := by
  have skipped := behind.skip quiet flags
  rw [leads] at skipped
  exact skipped.of_cons

/-! ### Primitives -/

namespace Primitive

variable {digits : List Char}

theorem follows_braceDigits? (quiet : Quiet tail) (behind : Behind tail text kept)
    (enough : fewer ≤ steps) :
    Follows (Same tail) (braceDigits? flags fewer text found)
      (braceDigits? flags steps kept found) := by
  induction fewer generalizing text kept found steps with
  | zero => exact follows_none
  | succ fewer step =>
    obtain ⟨steps, rfl, fits⟩ := exists_succ_of_le enough
    unfold braceDigits?
    cases leads : skip flags text with
    | nil => exact follows_none
    | cons digit rest =>
      obtain ⟨more, leadsToo, behind⟩ := behind.of_skip quiet leads
      rw [leadsToo]
      by_cases closes : digit = '\x7d'
      · subst closes
        exact follows_same (behind.skip quiet flags)
      · simp only
        split
        · exact step behind fits
        · exact follows_none

theorem follows_fixedDigits? (quiet : Quiet tail) (behind : Behind tail text kept)
    (missing : Nat) :
    Follows (Same tail) (fixedDigits? flags missing text found)
      (fixedDigits? flags missing kept found) := by
  induction missing generalizing text kept found with
  | zero => exact follows_same behind
  | succ missing step =>
    unfold fixedDigits?
    cases leads : skip flags text with
    | nil => exact follows_none
    | cons digit rest =>
      obtain ⟨more, leadsToo, behind⟩ := behind.of_skip quiet leads
      rw [leadsToo]
      dsimp only
      split
      · exact step behind
      · exact follows_none

/-- Digits that were read, what is left behind them, and whether they are those of a byte. -/
def SameDigits (tail : List Char) (alone within : List Char × List Char × Bool) : Prop :=
  within.1 = alone.1 ∧ within.2.2 = alone.2.2 ∧ Behind tail alone.2.1 within.2.1

theorem follows_hexadecimal? (quiet : Quiet tail) (behind : Behind tail text kept)
    (digits : Nat) :
    Follows (Same tail) (hexadecimal? flags digits text) (hexadecimal? flags digits kept) := by
  have skipped := behind.skip quiet flags
  unfold hexadecimal?
  dsimp only
  generalize skip flags text = text at skipped ⊢
  generalize skip flags kept = kept at skipped ⊢
  -- What the digits stand for does not depend on what is left behind them.
  have read {alone within : Option (List Char × List Char × Bool)}
      (follows : Follows (SameDigits tail) alone within) :
      Follows (Same tail)
        (alone >>= fun digits =>
          if digits.1 = [] then none
          else
            (character? (digits.1.foldl
              (fun code digit => code * 16 + (Digit.hexadecimal? digit).getD 0) 0)).map
                fun letter => (literal letter digits.2.2, digits.2.1))
        (within >>= fun digits =>
          if digits.1 = [] then none
          else
            (character? (digits.1.foldl
              (fun code digit => code * 16 + (Digit.hexadecimal? digit).getD 0) 0)).map
                fun letter => (literal letter digits.2.2, digits.2.1)) := by
    refine follows.bind ?_
    rintro ⟨written, left, byte⟩ ⟨_, kept, _⟩ ⟨rfl, rfl, behind⟩
    dsimp only
    split
    · exact follows_none
    · cases character? _ with
      | none => exact follows_none
      | some letter => exact follows_same behind
  split
  · obtain ⟨more, rfl, behind⟩ := skipped.of_cons
    refine read ((follows_braceDigits? quiet behind ?_).map ?_)
    · exact Nat.succ_le_succ behind.length_le
    · rintro ⟨written, left⟩ ⟨_, kept⟩ ⟨rfl, behind⟩
      exact ⟨rfl, rfl, behind⟩
  · next unbraced =>
    have unbraced := skipped.ne_cons unbraced (by decide)
    simp only
    refine read ((follows_fixedDigits? quiet skipped digits).map ?_)
    rintro ⟨written, left⟩ ⟨_, kept⟩ ⟨rfl, behind⟩
    exact ⟨rfl, rfl, behind.skip quiet flags⟩

theorem follows_braceName? (quiet : Quiet tail) (behind : Behind tail text kept)
    (enough : fewer ≤ steps) :
    Follows (Same tail) (braceName? flags fewer text found)
      (braceName? flags steps kept found) := by
  induction fewer generalizing text kept found steps with
  | zero => exact follows_none
  | succ fewer step =>
    obtain ⟨steps, rfl, fits⟩ := exists_succ_of_le enough
    unfold braceName?
    cases leads : skip flags text with
    | nil => exact follows_none
    | cons digit rest =>
      obtain ⟨more, leadsToo, behind⟩ := behind.of_skip quiet leads
      rw [leadsToo]
      by_cases closes : digit = '\x7d'
      · subst closes
        exact follows_same behind
      · simp only
        exact step behind fits

theorem follows_property? (quiet : Quiet tail) (behind : Behind tail text kept) (outside : Bool) :
    Follows (Same tail) (property? flags outside text) (property? flags outside kept) := by
  unfold property?
  cases leads : skip flags text with
  | nil => exact follows_none
  | cons letter rest =>
    obtain ⟨more, leadsToo, behind⟩ := behind.of_skip quiet leads
    rw [leadsToo]
    by_cases opens : letter = '\x7b'
    · subst opens
      refine (follows_braceName? quiet behind (Nat.succ_le_succ behind.length_le)).bind ?_
      rintro ⟨name, left⟩ ⟨_, kept⟩ ⟨rfl, behind⟩
      exact follows_value _ fun (set, opposite) => follows_same behind
    · simp only
      split
      · exact follows_none
      · cases CharClass.named? [letter] with
        | none => exact follows_none
        | some set => exact follows_same (behind.skip quiet flags)

theorem follows_edgeName? (quiet : Quiet tail) (behind : Behind tail text kept)
    (enough : fewer ≤ steps) :
    Follows (Same tail) (edgeName? flags fewer text found) (edgeName? flags steps kept found) := by
  induction fewer generalizing text kept found steps with
  | zero => exact follows_none
  | succ fewer step =>
    obtain ⟨steps, rfl, fits⟩ := exists_succ_of_le enough
    unfold edgeName?
    cases leads : skip flags text with
    | nil => exact follows_none
    | cons digit rest =>
      obtain ⟨more, leadsToo, behind⟩ := behind.of_skip quiet leads
      rw [leadsToo]
      by_cases closes : digit = '\x7d'
      · subst closes
        exact follows_same behind
      · simp only
        split
        · exact step behind fits
        · exact follows_none

theorem follows_boundary? (quiet : Quiet tail) (behind : Behind tail text kept) :
    Follows (Same tail) (boundary? flags text) (boundary? flags kept) := by
  unfold boundary?
  split
  · next inner =>
    obtain ⟨more, rfl, behindInner⟩ := behind.of_cons
    cases leads : skip flags inner with
    | nil => exact follows_none
    | cons letter rest =>
      obtain ⟨others, leadsToo, -⟩ := behindInner.of_skip quiet leads
      simp only [leadsToo]
      split
      · have enough := Nat.succ_le_succ behindInner.length_le
        refine (follows_edgeName? quiet behindInner enough).bind ?_
        rintro ⟨name, left⟩ ⟨_, kept⟩ ⟨rfl, behind⟩
        dsimp only
        split
        · exact follows_same behind
        · exact follows_same behind
        · exact follows_same behind
        · exact follows_same behind
        · exact follows_none
      · exact follows_same behind
  · next unbraced =>
    have unbraced := behind.ne_cons unbraced (by decide)
    simp only
    exact follows_same behind

theorem follows_escape? (quiet : Quiet tail) (behind : Behind tail text kept) :
    Follows (Same tail) (escape? flags text) (escape? flags kept) := by
  unfold escape?
  split
  case h_1 => exact follows_none
  all_goals obtain ⟨more, rfl, further⟩ := behind.of_cons
  -- The codes, the classes by name and the word boundary read on behind their letters.
  case h_2 => exact follows_hexadecimal? quiet further 2
  case h_3 => exact follows_hexadecimal? quiet further 4
  case h_4 => exact follows_hexadecimal? quiet further 8
  case h_5 => exact follows_property? quiet further false
  case h_6 => exact follows_property? quiet further true
  case h_21 => exact follows_boundary? quiet further
  case h_25 =>
    simp only
    split
    · exact follows_same further
    · exact follows_none
  all_goals exact follows_same further

theorem follows_read? (quiet : Quiet tail) (behind : Behind tail text kept) :
    Follows (Same tail) (read? flags text) (read? flags kept) := by
  unfold read?
  split
  case h_1 => exact follows_none
  all_goals obtain ⟨more, rfl, further⟩ := behind.of_cons
  case h_2 => exact follows_escape? quiet further
  case h_6 =>
    simp only
    exact follows_same further
  all_goals exact follows_same further

end Primitive

end LineLexer.Regex
