import LineLexer.Proofs.Behind
import LineLexer.Regex.Reader
import Mathlib.Data.List.TakeWhile

/-!
**Patterns read inside a group.**

A pattern that can be read by itself is read in a group as it is alone: its classes, its groups and
its repetitions end where they end alone, and what stands behind it is the parenthesis that closes
the group around it.

* `Bracket.follows_read?`: classes between brackets;
* `Reader.follows_open?`, `Reader.follows_bounds?`: groups and repetitions;
* `Reader.follows_parts?`: whole patterns.
-/

namespace LineLexer.Regex

variable {tail text kept rest left found : List Char} {flags : Flags} {fewer steps : Nat}
  {letter : Char}

/-! ### Classes -/

namespace Bracket

variable {items : Items} {before : Left}

/-- A name between colons ends in front of the parenthesis or not at all. -/
theorem closes_or_not (quiet : Quiet tail) (behind : Behind tail text kept) :
    (∃ left more, text.dropWhile (· != ':') = ':' :: ']' :: left ∧
      kept.dropWhile (· != ':') = ':' :: ']' :: more ∧
      kept.takeWhile (· != ':') = text.takeWhile (· != ':') ∧ Behind tail left more) ∨
    (∀ left, text.dropWhile (· != ':') ≠ ':' :: ']' :: left) ∧
      ∀ more, kept.dropWhile (· != ':') ≠ ':' :: ']' :: more := by
  cases leads : text.dropWhile (· != ':') with
  | nil =>
    refine .inr ⟨nofun, fun more same => ?_⟩
    cases behind with
    | taken => cases same
    | kept =>
      have all := List.dropWhile_eq_nil_iff.1 leads
      rw [List.dropWhile_append_of_pos all] at same
      have inside : ']' ∈ ')' :: tail :=
        (List.dropWhile_suffix _).subset (same ▸ List.mem_cons_of_mem _ List.mem_cons_self)
      rcases List.mem_cons.1 inside with other | inside
      · exact absurd other (by decide)
      · exact quiet.no_bracket inside
  | cons colon rest =>
    obtain ⟨sameName, more, leadsToo, behind⟩ := behind.of_dropWhile leads
    rw [leadsToo]
    by_cases closes : ∃ left, colon :: rest = ':' :: ']' :: left
    · obtain ⟨left, same⟩ := closes
      cases same
      obtain ⟨others, rfl, further⟩ := behind.of_cons
      exact .inl ⟨left, others, rfl, rfl, sameName, further⟩
    · refine .inr ⟨fun left same => closes ⟨left, same⟩, fun others same => ?_⟩
      cases same
      obtain ⟨left, rfl, -⟩ := behind.to_cons (by decide)
      exact closes ⟨left, rfl⟩

/-- A class between colons is read the same with a parenthesis behind it, and what is none alone is
none there. -/
theorem named?_of_behind (quiet : Quiet tail) (behind : Behind tail text kept) :
    (named? text = none ∧ named? kept = none) ∨
      ∃ set outside left more, named? text = some (set, outside, left) ∧
        named? kept = some (set, outside, more) ∧ Behind tail left more := by
  unfold named?
  split
  case' h_1 =>
    obtain ⟨_, rfl, colon⟩ := behind.of_cons
    obtain ⟨_, rfl, hat⟩ := colon.of_cons
    obtain ⟨more, rfl, name⟩ := hat.of_cons
  case' h_2 others =>
    obtain ⟨_, rfl, colon⟩ := behind.of_cons
    obtain ⟨more, rfl, name⟩ := colon.of_cons
    have unopposed := name.ne_cons others (by decide)
  case h_3 unopposed unopened =>
    have unopened := behind.ne_cons_cons unopened (by decide) (by decide)
    have unopposed : ∀ rest, kept = '[' :: ':' :: '^' :: rest → False := fun rest => unopened _
    refine .inl ⟨rfl, ?_⟩
    simp only
    rfl
  all_goals
    simp only [Option.bind_eq_bind, Option.bind_some]
    rcases closes_or_not quiet name with
      ⟨left, more, alone, within, same, further⟩ | ⟨alone, within⟩
    · rw [alone, within, same]
      cases CharClass.bracketed? _ with
      | none => exact .inl ⟨rfl, rfl⟩
      | some set => exact .inr ⟨set, _, left, more, rfl, rfl, further⟩
    · exact .inl ⟨by simp only, by simp only⟩

theorem follows_primitive? (quiet : Quiet tail) (behind : Behind tail text kept) :
    Follows (Same tail) (primitive? flags text) (primitive? flags kept) := by
  unfold primitive?
  split
  case h_1 => exact follows_none
  all_goals obtain ⟨more, rfl, further⟩ := behind.of_cons
  case h_2 => exact Primitive.follows_escape? quiet further
  case h_3 =>
    simp only
    exact follows_same further

theorem isBlank_number : isBlank '#' = false := by decide +kernel

/-- The character after the next one stays the same, unless only blanks and comments stand there. -/
theorem peek_of_behind (behind : Behind tail rest kept)
    (stands : skip flags rest ≠ [] ∨ ∃ mark, peek flags (letter :: rest) = some mark ∧
      isBlank mark = false ∧ mark ≠ '#') :
    peek flags (letter :: kept) = peek flags (letter :: rest) := by
  have sameHead (filled : rest ≠ []) : kept.head? = rest.head? := by
    obtain ⟨first, others, rfl⟩ := List.exists_cons_of_ne_nil filled
    obtain ⟨more, rfl, -⟩ := behind.of_cons
    rfl
  -- Where there are only blanks and comments, the character itself is a blank or starts a comment.
  have excluded (empty : skip flags rest = []) (shown : peek flags (letter :: rest) = rest.head?)
      (blank : ∀ first, rest.head? = some first → isBlank first = true ∨ first = '#') : False := by
    rcases stands with filled | ⟨mark, same, visible, other⟩
    · exact filled empty
    · rcases blank mark (shown ▸ same) with blank | number
      · exact Bool.false_ne_true (visible.symm.trans blank)
      · exact other number
  by_cases verbose : flags.verbose = true
  · simp only [peek, skip, if_pos verbose] at excluded ⊢
    cases leads : rest.dropWhile isBlank with
    | nil =>
      have blank := List.dropWhile_eq_nil_iff.1 leads
      rw [leads] at excluded
      refine (excluded (dropComments_of_blank blank false) rfl fun first same => ?_).elim
      exact .inl (blank first (List.mem_of_mem_head? same))
    | cons first others =>
      obtain ⟨-, more, leadsToo, further⟩ := behind.of_dropWhile leads
      rw [leads] at excluded
      rw [leadsToo]
      by_cases comment : first = '#'
      · subst comment
        simp only at excluded ⊢
        cases inComment : others.dropWhile isBlank with
        | nil =>
          rw [inComment] at excluded
          have blank := List.dropWhile_eq_nil_iff.1 inComment
          have empty : dropComments false rest = [] := by
            rw [← dropComments_dropWhile, leads, dropComments, if_neg Bool.false_ne_true,
              isBlank_number, if_neg Bool.false_ne_true, if_pos rfl]
            exact dropComments_of_blank blank true
          refine (excluded empty rfl fun first same => ?_).elim
          cases drops : isBlank first with
          | true => exact .inl rfl
          | false =>
            obtain ⟨last, rfl⟩ := List.head?_eq_some_iff.1 same
            rw [List.dropWhile_cons_of_neg (by simp [drops])] at leads
            exact .inr (List.cons.inj leads).1
        | cons second last =>
          obtain ⟨-, lastToo, inCommentToo, -⟩ := further.of_dropWhile inComment
          rw [inCommentToo]
          rfl
      · simp only
  · simp only [peek, skip, if_neg verbose] at excluded ⊢
    refine sameHead ?_
    rintro rfl
    exact excluded rfl trivial fun first none => by cases none

theorem follows_item? (quiet : Quiet tail) (behind : Behind tail text kept) :
    Follows (Same tail) (item? flags text) (item? flags kept) := by
  unfold item?
  refine (follows_primitive? quiet behind).bind ?_
  rintro ⟨_, rest⟩ ⟨first, more⟩ ⟨rfl, behind⟩
  dsimp only at behind ⊢
  have skipped := behind.skip quiet flags
  generalize skip flags rest = rest at skipped ⊢
  generalize skip flags more = more at skipped ⊢
  have alone : Follows (Same tail) ((members? flags first).map (·, rest))
      ((members? flags first).map (·, more)) := by
    cases members? flags first with
    | none => exact follows_none
    | some set => exact follows_same skipped
  split
  · exact follows_none
  · next after =>
    obtain ⟨others, rfl, further⟩ := skipped.of_cons
    simp only
    by_cases ends : peek flags ('-' :: after) = some ']' ∨ peek flags ('-' :: after) = some '-'
    · have same : peek flags ('-' :: others) = peek flags ('-' :: after) := by
        refine peek_of_behind further (.inr ?_)
        rcases ends with bracket | hyphen
        · exact ⟨']', bracket, by decide +kernel, by decide⟩
        · exact ⟨'-', hyphen, by decide +kernel, by decide⟩
      rw [if_pos ends, same, if_pos ends]
      exact alone
    · rw [if_neg ends]
      cases leads : skip flags after with
      | nil => exact follows_none
      | cons second rest =>
        have same : peek flags ('-' :: others) = peek flags ('-' :: after) :=
          peek_of_behind further (.inl (by simp [leads]))
        have skippedAfter := further.skip quiet flags
        rw [leads] at skippedAfter
        rw [same, if_neg ends]
        generalize skip flags others = others at skippedAfter
        obtain ⟨more, rfl, -⟩ := skippedAfter.of_cons
        show Follows _ (primitive? flags (second :: rest) >>= _)
          (primitive? flags (second :: more) >>= _)
        refine (follows_primitive? quiet skippedAfter).bind ?_
        rintro ⟨_, rest⟩ ⟨second, more⟩ ⟨rfl, behind⟩
        refine follows_value _ fun low => follows_value _ fun high => ?_
        dsimp only
        split
        · exact follows_same behind
        · exact follows_none
  · next filled unhyphened =>
    have filled := skipped.ne_nil filled
    have unhyphened := skipped.ne_cons unhyphened (by decide)
    simp only
    exact alone

theorem same_hyphens (quiet : Quiet tail) (behind : Behind tail text kept)
    (bounded : text.length ≤ fewer) (enough : fewer ≤ steps) :
    Same tail (hyphens flags fewer text items) (hyphens flags steps kept items) := by
  induction fewer generalizing text kept items steps with
  | zero =>
    cases List.eq_nil_of_length_eq_zero (Nat.le_zero.1 bounded)
    have still : hyphens flags steps kept items = (items, kept) := by
      cases steps with
      | zero => rfl
      | succ steps => cases behind <;> rfl
    rw [still]
    exact ⟨rfl, behind⟩
  | succ fewer step =>
    obtain ⟨steps, rfl, fits⟩ := exists_succ_of_le enough
    unfold hyphens
    split
    · next rest =>
      obtain ⟨more, rfl, further⟩ := behind.of_cons
      refine step (further.skip quiet flags) ?_ fits
      exact (length_skip_le flags rest).trans (Nat.le_of_succ_le_succ bounded)
    · next unhyphened =>
      have unhyphened := behind.ne_cons unhyphened (by decide)
      simp only
      exact ⟨rfl, behind⟩

theorem same_start (flags : Flags) (quiet : Quiet tail) (behind : Behind tail text kept) :
    SameBoth tail (start flags text) (start flags kept) := by
  unfold start
  have skipped := behind.skip quiet flags
  generalize skip flags text = text at skipped ⊢
  generalize skip flags kept = kept at skipped ⊢
  dsimp only
  by_cases opposed : ∃ rest, text = '^' :: rest
  case' pos =>
    obtain ⟨rest, rfl⟩ := opposed
    obtain ⟨more, rfl, further⟩ := skipped.of_cons
    replace further := further.skip quiet flags
  case' neg =>
    have alone : ∀ rest, text = '^' :: rest → False := fun rest same => opposed ⟨rest, same⟩
    have within := skipped.ne_cons alone (by decide)
    have further := skipped
  all_goals
    simp only
    obtain ⟨same, behind⟩ : Same tail (hyphens flags _ _ {}) (hyphens flags _ _ {}) :=
      same_hyphens quiet further (Nat.le_refl _) further.length_le
    rw [same]
    generalize (hyphens flags _ _ {}).2 = text at behind ⊢
    generalize (hyphens flags _ _ {}).2 = kept at behind ⊢
    generalize (hyphens flags _ _ {}).1 = items
    split
    · next none =>
      obtain ⟨more, rfl, further⟩ := behind.of_cons
      simp only [none]
      exact ⟨rfl, rfl, further.skip quiet flags⟩
    · next unclosed =>
      have unclosed : ∀ more, items.count = 0 → kept = ']' :: more → False := fun more none =>
        behind.ne_cons (fun rest => unclosed rest none) (by decide) more
      simp only
      exact ⟨rfl, rfl, behind⟩

theorem follows_rest? (quiet : Quiet tail) (behind : Behind tail text kept)
    (enough : fewer ≤ steps) (outside : Bool) :
    Follows (Same tail) (rest? flags outside fewer text items before)
      (rest? flags outside steps kept items before) := by
  induction fewer generalizing text kept items before outside steps with
  | zero => exact follows_none
  | succ fewer step =>
    obtain ⟨steps, rfl, fits⟩ := exists_succ_of_le enough
    unfold rest?
    have skipped := behind.skip quiet flags
    generalize skip flags text = text at skipped ⊢
    generalize skip flags kept = kept at skipped ⊢
    dsimp only
    split
    -- The operators between two classes are two characters each.
    case h_4 | h_5 | h_6 =>
      obtain ⟨more, rfl, further⟩ := skipped.of_cons_cons
      exact step further fits outside
    · exact follows_none
    · obtain ⟨more, rfl, further⟩ := skipped.of_cons
      exact follows_value _ fun set => follows_same further
    · next rest =>
      obtain ⟨more, rfl, further⟩ := skipped.of_cons
      simp only
      rcases named?_of_behind quiet skipped with
        ⟨alone, within⟩ | ⟨set, opposite, left, others, alone, within, behind⟩
      · rw [alone, within]
        dsimp only
        obtain ⟨sameOutside, sameItems, behind⟩ := same_start flags quiet further
        rw [sameOutside, sameItems]
        refine (step behind fits _).bind ?_
        rintro ⟨_, rest⟩ ⟨nested, more⟩ ⟨rfl, behind⟩
        exact step behind fits outside
      · rw [alone, within]
        exact follows_value _ fun set => step behind fits outside
    · next filled unclosed unopened ampersands hyphens tildes =>
      have filled := skipped.ne_nil filled
      have unclosed := skipped.ne_cons unclosed (by decide)
      have unopened := skipped.ne_cons unopened (by decide)
      have ampersands := skipped.ne_cons_cons ampersands (by decide) (by decide)
      have hyphens := skipped.ne_cons_cons hyphens (by decide) (by decide)
      have tildes := skipped.ne_cons_cons tildes (by decide) (by decide)
      simp only
      refine (follows_item? quiet skipped).bind ?_
      rintro ⟨_, rest⟩ ⟨set, more⟩ ⟨rfl, behind⟩
      exact step behind fits outside

theorem follows_read? (quiet : Quiet tail) (behind : Behind tail text kept) :
    Follows (Same tail) (read? flags text) (read? flags kept) := by
  unfold read?
  dsimp only
  obtain ⟨sameOutside, sameItems, further⟩ := same_start flags quiet behind
  rw [sameOutside, sameItems]
  exact follows_rest? quiet further (Nat.succ_le_succ behind.length_le) _

end Bracket

/-! ### Groups and repetitions -/

theorem Flags.follows_readFrom? {reading : Flags.Reading} (behind : Behind tail text kept) :
    Follows (SameBoth tail) (readFrom? reading text) (readFrom? reading kept) := by
  induction text generalizing reading kept with
  | nil => exact follows_none
  | cons letter rest step =>
    obtain ⟨more, rfl, further⟩ := behind.of_cons
    unfold readFrom?
    split
    · next same => cases same
    · next same =>
      cases same
      simp only
      split
      · exact follows_none
      · exact follows_some ⟨rfl, rfl, further⟩
    · next same =>
      cases same
      simp only
      split
      · exact follows_none
      · exact follows_some ⟨rfl, rfl, further⟩
    · next same =>
      cases same
      simp only
      split
      · exact step further
      · exact follows_none

namespace Reader

variable {cursor : Cursor} {opening : Opening} {parts branches : List Part}

/-- Two readers read the same and are left with the same, but for the rest of the pattern. -/
def SameCursor (tail : List Char) {Read : Type} (alone within : Read × Cursor) : Prop :=
  ∃ more, within = (alone.1, { alone.2 with rest := more }) ∧ Behind tail alone.2.rest more

theorem follows_groupName? (behind : Behind tail text kept) :
    Follows (Same tail) (groupName? text) (groupName? kept) := by
  unfold groupName?
  cases leads : text.dropWhile (· != '>') with
  | nil =>
    split
    · next same => cases same
    · exact follows_none
  | cons angle rest =>
    obtain ⟨sameName, more, leadsToo, further⟩ := behind.of_dropWhile leads
    rw [leadsToo, sameName]
    split
    · next named same =>
      cases same
      simp only [named]
      split
      · exact follows_same further
      · exact follows_none
    · exact follows_none

theorem follows_openNamed? (behind : Behind tail text kept) :
    Follows (SameCursor tail) (cursor.openNamed? text)
      ({ cursor with rest := left }.openNamed? kept) := by
  refine (follows_groupName? behind).bind ?_
  rintro ⟨_, rest⟩ ⟨name, more⟩ ⟨rfl, behind⟩
  dsimp only
  split
  · exact follows_none
  · exact follows_some ⟨more, rfl, behind⟩

theorem follows_open? (quiet : Quiet tail) (behind : Behind tail cursor.rest kept) :
    Follows (SameCursor tail) cursor.open? { cursor with rest := kept }.open? := by
  unfold Cursor.open?
  have skipped := behind.skip quiet cursor.flags
  dsimp only
  generalize skip cursor.flags cursor.rest = text at skipped ⊢
  generalize skip cursor.flags kept = kept at skipped ⊢
  split
  · exact follows_none
  · exact follows_none
  · exact follows_none
  · exact follows_none
  · obtain ⟨_, rfl, named⟩ := skipped.of_cons_cons
    obtain ⟨more, rfl, further⟩ := named.of_cons
    exact follows_openNamed? further
  · next unequal unmarked =>
    obtain ⟨more, rfl, further⟩ := skipped.of_cons_cons
    have unequal := further.ne_cons unequal (by decide)
    have unmarked := further.ne_cons unmarked (by decide)
    simp only
    exact follows_openNamed? further
  · next unequal unmarked unequalBehind unmarkedBehind unnamed unangled =>
    obtain ⟨more, rfl, further⟩ := skipped.of_cons
    have unequal := further.ne_cons unequal (by decide)
    have unmarked := further.ne_cons unmarked (by decide)
    have unnamed := further.ne_cons_cons unnamed (by decide) (by decide)
    have unangled := further.ne_cons unangled (by decide)
    have unequalBehind : ∀ rest, more = '<' :: '=' :: rest → False := fun rest => unangled _
    have unmarkedBehind : ∀ rest, more = '<' :: '!' :: rest → False := fun rest => unangled _
    simp only
    refine (Flags.follows_readFrom? further).map ?_
    rintro ⟨_, _, rest⟩ ⟨flags, opensGroup, more⟩ ⟨rfl, rfl, behind⟩
    exact ⟨more, rfl, behind⟩
  · next unasked =>
    have unasked := skipped.ne_cons unasked (by decide)
    have unequal : ∀ rest, kept = '?' :: '=' :: rest → False := fun rest => unasked _
    have unmarked : ∀ rest, kept = '?' :: '!' :: rest → False := fun rest => unasked _
    have unequalBehind : ∀ rest, kept = '?' :: '<' :: '=' :: rest → False := fun rest => unasked _
    have unmarkedBehind : ∀ rest, kept = '?' :: '<' :: '!' :: rest → False := fun rest => unasked _
    have unnamed : ∀ rest, kept = '?' :: 'P' :: '<' :: rest → False := fun rest => unasked _
    have unangled : ∀ rest, kept = '?' :: '<' :: rest → False := fun rest => unasked _
    simp only
    exact follows_some ⟨kept, rfl, skipped⟩

theorem same_lazyMark (behind : Behind tail text kept) :
    Same tail (lazyMark text) (lazyMark kept) := by
  unfold lazyMark
  split
  · obtain ⟨more, rfl, further⟩ := behind.of_cons
    exact ⟨rfl, further⟩
  · next unmarked =>
    have unmarked := behind.ne_cons unmarked (by decide)
    simp only
    exact ⟨rfl, behind⟩

theorem same_countDigits (quiet : Quiet tail) (behind : Behind tail text kept)
    (bounded : text.length ≤ fewer) (enough : fewer ≤ steps) :
    Same tail (countDigits flags fewer text found) (countDigits flags steps kept found) := by
  induction fewer generalizing text kept found steps with
  | zero =>
    cases List.eq_nil_of_length_eq_zero (Nat.le_zero.1 bounded)
    have still : countDigits flags steps kept found = (found.reverse, kept) := by
      cases steps with
      | zero => rfl
      | succ steps => cases behind <;> rfl
    rw [still]
    exact ⟨rfl, behind⟩
  | succ fewer step =>
    obtain ⟨steps, rfl, fits⟩ := exists_succ_of_le enough
    unfold countDigits
    split
    · next digit rest =>
      obtain ⟨more, rfl, further⟩ := behind.of_cons
      dsimp only
      split
      · refine step (further.skip quiet flags) ?_ fits
        exact (length_skip_le flags rest).trans (Nat.le_of_succ_le_succ bounded)
      · exact ⟨rfl, behind⟩
    · cases behind <;> exact ⟨rfl, by constructor⟩

theorem follows_count? (quiet : Quiet tail) (behind : Behind tail text kept) :
    Follows (Same tail) (count? flags text) (count? flags kept) := by
  unfold count?
  have dropped := behind.dropWhile isBlank_parenthesis
  dsimp only
  generalize text.dropWhile isBlank = text at dropped ⊢
  generalize kept.dropWhile isBlank = kept at dropped ⊢
  obtain ⟨same, further⟩ : Same tail (countDigits flags _ text []) (countDigits flags _ kept []) :=
    same_countDigits quiet dropped (Nat.le_refl _) dropped.length_le
  revert same further
  generalize countDigits flags _ text [] = alone
  generalize countDigits flags _ kept [] = within
  obtain ⟨_, rest⟩ := alone
  obtain ⟨digits, more⟩ := within
  rintro rfl further
  cases digits with
  | nil => exact follows_none
  | cons digit digits =>
    dsimp only
    split
    · exact follows_same ((further.dropWhile isBlank_parenthesis).skip quiet flags)
    · exact follows_none

theorem follows_bounds? (quiet : Quiet tail) (behind : Behind tail text kept) :
    Follows (SameBoth tail) (bounds? flags text) (bounds? flags kept) := by
  unfold bounds?
  refine (follows_count? quiet (behind.skip quiet flags)).bind ?_
  rintro ⟨_, rest⟩ ⟨least, more⟩ ⟨rfl, behind⟩
  dsimp only at behind ⊢
  split
  · obtain ⟨more, rfl, further⟩ := behind.of_cons
    exact follows_some ⟨rfl, rfl, further⟩
  · obtain ⟨more, rfl, further⟩ := behind.of_cons
    have skipped := further.skip quiet flags
    generalize skip flags _ = text at skipped ⊢
    simp only
    generalize skip flags more = kept at skipped ⊢
    split
    · obtain ⟨others, rfl, further⟩ := skipped.of_cons
      exact follows_some ⟨rfl, rfl, further⟩
    · next unclosed =>
      have unclosed := skipped.ne_cons unclosed (by decide)
      simp only
      refine (follows_count? quiet skipped).bind ?_
      rintro ⟨_, rest⟩ ⟨most, more⟩ ⟨rfl, behind⟩
      dsimp only at behind ⊢
      split
      · obtain ⟨others, rfl, further⟩ := behind.of_cons
        simp only
        split
        · exact follows_some ⟨rfl, rfl, further⟩
        · exact follows_none
      · exact follows_none
  · exact follows_none

/-- Where a pattern is read with a parenthesis behind it, its parts are those read alone. -/
theorem follows_parts? (quiet : Quiet tail) (behind : Behind tail cursor.rest kept)
    (enough : fewer ≤ steps) :
    Follows (SameCursor tail) (parts? fewer cursor parts branches)
      (parts? steps { cursor with rest := kept } parts branches) := by
  induction fewer generalizing cursor kept parts branches steps with
  | zero => exact follows_none
  | succ fewer step =>
    obtain ⟨steps, rfl, fits⟩ := exists_succ_of_le enough
    unfold parts?
    have skipped := behind.skip quiet cursor.flags
    dsimp only
    generalize skip cursor.flags cursor.rest = text at skipped ⊢
    generalize skip cursor.flags kept = kept at skipped ⊢
    split
    -- The repetitions without counts differ in their bounds only.
    case h_6 | h_7 | h_8 =>
      obtain ⟨more, rfl, further⟩ := skipped.of_cons
      obtain ⟨same, behind⟩ := same_lazyMark further
      simp only [same]
      exact follows_value _ fun parts => step behind fits
    · cases skipped with
      | kept => exact follows_some ⟨')' :: tail, rfl, .kept []⟩
      | taken => exact follows_some ⟨[], rfl, .taken⟩
    · obtain ⟨more, rfl, -⟩ := skipped.of_cons
      exact follows_some ⟨')' :: more, rfl, skipped⟩
    · obtain ⟨more, rfl, further⟩ := skipped.of_cons
      exact step further fits
    · next rest =>
      obtain ⟨more, rfl, further⟩ := skipped.of_cons
      simp only
      have opened : Follows (SameCursor tail) { cursor with rest }.open?
          { cursor with rest := more }.open? := follows_open? quiet further
      refine opened.bind ?_
      rintro ⟨opening, inside⟩ _ ⟨others, rfl, behind⟩
      cases opening with
      | flags flags => exact step behind fits
      | group flags number =>
        dsimp only
        have read : Follows (SameCursor tail) (parts? fewer { inside with flags } [] [])
            (parts? steps { inside with rest := others, flags } [] []) := step behind fits
        refine read.bind ?_
        rintro ⟨body, after⟩ _ ⟨last, rfl, behind⟩
        dsimp only
        split
        · next same =>
          rw [same] at behind
          obtain ⟨more, rfl, further⟩ := behind.of_cons
          exact step further fits
        · exact follows_none
    · obtain ⟨more, rfl, further⟩ := skipped.of_cons
      refine (Bracket.follows_read? quiet further).bind ?_
      rintro ⟨_, rest⟩ ⟨nested, more⟩ ⟨rfl, behind⟩
      exact step behind fits
    · obtain ⟨more, rfl, further⟩ := skipped.of_cons
      simp only
      refine (follows_bounds? quiet further).bind ?_
      rintro ⟨_, _, rest⟩ ⟨least, most, more⟩ ⟨rfl, rfl, behind⟩
      obtain ⟨same, behind⟩ := same_lazyMark (behind.skip quiet cursor.flags)
      dsimp only at same behind ⊢
      simp only [same]
      exact follows_value _ fun parts => step behind fits
    · next filled unclosed unbranched unopened unlisted optional starred crossed counted =>
      have unclosed : ∀ more, kept = ')' :: more → False := by
        obtain ⟨letter, rest, rfl⟩ := List.exists_cons_of_ne_nil filled
        obtain ⟨more, rfl, -⟩ := skipped.of_cons
        rintro _ same
        cases same
        exact unclosed _ rfl
      have filled := skipped.ne_nil filled
      have unbranched := skipped.ne_cons unbranched (by decide)
      have unopened := skipped.ne_cons unopened (by decide)
      have unlisted := skipped.ne_cons unlisted (by decide)
      have optional := skipped.ne_cons optional (by decide)
      have starred := skipped.ne_cons starred (by decide)
      have crossed := skipped.ne_cons crossed (by decide)
      have counted := skipped.ne_cons counted (by decide)
      simp only
      refine (Primitive.follows_read? quiet skipped).bind ?_
      rintro ⟨_, rest⟩ ⟨primitive, more⟩ ⟨rfl, behind⟩
      exact follows_value _ fun expr => step behind fits

end Reader

end LineLexer.Regex
