import LineLexer.Proofs.Ranges
import LineLexer.Proofs.Spans

/-!
**What alternatives span.**

Alternatives are put together in a simplified form: what they begin with together is written once,
and single characters are joined into one set. A choice among words spans what one of the words
spans all the same.

* `Expr.Plain`, `Expr.Wordlike`: what a letter becomes, and a sequence of such parts;
* `Expr.spans_ofSet`: one character of a set;
* `Expr.sharedParts_begin`: what all alternatives begin with;
* `Expr.spans_eitherOf`: what alternatives of such parts span.
-/

namespace LineLexer.Regex.Expr

open CodeRanges

variable {expr first : Expr} {exprs others list : List Expr} {set : CodeRanges} {ascii : Bool}
  {start finish : Spot}

/-! ### Words -/

/-- What a letter becomes: a text, or one character of an orderly set. -/
def Plain : Expr → Prop
  | literal _ => True
  | one set _ => set.Orderly
  | _ => False

/-- All parts of an expression are plain. -/
def Wordlike (expr : Expr) : Prop := ∀ part ∈ expr.parts, part.Plain

theorem Plain.parts (plain : expr.Plain) : expr.parts = [expr] := by
  cases expr with
  | literal | one => rfl
  | _ => exact plain.elim

theorem Plain.wordlike (plain : expr.Plain) : expr.Wordlike := by
  rw [Wordlike, plain.parts]
  exact List.forall_mem_singleton.2 plain

/-- No part of a word is a choice. -/
theorem Wordlike.branches (wordlike : expr.Wordlike) : expr.branches = [expr] := by
  cases expr with
  | either first second => exact (wordlike _ List.mem_cons_self).elim
  | _ => rfl

/-- A sequence of plain parts has these parts. -/
theorem parts_ofParts (plain : ∀ part ∈ list, part.Plain) : (ofParts list).parts = list := by
  induction list with
  | nil => rfl
  | cons first rest step =>
    obtain ⟨former, latter⟩ := List.forall_mem_cons.1 plain
    cases rest with
    | nil => exact former.parts
    | cons second rest => exact congrArg _ (step latter)

theorem plain_consPart (plain : expr.Plain) (others : ∀ part ∈ exprs, part.Plain) :
    ∀ part ∈ consPart expr exprs, part.Plain := by
  unfold consPart
  split
  · exact List.forall_mem_cons.2 ⟨trivial, (List.forall_mem_cons.1 others).2⟩
  · exact List.forall_mem_cons.2 ⟨plain, others⟩

/-- Words one after the other are a word. -/
theorem wordlike_sequenceOf (wordlike : ∀ expr ∈ exprs, expr.Wordlike) :
    (sequenceOf exprs).Wordlike := by
  have flat : ∀ part ∈ exprs.flatMap parts, part.Plain := by
    intro part inside
    obtain ⟨expr, listed, inside⟩ := List.mem_flatMap.1 inside
    exact wordlike expr listed part inside
  have joined : ∀ list : List Expr, (∀ part ∈ list, part.Plain) →
      ∀ part ∈ list.foldr consPart [], part.Plain := by
    intro list plain
    induction list with
    | nil => exact List.forall_mem_nil _
    | cons first rest step =>
      obtain ⟨former, latter⟩ := List.forall_mem_cons.1 plain
      exact plain_consPart former (step latter)
  rw [Wordlike, sequenceOf, parts_ofParts (joined _ flat)]
  exact joined _ flat

/-! ### Sets -/

theorem plain_ofSet (orderly : set.Orderly) : (ofSet set ascii).Plain := by
  unfold ofSet
  split
  · exact orderly_nil
  · split
    · trivial
    · exact orderly
  · exact orderly

/-- A set in its simplest form spans the characters of the set. -/
theorem spans_ofSet (orderly : set.Orderly) :
    (ofSet set ascii).Spans start finish ↔ (one set ascii).Spans start finish := by
  unfold ofSet
  split
  · exact Iff.rfl
  · next code last =>
    split
    · next same =>
      subst same
      have valid : code.isValidChar := orderly.starts _ List.mem_cons_self
      have number : (Char.ofNat code).toNat = code := by
        rw [Char.ofNat, dif_pos valid]
        rfl
      constructor
      · rintro ⟨rest, stands, rfl⟩
        exact ⟨_, rest, stands, Program.contains_single.2 number, rfl⟩
      · rintro ⟨letter, rest, stands, inside, rfl⟩
        have same := Program.contains_single.1 inside
        rw [← same, Char.ofNat_toNat]
        exact ⟨rest, stands, rfl⟩
    · exact Iff.rfl
  · exact Iff.rfl

/-! ### Choices -/

/-- An expression spans what one of its alternatives spans. -/
theorem spans_ofBranches :
    (ofBranches exprs).Spans start finish ↔ ∃ expr ∈ exprs, expr.Spans start finish := by
  induction exprs with
  | nil =>
    refine iff_of_false ?_ fun spans => List.not_mem_nil spans.choose_spec.1
    rintro ⟨letter, rest, -, inside, -⟩
    cases inside
  | cons first rest step =>
    simp only [List.mem_cons, or_and_right, exists_or, exists_eq_left, ← step]
    cases rest with
    | nil =>
      refine (or_iff_left ?_).symm
      rintro ⟨letter, rest, -, inside, -⟩
      cases inside
    | cons second rest => exact Iff.rfl

/-- The results for values are what the values have results for. -/
theorem mem_of_mapM {Value Result : Type} {find? : Value → Option Result} {values : List Value}
    {results : List Result} (found : values.mapM find? = some results) :
    (∀ value ∈ values, ∃ result ∈ results, find? value = some result) ∧
      ∀ result ∈ results, ∃ value ∈ values, find? value = some result := by
  induction values generalizing results with
  | nil =>
    cases found
    exact ⟨List.forall_mem_nil _, List.forall_mem_nil _⟩
  | cons value values step =>
    rw [List.mapM_cons] at found
    obtain ⟨result, first, found⟩ := Option.bind_eq_some_iff.1 found
    obtain ⟨others, later, found⟩ := Option.bind_eq_some_iff.1 found
    cases found
    obtain ⟨forward, backward⟩ := step later
    constructor
    · refine List.forall_mem_cons.2 ⟨⟨result, List.mem_cons_self, first⟩, fun value listed => ?_⟩
      obtain ⟨result, inside, same⟩ := forward value listed
      exact ⟨result, List.mem_cons_of_mem _ inside, same⟩
    · refine List.forall_mem_cons.2 ⟨⟨value, List.mem_cons_self, first⟩, fun result listed => ?_⟩
      obtain ⟨value, inside, same⟩ := backward result listed
      exact ⟨value, List.mem_cons_of_mem _ inside, same⟩

theorem letter?_eq_some {letter : Char} (found : expr.letter? = some letter) :
    expr = literal [letter] := by
  unfold letter? at found
  split at found
  · cases found
    rfl
  · cases found

theorem set?_eq_some (found : expr.set? = some set) : ∃ ascii, expr = one set ascii := by
  unfold set? at found
  split at found
  · cases found
    exact ⟨_, rfl⟩
  · cases found

/-- The set of the characters of texts of one character contains what one of the texts takes. -/
theorem spans_letterSet {letters : List Char} (mapped : exprs.mapM letter? = some letters) :
    (CodeRanges.ofList (letters.map fun letter => (letter.toNat, letter.toNat))).Orderly ∧
      ((one (CodeRanges.ofList (letters.map fun letter => (letter.toNat, letter.toNat)))
        false).Spans start finish ↔ ∃ expr ∈ exprs, expr.Spans start finish) := by
  obtain ⟨forward, backward⟩ := mem_of_mapM mapped
  have codes : letters.map (fun letter => (letter.toNat, letter.toNat)) =
      (letters.map Char.toNat).map fun code => (code, code) := by
    rw [List.map_map]
    rfl
  have valid : ∀ code ∈ letters.map Char.toNat, code.isValidChar := by
    intro code listed
    obtain ⟨letter, -, rfl⟩ := List.mem_map.1 listed
    exact letter.valid
  rw [codes]
  refine ⟨orderly_ofCodes valid, ?_⟩
  constructor
  · rintro ⟨letter, rest, stands, inside, rfl⟩
    obtain ⟨other, known, same⟩ := List.mem_map.1 ((contains_ofCodes valid).1 inside)
    obtain ⟨expr, member, found⟩ := backward other known
    cases Char.toNat_inj.1 same
    rw [letter?_eq_some found] at member
    exact ⟨_, member, rest, stands, rfl⟩
  · rintro ⟨expr, member, spans⟩
    obtain ⟨letter, listed, found⟩ := forward expr member
    cases letter?_eq_some found
    obtain ⟨rest, stands, rfl⟩ := spans
    exact ⟨letter, rest, stands, (contains_ofCodes valid).2 (List.mem_map_of_mem listed), rfl⟩

/-- The union of the sets of alternatives contains what one of them takes. -/
theorem spans_union {sets : List CodeRanges} (wordlike : ∀ expr ∈ exprs, expr.Wordlike)
    (mapped : exprs.mapM set? = some sets) :
    (unions sets).Orderly ∧
      ((one (unions sets) false).Spans start finish ↔ ∃ expr ∈ exprs, expr.Spans start finish) := by
  obtain ⟨forward, backward⟩ := mem_of_mapM mapped
  have orderly : ∀ set ∈ sets, set.Orderly := by
    intro set listed
    obtain ⟨expr, inside, found⟩ := backward set listed
    obtain ⟨ascii, rfl⟩ := set?_eq_some found
    exact wordlike _ inside _ List.mem_cons_self
  refine ⟨orderly_unions orderly, ?_⟩
  constructor
  · rintro ⟨letter, rest, stands, inside, rfl⟩
    obtain ⟨set, listed, inside⟩ := (contains_unions orderly).1 inside
    obtain ⟨expr, member, found⟩ := backward set listed
    obtain ⟨ascii, rfl⟩ := set?_eq_some found
    exact ⟨_, member, letter, rest, stands, inside, rfl⟩
  · rintro ⟨expr, member, spans⟩
    obtain ⟨set, listed, found⟩ := forward expr member
    obtain ⟨ascii, rfl⟩ := set?_eq_some found
    obtain ⟨letter, rest, stands, inside, rfl⟩ := spans
    exact ⟨letter, rest, stands, (contains_unions orderly).2 ⟨set, listed, inside⟩, rfl⟩

/-- The set that alternatives have in common contains what one of them takes. -/
theorem spans_commonSet (wordlike : ∀ expr ∈ exprs, expr.Wordlike)
    (common : commonSet? exprs = some set) :
    set.Orderly ∧
      ((one set false).Spans start finish ↔ ∃ expr ∈ exprs, expr.Spans start finish) := by
  unfold commonSet? at common
  rcases Option.or_eq_some_iff.1 common with single | ⟨-, several⟩
  · obtain ⟨letters, mapped, rfl⟩ := Option.map_eq_some_iff.1 single
    exact spans_letterSet mapped
  · obtain ⟨sets, mapped, rfl⟩ := Option.map_eq_some_iff.1 several
    exact spans_union wordlike mapped

theorem spans_choice (wordlike : ∀ expr ∈ exprs, expr.Wordlike) :
    (choice exprs).Spans start finish ↔ ∃ expr ∈ exprs, expr.Spans start finish := by
  unfold choice
  split
  · next set common =>
    obtain ⟨orderly, same⟩ : set.Orderly ∧ ((one set false).Spans start finish ↔
      ∃ expr ∈ exprs, expr.Spans start finish) := spans_commonSet wordlike common
    rw [spans_ofSet orderly, same]
  · exact spans_ofBranches

/-! ### Shared beginnings -/

theorem sharedStart_begins (exprs others : List Expr) :
    sharedStart exprs others <+: exprs ∧ sharedStart exprs others <+: others := by
  induction exprs generalizing others with
  | nil => exact ⟨List.prefix_refl _, List.nil_prefix⟩
  | cons expr exprs step =>
    cases others with
    | nil => exact ⟨List.nil_prefix, List.prefix_refl _⟩
    | cons other others =>
      rw [sharedStart]
      split
      · next same =>
        subst same
        obtain ⟨former, latter⟩ := step others
        exact ⟨List.prefix_cons_iff.2 (.inr ⟨_, rfl, former⟩),
          List.prefix_cons_iff.2 (.inr ⟨_, rfl, latter⟩)⟩
      · exact ⟨List.nil_prefix, List.nil_prefix⟩

/-- What is left when a beginning is shortened for each of several expressions is a beginning of
each. -/
theorem foldl_begins (shorten : List Expr → Expr → List Expr)
    (shortens : ∀ shared expr, shorten shared expr <+: shared ∧ shorten shared expr <+: expr.parts)
    (shared : List Expr) (exprs : List Expr) :
    exprs.foldl shorten shared <+: shared ∧
      ∀ expr ∈ exprs, exprs.foldl shorten shared <+: expr.parts := by
  induction exprs generalizing shared with
  | nil => exact ⟨List.prefix_refl _, List.forall_mem_nil _⟩
  | cons expr exprs step =>
    obtain ⟨former, latter⟩ := step (shorten shared expr)
    obtain ⟨left, right⟩ := shortens shared expr
    exact ⟨former.trans left, List.forall_mem_cons.2 ⟨former.trans right, latter⟩⟩

/-- All alternatives begin with the parts that they share. -/
theorem sharedParts_begin (exprs : List Expr) :
    ∀ expr ∈ exprs, sharedParts exprs <+: expr.parts := by
  unfold sharedParts
  split
  · next first rest others =>
    refine List.forall_mem_cons.2 (foldl_begins _ (fun shared branch => ?_) _ others)
    split
    · exact sharedStart_begins _ _
    · exact ⟨List.nil_prefix, List.nil_prefix⟩
  · exact fun _ _ => List.nil_prefix

/-- Alternatives behind what they share span what one of them spans. -/
theorem spans_shared {shared : List Expr} (wordlike : ∀ expr ∈ exprs, expr.Wordlike)
    (starts : ∀ expr ∈ exprs, shared <+: expr.parts) :
    (sequenceOf (shared ++ [choice (exprs.flatMap fun branch =>
      (ofParts (branch.parts.drop shared.length)).branches)])).Spans start finish ↔
      ∃ expr ∈ exprs, expr.Spans start finish := by
  have remaining : ∀ expr ∈ exprs, (ofParts (expr.parts.drop shared.length)).Wordlike := by
    intro expr listed
    have plain : ∀ part ∈ expr.parts.drop shared.length, part.Plain :=
      fun part inside => wordlike expr listed part (List.mem_of_mem_drop inside)
    rw [Wordlike, parts_ofParts plain]
    exact plain
  have rests : (exprs.flatMap fun branch =>
      (ofParts (branch.parts.drop shared.length)).branches) =
        exprs.map fun branch => ofParts (branch.parts.drop shared.length) := by
    rw [← List.flatMap_pure_eq_map]
    exact List.flatMap_congr fun expr listed => (remaining expr listed).branches
  -- what is shared and what remains are the parts of an alternative
  have whole : ∀ expr ∈ exprs, (expr.Spans start finish ↔ ∃ middle,
      SpanAll shared start middle ∧
        (ofParts (expr.parts.drop shared.length)).Spans middle finish) := by
    intro expr listed
    rw [← spanAll_parts, ← List.prefix_iff_eq_append.1 (starts expr listed), spanAll_append,
      List.prefix_iff_eq_append.1 (starts expr listed)]
    simp only [spans_ofParts]
  have wordlikeToo : ∀ expr ∈ exprs.map fun branch => ofParts (branch.parts.drop shared.length),
      expr.Wordlike := by
    intro expr listed
    obtain ⟨branch, inside, rfl⟩ := List.mem_map.1 listed
    exact remaining branch inside
  rw [rests, spans_sequenceOf, spanAll_append]
  constructor
  · rintro ⟨middle, common, spans⟩
    obtain ⟨_, listed, spans⟩ := (spans_choice wordlikeToo).1 (spanAll_singleton.1 spans)
    obtain ⟨expr, inside, rfl⟩ := List.mem_map.1 listed
    exact ⟨expr, inside, (whole expr inside).2 ⟨middle, common, spans⟩⟩
  · rintro ⟨expr, inside, spans⟩
    obtain ⟨middle, common, spans⟩ := (whole expr inside).1 spans
    exact ⟨middle, common, spanAll_singleton.2
      ((spans_choice wordlikeToo).2 ⟨_, List.mem_map_of_mem inside, spans⟩)⟩

/-- Alternatives that are words span what one of the words spans. -/
theorem spans_eitherOf (wordlike : ∀ expr ∈ exprs, expr.Wordlike) :
    (eitherOf exprs).Spans start finish ↔ ∃ expr ∈ exprs, expr.Spans start finish := by
  have flat : exprs.flatMap branches = exprs := by
    rw [List.flatMap_congr fun expr listed => (wordlike expr listed).branches]
    exact List.flatMap_singleton' exprs
  unfold eitherOf
  rw [flat]
  split
  · exact spans_ofBranches
  · simp only [List.mem_singleton, exists_eq_left]
  · split
    · exact spans_choice wordlike
    · next shared same => exact spans_shared wordlike (sharedParts_begin _)

end LineLexer.Regex.Expr
