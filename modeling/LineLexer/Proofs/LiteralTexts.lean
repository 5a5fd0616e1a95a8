import LineLexer.Proofs.Negation
import LineLexer.Proofs.Splicing
import LineLexer.Proofs.WordLists

/-!
**Texts of the match in the patterns of guards.**

A guard may ask for a regular expression that its template becomes for a match. The texts of the
match are filled in as they stand, attributes are spliced into the result, and that is read as a
pattern. So a text is taken for itself only where it has no character with a meaning of its own in
patterns or for attributes. Then the guard answers as it would with the text escaped and with
attributes spliced in beside it.

* `Pattern.Shut`, `Pattern.partsOf_append`: texts behind which another one is read by itself;
* `Pattern.expansion?_append`: what such a text becomes in front of another one;
* `Template.literalBody?`: the pattern in which texts of the match stand for themselves;
* `Template.Separate`, `Template.separate_of_named`: templates in which no text of the match goes on
  with a reference to an attribute;
* `Template.ListsTexts`, `Guard.isMatch_literalRegex`: templates of texts between bars, and what
  that pattern matches;
* `Guard.answers_literally`: what a guard answers where the texts are plain.
-/

namespace LineLexer

namespace Pattern

open Scanning Template

variable {settings : Settings} {before after text word : Text} {parts others : List Part}
  {part : Part} {rounds : Nat}

/-! ### Texts side by side -/

/-- Whether a part may go on with what stands behind it: an at-sign by itself and a name do. -/
def Part.isOpen : Part → Bool
  | .letter character => character == '@'
  | .atSign => false
  | .reference _ => true

/-- The last part does not go on. -/
def Shut (parts : List Part) : Prop := ∀ part, parts.getLast? = some part → part.isOpen = false

theorem Shut.tail (shut : Shut (part :: parts)) : Shut parts := by
  intro last ends
  cases parts with
  | nil => cases ends
  | cons => exact shut last (by rwa [List.getLast?_cons_cons])

theorem Part.render_ne_nil (part : Part) : part.render ≠ [] := by
  cases part <;> exact List.cons_ne_nil _ _

/-- Something that is quiet stays so, whatever stands behind it. -/
theorem Quiet.append_of_ne_nil (quiet : Quiet parts) (nonempty : parts ≠ []) (others : List Part) :
    Quiet (parts ++ others) := by
  obtain ⟨part, parts, rfl⟩ := List.exists_cons_of_ne_nil nonempty
  obtain ⟨letter, rest, written⟩ := List.exists_cons_of_ne_nil part.render_ne_nil
  unfold Quiet at *
  rw [render_cons, written] at quiet
  rw [List.cons_append, render_cons, written]
  exact quiet

/-- Parts that are shut are read back with whatever stands behind them. -/
theorem WellRead.append_of_shut (reads : WellRead parts) (shut : Shut parts)
    (readsToo : WellRead others) : WellRead (parts ++ others) := by
  induction reads with
  | nil => exact readsToo
  | @letter letter rest ordinary alone later step =>
    refine .letter ordinary (fun sign => ?_) (step shut.tail)
    refine (alone sign).append_of_ne_nil ?_ others
    rintro rfl
    have closed := shut _ rfl
    rw [sign] at closed
    cases closed
  | atSign later step => exact .atSign (step shut.tail)
  | reference nonempty word longest later step =>
    refine .reference nonempty word (longest.append_of_ne_nil ?_ others) (step shut.tail)
    rintro rfl
    cases shut _ rfl

/-- Nothing that is shut ends with an at-sign. -/
theorem getLast?_render (shut : Shut parts) : (render parts).getLast? ≠ some '@' := by
  intro ends
  rcases List.eq_nil_or_concat parts with rfl | ⟨front, last, rfl⟩
  · cases ends
  · have closed := shut last (by simp)
    rw [List.concat_eq_append, render_append, render_cons, render_nil, List.append_nil] at ends
    cases last with
    | letter letter =>
      rw [Part.render, List.getLast?_concat] at ends
      cases ends
      cases closed
    | atSign =>
      rw [Part.render, List.getLast?_concat] at ends
      cases ends
    | reference name => cases closed

/-- At-signs are held back side by side, unless one at the end is the first of two. -/
theorem holdAtSigns_append
    (apart : (holdAtSigns before).getLast? = some '@' → after.head? ≠ some '@') :
    holdAtSigns (before ++ after) = holdAtSigns before ++ holdAtSigns after := by
  induction before using holdAtSigns.induct with
  | case1 rest step =>
    show holdAtSigns ('@' :: '@' :: (rest ++ after)) = _
    rw [holdAtSigns] at apart
    rw [holdAtSigns, step fun ends => apart (by rw [List.getLast?_cons, ends]; rfl), holdAtSigns]
    rfl
  | case2 letter rest single step =>
    have alone : ∀ text, (letter = '@' → (rest ++ text).head? ≠ some '@') →
        holdAtSigns (letter :: (rest ++ text)) = letter :: holdAtSigns (rest ++ text) := by
      intro text next
      by_cases sign : letter = '@'
      · rw [sign]
        exact holdAtSigns_single (next sign)
      · exact holdAtSigns_cons sign _
    have none : letter = '@' → rest.head? ≠ some '@' := by
      intro sign doubled
      obtain ⟨later, rfl⟩ := List.head?_eq_some_iff.1 doubled
      exact single later sign rfl
    have own := alone [] (by rwa [List.append_nil])
    rw [List.append_nil] at own
    rw [own] at apart ⊢
    rw [List.cons_append, alone after, step]
    · rfl
    · exact fun ends => apart (by rw [List.getLast?_cons, ends]; rfl)
    · intro sign
      cases rest with
      | nil => exact apart (by rw [sign]; rfl)
      | cons => exact none sign
  | case3 => rfl

/-- A text behind one that is shut is taken apart by itself. -/
theorem partsOf_append (shut : Shut (partsOf before)) (after : Text) :
    partsOf (before ++ after) = partsOf before ++ partsOf after := by
  have ends : (holdAtSigns before).getLast? ≠ some '@' := by
    rw [← render_heldParts (holdAtSigns before)]
    exact getLast?_render shut
  have apart : (holdAtSigns before).getLast? = some '@' → after.head? ≠ some '@' :=
    fun sign => absurd sign ends
  have reads := (wellRead_heldParts (holdAtSigns before)).append_of_shut shut
    (wellRead_heldParts (holdAtSigns after))
  have back := heldParts_render reads
  rw [render_append, render_heldParts, render_heldParts, ← holdAtSigns_append apart] at back
  exact back

/-! ### What texts become side by side -/

/-- What a text becomes with its attributes spliced in, if it becomes anything. -/
def expansion? (settings : Settings) (text : Text) : Option Text :=
  (expand settings (String.ofList text)).toOption.map String.toList

/-- The references that come up in a number of rounds name attributes that are texts. -/
def NamedFor (settings : Settings) (rounds : Nat) (parts : List Part) : Prop :=
  ∀ round < rounds, Named settings (stage settings round parts)

theorem named_append :
    Named settings (parts ++ others) ↔ Named settings parts ∧ Named settings others := by
  unfold Named
  simp only [List.mem_append, or_imp, forall_and]

theorem stage_append (rounds : Nat) : stage settings rounds (parts ++ others) =
    stage settings rounds parts ++ stage settings rounds others := by
  induction rounds with
  | zero => rfl
  | succ rounds step =>
    rw [stage_succ, stage_succ, stage_succ, step]
    exact List.flatMap_append

theorem namedFor_append : NamedFor settings rounds (parts ++ others) ↔
    NamedFor settings rounds parts ∧ NamedFor settings rounds others := by
  unfold NamedFor
  simp only [stage_append, named_append, forall_and]

theorem namedFor_succ : NamedFor settings (rounds + 1) parts ↔
    Named settings parts ∧ NamedFor settings rounds (splice settings parts) := by
  constructor
  · intro named
    refine ⟨named 0 (Nat.succ_pos _), fun round less => ?_⟩
    exact named (round + 1) (Nat.succ_lt_succ less)
  · rintro ⟨first, later⟩ (_ | round) less
    · exact first
    · exact later round (Nat.lt_of_succ_lt_succ less)

/-- The rounds come to a text exactly if all references that come up name texts. -/
theorem expandRounds_eq_ok_iff (reads : WellRead parts) :
    expandRounds settings rounds (render parts) = .ok text ↔
      NamedFor settings rounds parts ∧ text = render (stage settings rounds parts) := by
  induction rounds generalizing parts with
  | zero =>
    refine ⟨?_, ?_⟩
    · rintro ⟨⟩
      exact ⟨fun _ less => absurd less (Nat.not_lt_zero _), rfl⟩
    · rintro ⟨-, rfl⟩
      rfl
  | succ rounds step =>
    rw [namedFor_succ]
    by_cases named : Named settings parts
    · rw [expandRounds_succ reads named, step reads.splice, iff_true_intro named, true_and]
      exact Iff.rfl
    · obtain ⟨problem, fails⟩ := expandRounds_eq_error reads named rounds
      rw [fails]
      exact iff_of_false nofun fun both => named both.1.1

theorem expansion?_eq_some : expansion? settings before = some text ↔
    NamedFor settings expansionRounds (partsOf before) ∧
      text = releaseAtSigns (render (stage settings expansionRounds (partsOf before))) := by
  have reads : WellRead (partsOf before) := wellRead_heldParts _
  have written : render (partsOf before) = holdAtSigns before := render_heldParts _
  unfold expansion? expand
  rw [String.toList_ofList, ← written]
  cases made : expandRounds settings expansionRounds (render (partsOf before)) with
  | error problem =>
    refine iff_of_false nofun fun both => ?_
    rw [(expandRounds_eq_ok_iff reads).2 ⟨both.1, rfl⟩] at made
    cases made
  | ok expanded =>
    obtain ⟨named, same⟩ := (expandRounds_eq_ok_iff reads).1 made
    show some (String.ofList _).toList = some text ↔ _
    rw [String.toList_ofList, Option.some.injEq, eq_comm, same]
    exact (and_iff_right named).symm

/-- A text behind one that is shut becomes what it becomes by itself. -/
theorem expansion?_append (shut : Shut (partsOf before)) (after : Text) :
    expansion? settings (before ++ after) = (expansion? settings before).bind fun front =>
      (expansion? settings after).map (front ++ ·) := by
  refine Option.ext fun text => ?_
  simp only [Option.bind_eq_some_iff, Option.map_eq_some_iff, expansion?_eq_some,
    partsOf_append shut, namedFor_append, stage_append, render_append]
  unfold releaseAtSigns
  rw [List.map_append]
  constructor
  · rintro ⟨⟨named, namedToo⟩, joined⟩
    exact ⟨_, ⟨named, rfl⟩, _, ⟨namedToo, rfl⟩, joined.symm⟩
  · rintro ⟨front, ⟨named, made⟩, later, ⟨namedToo, madeToo⟩, joined⟩
    exact ⟨⟨named, namedToo⟩, by rw [← joined, made, madeToo]⟩

theorem holdAtSigns_of_not_mem (none : '@' ∉ text) : holdAtSigns text = text := by
  induction text with
  | nil => rfl
  | cons letter rest step =>
    rw [List.mem_cons, not_or] at none
    rw [holdAtSigns_cons (Ne.symm none.1), step none.2]

/-- A text without at-signs is shut. -/
theorem shut_of_not_mem (none : '@' ∉ text) : Shut (partsOf text) := by
  intro part ends
  have inside : part.render ⊆ render (partsOf text) := fun letter listed =>
    List.mem_flatMap.2 ⟨part, List.mem_of_getLast? ends, listed⟩
  rw [partsOf, render_heldParts, holdAtSigns_of_not_mem none] at inside
  cases part with
  | letter character =>
    refine beq_eq_false_iff_ne.2 fun sign => ?_
    exact none (inside (sign ▸ List.mem_cons_self))
  | atSign => rfl
  | reference name => exact absurd (inside List.mem_cons_self) none

theorem expansion?_of_not_mem (none : '@' ∉ text) (free : heldAtSign ∉ text) :
    expansion? settings text = some text := by
  unfold expansion? expand
  rw [String.toList_ofList, holdAtSigns_of_not_mem none, expandRounds_of_not_mem none]
  show some (String.ofList (releaseAtSigns text)).toList = _
  rw [releaseAtSigns_eq_iff.2 free, String.toList_ofList]

/-! ### Names that go on -/

theorem Quiet.of_append (quiet : Quiet (parts ++ others)) : Quiet parts := by
  cases parts with
  | nil => rfl
  | cons part parts =>
    obtain ⟨letter, rest, written⟩ := List.exists_cons_of_ne_nil part.render_ne_nil
    unfold Quiet at *
    rw [List.cons_append, render_cons, written] at quiet
    rw [render_cons, written]
    exact quiet

theorem WellRead.of_append (reads : WellRead (parts ++ others)) : WellRead parts := by
  induction parts with
  | nil => exact .nil
  | cons part parts step =>
    cases reads with
    | letter ordinary alone later =>
      exact .letter ordinary (fun sign => (alone sign).of_append) (step later)
    | atSign later => exact .atSign (step later)
    | reference nonempty word longest later =>
      exact .reference nonempty word longest.of_append (step later)

theorem WellRead.isNameChar_of_mem (reads : WellRead parts) (inside : .reference word ∈ parts) :
    ∀ letter ∈ word, isNameChar letter = true := by
  induction reads with
  | nil => cases inside
  | letter ordinary alone later step => exact step (by simpa using inside)
  | atSign later step => exact step (by simpa using inside)
  | reference nonempty names longest later step =>
    rcases List.mem_cons.1 inside with same | rest
    · cases same
      exact names
    · exact step rest

/-- An at-sign and all name characters behind it are read as a reference. -/
theorem exists_wellRead_reference (nonempty : word ≠ [])
    (names : ∀ letter ∈ word, isNameChar letter = true) (after : Text) :
    ∃ name rest, WellRead (.reference name :: rest) ∧ word.length ≤ name.length ∧
      render (.reference name :: rest) = '@' :: (word ++ after) := by
  have whole : (word ++ after).takeWhile isNameChar ++ (word ++ after).dropWhile isNameChar =
      word ++ after := List.takeWhile_append_dropWhile
  have longer : (word ++ after).takeWhile isNameChar = word ++ after.takeWhile isNameChar :=
    List.takeWhile_append_of_pos names
  refine ⟨(word ++ after).takeWhile isNameChar, heldParts ((word ++ after).dropWhile isNameChar),
    .reference ?_ ?_ ?_ (wellRead_heldParts _), ?_, ?_⟩
  · rw [longer]
    exact List.append_ne_nil_of_left_ne_nil nonempty _
  · exact List.all_eq_true.1 List.all_takeWhile
  · rw [Quiet, render_heldParts]
    exact ends_dropWhile _
  · rw [longer, List.length_append]
    exact Nat.le_add_right _ _
  · rw [render_cons, render_heldParts]
    show '@' :: (_ ++ _) = _
    rw [whole]

/-- What goes on does so with a word behind it: together they are a reference. -/
theorem exists_reference_of_open (opens : ¬ Shut (partsOf before)) (nonempty : word ≠ [])
    (names : ∀ letter ∈ word, isNameChar letter = true) (after : Text) :
    ∃ name, .reference name ∈ partsOf (before ++ (word ++ after)) ∧ word.length ≤ name.length := by
  have reads : WellRead (partsOf before) := wellRead_heldParts _
  have written : render (partsOf before) = holdAtSigns before := render_heldParts _
  unfold Shut at opens
  push Not at opens
  obtain ⟨last, ends, goesOn⟩ := opens
  obtain ⟨front, split⟩ := List.getLast?_eq_some_iff.1 ends
  rw [split] at reads written
  obtain ⟨stem, stands, stemNames⟩ : ∃ stem, last.render = '@' :: stem ∧
      ∀ letter ∈ stem, isNameChar letter = true := by
    cases last with
    | letter character =>
      refine ⟨[], ?_, List.forall_mem_nil _⟩
      rw [Part.render, beq_iff_eq.1 ((Bool.not_eq_false _).mp goesOn)]
    | atSign => exact absurd rfl goesOn
    | reference name =>
      exact ⟨name, rfl, reads.isNameChar_of_mem (List.mem_append_right _ List.mem_cons_self)⟩
  have held : holdAtSigns (before ++ (word ++ after)) =
      render front ++ '@' :: ((stem ++ word) ++ holdAtSigns after) := by
    rw [holdAtSigns_append, ← written, holdAtSigns_name names]
    · simp [stands]
    · intro _
      obtain ⟨letter, word, rfl⟩ := List.exists_cons_of_ne_nil nonempty
      rw [List.cons_append, List.head?_cons, ne_eq, Option.some.injEq]
      exact ne_of_isNameChar (names letter List.mem_cons_self)
  obtain ⟨name, rest, readsToo, long, same⟩ := exists_wellRead_reference
    (List.append_ne_nil_of_right_ne_nil stem nonempty)
    (List.forall_mem_append.2 ⟨stemNames, names⟩) (holdAtSigns after)
  have quiet : Quiet (.reference name :: rest) := by
    rw [Quiet, same]
    rfl
  refine ⟨name, ?_, ?_⟩
  · rw [partsOf, held, ← same, ← render_append,
      heldParts_render (reads.of_append.append readsToo quiet)]
    exact List.mem_append_right front List.mem_cons_self
  · rw [List.length_append] at long
    omega

/-- A word that is longer than the name of any attribute. -/
def longWord (settings : Settings) : Text :=
  'a' :: ((settings.attributes.map fun member => member.1.toList).flatten.map fun _ => 'a')

theorem isNameChar_of_mem_longWord {letter : Char} (inside : letter ∈ longWord settings) :
    isNameChar letter = true := by
  rcases List.mem_cons.1 inside with rfl | later
  · rfl
  · obtain ⟨-, -, rfl⟩ := List.mem_map.1 later
    rfl

/-- No attribute has a name that is as long. -/
theorem not_named_of_longWord {name : Text} (inside : .reference name ∈ parts)
    (long : (longWord settings).length ≤ name.length) : ¬ Named settings parts := by
  intro named
  obtain ⟨value, found⟩ := Option.isSome_iff_exists.1 (named name inside)
  have listed : name ∈ settings.attributes.map fun member => member.1.toList := by
    refine List.mem_map.2 ⟨_, mem_attributes found, ?_⟩
    rw [String.toList_ofList]
  have shorter := (List.sublist_flatten_of_mem listed).length_le
  rw [longWord, List.length_cons, List.length_map] at long
  omega

end Pattern

/-! ### Templates -/

namespace Piece

/-- Whether a piece is a text of the match. -/
def ofMatch : Piece → Bool
  | .matched | .capture _ | .component _ => true
  | .letter _ | .attributeText _ => false

/-- What the grammar says for a piece, which is nothing for a text of the match. -/
def written (settings : Settings) : Piece → Text
  | .letter character => [character]
  | .attributeText name => ((settings.textAttribute? name).getD "").toList
  | .matched | .capture _ | .component _ => []

end Piece

namespace Template

open Pattern

variable {settings : Settings} {context : MatchContext} {text other : Piece → Text} {before : Text}
  {list : List Piece}

/-- Pieces filled in with given texts in place of those of the match. -/
def fillWith (settings : Settings) (text : Piece → Text) (list : List Piece) : Text :=
  list.flatMap fun piece => if piece.ofMatch then text piece else piece.written settings

theorem toList_fill_eq (settings : Settings) (template : String) (context : MatchContext) :
    (fill settings template context).toList =
      fillWith settings (fillPiece settings context) (pieces template) := by
  unfold fill fillWith
  rw [String.toList_ofList]
  refine congrArg (List.flatMap · _) (funext fun piece => ?_)
  cases piece <;> rfl

theorem fillWith_cons (piece : Piece) : fillWith settings text (piece :: list) =
    (if piece.ofMatch then text piece else piece.written settings) ++
      fillWith settings text list := List.flatMap_cons

theorem fillWith_congr (same : ∀ piece ∈ list, piece.ofMatch = true → text piece = other piece) :
    fillWith settings text list = fillWith settings other list := by
  unfold fillWith
  refine List.flatMap_congr fun piece inside => ?_
  split
  · next ofMatch => exact same piece inside ofMatch
  · rfl

/-- The pattern in which the texts of the match stand for themselves. What the grammar says between
them is expanded by itself, and they are escaped. `before` is what it says in front of the pieces.
-/
def literalBody? (settings : Settings) (text : Piece → Text) : Text → List Piece → Option Text
  | before, [] => expansion? settings before
  | before, piece :: rest =>
    if piece.ofMatch then do
      let front ← expansion? settings before
      let later ← literalBody? settings text [] rest
      some (front ++ (Regex.escape (text piece) ++ later))
    else literalBody? settings text (before ++ piece.written settings) rest

/-- No text of the match stands where a reference to an attribute may go on. -/
def Separate (settings : Settings) : Text → List Piece → Prop
  | _, [] => True
  | before, piece :: rest =>
    if piece.ofMatch then Shut (partsOf before) ∧ Separate settings [] rest
    else Separate settings (before ++ piece.written settings) rest

/-- A text has no character with a meaning of its own, in patterns or for attributes. -/
def IsPlain (text : Text) : Prop :=
  ∀ letter ∈ text, Regex.Primitive.isMeta letter = false ∧ letter ≠ '@' ∧ letter ≠ heldAtSign

instance (text : Text) : Decidable (IsPlain text) := List.decidableBAll _ text

/-- A text is a word. -/
def IsWord (text : Text) : Prop := text ≠ [] ∧ ∀ letter ∈ text, isNameChar letter = true

instance (text : Text) : Decidable (IsWord text) :=
  @instDecidableAnd _ _ _ (List.decidableBAll _ text)

/-- A text if it is a word, and another word if it is none. -/
def orWord (text : Text) : Text := if IsWord text then text else ['a']

theorem isWord_orWord (text : Text) : IsWord (orWord text) := by
  unfold orWord
  split
  · next word => exact word
  · exact ⟨List.cons_ne_nil _ _, List.forall_mem_singleton.2 rfl⟩

theorem escape_of_plain {text : Text} (plain : IsPlain text) : Regex.escape text = text :=
  Regex.escape_eq_self fun letter inside => (plain letter inside).1

theorem isPlain_of_isWord {text : Text} (word : IsWord text) : IsPlain text := by
  intro letter inside
  have name := word.2 letter inside
  refine ⟨Guard.isMeta_of_isNameChar name, ne_of_isNameChar name, ?_⟩
  rintro rfl
  exact absurd name (by decide)

/-- Plain texts come out as they do where they are escaped. -/
theorem expansion?_fillWith (separate : Separate settings before list)
    (plain : ∀ piece ∈ list, piece.ofMatch = true → IsPlain (text piece)) :
    expansion? settings (before ++ fillWith settings text list) =
      literalBody? settings text before list := by
  induction list generalizing before with
  | nil =>
    show expansion? settings (before ++ []) = _
    rw [List.append_nil]
    rfl
  | cons piece rest step =>
    obtain ⟨first, others⟩ := List.forall_mem_cons.1 plain
    -- a text of the match cuts the template: what is in front of it is expanded by itself
    rw [fillWith_cons, literalBody?]
    unfold Separate at separate
    by_cases ofMatch : piece.ofMatch = true
    · rw [if_pos ofMatch] at separate ⊢
      rw [if_pos ofMatch]
      have noSign : '@' ∉ text piece := fun inside => (first ofMatch _ inside).2.1 rfl
      have noHeld : heldAtSign ∉ text piece := fun inside => (first ofMatch _ inside).2.2 rfl
      have later := step separate.2 others
      rw [List.nil_append] at later
      rw [expansion?_append separate.1, expansion?_append (shut_of_not_mem noSign),
        expansion?_of_not_mem noSign noHeld, escape_of_plain (first ofMatch), later]
      cases expansion? settings before with
      | none => rfl
      | some front =>
        cases literalBody? settings text [] rest with
        | none => rfl
        | some later => rfl
    · rw [if_neg ofMatch] at separate ⊢
      rw [if_neg ofMatch, ← List.append_assoc]
      exact step separate others

/-- Where a template names attributes only with a long word for all texts of the match, none of them
goes on with a reference. -/
theorem separate_of_named
    (named : Named settings
      (partsOf (before ++ fillWith settings (fun _ => longWord settings) list))) :
    Separate settings before list := by
  induction list generalizing before with
  | nil => trivial
  | cons piece rest step =>
    unfold Separate
    rw [fillWith_cons] at named
    by_cases ofMatch : piece.ofMatch = true
    · rw [if_pos ofMatch] at named ⊢
      have names : ∀ letter ∈ longWord settings, isNameChar letter = true :=
        fun _ => isNameChar_of_mem_longWord
      -- a name that went on would be as long as the word, and no attribute has such a name
      have shut : Shut (partsOf before) := by
        by_contra opens
        obtain ⟨name, inside, long⟩ :=
          exists_reference_of_open opens (List.cons_ne_nil _ _) names _
        exact not_named_of_longWord inside long named
      have noSign : '@' ∉ longWord settings := fun inside => ne_of_isNameChar (names _ inside) rfl
      rw [partsOf_append shut, partsOf_append (shut_of_not_mem noSign), named_append,
        named_append] at named
      exact ⟨shut, step named.2.2⟩
    · rw [if_neg ofMatch] at named ⊢
      rw [← List.append_assoc] at named
      exact step named

/-! ### Lists of texts -/

/-- What the grammar says in a template are bars and plain texts. -/
def ListsTexts (settings : Settings) (list : List Piece) : Prop :=
  ∀ piece ∈ list, piece.ofMatch = false → piece = .letter '|' ∨ IsPlain (piece.written settings)

/-- The texts between the bars of a template, filled in. -/
def wordsWith (settings : Settings) (text : Piece → Text) (list : List Piece) : List Text :=
  (list.splitOn (.letter '|')).map (fillWith settings text)

theorem wordsWith_ne_nil : wordsWith settings text list ≠ [] :=
  fun none => List.splitOn_ne_nil _ _ (List.map_eq_nil_iff.1 none)

/-- What the grammar says in such a template has nothing to do with attributes. -/
theorem ListsTexts.noSign (lists : ListsTexts settings list) {piece : Piece}
    (inside : piece ∈ list) (own : piece.ofMatch = false) :
    '@' ∉ piece.written settings ∧ heldAtSign ∉ piece.written settings := by
  rcases lists piece inside own with rfl | plain
  · constructor
    · show '@' ∉ ['|']
      decide
    · show heldAtSign ∉ ['|']
      decide
  · exact ⟨fun sign => (plain _ sign).2.1 rfl, fun held => (plain _ held).2.2 rfl⟩

/-- What the grammar says in such a template is expanded to itself. -/
theorem literalBody?_of_listsTexts (lists : ListsTexts settings list) (noSign : '@' ∉ before)
    (noHeld : heldAtSign ∉ before) : literalBody? settings text before list =
      some (before ++ fillWith settings (fun piece => Regex.escape (text piece)) list) := by
  induction list generalizing before with
  | nil =>
    show expansion? settings before = some (before ++ [])
    rw [List.append_nil]
    exact expansion?_of_not_mem noSign noHeld
  | cons piece rest step =>
    have others : ListsTexts settings rest :=
      fun other inside => lists other (List.mem_cons_of_mem _ inside)
    rw [literalBody?, fillWith_cons]
    by_cases ofMatch : piece.ofMatch = true
    · rw [if_pos ofMatch, if_pos ofMatch, expansion?_of_not_mem noSign noHeld,
        step others List.not_mem_nil List.not_mem_nil]
      rfl
    · have own := lists.noSign List.mem_cons_self (Bool.eq_false_iff.2 ofMatch)
      rw [if_neg ofMatch, if_neg ofMatch, step others, List.append_assoc]
      · exact fun inside => (List.mem_append.1 inside).elim noSign own.1
      · exact fun inside => (List.mem_append.1 inside).elim noHeld own.2

/-- Such a template with its texts escaped is the pattern of the texts between its bars. -/
theorem fillWith_escape (lists : ListsTexts settings list) :
    fillWith settings (fun piece => Regex.escape (text piece)) list =
      Regex.choice (wordsWith settings text list) := by
  induction list with
  | nil => rfl
  | cons piece rest step =>
    have others : ListsTexts settings rest :=
      fun other inside => lists other (List.mem_cons_of_mem _ inside)
    obtain ⟨first, later, split⟩ :=
      List.exists_cons_of_ne_nil (List.splitOn_ne_nil (.letter '|') rest)
    unfold wordsWith at step ⊢
    rw [fillWith_cons, step others, List.splitOn_cons_eq_if_modifyHead, split]
    by_cases bar : piece = .letter '|'
    · subst bar
      rfl
    · have other : ¬ (piece == .letter '|') = true := fun same => bar (beq_iff_eq.1 same)
      rw [if_neg other, List.modifyHead_cons, List.map_cons, List.map_cons, fillWith_cons,
        Regex.choice_cons_append]
      congr 1
      split
      · rfl
      · next own =>
        have plain := (lists piece List.mem_cons_self (Bool.eq_false_iff.2 own)).resolve_left bar
        exact (escape_of_plain plain).symm

/-! ### Texts of the match -/

/-- All texts of the match in a template have a property. -/
def EachText (settings : Settings) (template : String) (context : MatchContext)
    (property : Text → Prop) : Prop :=
  ∀ piece ∈ pieces template, piece.ofMatch = true → property (fillPiece settings context piece)

end Template

/-! ### Guards -/

namespace Guard

open Pattern Template

variable {settings : Settings} {context : MatchContext} {template : String} {body : Text}

/-- A text becomes a pattern of whole texts, of whatever size. -/
def IsBody (settings : Settings) (body : Text) : Prop :=
  ∃ expanded, expansion? settings body = some expanded ∧
    Regex.compile settings.ignoreCase (wholePattern (String.ofList expanded)) ≠ .error .malformed

/-- Whatever words stand for the texts of the match, a template becomes a pattern. -/
def Readable (settings : Settings) (template : String) : Prop :=
  ∀ text : Piece → Text, (∀ piece, IsWord (text piece)) →
    IsBody settings (fillWith settings text (pieces template))

/-- The regular expression for a pattern of whole texts. -/
def wholeRegex? (settings : Settings) (body : Text) : Option Regex :=
  (Regex.compile settings.ignoreCase (wholePattern (String.ofList body))).toOption

/-- The regular expression of a template in which the texts of the match stand for themselves. -/
def literalRegex? (settings : Settings) (template : String) (context : MatchContext) :
    Option Regex :=
  (literalBody? settings (fillPiece settings context) [] (pieces template)).bind
    (wholeRegex? settings)

/-- A guard fails because of the room that its regular expression would take, and for no other
reason. -/
def FailsBySize (result : Except GuardFault Bool) : Prop :=
  ∀ fault, result = .error fault → fault.detail = Regex.Rejection.tooLarge.detail?

/-- The regular expression of a template is that of what the filled template becomes. -/
theorem filledRegex_eq {expanded : Text}
    (becomes : expansion? settings
      (fillWith settings (fillPiece settings context) (pieces template)) = some expanded) :
    filledRegex settings template context =
      match Regex.compile settings.ignoreCase (wholePattern (String.ofList expanded)) with
      | .ok regex => .ok regex
      | .error rejection => .error
        { pattern := wholePattern (String.ofList expanded), detail := rejection.detail? } := by
  rw [← toList_fill_eq, expansion?, String.ofList_toList, Option.map_eq_some_iff] at becomes
  obtain ⟨found, same, rfl⟩ := becomes
  unfold filledRegex
  dsimp only
  cases expands : expand settings (fill settings template context) with
  | error problem =>
    rw [expands] at same
    cases same
  | ok expanded =>
    rw [expands] at same
    cases same
    have back : String.ofList found.toList = found := String.ofList_toList
    dsimp only
    cases made : Regex.compile settings.ignoreCase (wholePattern found) with
    | ok regex => simp only [back, made]
    | error rejection => simp only [back, made]

theorem toOption_filledRegex (settings : Settings) (template : String) (context : MatchContext) :
    (filledRegex settings template context).toOption =
      (expansion? settings (fillWith settings (fillPiece settings context) (pieces template))).bind
        (wholeRegex? settings) := by
  cases becomes : expansion? settings
      (fillWith settings (fillPiece settings context) (pieces template)) with
  | none =>
    rw [← toList_fill_eq, expansion?, String.ofList_toList, Option.map_eq_none_iff] at becomes
    unfold filledRegex
    dsimp only
    cases expands : expand settings (fill settings template context) with
    | error problem => rfl
    | ok expanded =>
      rw [expands] at becomes
      cases becomes
  | some expanded =>
    rw [filledRegex_eq becomes, Option.bind_some, wholeRegex?]
    cases Regex.compile settings.ignoreCase (wholePattern (String.ofList expanded)) with
    | error rejection => rfl
    | ok regex => rfl

/-- Where a filled template becomes a pattern, only the room that it takes is a reason to fail. -/
theorem failsBySize_of_isBody {subject : Subject} {negated : Bool}
    (isBody : IsBody settings (fillWith settings (fillPiece settings context) (pieces template))) :
    FailsBySize ((Guard.test subject (.filledRegex template) negated).holds settings context) := by
  obtain ⟨expanded, becomes, written⟩ := isBody
  intro fault fails
  rw [holds, succeeds, filledRegex_eq becomes] at fails
  cases made : Regex.compile settings.ignoreCase (wholePattern (String.ofList expanded)) with
  | ok regex =>
    rw [made] at fails
    cases fails
  | error rejection =>
    rw [made] at fails
    cases rejection with
    | malformed => exact absurd made written
    | tooLarge =>
      cases fails
      rfl

/-- With words for the texts of the match, a readable template becomes a pattern. -/
theorem isBody_of_words (readable : Readable settings template)
    (words : EachText settings template context IsWord) :
    IsBody settings (fillWith settings (fillPiece settings context) (pieces template)) := by
  -- pieces that the template does not have may stand for any word
  have same : fillWith settings (fillPiece settings context) (pieces template) =
      fillWith settings (fun piece => orWord (fillPiece settings context piece))
        (pieces template) :=
    fillWith_congr fun piece inside ofMatch => (if_pos (words piece inside ofMatch)).symm
  rw [same]
  exact readable _ fun piece => isWord_orWord _

/-- In a readable template no text of the match goes on with a reference to an attribute. -/
theorem separate_of_readable (readable : Readable settings template) :
    Separate settings [] (pieces template) := by
  obtain ⟨expanded, becomes, -⟩ := readable (fun _ => longWord settings) fun _ =>
    ⟨List.cons_ne_nil _ _, fun _ => isNameChar_of_mem_longWord⟩
  exact separate_of_named ((expansion?_eq_some.1 becomes).1 0 (by decide))

/-- Where the texts of the match are plain, a guard answers as if they stood for themselves. -/
theorem toOption_holds {subject : Subject} {negated : Bool}
    (readable : Readable settings template)
    (plain : EachText settings template context IsPlain) :
    ((Guard.test subject (.filledRegex template) negated).holds settings context).toOption =
      (literalRegex? settings template context).map fun regex =>
        regex.isMatch (subject.select context) != negated := by
  have same := expansion?_fillWith (separate_of_readable readable) plain
  rw [List.nil_append] at same
  rw [literalRegex?, ← same, ← toOption_filledRegex, holds, succeeds]
  cases filledRegex settings template context with
  | error fault => rfl
  | ok regex => rfl

/-- **Texts that stand for themselves.** Where a template lists texts between bars, the regular
expression in which the texts of the match stand for themselves matches the texts of the list,
whatever the texts of the match are. -/
theorem isMatch_literalRegex (lists : ListsTexts settings (pieces template)) {regex : Regex}
    (made : literalRegex? settings template context = some regex) (text : Text) :
    regex.isMatch text = true ↔
      ∃ word ∈ wordsWith settings (fillPiece settings context) (pieces template),
        List.Forall₂ (Regex.Alike settings.ignoreCase) text word := by
  rw [literalRegex?, literalBody?_of_listsTexts lists List.not_mem_nil List.not_mem_nil,
    List.nil_append, fillWith_escape lists, Option.bind_some, wholeRegex?] at made
  refine Regex.isMatch_wholePattern_choice wordsWith_ne_nil ?_
  cases compiled : Regex.compile settings.ignoreCase (wholePattern (String.ofList
      (Regex.choice (wordsWith settings (fillPiece settings context) (pieces template))))) with
  | error rejection =>
    rw [compiled] at made
    cases made
  | ok other =>
    rw [compiled] at made
    cases made
    rfl

/-- A list of texts between bars becomes a pattern where the texts of the match are plain. -/
theorem isBody_of_listsTexts (lists : ListsTexts settings (pieces template))
    (plain : EachText settings template context IsPlain) :
    IsBody settings (fillWith settings (fillPiece settings context) (pieces template)) := by
  have escaped : fillWith settings (fillPiece settings context) (pieces template) =
      fillWith settings (fun piece => Regex.escape (fillPiece settings context piece))
        (pieces template) :=
    fillWith_congr fun piece inside ofMatch => (escape_of_plain (plain piece inside ofMatch)).symm
  have noSign : ∀ letter, letter = '@' ∨ letter = heldAtSign →
      letter ∉ fillWith settings (fillPiece settings context) (pieces template) := by
    intro letter sign present
    obtain ⟨piece, inside, present⟩ := List.mem_flatMap.1 present
    by_cases ofMatch : piece.ofMatch = true
    · rw [if_pos ofMatch] at present
      have ordinary := plain piece inside ofMatch letter present
      exact sign.elim ordinary.2.1 ordinary.2.2
    · rw [if_neg ofMatch] at present
      have own := lists.noSign inside (Bool.eq_false_iff.2 ofMatch)
      rcases sign with rfl | rfl
      · exact own.1 present
      · exact own.2 present
  refine ⟨_, expansion?_of_not_mem (noSign _ (.inl rfl)) (noSign _ (.inr rfl)), ?_⟩
  rw [escaped, fillWith_escape lists]
  exact Regex.compile_wholePattern_choice settings.ignoreCase wordsWith_ne_nil

/-- **Texts of the match in the pattern of a guard.** A key that asks for a pattern with references
has a guard for the template. If that becomes a pattern whatever words stand for the texts of the
match, then in every match

* plain texts stand for themselves: the guard answers as it would with the texts escaped, and fails
  only where it would fail with them, too;
* with words, the room that the pattern takes is the only reason to fail;
* where the template lists texts between bars, the pattern with the texts escaped matches the texts
  of the list, and with plain texts the room is the only reason to fail. -/
theorem answers_literally (settings : Settings) (rule : String) {front : Text} {subject : Subject}
    (names : Names front subject) {body : Text} (refers : '$' ∈ body)
    (readable : Readable settings (String.ofList body)) (negated : Bool) :
    ∃ guard, compile settings rule (keyOf front .matching negated body) = .ok guard ∧
      ∀ context,
        (EachText settings (String.ofList body) context IsPlain →
          (guard.holds settings context).toOption =
            (literalRegex? settings (String.ofList body) context).map fun regex =>
              regex.isMatch (subject.select context) != negated) ∧
        (EachText settings (String.ofList body) context IsWord →
          FailsBySize (guard.holds settings context)) ∧
        (ListsTexts settings (pieces (String.ofList body)) →
          (∀ regex, literalRegex? settings (String.ofList body) context = some regex →
            ∀ text, regex.isMatch text = true ↔
              ∃ word ∈ wordsWith settings (fillPiece settings context)
                  (pieces (String.ofList body)),
                List.Forall₂ (Regex.Alike settings.ignoreCase) text word) ∧
          (EachText settings (String.ofList body) context IsPlain →
            FailsBySize (guard.holds settings context))) := by
  have someSign : ¬ body.all (fun letter => isNameChar letter || letter == '|') = true := by
    intro letters
    exact absurd (List.all_eq_true.1 letters _ refers) (by decide)
  have compiled : compile settings rule (keyOf front .matching negated body) =
      .ok (.test subject (.filledRegex (String.ofList body)) negated) := by
    rw [keyOf, compile_key settings rule names (fun _ other => by cases other), compileTest,
      if_neg someSign, if_pos (List.contains_iff_mem.2 refers)]
    rfl
  refine ⟨_, compiled, fun context => ⟨toOption_holds readable, fun words => ?_, fun lists => ?_⟩⟩
  · exact failsBySize_of_isBody (isBody_of_words readable words)
  · refine ⟨fun regex made => isMatch_literalRegex lists made, fun plain => ?_⟩
    exact failsBySize_of_isBody (isBody_of_listsTexts lists plain)

/-- The template that is a group of the match. -/
def groupTemplate : Text := ['$', '1']

theorem pieces_groupTemplate : pieces (String.ofList groupTemplate) = [.capture 1] := by decide

/-- Such a template lists one text, the group. -/
theorem listsTexts_groupTemplate (settings : Settings) :
    ListsTexts settings (pieces (String.ofList groupTemplate)) := by
  intro piece inside own
  rw [pieces_groupTemplate, List.mem_singleton] at inside
  subst inside
  cases own

/-- It becomes a pattern whatever word the group is. -/
theorem readable_groupTemplate (settings : Settings) :
    Readable settings (String.ofList groupTemplate) := by
  intro text words
  have plain := isPlain_of_isWord (words (.capture 1))
  have filled : fillWith settings text [.capture 1] = text (.capture 1) := List.append_nil _
  have written : Regex.choice [text (.capture 1)] = text (.capture 1) := by
    rw [Regex.choice_singleton, escape_of_plain plain]
  rw [pieces_groupTemplate, filled]
  refine ⟨_, expansion?_of_not_mem (fun sign => (plain _ sign).2.1 rfl)
    (fun held => (plain _ held).2.2 rfl), ?_⟩
  rw [← written]
  exact Regex.compile_wholePattern_choice settings.ignoreCase (List.cons_ne_nil _ _)

/-- A match with two groups. -/
def groupsContext (first second : Text) : MatchContext where
  matched := first ++ second
  captures := [first ++ second, first, second]
  state := "root"
  atLineEnd := true

/-- An angle is looked for as it stands. -/
theorem answers_literally_angle :
    Names ['$', '2'] (.capture 2) ∧ '$' ∈ groupTemplate ∧
      Readable plainSettings (String.ofList groupTemplate) ∧
      ListsTexts plainSettings (pieces (String.ofList groupTemplate)) ∧
      EachText plainSettings (String.ofList groupTemplate) (groupsContext ['<'] ['<']) IsPlain ∧
      ∃ guard, compile plainSettings "rule" "$2~$1" = .ok guard ∧
        guard.holds plainSettings (groupsContext ['<'] ['<']) = .ok true ∧
        FailsBySize (guard.holds plainSettings (groupsContext ['<'] ['<'])) := by
  have names : Names ['$', '2'] (.capture 2) :=
    @Names.capture ['2'] (List.forall_mem_singleton.2 rfl) (.inl rfl)
  have refers : '$' ∈ groupTemplate := List.mem_cons_self
  have readable := readable_groupTemplate plainSettings
  have lists := listsTexts_groupTemplate plainSettings
  have plain : EachText plainSettings (String.ofList groupTemplate) (groupsContext ['<'] ['<'])
      IsPlain := by
    intro piece inside _
    rw [pieces_groupTemplate, List.mem_singleton] at inside
    subst inside
    decide
  obtain ⟨guard, compiled, answers⟩ :=
    answers_literally plainSettings "rule" names refers readable false
  obtain ⟨same, -, meaning⟩ := answers (groupsContext ['<'] ['<'])
  obtain ⟨agrees, fails⟩ := meaning lists
  refine ⟨names, refers, readable, lists, plain, guard, compiled, ?_, fails plain⟩
  obtain ⟨regex, made⟩ : ∃ regex, literalRegex? plainSettings (String.ofList groupTemplate)
      (groupsContext ['<'] ['<']) = some regex := Option.isSome_iff_exists.1 (by decide +kernel)
  have matched : regex.isMatch ['<'] = true :=
    (agrees regex made _).2 ⟨['<'], by decide, .cons rfl .nil⟩
  have looked : Subject.select (.capture 2) (groupsContext ['<'] ['<']) = ['<'] := rfl
  have answer := same plain
  rw [made, Option.map_some, looked, matched] at answer
  cases holds : guard.holds plainSettings (groupsContext ['<'] ['<']) with
  | error fault =>
    rw [holds] at answer
    cases answer
  | ok given =>
    rw [holds] at answer
    cases answer
    rfl

/-- A parenthesis makes a guard fail, and a bar in a text stands for a choice. -/
theorem not_forall_answers_literally :
    (¬ ∀ settings rule front subject body negated guard context, Names front subject → '$' ∈ body →
      Readable settings (String.ofList body) →
      compile settings rule (keyOf front .matching negated body) = .ok guard →
      ∃ answer, guard.holds settings context = .ok answer) ∧
    ¬ ∀ settings rule front subject body negated guard context answer, Names front subject →
      '$' ∈ body → Readable settings (String.ofList body) →
      compile settings rule (keyOf front .matching negated body) = .ok guard →
      guard.holds settings context = .ok answer →
      (literalRegex? settings (String.ofList body) context).map (fun regex =>
        regex.isMatch (subject.select context) != negated) = some answer := by
  have names : Names ['$', '2'] (.capture 2) :=
    @Names.capture ['2'] (List.forall_mem_singleton.2 rfl) (.inl rfl)
  have made : compile plainSettings "rule" (keyOf ['$', '2'] .matching false groupTemplate) =
      .ok (.test (.capture 2) (.filledRegex (String.ofList groupTemplate)) false) := by
    decide +kernel
  constructor
  · intro answers
    obtain ⟨answer, holds⟩ := answers plainSettings "rule" _ _ groupTemplate false _
      (groupsContext ['('] ['(']) names List.mem_cons_self (readable_groupTemplate _) made
    have fails : (Guard.test (.capture 2) (.filledRegex (String.ofList groupTemplate)) false).holds
        plainSettings (groupsContext ['('] ['(']) =
          .error { pattern := "^(?:()$", detail := none } := by
      decide +kernel
    cases fails.symm.trans holds
  · intro literal
    have same := literal plainSettings "rule" _ _ groupTemplate false _
      (groupsContext ['a', '|', 'b'] ['a']) true names List.mem_cons_self
      (readable_groupTemplate _) made (by decide +kernel)
    revert same
    decide +kernel

end Guard

end LineLexer
