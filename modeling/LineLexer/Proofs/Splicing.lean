import LineLexer.Proofs.Templates

/-!
**What a pattern becomes with its attributes spliced in.**

Attributes are spliced in round by round over one flat text, in which a character that no pattern
has stands for doubled at-signs. What is meant is a recursion: each reference becomes its attribute
with the references in that one replaced in turn.

* `Pattern.Part`, `Pattern.Spells`: the parts of a text as it is written;
* `Pattern.heldParts`, `Pattern.partsOf`: the parts that a round takes a text for;
* `Pattern.WellRead`, `Pattern.heldParts_render`: parts that are read back as they are;
* `Pattern.splice`, `Pattern.expandOnce_eq_ok`: what a round makes of the parts;
* `Pattern.stage`, `Pattern.expandRounds_eq_render`: what a number of rounds makes of them;
* `Pattern.Splices`: what is meant; `Pattern.NestsWithin`, `Pattern.Reaches`: how deep references
  nest, and which there are;
* `Pattern.expand_means`: the rounds come to what is meant;
* `Pattern.doubleAtSigns`, `Pattern.expand_doubleAtSigns`: a text whose at-signs are doubled.
-/

namespace LineLexer.Pattern

open Scanning Template

/-! ### Parts as they are written -/

/-- A part of a pattern. -/
inductive Part where
  /-- A character that stands for itself. -/
  | letter (letter : Char)
  /-- A doubled at-sign. -/
  | atSign
  /-- A reference to an attribute. -/
  | reference (name : Text)
  deriving DecidableEq, Repr

/-- The first part of a text, and what follows it. An at-sign that neither is doubled nor has a name
behind it stands for itself. -/
inductive Begins : Text → Part → Text → Prop where
  | letter {letter : Char} {rest : Text} (ordinary : letter ≠ '@') :
      Begins (letter :: rest) (.letter letter) rest
  | doubled {rest : Text} : Begins ('@' :: '@' :: rest) .atSign rest
  | alone {rest : Text} (single : rest.head? ≠ some '@')
      (nameless : rest.head?.any isNameChar = false) : Begins ('@' :: rest) (.letter '@') rest
  /-- The name is as long as it can be. -/
  | reference {name rest : Text} (nonempty : name ≠ [])
      (word : ∀ letter ∈ name, isNameChar letter = true)
      (longest : rest.head?.any isNameChar = false) :
      Begins ('@' :: (name ++ rest)) (.reference name) rest

/-- The parts of a text, from the left. -/
inductive Spells : Text → List Part → Prop where
  | nil : Spells [] []
  | cons {text rest : Text} {part : Part} {parts : List Part} (begins : Begins text part rest)
      (later : Spells rest parts) : Spells text (part :: parts)

/-! ### Parts as a round takes them -/

/-- The parts of a text in which doubled at-signs are held back. Each step takes a character at
least, so the length bounds the steps. -/
def heldPartsWithin : Nat → Text → List Part
  | 0, _ => []
  | _ + 1, [] => []
  | steps + 1, letter :: rest =>
    if letter = '@' then
      match rest.takeWhile isNameChar with
      | [] => .letter '@' :: heldPartsWithin steps rest
      | name => .reference name :: heldPartsWithin steps (rest.dropWhile isNameChar)
    else if letter = heldAtSign then .atSign :: heldPartsWithin steps rest
    else .letter letter :: heldPartsWithin steps rest

/-- The parts that a round takes a text for. -/
def heldParts (text : Text) : List Part := heldPartsWithin text.length text

/-- The parts of a text as it is written. -/
def partsOf (text : Text) : List Part := heldParts (holdAtSigns text)

/-- The text of a part while doubled at-signs are held back. -/
def Part.render : Part → Text
  | .letter character => [character]
  | .atSign => [heldAtSign]
  | .reference name => '@' :: name

/-- The text of parts while doubled at-signs are held back. -/
def render (parts : List Part) : Text := parts.flatMap Part.render

/-- No name goes on where the parts begin. -/
def Quiet (parts : List Part) : Prop := (render parts).head?.any isNameChar = false

/-- Parts that are read back from their text as they are. -/
inductive WellRead : List Part → Prop where
  | nil : WellRead []
  | letter {letter : Char} {rest : List Part} (ordinary : letter ≠ heldAtSign)
      (alone : letter = '@' → Quiet rest) (later : WellRead rest) :
      WellRead (.letter letter :: rest)
  | atSign {rest : List Part} (later : WellRead rest) : WellRead (.atSign :: rest)
  | reference {name : Text} {rest : List Part} (nonempty : name ≠ [])
      (word : ∀ letter ∈ name, isNameChar letter = true) (longest : Quiet rest)
      (later : WellRead rest) : WellRead (.reference name :: rest)

variable {settings : Settings} {text rest name : Text} {parts others : List Part} {part : Part}
  {steps : Nat}

@[simp] theorem render_nil : render [] = [] := rfl

@[simp] theorem render_cons (part : Part) (parts : List Part) :
    render (part :: parts) = part.render ++ render parts := List.flatMap_cons

@[simp] theorem render_append (parts others : List Part) :
    render (parts ++ others) = render parts ++ render others := List.flatMap_append

/-- A text is that of the parts that a round takes it for. -/
theorem render_heldPartsWithin (room : text.length ≤ steps) :
    render (heldPartsWithin steps text) = text := by
  induction steps generalizing text with
  | zero =>
    rw [List.length_eq_zero_iff.1 (Nat.le_zero.1 room)]
    rfl
  | succ steps step =>
    cases text with
    | nil => rfl
    | cons letter rest =>
      have shorter : rest.length ≤ steps := Nat.le_of_succ_le_succ room
      rw [heldPartsWithin]
      by_cases sign : letter = '@'
      · rw [if_pos sign]
        have whole : rest.takeWhile isNameChar ++ rest.dropWhile isNameChar = rest :=
          List.takeWhile_append_dropWhile
        have less : (rest.dropWhile isNameChar).length ≤ steps :=
          ((List.dropWhile_suffix isNameChar).length_le).trans shorter
        split
        · rw [render_cons, step shorter, sign]
          rfl
        · next name nonempty =>
          rw [render_cons, step less, sign]
          show '@' :: (rest.takeWhile isNameChar ++ _) = _
          rw [whole]
      · rw [if_neg sign]
        by_cases held : letter = heldAtSign
        · rw [if_pos held, render_cons, step shorter, held]
          rfl
        · rw [if_neg held, render_cons, step shorter]
          rfl

theorem render_heldParts (text : Text) : render (heldParts text) = text :=
  render_heldPartsWithin (Nat.le_refl _)

/-- The parts that a round takes a text for are read back. -/
theorem wellRead_heldPartsWithin (room : text.length ≤ steps) :
    WellRead (heldPartsWithin steps text) := by
  induction steps generalizing text with
  | zero => exact .nil
  | succ steps step =>
    cases text with
    | nil => exact .nil
    | cons letter rest =>
      have shorter : rest.length ≤ steps := Nat.le_of_succ_le_succ room
      rw [heldPartsWithin]
      by_cases sign : letter = '@'
      · rw [if_pos sign]
        have less : (rest.dropWhile isNameChar).length ≤ steps :=
          ((List.dropWhile_suffix isNameChar).length_le).trans shorter
        split
        · next nameless =>
          refine .letter (by decide) (fun _ => ?_) (step shorter)
          rw [Quiet, render_heldPartsWithin shorter]
          have same : rest.dropWhile isNameChar = rest := by
            have whole := @List.takeWhile_append_dropWhile _ isNameChar rest
            rwa [nameless] at whole
          rw [← same]
          exact ends_dropWhile rest
        · next name nonempty =>
          refine .reference nonempty (List.all_eq_true.1 List.all_takeWhile) ?_ (step less)
          rw [Quiet, render_heldPartsWithin less]
          exact ends_dropWhile rest
      · rw [if_neg sign]
        by_cases held : letter = heldAtSign
        · rw [if_pos held]
          exact .atSign (step shorter)
        · rw [if_neg held]
          exact .letter held (fun same => absurd same sign) (step shorter)

theorem wellRead_heldParts (text : Text) : WellRead (heldParts text) :=
  wellRead_heldPartsWithin (Nat.le_refl _)

/-- Parts that are read back are what a round takes their text for. -/
theorem heldPartsWithin_render (reads : WellRead parts) (room : (render parts).length ≤ steps) :
    heldPartsWithin steps (render parts) = parts := by
  induction reads generalizing steps with
  | nil => cases steps <;> rfl
  | @letter letter rest ordinary alone later step =>
    rw [render_cons, Part.render, List.singleton_append] at room ⊢
    cases steps with
    | zero => cases room
    | succ steps =>
      rw [heldPartsWithin, step (Nat.le_of_succ_le_succ room)]
      by_cases sign : letter = '@'
      · rw [if_pos sign, sign]
        have nameless : (render rest).takeWhile isNameChar = [] := by
          have quiet := alone sign
          unfold Quiet at quiet
          cases shown : render rest with
          | nil => rfl
          | cons first more =>
            rw [shown] at quiet
            have other : isNameChar first = false := by simpa using quiet
            simp [other]
        rw [nameless]
      · rw [if_neg sign, if_neg ordinary]
  | atSign later step =>
    rw [render_cons, Part.render, List.singleton_append] at room ⊢
    cases steps with
    | zero => cases room
    | succ steps =>
      rw [heldPartsWithin, if_neg (by decide), if_pos rfl, step (Nat.le_of_succ_le_succ room)]
  | @reference name rest nonempty word longest later step =>
    rw [render_cons, Part.render, List.cons_append] at room ⊢
    cases steps with
    | zero => cases room
    | succ steps =>
      obtain ⟨taken, dropped⟩ := span_name word longest
      have less : (render rest).length ≤ steps := by
        rw [List.length_cons, List.length_append] at room
        omega
      rw [heldPartsWithin, if_pos rfl, taken, dropped, step less]
      cases name with
      | nil => exact absurd rfl nonempty
      | cons first name => rfl

theorem heldParts_render (reads : WellRead parts) : heldParts (render parts) = parts :=
  heldPartsWithin_render reads (Nat.le_refl _)

/-! ### The two ways to take a text apart -/

theorem holdAtSigns_cons {letter : Char} (ordinary : letter ≠ '@') (rest : Text) :
    holdAtSigns (letter :: rest) = letter :: holdAtSigns rest := by
  rw [holdAtSigns]
  rintro later same -
  exact ordinary same

theorem holdAtSigns_single (single : rest.head? ≠ some '@') :
    holdAtSigns ('@' :: rest) = '@' :: holdAtSigns rest := by
  rw [holdAtSigns]
  rintro later - rfl
  exact single rfl

/-- No name character is an at-sign. -/
theorem ne_of_isNameChar {letter : Char} (word : isNameChar letter = true) : letter ≠ '@' := by
  rintro rfl
  exact absurd word (by decide)

theorem holdAtSigns_name (word : ∀ letter ∈ name, isNameChar letter = true) (rest : Text) :
    holdAtSigns (name ++ rest) = name ++ holdAtSigns rest := by
  induction name with
  | nil => rfl
  | cons letter name step =>
    rw [List.forall_mem_cons] at word
    rw [List.cons_append, holdAtSigns_cons (ne_of_isNameChar word.1), step word.2]
    rfl

/-- Holding back at-signs does not change whether a name goes on. -/
theorem head?_holdAtSigns (text : Text) :
    (holdAtSigns text).head?.any isNameChar = text.head?.any isNameChar := by
  cases text with
  | nil => rfl
  | cons letter rest =>
    by_cases doubled : letter = '@' ∧ rest.head? = some '@'
    · obtain ⟨rfl, next⟩ := doubled
      obtain ⟨later, rfl⟩ := List.head?_eq_some_iff.1 next
      rfl
    · by_cases sign : letter = '@'
      · subst sign
        rw [holdAtSigns_single fun next => doubled ⟨rfl, next⟩]
        rfl
      · rw [holdAtSigns_cons sign]
        rfl

/-- The text of parts that are spelled is what the spelling is with its doubled at-signs held back,
and the parts are read back from it. -/
theorem Spells.held (spells : Spells text parts) (free : heldAtSign ∉ text) :
    holdAtSigns text = render parts ∧ WellRead parts := by
  induction spells with
  | nil => exact ⟨rfl, .nil⟩
  | @cons text rest part parts begins later step =>
    cases begins with
    | letter ordinary =>
      rw [List.mem_cons, not_or] at free
      obtain ⟨same, reads⟩ := step free.2
      rw [holdAtSigns_cons ordinary, same]
      exact ⟨rfl, .letter (Ne.symm free.1) (fun sign => absurd sign ordinary) reads⟩
    | doubled =>
      rw [List.mem_cons, List.mem_cons, not_or, not_or] at free
      obtain ⟨same, reads⟩ := step free.2.2
      rw [holdAtSigns, same]
      exact ⟨rfl, .atSign reads⟩
    | alone single nameless =>
      rw [List.mem_cons, not_or] at free
      obtain ⟨same, reads⟩ := step free.2
      rw [holdAtSigns_single single, same]
      refine ⟨rfl, .letter (by decide) (fun _ => ?_) reads⟩
      rw [Quiet, ← same, head?_holdAtSigns]
      exact nameless
    | @reference name _ nonempty word longest =>
      rw [List.mem_cons, List.mem_append, not_or, not_or] at free
      obtain ⟨same, reads⟩ := step free.2.2
      have single : (name ++ rest).head? ≠ some '@' := by
        cases name with
        | nil => exact absurd rfl nonempty
        | cons first name =>
          rw [List.cons_append, List.head?_cons, ne_eq, Option.some.injEq]
          exact ne_of_isNameChar (word first List.mem_cons_self)
      rw [holdAtSigns_single single, holdAtSigns_name word, same]
      refine ⟨rfl, .reference nonempty word ?_ reads⟩
      rw [Quiet, ← same, head?_holdAtSigns]
      exact longest

/-- Every text has a first part, unless it is at its end. -/
theorem exists_begins (letter : Char) (rest : Text) :
    ∃ part behind, Begins (letter :: rest) part behind ∧ behind.length ≤ rest.length := by
  by_cases sign : letter = '@'
  · subst sign
    by_cases doubled : rest.head? = some '@'
    · obtain ⟨later, rfl⟩ := List.head?_eq_some_iff.1 doubled
      exact ⟨_, later, .doubled, Nat.le_succ _⟩
    · by_cases nameless : rest.takeWhile isNameChar = []
      · have same : rest.dropWhile isNameChar = rest := by
          have whole := @List.takeWhile_append_dropWhile _ isNameChar rest
          rwa [nameless] at whole
        refine ⟨_, rest, .alone doubled ?_, Nat.le_refl _⟩
        rw [← same]
        exact ends_dropWhile rest
      · have begins := Begins.reference nameless (List.all_eq_true.1 List.all_takeWhile)
          (ends_dropWhile rest)
        rw [List.takeWhile_append_dropWhile] at begins
        exact ⟨_, _, begins, (List.dropWhile_suffix isNameChar).length_le⟩
  · exact ⟨_, rest, .letter sign, Nat.le_refl _⟩

theorem exists_spells (text : Text) : ∃ parts, Spells text parts := by
  -- what follows a part is shorter
  induction short : text.length using Nat.strong_induction_on generalizing text with
  | _ length step =>
    subst short
    cases text with
    | nil => exact ⟨[], .nil⟩
    | cons letter rest =>
      obtain ⟨part, behind, begins, less⟩ := exists_begins letter rest
      obtain ⟨parts, later⟩ := step behind.length (Nat.lt_succ_of_le less) behind rfl
      exact ⟨part :: parts, .cons begins later⟩

/-- A text without the character for held at-signs is spelled by its parts, and in no other way. -/
theorem spells_iff (free : heldAtSign ∉ text) : Spells text parts ↔ parts = partsOf text := by
  have unique : ∀ {parts}, Spells text parts → parts = partsOf text := by
    intro parts spells
    obtain ⟨same, reads⟩ := spells.held free
    rw [partsOf, same, heldParts_render reads]
  constructor
  · exact unique
  · rintro rfl
    obtain ⟨parts, spells⟩ := exists_spells text
    rwa [unique spells] at spells

/-! ### One round -/

/-- What one round puts in the place of a part: a group around the attribute, or nothing for the
empty text. A reference to no text stays. -/
def Part.spliced (settings : Settings) : Part → List Part
  | .reference name =>
    match settings.textAttribute? (String.ofList name) with
    | none => [.reference name]
    | some value =>
      if value = "" then []
      else .letter '(' :: .letter '?' :: .letter ':' :: (partsOf value.toList ++ [.letter ')'])
  | part => [part]

/-- What one round makes of parts. -/
def splice (settings : Settings) (parts : List Part) : List Part :=
  parts.flatMap (Part.spliced settings)

/-- Whether a part is a reference. -/
def Part.isReference : Part → Bool
  | .reference _ => true
  | _ => false

/-- Every reference among the parts names an attribute that is a text. -/
def Named (settings : Settings) (parts : List Part) : Prop :=
  ∀ name, .reference name ∈ parts → (settings.textAttribute? (String.ofList name)).isSome

theorem splice_cons (part : Part) (parts : List Part) :
    splice settings (part :: parts) = part.spliced settings ++ splice settings parts :=
  List.flatMap_cons

/-- A reference that names a text is spliced in, and another one is a problem. -/
theorem spliceAttribute_eq_ok {pattern : Text}
    (known : (settings.textAttribute? (String.ofList name)).isSome) :
    spliceAttribute settings pattern name =
      .ok (render ((Part.reference name).spliced settings)) := by
  obtain ⟨value, found⟩ := Option.isSome_iff_exists.1 known
  have same := found
  rw [Settings.textAttribute?, Option.bind_eq_some_iff] at same
  obtain ⟨json, stands, reads⟩ := same
  unfold spliceAttribute Part.spliced
  dsimp only
  rw [found, stands]
  dsimp only
  rw [reads]
  dsimp only
  split
  · rfl
  · have shown : render (partsOf value.toList) = holdAtSigns value.toList := render_heldParts _
    rw [render_cons, render_cons, render_cons, render_append, shown]
    rfl

theorem spliceAttribute_eq_error {pattern : Text}
    (unknown : settings.textAttribute? (String.ofList name) = none) :
    ∃ problem, spliceAttribute settings pattern name = .error problem := by
  rw [Settings.textAttribute?, Option.bind_eq_none_iff] at unknown
  unfold spliceAttribute
  dsimp only
  split
  · exact ⟨_, rfl⟩
  · next json stands =>
    rw [unknown json stands]
    exact ⟨_, rfl⟩

/-- A round splices in the references that it takes a text for, and tells whether there are any. -/
theorem expandOnce_eq_ok {pattern : Text} (named : Named settings (heldPartsWithin steps text)) :
    expandOnce settings pattern steps text =
      .ok (render (splice settings (heldPartsWithin steps text)),
        (heldPartsWithin steps text).any Part.isReference) := by
  induction steps generalizing text with
  | zero => rfl
  | succ steps step =>
    cases text with
    | nil => rfl
    | cons letter rest =>
      rw [heldPartsWithin] at named ⊢
      rw [expandOnce]
      by_cases sign : letter = '@'
      · rw [if_pos sign] at named ⊢
        rw [if_pos sign]
        cases word : rest.takeWhile isNameChar with
        | nil =>
          rw [word] at named
          dsimp only at named ⊢
          rw [step fun name inside => named name (List.mem_cons_of_mem _ inside), splice_cons,
            render_append]
          rfl
        | cons first name =>
          rw [word] at named
          dsimp only at named ⊢
          rw [spliceAttribute_eq_ok (named _ List.mem_cons_self),
            step fun name inside => named name (List.mem_cons_of_mem _ inside), splice_cons,
            render_append]
          rfl
      · rw [if_neg sign] at named ⊢
        rw [if_neg sign]
        by_cases held : letter = heldAtSign
        · rw [if_pos held] at named ⊢
          rw [step fun name inside => named name (List.mem_cons_of_mem _ inside), splice_cons,
            render_append, held]
          rfl
        · rw [if_neg held] at named ⊢
          rw [step fun name inside => named name (List.mem_cons_of_mem _ inside), splice_cons,
            render_append]
          rfl

/-- A round fails for a reference that names no text. -/
theorem expandOnce_eq_error {pattern : Text}
    (unnamed : ¬ Named settings (heldPartsWithin steps text)) :
    ∃ problem, expandOnce settings pattern steps text = .error problem := by
  induction steps generalizing text with
  | zero => exact absurd (fun _ inside => absurd inside List.not_mem_nil) unnamed
  | succ steps step =>
    cases text with
    | nil => exact absurd (fun _ inside => absurd inside List.not_mem_nil) unnamed
    | cons letter rest =>
      have later : ∀ {part : Part} {parts : List Part}, ¬ Named settings (part :: parts) →
          (∀ name, part = .reference name →
            (settings.textAttribute? (String.ofList name)).isSome) →
          ¬ Named settings parts := by
        intro part parts unnamed first named
        refine unnamed fun name inside => ?_
        rcases List.mem_cons.1 inside with same | rest
        · exact first name same.symm
        · exact named name rest
      rw [heldPartsWithin] at unnamed
      rw [expandOnce]
      by_cases sign : letter = '@'
      · rw [if_pos sign] at unnamed ⊢
        cases word : rest.takeWhile isNameChar with
        | nil =>
          rw [word] at unnamed
          dsimp only at unnamed ⊢
          obtain ⟨problem, fails⟩ := step (later unnamed nofun)
          rw [fails]
          exact ⟨problem, rfl⟩
        | cons first name =>
          rw [word] at unnamed
          dsimp only at unnamed ⊢
          cases found : settings.textAttribute? (String.ofList (first :: name)) with
          | none =>
            obtain ⟨problem, fails⟩ :=
              @spliceAttribute_eq_error settings (first :: name) pattern found
            rw [fails]
            exact ⟨problem, rfl⟩
          | some value =>
            have known : (settings.textAttribute? (String.ofList (first :: name))).isSome := by
              rw [found]
              rfl
            rw [spliceAttribute_eq_ok known]
            have others : ¬ Named settings (heldPartsWithin steps (rest.dropWhile isNameChar)) :=
              later unnamed fun other same => by
                cases same
                exact known
            obtain ⟨problem, fails⟩ := step others
            rw [fails]
            exact ⟨problem, rfl⟩
      · rw [if_neg sign] at unnamed ⊢
        have others : ¬ Named settings (heldPartsWithin steps rest) := by
          by_cases held : letter = heldAtSign
          · rw [if_pos held] at unnamed
            exact later unnamed nofun
          · rw [if_neg held] at unnamed
            exact later unnamed nofun
        obtain ⟨problem, fails⟩ := step others
        rw [fails]
        exact ⟨problem, rfl⟩

/-! ### Parts behind a round -/

theorem Quiet.append (quiet : Quiet parts) (quietToo : Quiet others) : Quiet (parts ++ others) := by
  unfold Quiet at *
  rw [render_append, List.head?_append]
  cases first : (render parts).head? with
  | none => exact quietToo
  | some letter =>
    rw [first] at quiet
    exact quiet

theorem WellRead.append (reads : WellRead parts) (readsToo : WellRead others)
    (quiet : Quiet others) : WellRead (parts ++ others) := by
  induction reads with
  | nil => exact readsToo
  | letter ordinary alone later step =>
    exact .letter ordinary (fun sign => (alone sign).append quiet) step
  | atSign later step => exact .atSign step
  | reference nonempty word longest later step =>
    exact .reference nonempty word (longest.append quiet) step

/-- What ends quietly does so behind a round: an empty attribute is followed by what is quiet. -/
theorem WellRead.quiet_splice (reads : WellRead parts) (quiet : Quiet parts) :
    Quiet (splice settings parts) := by
  induction reads with
  | nil => exact quiet
  | letter ordinary alone later step => exact quiet
  | atSign later step => rfl
  | reference nonempty word longest later step =>
    rw [splice_cons, Part.spliced]
    split
    · rfl
    · split
      · exact step longest
      · rfl

/-- Behind a round the parts are read back. -/
theorem WellRead.splice (reads : WellRead parts) : WellRead (splice settings parts) := by
  induction reads with
  | nil => exact .nil
  | letter ordinary alone later step =>
    exact .letter ordinary (fun sign => later.quiet_splice (alone sign)) step
  | atSign later step => exact .atSign step
  | reference nonempty word longest later step =>
    rw [splice_cons, Part.spliced]
    split
    · exact .reference nonempty word (later.quiet_splice longest) step
    · next value found =>
      split
      · exact step
      · have closed : WellRead (.letter ')' :: Pattern.splice settings _) :=
          .letter (by decide) nofun step
        have body := (wellRead_heldParts (holdAtSigns value.toList)).append closed rfl
        have whole : WellRead (.letter '(' :: .letter '?' :: .letter ':' :: (partsOf value.toList ++
            .letter ')' :: Pattern.splice settings _)) :=
          .letter (by decide) nofun (.letter (by decide) nofun (.letter (by decide) nofun body))
        simpa using whole

/-- Without references a round changes nothing. -/
theorem splice_of_plain (plain : ∀ name, .reference name ∉ parts) :
    splice settings parts = parts := by
  induction parts with
  | nil => rfl
  | cons part parts step =>
    rw [splice_cons, step fun name inside => plain name (List.mem_cons_of_mem _ inside)]
    cases part with
    | letter letter => rfl
    | atSign => rfl
    | reference name => exact absurd List.mem_cons_self (plain name)

/-- The references behind a round are those in the attributes that it has spliced in. -/
theorem mem_splice_iff (named : Named settings parts) :
    .reference name ∈ splice settings parts ↔
      ∃ first value, .reference first ∈ parts ∧
        settings.textAttribute? (String.ofList first) = some value ∧
        .reference name ∈ partsOf value.toList := by
  unfold splice
  rw [List.mem_flatMap]
  constructor
  · rintro ⟨part, listed, inside⟩
    cases part with
    | letter letter => simp [Part.spliced] at inside
    | atSign => simp [Part.spliced] at inside
    | reference first =>
      obtain ⟨value, found⟩ := Option.isSome_iff_exists.1 (named first listed)
      rw [Part.spliced, found] at inside
      dsimp only at inside
      split at inside
      · cases inside
      · exact ⟨first, value, listed, found, by simpa using inside⟩
  · rintro ⟨first, value, listed, found, inside⟩
    refine ⟨.reference first, listed, ?_⟩
    rw [Part.spliced, found]
    dsimp only
    split
    · next empty =>
      subst empty
      cases inside
    · simp [inside]

/-! ### Rounds -/

/-- What a number of rounds makes of parts. -/
def stage (settings : Settings) (rounds : Nat) (parts : List Part) : List Part :=
  (splice settings)^[rounds] parts

theorem stage_succ (rounds : Nat) (parts : List Part) :
    stage settings (rounds + 1) parts = splice settings (stage settings rounds parts) :=
  Function.iterate_succ_apply' _ _ _

theorem WellRead.stage (reads : WellRead parts) (rounds : Nat) :
    WellRead (stage settings rounds parts) := by
  induction rounds with
  | zero => exact reads
  | succ rounds step =>
    rw [stage_succ]
    exact step.splice

/-- The rounds end where there is no reference. -/
theorem expandRounds_of_plain (reads : WellRead parts) (plain : ∀ name, .reference name ∉ parts)
    (rounds : Nat) : expandRounds settings rounds (render parts) = .ok (render parts) := by
  cases rounds with
  | zero => rfl
  | succ rounds =>
    have same : heldPartsWithin (render parts).length (render parts) = parts :=
      heldParts_render reads
    have named : Named settings parts := fun name inside => absurd inside (plain name)
    have none : parts.any Part.isReference = false := by
      rw [List.any_eq_false]
      intro part inside marked
      cases part with
      | letter letter => cases marked
      | atSign => cases marked
      | reference name => exact plain name inside
    rw [expandRounds, expandOnce_eq_ok (by rw [same]; exact named), same, none]
    rfl

/-- A number of rounds is one round and the rest of them. -/
theorem expandRounds_succ (reads : WellRead parts) (named : Named settings parts) (rounds : Nat) :
    expandRounds settings (rounds + 1) (render parts) =
      expandRounds settings rounds (render (splice settings parts)) := by
  by_cases plain : ∀ name, .reference name ∉ parts
  · rw [expandRounds_of_plain reads plain, splice_of_plain plain, expandRounds_of_plain reads plain]
  · have same : heldPartsWithin (render parts).length (render parts) = parts :=
      heldParts_render reads
    have some : parts.any Part.isReference = true := by
      rw [not_forall] at plain
      obtain ⟨name, inside⟩ := plain
      exact List.any_eq_true.2 ⟨_, not_not.1 inside, rfl⟩
    rw [expandRounds, expandOnce_eq_ok (by rw [same]; exact named), same, some]
    rfl

/-- A round that fails ends the rounds. -/
theorem expandRounds_eq_error (reads : WellRead parts) (unnamed : ¬ Named settings parts)
    (rounds : Nat) :
    ∃ problem, expandRounds settings (rounds + 1) (render parts) = .error problem := by
  have same : heldPartsWithin (render parts).length (render parts) = parts := heldParts_render reads
  rw [← same] at unnamed
  obtain ⟨problem, fails⟩ := expandOnce_eq_error unnamed
  rw [expandRounds, fails]
  exact ⟨problem, rfl⟩

/-- What the rounds come to is the text of what they make of the parts. -/
theorem expandRounds_eq_render (reads : WellRead parts) {rounds : Nat}
    (done : expandRounds settings rounds (render parts) = .ok text) :
    text = render (stage settings rounds parts) := by
  induction rounds generalizing parts with
  | zero =>
    cases done
    rfl
  | succ rounds step =>
    by_cases named : Named settings parts
    · rw [expandRounds_succ reads named] at done
      exact step reads.splice done
    · obtain ⟨problem, fails⟩ := expandRounds_eq_error reads named rounds
      rw [fails] at done
      cases done

/-! ### What is meant -/

/-- What parts mean: letters and doubled at-signs are single characters, and a reference becomes a
group around what the parts of its attribute mean, or nothing for the empty text. -/
inductive Splices (settings : Settings) : List Part → Text → Prop where
  | nil : Splices settings [] []
  | letter {letter : Char} {parts : List Part} {text : Text} (later : Splices settings parts text) :
      Splices settings (.letter letter :: parts) (letter :: text)
  | atSign {parts : List Part} {text : Text} (later : Splices settings parts text) :
      Splices settings (.atSign :: parts) ('@' :: text)
  | empty {name : Text} {parts : List Part} {text : Text}
      (found : settings.textAttribute? (String.ofList name) = some "")
      (later : Splices settings parts text) : Splices settings (.reference name :: parts) text
  | reference {name inner text : Text} {value : String} {parts : List Part}
      (found : settings.textAttribute? (String.ofList name) = some value) (nonempty : value ≠ "")
      (inside : Splices settings (partsOf value.toList) inner)
      (later : Splices settings parts text) :
      Splices settings (.reference name :: parts) (['(', '?', ':'] ++ inner ++ [')'] ++ text)

/-- References among the parts nest at most so deep. -/
def NestsWithin (settings : Settings) : Nat → List Part → Prop
  | 0, parts => ∀ name, .reference name ∉ parts
  | depth + 1, parts => ∀ name value, .reference name ∈ parts →
      settings.textAttribute? (String.ofList name) = some value →
      NestsWithin settings depth (partsOf value.toList)

/-- The references among the parts, in the attributes that they name, and so on. -/
inductive Reaches (settings : Settings) : List Part → Text → Prop where
  | here {parts : List Part} {name : Text} (inside : .reference name ∈ parts) :
      Reaches settings parts name
  | through {parts : List Part} {first name : Text} {value : String}
      (inside : .reference first ∈ parts)
      (found : settings.textAttribute? (String.ofList first) = some value)
      (later : Reaches settings (partsOf value.toList) name) : Reaches settings parts name

/-- Every reference that is reached names an attribute that is a text. -/
def AllNamed (settings : Settings) (parts : List Part) : Prop :=
  ∀ name, Reaches settings parts name → (settings.textAttribute? (String.ofList name)).isSome

/-- How deep references nest can be counted. -/
instance decidableNestsWithin (settings : Settings) :
    ∀ depth parts, Decidable (NestsWithin settings depth parts)
  | 0, parts =>
    decidable_of_iff (∀ part ∈ parts, part.isReference = false) <| by
      constructor
      · intro none name inside
        cases none _ inside
      · intro none part inside
        cases part with
        | reference name => exact absurd inside (none name)
        | _ => rfl
  | depth + 1, parts =>
    have (part : Part) : Decidable (∀ name value, part = .reference name →
        settings.textAttribute? (String.ofList name) = some value →
        NestsWithin settings depth (partsOf value.toList)) :=
      match part with
      | .letter _ => .isTrue nofun
      | .atSign => .isTrue nofun
      | .reference name =>
        match found : settings.textAttribute? (String.ofList name) with
        | none => .isTrue fun
          | _, _, rfl, same => nomatch found.symm.trans same
        | some value =>
          match decidableNestsWithin settings depth (partsOf value.toList) with
          | .isTrue nests => .isTrue fun
            | _, _, rfl, same => by
              cases found.symm.trans same
              exact nests
          | .isFalse deeper => .isFalse fun each => deeper (each name value rfl found)
    decidable_of_iff (∀ part ∈ parts, ∀ name value, part = .reference name →
        settings.textAttribute? (String.ofList name) = some value →
        NestsWithin settings depth (partsOf value.toList)) <| by
      constructor
      · intro each name value inside
        exact each _ inside name value rfl
      · rintro each - inside name value rfl
        exact each name value inside

variable {textToo : Text} {depth : Nat}

theorem Splices.append (means : Splices settings parts text)
    (meansToo : Splices settings others textToo) :
    Splices settings (parts ++ others) (text ++ textToo) := by
  induction means with
  | nil => exact meansToo
  | letter later step => exact .letter step
  | atSign later step => exact .atSign step
  | empty found later step => exact .empty found step
  | reference found nonempty inside later insideStep step =>
    rw [List.append_assoc]
    exact .reference found nonempty inside step

/-- Parts mean what the first of them and the others mean, one behind the other. -/
theorem splices_append_iff :
    Splices settings (parts ++ others) text ↔
      ∃ before behind, text = before ++ behind ∧ Splices settings parts before ∧
        Splices settings others behind := by
  constructor
  · intro means
    induction parts generalizing text with
    | nil => exact ⟨[], text, rfl, .nil, means⟩
    | cons part parts step =>
      cases means with
      | letter later =>
        obtain ⟨before, behind, rfl, first, second⟩ := step later
        exact ⟨_, behind, rfl, .letter first, second⟩
      | atSign later =>
        obtain ⟨before, behind, rfl, first, second⟩ := step later
        exact ⟨_, behind, rfl, .atSign first, second⟩
      | empty found later =>
        obtain ⟨before, behind, rfl, first, second⟩ := step later
        exact ⟨_, behind, rfl, .empty found first, second⟩
      | reference found nonempty inside later =>
        obtain ⟨before, behind, rfl, first, second⟩ := step later
        refine ⟨_, behind, ?_, .reference found nonempty inside first, second⟩
        simp
  · rintro ⟨before, behind, rfl, first, second⟩
    exact first.append second

/-- Parts mean one text. -/
theorem Splices.unique (means : Splices settings parts text)
    (meansToo : Splices settings parts textToo) : text = textToo := by
  induction means generalizing textToo with
  | nil =>
    cases meansToo
    rfl
  | letter later step =>
    cases meansToo with
    | letter laterToo => rw [step laterToo]
  | atSign later step =>
    cases meansToo with
    | atSign laterToo => rw [step laterToo]
  | empty found later step =>
    cases meansToo with
    | empty foundToo laterToo => exact step laterToo
    | reference foundToo nonempty inside laterToo =>
      cases found.symm.trans foundToo
      exact absurd rfl nonempty
  | reference found nonempty inside later insideStep step =>
    cases meansToo with
    | empty foundToo laterToo =>
      cases found.symm.trans foundToo
      exact absurd rfl nonempty
    | reference foundToo nonemptyToo insideToo laterToo =>
      cases found.symm.trans foundToo
      rw [insideStep insideToo, step laterToo]

/-- What one round puts in the place of a part means what the part means. -/
theorem splices_spliced_iff
    (known : ∀ name, part = .reference name →
      (settings.textAttribute? (String.ofList name)).isSome) :
    Splices settings (part.spliced settings) text ↔ Splices settings [part] text := by
  cases part with
  | letter letter => rfl
  | atSign => rfl
  | reference name =>
    obtain ⟨value, found⟩ := Option.isSome_iff_exists.1 (known name rfl)
    rw [Part.spliced, found]
    dsimp only
    by_cases empty : value = ""
    · rw [if_pos empty]
      subst empty
      constructor
      · intro means
        cases means
        exact .empty found .nil
      · intro means
        cases means with
        | empty _ later => exact later
        | reference foundToo nonempty _ _ =>
          cases found.symm.trans foundToo
          exact absurd rfl nonempty
    · rw [if_neg empty]
      constructor
      · rintro (_ | ⟨_ | ⟨_ | ⟨later⟩⟩⟩)
        obtain ⟨inner, closing, rfl, inside, ends⟩ := splices_append_iff.1 later
        cases ends with
        | letter ends =>
          cases ends
          have whole := Splices.reference found empty inside .nil
          simpa using whole
      · intro means
        cases means with
        | empty foundToo _ =>
          cases found.symm.trans foundToo
          exact absurd rfl empty
        | reference foundToo nonempty inside later =>
          cases found.symm.trans foundToo
          cases later
          have whole : Splices settings
              (.letter '(' :: .letter '?' :: .letter ':' :: (partsOf value.toList ++ [.letter ')']))
              ('(' :: '?' :: ':' :: (_ ++ [')'])) :=
            .letter (.letter (.letter (inside.append (.letter .nil))))
          simpa using whole

/-- A round does not change what parts mean. -/
theorem splices_splice_iff (named : Named settings parts) :
    Splices settings (splice settings parts) text ↔ Splices settings parts text := by
  induction parts generalizing text with
  | nil => rfl
  | cons part parts step =>
    have first : ∀ name, part = .reference name →
        (settings.textAttribute? (String.ofList name)).isSome := by
      rintro name rfl
      exact named name List.mem_cons_self
    have rest : Named settings parts := fun name inside =>
      named name (List.mem_cons_of_mem _ inside)
    rw [splice_cons, splices_append_iff, ← List.singleton_append, splices_append_iff]
    simp only [splices_spliced_iff first, step rest]

/-- Without references, parts mean their own text with single at-signs for the doubled ones. -/
theorem splices_of_plain (reads : WellRead parts) (plain : ∀ name, .reference name ∉ parts) :
    Splices settings parts (releaseAtSigns (render parts)) := by
  induction reads with
  | nil => exact .nil
  | @letter letter rest ordinary alone later step =>
    have means := step fun name inside => plain name (List.mem_cons_of_mem _ inside)
    have shown : releaseAtSigns (render (.letter letter :: rest)) =
        letter :: releaseAtSigns (render rest) := by
      simp [releaseAtSigns, Part.render, ordinary]
    rw [shown]
    exact .letter means
  | atSign later step =>
    exact .atSign (step fun name inside => plain name (List.mem_cons_of_mem _ inside))
  | reference => exact absurd List.mem_cons_self (plain _)

/-! ### References that are reached -/

/-- Parts name texts only if each reference among them names one whose parts do. -/
theorem allNamed_iff :
    AllNamed settings parts ↔ ∀ name, .reference name ∈ parts →
      ∃ value, settings.textAttribute? (String.ofList name) = some value ∧
        AllNamed settings (partsOf value.toList) := by
  constructor
  · intro named name inside
    obtain ⟨value, found⟩ := Option.isSome_iff_exists.1 (named name (.here inside))
    exact ⟨value, found, fun deeper later => named deeper (.through inside found later)⟩
  · intro each name reaches
    cases reaches with
    | here inside =>
      obtain ⟨value, found, -⟩ := each name inside
      rw [found]
      rfl
    | through inside found later =>
      obtain ⟨value, same, deeper⟩ := each _ inside
      cases found.symm.trans same
      exact deeper name later

theorem AllNamed.named (names : AllNamed settings parts) : Named settings parts :=
  fun name inside => names name (.here inside)

/-- A part that is no reference reaches nothing. -/
theorem AllNamed.cons (names : AllNamed settings parts) (other : ∀ name, part ≠ .reference name) :
    AllNamed settings (part :: parts) :=
  allNamed_iff.2 fun name inside =>
    allNamed_iff.1 names name (List.mem_of_ne_of_mem (other name).symm inside)

/-- What means something names texts only. -/
theorem Splices.allNamed (means : Splices settings parts text) : AllNamed settings parts := by
  induction means with
  | nil => exact allNamed_iff.2 fun name inside => absurd inside List.not_mem_nil
  | letter later step => exact step.cons nofun
  | atSign later step => exact step.cons nofun
  | empty found later step =>
    refine allNamed_iff.2 fun name inside => ?_
    rcases List.mem_cons.1 inside with same | inside
    · cases same
      exact ⟨"", found, allNamed_iff.2 fun name inside => absurd inside List.not_mem_nil⟩
    · exact allNamed_iff.1 step name inside
  | reference found nonempty inside later insideStep step =>
    refine allNamed_iff.2 fun name listed => ?_
    rcases List.mem_cons.1 listed with same | listed
    · cases same
      exact ⟨_, found, insideStep⟩
    · exact allNamed_iff.1 step name listed

/-- The references that are reached behind a round are those that the attributes that it has spliced
in reach. -/
theorem allNamed_splice_iff (named : Named settings parts) :
    AllNamed settings (splice settings parts) ↔ AllNamed settings parts := by
  constructor
  · intro names
    refine allNamed_iff.2 fun first inside => ?_
    obtain ⟨value, found⟩ := Option.isSome_iff_exists.1 (named first inside)
    refine ⟨value, found, allNamed_iff.2 fun name deeper => ?_⟩
    exact allNamed_iff.1 names name ((mem_splice_iff named).2 ⟨first, value, inside, found, deeper⟩)
  · intro names
    refine allNamed_iff.2 fun name inside => ?_
    obtain ⟨first, value, listed, found, deeper⟩ := (mem_splice_iff named).1 inside
    obtain ⟨same, stands, valueNames⟩ := allNamed_iff.1 names first listed
    cases found.symm.trans stands
    exact allNamed_iff.1 valueNames name deeper

/-- A round takes one level of nesting away. -/
theorem NestsWithin.splice (nests : NestsWithin settings (depth + 1) parts)
    (named : Named settings parts) : NestsWithin settings depth (splice settings parts) := by
  cases depth with
  | zero =>
    intro name inside
    obtain ⟨first, value, listed, found, deeper⟩ := (mem_splice_iff named).1 inside
    exact nests first value listed found name deeper
  | succ depth =>
    intro name value inside found
    obtain ⟨first, outer, listed, stands, deeper⟩ := (mem_splice_iff named).1 inside
    exact nests first outer listed stands name value deeper found

/-! ### The rounds come to what is meant -/

/-- As many rounds as references nest come to what the parts mean. -/
theorem expandRounds_means (reads : WellRead parts) (nests : NestsWithin settings depth parts)
    (names : AllNamed settings parts) :
    ∃ text, expandRounds settings depth (render parts) = .ok text ∧
      Splices settings parts (releaseAtSigns text) := by
  induction depth generalizing parts with
  | zero => exact ⟨render parts, rfl, splices_of_plain reads nests⟩
  | succ depth step =>
    have named : Named settings parts := names.named
    obtain ⟨text, done, means⟩ :=
      step reads.splice (nests.splice named) ((allNamed_splice_iff named).2 names)
    rw [expandRounds_succ reads named]
    exact ⟨text, done, (splices_splice_iff named).1 means⟩

/-- The rounds fail for what reaches a reference to no text. -/
theorem expandRounds_unnamed (reads : WellRead parts) (nests : NestsWithin settings depth parts)
    (unnamed : ¬ AllNamed settings parts) :
    ∃ problem, expandRounds settings depth (render parts) = .error problem := by
  induction depth generalizing parts with
  | zero => exact absurd (allNamed_iff.2 fun name inside => absurd inside (nests name)) unnamed
  | succ depth step =>
    by_cases named : Named settings parts
    · rw [expandRounds_succ reads named]
      exact step reads.splice (nests.splice named) fun names =>
        unnamed ((allNamed_splice_iff named).1 names)
    · exact expandRounds_eq_error reads named depth

/-- Rounds that go on for one more have named texts only so far. -/
theorem named_stage_of_expandRounds (reads : WellRead parts) {rounds : Nat}
    (done : expandRounds settings (rounds + 1) (render parts) = .ok text) :
    Named settings (stage settings rounds parts) := by
  induction rounds generalizing parts with
  | zero =>
    by_contra unnamed
    obtain ⟨problem, fails⟩ := expandRounds_eq_error reads unnamed 0
    rw [fails] at done
    cases done
  | succ rounds step =>
    by_cases named : Named settings parts
    · rw [expandRounds_succ reads named] at done
      exact step reads.splice done
    · obtain ⟨problem, fails⟩ := expandRounds_eq_error reads named (rounds + 1)
      rw [fails] at done
      cases done

/-- **Splicing in attributes round by round is splicing them in recursively.** Let no pattern and no
attribute have the character that stands for doubled at-signs, and let the references that start
from a pattern nest as deep as there are rounds, or less. Then

* the parts that the rounds work on are those that the pattern and the attributes spell: a doubled
  at-sign is paired from the left, and a name is as long as it can be;
* splicing succeeds exactly if every reference that is reached from the pattern names an attribute
  that is a text;
* its result is what the pattern means: each reference is a group around what its attribute means,
  or nothing for the empty text, each doubled at-sign is a single one, and each other character
  stays;
* whichever round has come to an end, the references in its text are those that the attributes have
  which it has spliced in, so that no other at-sign becomes part of one. -/
theorem expand_means (settings : Settings) (pattern : String)
    (free : heldAtSign ∉ pattern.toList)
    (freeToo : ∀ name value, settings.textAttribute? name = some value →
      heldAtSign ∉ value.toList)
    (nests : NestsWithin settings expansionRounds (partsOf pattern.toList)) :
    ((∀ parts, Spells pattern.toList parts ↔ parts = partsOf pattern.toList) ∧
      ∀ name value, settings.textAttribute? name = some value →
        ∀ parts, Spells value.toList parts ↔ parts = partsOf value.toList) ∧
    ((∃ result, expand settings pattern = .ok result) ↔
      ∀ name, Reaches settings (partsOf pattern.toList) name →
        (settings.textAttribute? (String.ofList name)).isSome) ∧
    (∀ result, expand settings pattern = .ok result ↔
      Splices settings (partsOf pattern.toList) result.toList) ∧
    ∀ rounds text,
      expandRounds settings rounds (holdAtSigns pattern.toList) = .ok text →
      heldParts text = stage settings rounds (partsOf pattern.toList) ∧
      ∀ next, expandRounds settings (rounds + 1) (holdAtSigns pattern.toList) = .ok next →
        ∀ name, .reference name ∈ heldParts next ↔
          ∃ first value, .reference first ∈ heldParts text ∧
            settings.textAttribute? (String.ofList first) = some value ∧
            .reference name ∈ partsOf value.toList := by
  have reads : WellRead (partsOf pattern.toList) := wellRead_heldParts _
  have shown : render (partsOf pattern.toList) = holdAtSigns pattern.toList := render_heldParts _
  have succeeds : AllNamed settings (partsOf pattern.toList) →
      ∃ result, expand settings pattern = .ok result ∧
        Splices settings (partsOf pattern.toList) result.toList := by
    intro names
    obtain ⟨text, done, means⟩ := expandRounds_means reads nests names
    rw [shown] at done
    refine ⟨String.ofList (releaseAtSigns text), ?_, by rwa [String.toList_ofList]⟩
    rw [expand, done]
    rfl
  have fails : ¬ AllNamed settings (partsOf pattern.toList) →
      ∃ problem, expand settings pattern = .error problem := by
    intro unnamed
    obtain ⟨problem, done⟩ := expandRounds_unnamed reads nests unnamed
    rw [shown] at done
    rw [expand, done]
    exact ⟨problem, rfl⟩
  refine ⟨⟨fun parts => spells_iff free, fun name value found parts =>
    spells_iff (freeToo name value found)⟩, ⟨?_, ?_⟩, fun result => ⟨?_, ?_⟩, ?_⟩
  · rintro ⟨result, done⟩
    by_contra unnamed
    obtain ⟨problem, failed⟩ := fails unnamed
    rw [failed] at done
    cases done
  · intro names
    obtain ⟨result, done, -⟩ := succeeds names
    exact ⟨result, done⟩
  · intro done
    by_cases names : AllNamed settings (partsOf pattern.toList)
    · obtain ⟨other, same, means⟩ := succeeds names
      cases done.symm.trans same
      exact means
    · obtain ⟨problem, failed⟩ := fails names
      rw [failed] at done
      cases done
  · intro means
    obtain ⟨other, done, meansToo⟩ := succeeds means.allNamed
    rw [done, String.toList_injective (means.unique meansToo)]
  · intro rounds text done
    rw [← shown] at done ⊢
    have now : heldParts text = stage settings rounds (partsOf pattern.toList) := by
      rw [expandRounds_eq_render reads done, heldParts_render (reads.stage rounds)]
    refine ⟨now, fun next further name => ?_⟩
    have behind : heldParts next = splice settings (heldParts text) := by
      rw [expandRounds_eq_render reads further, heldParts_render (reads.stage _), stage_succ, now]
    have named : Named settings (heldParts text) := by
      rw [now]
      exact named_stage_of_expandRounds reads further
    rw [behind]
    exact mem_splice_iff named

/-- An attribute that is a text is one of those that are declared. -/
theorem mem_attributes {name value : String} (found : settings.textAttribute? name = some value) :
    (name, .string value) ∈ settings.attributes := by
  obtain ⟨json, declared, reads⟩ := Option.bind_eq_some_iff.1 found
  cases json with
  | string text =>
    cases reads
    exact Json.Members.mem_of_get? declared
  | _ => cases reads

/-- An attribute that refers to another one, and an empty one. -/
def chained : Settings where
  language := "toy"
  ignoreCase := false
  unicode := false
  attributes := [("outer", .string "x@inner@"), ("inner", .string "y@@"), ("empty", .string "")]

theorem expand_means_chained :
    heldAtSign ∉ "@outer-@empty@@".toList ∧
      NestsWithin chained expansionRounds (partsOf "@outer-@empty@@".toList) ∧
      Splices chained (partsOf "@outer-@empty@@".toList) "(?:x(?:y@)@)-@".toList := by
  have free : heldAtSign ∉ "@outer-@empty@@".toList := by decide +kernel
  have nests : NestsWithin chained expansionRounds (partsOf "@outer-@empty@@".toList) := by
    decide +kernel
  have freeToo : ∀ name value, chained.textAttribute? name = some value →
      heldAtSign ∉ value.toList := by
    intro name value found
    have declared := mem_attributes found
    simp only [chained, List.mem_cons, Prod.mk.injEq, Json.string.injEq, List.not_mem_nil,
      or_false] at declared
    rcases declared with ⟨-, rfl⟩ | ⟨-, rfl⟩ | ⟨-, rfl⟩ <;> decide +kernel
  have result : expand chained "@outer-@empty@@" = .ok "(?:x(?:y@)@)-@" := by decide +kernel
  obtain ⟨-, -, means, -⟩ := expand_means chained "@outer-@empty@@" free freeToo nests
  exact ⟨free, nests, (means _).1 result⟩

/-! ### Doubled at-signs -/

/-- A text with each at-sign written twice. -/
def doubleAtSigns (text : Text) : Text :=
  text.flatMap fun letter => if letter = '@' then ['@', '@'] else [letter]

/-- A text with each at-sign held back. -/
def holdEach (text : Text) : Text :=
  text.map fun letter => if letter = '@' then heldAtSign else letter

theorem not_mem_holdEach (text : Text) : '@' ∉ holdEach text := by
  intro inside
  obtain ⟨letter, -, same⟩ := List.mem_map.1 inside
  split at same
  · exact absurd same (by decide)
  · next other => exact other same

theorem releaseAtSigns_holdEach (text : Text) :
    releaseAtSigns (holdEach text) = releaseAtSigns text := by
  unfold releaseAtSigns holdEach
  rw [List.map_map]
  refine List.map_congr_left fun letter _ => ?_
  dsimp only [Function.comp]
  by_cases sign : letter = '@'
  · subst sign
    rfl
  · simp only [if_neg sign]

/-- All at-signs of a doubled text are held back, wherever they stand. -/
theorem holdAtSigns_doubleAtSigns (text : Text) :
    holdAtSigns (doubleAtSigns text) = holdEach text := by
  induction text with
  | nil => rfl
  | cons letter rest step =>
    rw [doubleAtSigns, List.flatMap_cons, holdEach, List.map_cons, ← holdEach]
    by_cases sign : letter = '@'
    · rw [if_pos sign, if_pos sign]
      show holdAtSigns ('@' :: '@' :: doubleAtSigns rest) = _
      rw [holdAtSigns, step]
    · rw [if_neg sign, if_neg sign]
      show holdAtSigns (letter :: doubleAtSigns rest) = _
      rw [holdAtSigns_cons sign, step]

/-- Without at-signs there is nothing to splice in. -/
theorem expandRounds_of_not_mem (none : '@' ∉ text) (rounds : Nat) :
    expandRounds settings rounds text = .ok text := by
  have plain : ∀ name, .reference name ∉ heldParts text := by
    intro name inside
    refine none ?_
    rw [← render_heldParts text]
    exact List.mem_flatMap.2 ⟨_, inside, List.mem_cons_self⟩
  have done : expandRounds settings rounds (render (heldParts text)) = _ :=
    expandRounds_of_plain (wellRead_heldParts text) plain rounds
  rwa [render_heldParts] at done

/-- Single at-signs for held ones change a text exactly if it has the character that stands for
them. -/
theorem releaseAtSigns_eq_iff : releaseAtSigns text = text ↔ heldAtSign ∉ text := by
  induction text with
  | nil => exact iff_of_true rfl List.not_mem_nil
  | cons letter rest step =>
    show (if letter = heldAtSign then '@' else letter) :: releaseAtSigns rest = _ ↔ _
    rw [List.cons.injEq, step, List.mem_cons, not_or]
    refine and_congr ?_ Iff.rfl
    by_cases held : letter = heldAtSign
    · rw [if_pos held, held]
      exact iff_of_false (by decide) fun other => other rfl
    · rw [if_neg held]
      exact iff_of_true rfl (Ne.symm held)

/-- Each at-sign makes the doubled text longer by one. -/
theorem length_doubleAtSigns (text : Text) :
    (doubleAtSigns text).length = text.length + text.count '@' := by
  induction text with
  | nil => rfl
  | cons letter rest step =>
    rw [doubleAtSigns, List.flatMap_cons, List.length_append, List.count_cons]
    show _ + (doubleAtSigns rest).length = _
    rw [step, List.length_cons]
    by_cases sign : letter = '@'
    · simp [sign]
      omega
    · simp [sign]
      omega

theorem doubleAtSigns_eq_iff : doubleAtSigns text = text ↔ '@' ∉ text := by
  constructor
  · intro same inside
    have count := length_doubleAtSigns text
    rw [same] at count
    exact absurd (List.count_pos_iff.2 inside) (by omega)
  · intro none
    induction text with
    | nil => rfl
    | cons letter rest step =>
      rw [List.mem_cons, not_or] at none
      rw [doubleAtSigns, List.flatMap_cons, if_neg (Ne.symm none.1)]
      show letter :: doubleAtSigns rest = _
      rw [step none.2]

/-- **A text whose at-signs are doubled is returned with single ones.** Whatever the attributes are,
and wherever the at-signs of a text stand, splicing into the doubled text succeeds. The result has
the characters of the text, but for the one that stands for doubled at-signs meanwhile, which comes
back as an at-sign. So it is the text itself exactly if the text does not have that character. A
text is its own doubled text exactly if it has no at-sign. -/
theorem expand_doubleAtSigns (settings : Settings) (text : String) :
    expand settings (String.ofList (doubleAtSigns text.toList)) =
        .ok (String.ofList (releaseAtSigns text.toList)) ∧
      (expand settings (String.ofList (doubleAtSigns text.toList)) = .ok text ↔
        heldAtSign ∉ text.toList) ∧
      (doubleAtSigns text.toList = text.toList ↔ '@' ∉ text.toList) := by
  have result : expand settings (String.ofList (doubleAtSigns text.toList)) =
      .ok (String.ofList (releaseAtSigns text.toList)) := by
    have none := not_mem_holdEach text.toList
    rw [expand, String.toList_ofList, holdAtSigns_doubleAtSigns, expandRounds_of_not_mem none]
    show Except.ok (String.ofList (releaseAtSigns _)) = _
    rw [releaseAtSigns_holdEach]
  refine ⟨result, ?_, doubleAtSigns_eq_iff⟩
  rw [result, Except.ok.injEq, ← releaseAtSigns_eq_iff, ← String.toList_inj, String.toList_ofList]

/-- A text that has the character that stands for doubled at-signs is not returned, also if it has
no at-sign. -/
theorem not_forall_expand_doubleAtSigns :
    (¬ ∀ settings text, expand settings (String.ofList (doubleAtSigns text.toList)) = .ok text) ∧
      '@' ∉ "\x01".toList ∧ expand chained "\x01" = .ok "@" := by
  refine ⟨fun returned => ?_, by decide, by decide +kernel⟩
  have plain := returned chained "\x01"
  revert plain
  decide +kernel

end LineLexer.Pattern
