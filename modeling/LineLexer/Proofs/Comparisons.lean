import LineLexer.Proofs.Keys
import LineLexer.Proofs.Lowercase

/-!
**What comparisons compare with.**

A comparison asks whether a text is its operand. An operand without references is put into lowercase
where case is ignored, and so is the template that any other operand is, before it is filled in. The
texts that come from the match are put into lowercase when they are filled in, and the texts of
attributes are not. Which of these ways a text goes makes a difference in few cases.

* `Template.Apart`, `Template.piecesOf_lowerEach`: when the lowercase form of a template has the
  same references;
* `Guard.Comparable`, `Guard.compared_eq_expansion`: when an operand comes to the lowercase form of
  what it expands to;
* `Guard.compile_comparison`: what a comparison is, and what it compares with.
-/

namespace LineLexer

open Template

/-- The settings of a grammar, as if case counted. -/
def Settings.asWritten (settings : Settings) : Settings := { settings with ignoreCase := false }

namespace Template

variable {text rest : Text} {piece : Piece} {letter : Char} {settings : Settings}
  {context : MatchContext}

/-! ### References in lowercase -/

/-- Whether a character behind a dollar sign makes a reference, whatever follows. -/
def startsAlone (letter : Char) : Bool :=
  decide (letter = '$' ∨ letter = '#') || Digit.isDecimal letter

/-- Whether a character behind a dollar sign makes a reference to a part of the state name with the
number that follows. -/
def startsComponent (letter : Char) : Bool := decide (letter = 's' ∨ letter = 'S')

/-- Whether a text starts a reference, by its first two characters. -/
def startsReference (text : Text) : Bool :=
  text.head?.any startsAlone ||
    (text.head?.any startsComponent && text.tail.head?.any Digit.isDecimal) ||
    (text.head?.any (· == '@') && text.tail.head?.any isNameChar)

theorem isSome_reference? (text : Text) : (reference? text).isSome = startsReference text := by
  cases text with
  | nil => rfl
  | cons letter rest =>
    rw [reference?, startsReference, List.head?_cons, Option.any_some, Option.any_some,
      Option.any_some, List.tail_cons, startsAlone, startsComponent]
    by_cases dollar : letter = '$'
    · simp [dollar]
    by_cases matched : letter = '#'
    · simp [matched]
    by_cases component : letter = 's' ∨ letter = 'S'
    · have other : Digit.isDecimal letter = false := by rcases component with rfl | rfl <;> decide
      have noSign : letter ≠ '@' := by rcases component with rfl | rfl <;> decide
      rw [if_neg dollar, if_neg matched, if_pos component, Option.isSome_map, isSome_index?]
      simp [dollar, matched, component, other, noSign]
    by_cases named : letter = '@'
    · subst named
      cases rest with
      | nil => rfl
      | cons first rest =>
        have other : Digit.isDecimal '@' = false := by decide
        cases word : isNameChar first <;> simp [word, other]
    · rw [if_neg dollar, if_neg matched, if_neg component, if_neg named, Option.isSome_map,
        isSome_index?]
      simp [dollar, matched, component, named]

/-- No name of an attribute in a text is followed by a character that becomes a letter of names in
lowercase only. -/
def Apart (text : Text) : Prop :=
  ∀ before name behind, text = before ++ '$' :: '@' :: (name ++ behind) →
    (∀ letter ∈ name, isNameChar letter = true) →
    behind.head? ≠ some Text.kelvinSign ∧ behind.head? ≠ some 'İ'

theorem Apart.of_suffix (apart : Apart text) (ending : rest <:+ text) : Apart rest := by
  obtain ⟨front, rfl⟩ := ending
  rintro before name behind rfl word
  exact apart (front ++ before) name behind (List.append_assoc _ _ _).symm word

/-- A text without the two characters. -/
theorem Apart.of_not_mem (noKelvin : Text.kelvinSign ∉ text) (noDotted : 'İ' ∉ text) :
    Apart text := by
  rintro before name behind rfl -
  have later : ∀ {letter}, behind.head? = some letter →
      letter ∈ before ++ '$' :: '@' :: (name ++ behind) := by
    intro letter first
    have inside := List.mem_of_mem_head? first
    simp [inside]
  exact ⟨fun same => noKelvin (later same), fun same => noDotted (later same)⟩

/-- A test of ASCII characters that does not tell a letter from its lowercase form sees the same
first character in lowercase, unless that is one of the two that become ASCII letters. -/
theorem head?_lowerEach_any {test : Char → Bool}
    (lowers : ∀ code < 128, test (Char.ofNat code).toLower = test (Char.ofNat code))
    (ascii : ∀ {letter}, test letter = true → letter.toNat < 128)
    (kelvin : rest.head? = some Text.kelvinSign → test 'k' = false)
    (dotted : rest.head? = some 'İ' → test 'i' = false) :
    (Text.lowerEach rest).head?.any test = rest.head?.any test := by
  have beyond : ∀ {letter : Char}, 128 ≤ letter.toNat → test letter = false := fun large =>
    Bool.eq_false_iff.2 fun holds => Nat.not_lt.2 large (ascii holds)
  cases rest with
  | nil => rfl
  | cons letter rest =>
    rw [Text.lowerEach_cons]
    rcases Text.lowerLetter_cases letter with
      ⟨small, form⟩ | ⟨rfl, form⟩ | ⟨rfl, form⟩ | ⟨large, -, -, found, form, largeToo⟩
    · rw [form]
      exact Text.of_ascii (fun letter => test letter.toLower = test letter) lowers small
    · rw [form]
      exact (kelvin rfl).trans (beyond (by decide)).symm
    · rw [form]
      exact (dotted rfl).trans (beyond (by decide)).symm
    · rw [form]
      exact (beyond largeToo).trans (beyond large).symm

theorem head?_lowerEach_isDecimal (rest : Text) :
    (Text.lowerEach rest).head?.any Digit.isDecimal = rest.head?.any Digit.isDecimal :=
  head?_lowerEach_any (by decide +kernel) ascii_of_isDecimal (fun _ => by decide)
    (fun _ => by decide)

/-- What is no character of names where a name ends is none in lowercase. -/
theorem head?_lowerEach_isNameChar
    (apart : rest.head? ≠ some Text.kelvinSign ∧ rest.head? ≠ some 'İ') :
    (Text.lowerEach rest).head?.any isNameChar = rest.head?.any isNameChar :=
  head?_lowerEach_any (by decide +kernel) ascii_of_isNameChar (fun same => absurd same apart.1)
    (fun same => absurd same apart.2)

theorem ascii_of_startsAlone {letter : Char} (starts : startsAlone letter = true) :
    letter.toNat < 128 := by
  rw [startsAlone, Bool.or_eq_true, decide_eq_true_eq] at starts
  rcases starts with (rfl | rfl) | decimal
  · decide
  · decide
  · exact ascii_of_isDecimal decimal

theorem ascii_of_startsComponent {letter : Char} (starts : startsComponent letter = true) :
    letter.toNat < 128 := by
  rcases of_decide_eq_true starts with rfl | rfl <;> decide

theorem ascii_of_sign {letter : Char} (sign : (letter == '@') = true) : letter.toNat < 128 := by
  rw [beq_iff_eq.1 sign]
  decide

/-- A text starts a reference in lowercase exactly if it does as it is written. -/
theorem startsReference_lowerEach (apart : Apart ('$' :: text)) :
    startsReference (Text.lowerEach text) = startsReference text := by
  have alone : (Text.lowerEach text).head?.any startsAlone = text.head?.any startsAlone :=
    head?_lowerEach_any (by decide +kernel) ascii_of_startsAlone (fun _ => by decide)
      (fun _ => by decide)
  have component :
      (Text.lowerEach text).head?.any startsComponent = text.head?.any startsComponent :=
    head?_lowerEach_any (by decide +kernel) ascii_of_startsComponent (fun _ => by decide)
      (fun _ => by decide)
  have sign : (Text.lowerEach text).head?.any (· == '@') = text.head?.any (· == '@') :=
    head?_lowerEach_any (by decide +kernel) ascii_of_sign (fun _ => by decide) (fun _ => by decide)
  rw [startsReference, startsReference, alone, component, sign]
  cases text with
  | nil => rfl
  | cons letter rest =>
    by_cases small : letter.toNat < 128
    · have tail : (Text.lowerEach (letter :: rest)).tail = Text.lowerEach rest := by
        rw [Text.lowerEach_cons_of_ascii small]
        rfl
      rw [tail, List.tail_cons, head?_lowerEach_isDecimal]
      by_cases named : letter = '@'
      · subst named
        rw [head?_lowerEach_isNameChar (apart [] [] rest rfl (by simp))]
      · simp only [List.head?_cons, Option.any_some, beq_eq_false_iff_ne.2 named, Bool.false_and]
    · -- what stands second does not matter
      have noComponent : startsComponent letter = false :=
        Bool.eq_false_iff.2 fun starts => small (ascii_of_startsComponent starts)
      have noSign : (letter == '@') = false :=
        Bool.eq_false_iff.2 fun same => small (ascii_of_sign same)
      simp only [List.head?_cons, Option.any_some, noComponent, noSign, Bool.false_and]

/-! ### Pieces in lowercase -/

/-- A piece of a template in lowercase. -/
def lowerPiece : Piece → List Piece
  | .letter character => (Text.lowerLetter character).map .letter
  | .attributeText name => [.attributeText (String.ofList (Text.lower name.toList))]
  | .matched => [.matched]
  | .capture index => [.capture index]
  | .component index => [.component index]

theorem dollar_not_mem_lowerLetter (ordinary : letter ≠ '$') : '$' ∉ Text.lowerLetter letter := by
  rcases Text.lowerLetter_cases letter with
    ⟨small, form⟩ | ⟨rfl, form⟩ | ⟨rfl, form⟩ | ⟨large, -, -, found, form, largeToo⟩
  · rw [form, List.mem_singleton]
    have lowers := Text.of_ascii (fun letter => letter ≠ '$' → '$' ≠ letter.toLower)
      (by decide +kernel) small
    exact lowers ordinary
  · rw [form]
    decide
  · rw [form]
    decide
  · rw [form, List.mem_singleton]
    rintro rfl
    exact absurd largeToo (by decide)

theorem dollar_not_mem_lowerFrom {before : Text} (plain : '$' ∉ text) :
    '$' ∉ Text.lowerFrom before text := by
  induction text generalizing before with
  | nil => exact List.not_mem_nil
  | cons letter rest step =>
    rw [List.mem_cons, not_or] at plain
    rw [Text.lowerFrom, List.mem_append, not_or]
    refine ⟨?_, step plain.2⟩
    by_cases sigma : letter = 'Σ'
    · rw [Text.lowerChar, if_pos sigma]
      split <;> decide
    · rw [Text.lowerChar_eq_lowerLetter sigma]
      exact dollar_not_mem_lowerLetter (Ne.symm plain.1)

/-- Digits have no lowercase forms of their own. -/
theorem lowerEach_digits {digits : Text}
    (decimal : ∀ digit ∈ digits, Digit.isDecimal digit = true) :
    Text.lowerEach digits = digits := by
  induction digits with
  | nil => rfl
  | cons digit digits step =>
    rw [List.forall_mem_cons] at decimal
    have small := ascii_of_isDecimal decimal.1
    have lowers := Text.of_ascii
      (fun letter => Digit.isDecimal letter = true → letter.toLower = letter)
      (by decide +kernel) small
    rw [Text.lowerEach_cons_of_ascii small, lowers decimal.1, step decimal.2]

theorem OneOrTwo.lowerEach {digits : Text} (number : OneOrTwo digits rest) :
    OneOrTwo digits (Text.lowerEach rest) :=
  ⟨number.decimal, by rw [head?_lowerEach_isDecimal]; exact number.count⟩

/-- The lowercase form of a name is a name. -/
theorem isNameChar_of_mem_lowerEach {name : Text}
    (word : ∀ letter ∈ name, isNameChar letter = true) :
    ∀ letter ∈ Text.lowerEach name, isNameChar letter = true := by
  intro letter inside
  obtain ⟨written, listed, inside⟩ := List.mem_flatMap.1 inside
  have small := ascii_of_isNameChar (word written listed)
  rw [Text.lowerLetter_of_ascii small, List.mem_singleton] at inside
  rw [inside]
  have lowers := Text.of_ascii
    (fun letter => isNameChar letter = true → isNameChar letter.toLower = true)
    (by decide +kernel) small
  exact lowers (word written listed)

theorem lower_name {name : Text} (word : ∀ letter ∈ name, isNameChar letter = true) :
    Text.lower name = Text.lowerEach name :=
  Text.lower_eq_lowerEach fun sigma => absurd (word _ sigma) (by decide)

/-- A reference refers to the same in lowercase, but for the name of an attribute. -/
theorem Refers.lowerEach (refers : Refers text piece rest) (apart : Apart ('$' :: text)) :
    ∃ lowered, lowerPiece piece = [lowered] ∧
      Refers (Text.lowerEach text) lowered (Text.lowerEach rest) := by
  cases refers with
  | dollar =>
    rw [Text.lowerEach_cons_of_ascii (by decide)]
    exact ⟨_, rfl, .dollar⟩
  | matched =>
    rw [Text.lowerEach_cons_of_ascii (by decide)]
    exact ⟨_, rfl, .matched⟩
  | capture number =>
    rw [Text.lowerEach_append, lowerEach_digits number.decimal]
    exact ⟨_, rfl, .capture number.lowerEach⟩
  | @component letter digits rest either number =>
    have small : letter.toNat < 128 := by rcases either with rfl | rfl <;> decide
    have lowers : letter.toLower = 's' ∨ letter.toLower = 'S' := by
      rcases either with rfl | rfl <;> decide
    rw [Text.lowerEach_cons_of_ascii small, Text.lowerEach_append,
      lowerEach_digits number.decimal]
    exact ⟨_, rfl, .component lowers number.lowerEach⟩
  | @named name rest nonempty word longest =>
    have ends := head?_lowerEach_isNameChar (apart [] name rest rfl word)
    rw [Text.lowerEach_cons_of_ascii (by decide), Text.lowerEach_append]
    refine ⟨.attributeText (String.ofList (Text.lowerEach name)), ?_, ?_⟩
    · rw [lowerPiece, String.toList_ofList, lower_name word]
    · refine .named ?_ (isNameChar_of_mem_lowerEach word) (ends.trans longest)
      obtain ⟨first, more, rfl⟩ := List.exists_cons_of_ne_nil nonempty
      rw [Text.lowerEach_cons_of_ascii (ascii_of_isNameChar (word first List.mem_cons_self))]
      exact List.cons_ne_nil _ _

/-- The lowercase form of a template is read as the pieces of the template, in lowercase. -/
theorem piecesOf_lowerEach (apart : Apart text) :
    piecesOf (Text.lowerEach text) = (piecesOf text).flatMap lowerPiece := by
  obtain ⟨pieces, reads⟩ : ∃ pieces, Reads text pieces := ⟨_, reads_iff.2 rfl⟩
  rw [← reads_iff.1 reads]
  induction reads with
  | nil => rfl
  | letter ordinary later step =>
    rw [Text.lowerEach_cons, piecesOf_append_of_plain (dollar_not_mem_lowerLetter ordinary),
      step (apart.of_suffix (List.suffix_cons _ _))]
    rfl
  | @reference text rest piece pieces refers later step =>
    obtain ⟨lowered, lowers, refersToo⟩ := refers.lowerEach apart
    have ending : rest <:+ '$' :: text := refers.suffix.trans (List.suffix_cons _ _)
    rw [Text.lowerEach_cons_of_ascii (by decide)]
    show piecesOf ('$' :: Text.lowerEach _) = _
    rw [piecesOf_dollar, reference?_eq_some_iff.2 refersToo, List.flatMap_cons, lowers]
    dsimp only
    rw [step (apart.of_suffix ending)]
    rfl
  | @alone text pieces nothing later step =>
    have none : reference? (Text.lowerEach text) = none := by
      rw [← Option.isNone_iff_eq_none, ← Option.isSome_eq_false_iff, isSome_reference?,
        startsReference_lowerEach apart, ← isSome_reference?, Option.isSome_eq_false_iff,
        Option.isNone_iff_eq_none]
      refine Option.eq_none_iff_forall_not_mem.2 fun found inside => ?_
      exact nothing _ _ (reference?_eq_some_iff.1 inside)
    rw [Text.lowerEach_cons_of_ascii (by decide)]
    show piecesOf ('$' :: Text.lowerEach _) = _
    rw [piecesOf_dollar, none, step (apart.of_suffix (List.suffix_cons _ _))]
    rfl

/-! ### Filling in -/

/-- Where case is ignored, a piece in lowercase becomes the lowercase form of what the piece becomes
as it is written, if what is stored under the lowercase name of an attribute is the lowercase form
of what is stored under the name. -/
theorem fill_lowerPiece (ignores : settings.ignoreCase = true)
    (noSigma : 'Σ' ∉ fillPiece settings.asWritten context piece)
    (named : ∀ name, piece = .attributeText name →
      (settings.textAttribute? (settings.fold name)).getD "" =
        settings.fold ((settings.textAttribute? name).getD "")) :
    (lowerPiece piece).flatMap (fillPiece settings context) =
      Text.lowerEach (fillPiece settings.asWritten context piece) := by
  have folds : ∀ text, settings.foldText text = Text.lower text := fun text => if_pos ignores
  have taken : ∀ text,
      settings.foldText text ++ [] = Text.lower (settings.asWritten.foldText text) := by
    intro text
    rw [folds, List.append_nil]
    rfl
  rw [← Text.lower_eq_lowerEach noSigma]
  cases piece with
  | letter character =>
    rw [lowerPiece, flatMap_letters, Text.lower_eq_lowerEach noSigma]
    exact (List.append_nil _).symm
  | matched => exact taken _
  | capture index => exact taken _
  | component index => exact taken _
  | attributeText name =>
    have stored := congrArg String.toList (named name rfl)
    rw [Settings.fold, Settings.fold, folds, folds, String.toList_ofList] at stored
    rw [lowerPiece, List.flatMap_singleton]
    exact stored

/-- A character beyond ASCII is no part of a reference. -/
theorem Refers.mem_of_mem (refers : Refers text piece rest) (large : 128 ≤ letter.toNat)
    (inside : letter ∈ text) : letter ∈ rest := by
  have beyond : ∀ {other : Char}, other.toNat < 128 → letter ≠ other := by
    rintro other small rfl
    omega
  cases refers with
  | dollar => exact List.mem_of_ne_of_mem (beyond (by decide)) inside
  | matched => exact List.mem_of_ne_of_mem (beyond (by decide)) inside
  | capture number =>
    refine (List.mem_append.1 inside).resolve_left fun digit => ?_
    exact beyond (ascii_of_isDecimal (number.decimal _ digit)) rfl
  | @component sign digits rest either number =>
    have small : sign.toNat < 128 := by rcases either with rfl | rfl <;> decide
    have behind := List.mem_of_ne_of_mem (beyond small) inside
    refine (List.mem_append.1 behind).resolve_left fun digit => ?_
    exact beyond (ascii_of_isDecimal (number.decimal _ digit)) rfl
  | named nonempty word longest =>
    have behind := List.mem_of_ne_of_mem (beyond (by decide)) inside
    refine (List.mem_append.1 behind).resolve_left fun named => ?_
    exact beyond (ascii_of_isNameChar (word _ named)) rfl

/-- A character beyond ASCII stands for itself in a template. -/
theorem letter_mem_piecesOf (large : 128 ≤ letter.toNat) (inside : letter ∈ text) :
    .letter letter ∈ piecesOf text := by
  have other : letter ≠ '$' := by
    rintro rfl
    exact absurd large (by decide)
  obtain ⟨pieces, reads⟩ : ∃ pieces, Reads text pieces := ⟨_, reads_iff.2 rfl⟩
  rw [← reads_iff.1 reads]
  induction reads with
  | nil => cases inside
  | letter ordinary later step =>
    rcases List.mem_cons.1 inside with rfl | inside
    · exact List.mem_cons_self
    · exact List.mem_cons_of_mem _ (step inside)
  | reference refers later step =>
    have behind := refers.mem_of_mem large (List.mem_of_ne_of_mem other inside)
    exact List.mem_cons_of_mem _ (step behind)
  | alone nothing later step =>
    exact List.mem_cons_of_mem _ (step (List.mem_of_ne_of_mem other inside))

end Template

/-! ### Comparisons -/

namespace Guard

/-- What a comparison with an operand compares with in a match. -/
def compared (settings : Settings) (operand : Text) (context : MatchContext) : String :=
  fill settings (settings.fold (String.ofList operand)) context

/-- What an operand expands to in a match, in the form in which texts are compared. -/
def expansion (settings : Settings) (operand : Text) (context : MatchContext) : String :=
  settings.fold (fill settings.asWritten (String.ofList operand) context)

/-- An operand whose references, and what they become, have the lowercase forms that they have by
themselves. -/
structure Comparable (settings : Settings) (operand : Text) (context : MatchContext) : Prop where
  /-- The names of attributes end where they end in lowercase. -/
  apart : Apart operand
  /-- Under the lowercase name of an attribute the lowercase form of its text is stored. -/
  stored : ∀ name, .attributeText name ∈ pieces (String.ofList operand) →
    (settings.textAttribute? (settings.fold name)).getD "" =
      settings.fold ((settings.textAttribute? name).getD "")
  /-- There is no letter whose lowercase form depends on what stands beside it. -/
  noSigma : 'Σ' ∉ (fill settings.asWritten (String.ofList operand) context).toList

variable {settings : Settings} {operand : Text} {context : MatchContext} {front : Text}
  {subject : Subject}

theorem toList_compared_of_ignoreCase (ignores : settings.ignoreCase = true) :
    (compared settings operand context).toList =
      (piecesOf (Text.lower operand)).flatMap (fillPiece settings context) := by
  rw [compared, toList_fill, Settings.fold, Settings.foldText, if_pos ignores,
    String.toList_ofList, String.toList_ofList]

theorem toList_expansion_of_ignoreCase (ignores : settings.ignoreCase = true) :
    (expansion settings operand context).toList =
      Text.lower ((piecesOf operand).flatMap (fillPiece settings.asWritten context)) := by
  rw [expansion, Settings.fold, Settings.foldText, if_pos ignores, String.toList_ofList,
    toList_fill, String.toList_ofList]

/-- Where case counts, an operand is filled in as it is written. -/
theorem compared_eq_expansion_of_counts (counts : settings.ignoreCase = false) :
    compared settings operand context = expansion settings operand context := by
  have same : settings.asWritten = settings := by
    cases settings
    cases counts
    rfl
  rw [compared, expansion, Settings.fold_of_not_ignoreCase counts,
    Settings.fold_of_not_ignoreCase counts, same]

/-- An operand without references becomes itself. -/
theorem compared_of_plain (plain : '$' ∉ operand) :
    compared settings operand context = settings.fold (String.ofList operand) := by
  refine fill_of_plain ?_ _ _
  rw [Settings.fold, String.toList_ofList, String.toList_ofList, Settings.foldText]
  split
  · exact dollar_not_mem_lowerFrom plain
  · exact plain

theorem compared_eq_expansion_of_plain (plain : '$' ∉ operand) :
    compared settings operand context = expansion settings operand context := by
  rw [compared_of_plain plain, expansion, fill_of_plain (by rwa [String.toList_ofList])]

/-- A comparable operand comes to the lowercase form of what it expands to. -/
theorem compared_eq_expansion (comparable : Comparable settings operand context) :
    compared settings operand context = expansion settings operand context := by
  cases ignores : settings.ignoreCase with
  | false => exact compared_eq_expansion_of_counts ignores
  | true =>
    have filled : 'Σ' ∉ (piecesOf operand).flatMap (fillPiece settings.asWritten context) := by
      have noSigma := comparable.noSigma
      rwa [toList_fill, String.toList_ofList] at noSigma
    have written : 'Σ' ∉ operand := fun inside => filled
      (List.mem_flatMap.2 ⟨_, letter_mem_piecesOf (by decide) inside, List.mem_cons_self⟩)
    rw [← String.toList_inj, toList_compared_of_ignoreCase ignores,
      toList_expansion_of_ignoreCase ignores, Text.lower_eq_lowerEach written,
      Text.lower_eq_lowerEach filled, piecesOf_lowerEach comparable.apart, Text.lowerEach,
      List.flatMap_assoc, List.flatMap_assoc]
    refine List.flatMap_congr fun piece inside => fill_lowerPiece ignores ?_ ?_
    · exact fun sigma => filled (List.mem_flatMap.2 ⟨piece, inside, sigma⟩)
    · rintro name rfl
      refine comparable.stored name ?_
      rwa [pieces, String.toList_ofList]

/-- In the form in which texts are compared, the name of an attribute is the name of one. -/
theorem foldText_name (settings : Settings) {name : Text} (nonempty : name ≠ [])
    (word : ∀ letter ∈ name, isNameChar letter = true) :
    settings.foldText ('$' :: '@' :: name) = '$' :: '@' :: settings.foldText name ∧
      settings.foldText name ≠ [] ∧
      ∀ letter ∈ settings.foldText name, isNameChar letter = true := by
  unfold Settings.foldText
  split
  · have noSigma : 'Σ' ∉ '$' :: '@' :: name := by
      simp only [List.mem_cons, not_or]
      exact ⟨by decide, by decide, fun sigma => absurd (word _ sigma) (by decide)⟩
    rw [Text.lower_eq_lowerEach noSigma, lower_name word,
      Text.lowerEach_cons_of_ascii (by decide), Text.lowerEach_cons_of_ascii (by decide)]
    refine ⟨rfl, ?_, isNameChar_of_mem_lowerEach word⟩
    obtain ⟨first, more, rfl⟩ := List.exists_cons_of_ne_nil nonempty
    rw [Text.lowerEach_cons_of_ascii (ascii_of_isNameChar (word first List.mem_cons_self))]
    exact List.cons_ne_nil _ _
  · exact ⟨rfl, nonempty, word⟩

/-- A reference to an attribute becomes what is stored under its name, in the form in which names
are compared. -/
theorem compared_attribute {name : Text} (nonempty : name ≠ [])
    (word : ∀ letter ∈ name, isNameChar letter = true) :
    compared settings ('$' :: '@' :: name) context =
      (settings.textAttribute? (settings.fold (String.ofList name))).getD "" := by
  obtain ⟨folded, nonemptyToo, wordToo⟩ := foldText_name settings nonempty word
  have refers : Refers ('@' :: (settings.foldText name ++ []))
      (.attributeText (String.ofList (settings.foldText name))) [] :=
    .named nonemptyToo wordToo rfl
  rw [List.append_nil] at refers
  rw [compared, ← String.toList_inj, toList_fill, Settings.fold, String.toList_ofList,
    String.toList_ofList, folded, piecesOf_dollar, reference?_eq_some_iff.2 refers]
  show fillPiece _ _ _ ++ [] = _
  rw [List.append_nil, Settings.fold, String.toList_ofList]
  rfl

/-- **What a comparison compares with.** Every key that asks for an equality, of whatever it names
and with any operand, is one, negated or not, and in no match it fails. It compares with the operand
in the form in which texts are compared, once that is filled in.

* That is the operand filled in as it is written, in the form in which texts are compared, where
  case counts, where the operand has no dollar sign, and where it is comparable.
* An attribute without a dollar sign in its text compares like its text written in the key exactly
  if the text is stored under the name in the form in which both are compared. -/
theorem compile_comparison (settings : Settings) (rule : String) (front : Text) (subject : Subject)
    (names : Names front subject) (operand : Text) (negated : Bool) :
    ∃ guard,
      compile settings rule
        (String.ofList (front ++ (Operator.equal.written negated ++ operand))) = .ok guard ∧
      (∀ context, guard.holds settings context =
        .ok ((String.ofList (settings.foldText (subject.select context)) ==
          compared settings operand context) != negated)) ∧
      (∀ context, (settings.ignoreCase = true → '$' ∈ operand →
          Comparable settings operand context) →
        guard.holds settings context =
          .ok ((String.ofList (settings.foldText (subject.select context)) ==
            expansion settings operand context) != negated)) ∧
      ∀ name value context, operand = '$' :: '@' :: name → name ≠ [] →
        (∀ letter ∈ name, isNameChar letter = true) →
        settings.textAttribute? (String.ofList name) = some value → '$' ∉ value.toList →
        (compared settings operand context = compared settings value.toList context ↔
          (settings.textAttribute? (settings.fold (String.ofList name))).getD "" =
            settings.fold value) := by
  obtain ⟨test, asked, answers⟩ : ∃ test, compileTest settings rule .equal operand = .ok test ∧
      ∀ context text, succeeds settings context text test =
        .ok (String.ofList (settings.foldText text) == compared settings operand context) := by
    unfold compileTest
    dsimp only
    split
    · exact ⟨_, rfl, fun context text => rfl⟩
    · next lacks =>
      have plain : '$' ∉ operand := by simpa using lacks
      refine ⟨_, rfl, fun context text => ?_⟩
      rw [compared_of_plain plain]
      rfl
  have holds : ∀ context, (Guard.test subject test negated).holds settings context =
      .ok ((String.ofList (settings.foldText (subject.select context)) ==
        compared settings operand context) != negated) := by
    intro context
    rw [Guard.holds, answers]
    rfl
  refine ⟨.test subject test negated, ?_, holds, fun context comparable => ?_, ?_⟩
  · rw [compile_key settings rule names (fun _ other => by cases other), asked]
    rfl
  · rw [holds]
    congr 3
    cases ignores : settings.ignoreCase with
    | false => exact compared_eq_expansion_of_counts ignores
    | true =>
      by_cases dollar : '$' ∈ operand
      · exact compared_eq_expansion (comparable ignores dollar)
      · exact compared_eq_expansion_of_plain dollar
  · rintro name value context rfl nonempty word stored plain
    rw [compared_attribute nonempty word, compared_of_plain plain, String.ofList_toList]

/-- Settings of a grammar that ignores case, with one attribute in lowercase and one that is not. -/
def twoKinds : Settings where
  language := "toy"
  ignoreCase := true
  unicode := false
  attributes := [("kind", .string "if"), ("shout", .string "IF")]

/-- A match whose first group is made of a part of the state name and the text of an attribute, but
for the case of letters. -/
def loopMatch : MatchContext where
  matched := ['i', 'f']
  captures := [['i', 'f'], ['L', 'O', 'O', 'P', '-', 'i', 'f']]
  state := "Loop.inner"
  atLineEnd := true

theorem compile_comparison_loop :
    Names ['$', '1'] (.capture 1) ∧ Comparable twoKinds "$S1-$@kind".toList loopMatch ∧
      ∃ guard, compile twoKinds "rule" "$1!=$S1-$@kind" = .ok guard ∧
        guard.holds twoKinds loopMatch = .ok false := by
  have names : Names ['$', '1'] (.capture 1) :=
    @Names.capture ['1'] (List.forall_mem_singleton.2 rfl) (.inl rfl)
  have read : pieces (String.ofList "$S1-$@kind".toList) =
      [.component 1, .letter '-', .attributeText "kind"] := by
    decide +kernel
  have comparable : Comparable twoKinds "$S1-$@kind".toList loopMatch := by
    refine ⟨.of_not_mem (by decide) (by decide), ?_, by decide +kernel⟩
    rw [read]
    intro name inside
    have named : name = "kind" := by simpa using inside
    subst named
    decide +kernel
  refine ⟨names, comparable, ?_⟩
  obtain ⟨guard, compiled, -, holds, -⟩ :=
    compile_comparison twoKinds "rule" ['$', '1'] (.capture 1) names "$S1-$@kind".toList true
  exact ⟨guard, compiled, (holds loopMatch fun _ _ => comparable).trans (by decide +kernel)⟩

/-- An attribute with capitals in its text is never found to be the text, where case is ignored. -/
theorem not_forall_compares_expansion :
    ¬ ∀ settings rule front subject operand negated guard context, Names front subject →
      compile settings rule
        (String.ofList (front ++ (Operator.equal.written negated ++ operand))) = .ok guard →
      guard.holds settings context =
        .ok ((String.ofList (settings.foldText (subject.select context)) ==
          expansion settings operand context) != negated) := by
  intro compares
  have held := compares twoKinds "rule" [] .matched "$@shout".toList false
    (.test .matched (.filledEquals "$@shout") false) loopMatch .nameless (by decide +kernel)
  revert held
  decide +kernel

end Guard

end LineLexer
