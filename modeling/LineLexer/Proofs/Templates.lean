import LineLexer.Proofs.Expansion
import LineLexer.Proofs.Targets

/-!
**What templates say.**

A template is read from the left as letters and references, in one way only, and every piece is
filled in from the match. What is filled in is not read again. A scanner that looks for the next
dollar sign and cuts the text at byte positions comes to the same text: none of its cuts is inside a
character.

* `Template.Reads`, `Template.reads_iff`: the pieces of a text, and that there is one way to read
  it;
* `Template.sliceFill`, `Template.sliceFill_eq`: filling in by cuts at byte positions;
* `Template.doubled`, `Template.fill_doubled`: a text whose dollar signs are doubled;
* `Action.Holds`, `Grammar.substitute_of_compile`: which compiled tokens are filled in;
* `Template.fill_meets_reading`: all of that together.
-/

namespace LineLexer

namespace Template

/-! ### Readings -/

/-- One or two digits, two where a second one follows. -/
structure OneOrTwo (digits rest : Text) : Prop where
  decimal : ∀ digit ∈ digits, Digit.isDecimal digit = true
  count : digits.length = 2 ∨ digits.length = 1 ∧ rest.head?.any Digit.isDecimal = false

/-- What may follow a dollar sign that starts a reference: the reference, and what follows it. -/
inductive Refers : Text → Piece → Text → Prop where
  | dollar {rest : Text} : Refers ('$' :: rest) (.letter '$') rest
  | matched {rest : Text} : Refers ('#' :: rest) .matched rest
  | capture {digits rest : Text} (number : OneOrTwo digits rest) :
      Refers (digits ++ rest) (.capture (Digit.number digits)) rest
  | component {letter : Char} {digits rest : Text} (either : letter = 's' ∨ letter = 'S')
      (number : OneOrTwo digits rest) :
      Refers (letter :: (digits ++ rest)) (.component (Digit.number digits)) rest
  /-- The name is as long as it can be. -/
  | named {name rest : Text} (nonempty : name ≠ [])
      (word : ∀ letter ∈ name, isNameChar letter = true)
      (longest : rest.head?.any isNameChar = false) :
      Refers ('@' :: (name ++ rest)) (.attributeText (String.ofList name)) rest

/-- The pieces of a text, from the left. A dollar sign that starts no reference stands for
itself. -/
inductive Reads : Text → List Piece → Prop where
  | nil : Reads [] []
  | letter {letter : Char} {rest : Text} {pieces : List Piece} (ordinary : letter ≠ '$')
      (later : Reads rest pieces) : Reads (letter :: rest) (.letter letter :: pieces)
  | reference {text rest : Text} {piece : Piece} {pieces : List Piece}
      (refers : Refers text piece rest) (later : Reads rest pieces) :
      Reads ('$' :: text) (piece :: pieces)
  | alone {text : Text} {pieces : List Piece} (nothing : ∀ piece rest, ¬ Refers text piece rest)
      (later : Reads text pieces) : Reads ('$' :: text) (.letter '$' :: pieces)

variable {text rest : Text} {piece : Piece} {pieces : List Piece} {index steps others : Nat}
  {settings : Settings} {context : MatchContext}

/-- What stands behind a run of name characters is none. -/
theorem ends_dropWhile (text : Text) :
    (text.dropWhile isNameChar).head?.any isNameChar = false := by
  have stops := List.head?_dropWhile_not isNameChar text
  cases ends : (text.dropWhile isNameChar).head? with
  | none => rfl
  | some letter =>
    rw [ends] at stops
    simpa using stops

/-- A run of name characters that ends is what is taken as a name. -/
theorem span_name {name : Text} (word : ∀ letter ∈ name, isNameChar letter = true)
    (longest : rest.head?.any isNameChar = false) :
    (name ++ rest).takeWhile isNameChar = name ∧ (name ++ rest).dropWhile isNameChar = rest := by
  rw [List.takeWhile_append_of_pos word, List.dropWhile_append_of_pos word]
  cases rest with
  | nil => simp
  | cons first rest =>
    have ends : isNameChar first = false := by simpa using longest
    simp [ends]

/-- One or two digits are read as their number. -/
theorem index?_eq_some_iff :
    index? text = some (index, rest) ↔
      ∃ digits, OneOrTwo digits rest ∧ text = digits ++ rest ∧ index = Digit.number digits := by
  constructor
  · intro found
    unfold index? at found
    split at found
    · next first second later =>
      split at found
      · next decimal =>
        split at found
        · next decimalToo =>
          cases found
          exact ⟨[first, second], ⟨by simp [decimal, decimalToo], Or.inl rfl⟩, rfl, rfl⟩
        · next other =>
          cases found
          exact ⟨[first], ⟨by simp [decimal], Or.inr ⟨rfl, by simpa using other⟩⟩, rfl, rfl⟩
      · cases found
    · next first =>
      split at found
      · next decimal =>
        cases found
        exact ⟨[first], ⟨by simp [decimal], Or.inr ⟨rfl, rfl⟩⟩, rfl, rfl⟩
      · cases found
    · cases found
  · rintro ⟨digits, ⟨decimal, two | ⟨one, ends⟩⟩, rfl, rfl⟩
    · obtain ⟨first, second, rfl⟩ := List.length_eq_two.1 two
      simp only [List.mem_cons, List.not_mem_nil, or_false, forall_eq_or_imp, forall_eq] at decimal
      simp [index?, decimal]
    · obtain ⟨first, rfl⟩ := List.length_eq_one_iff.1 one
      rw [List.forall_mem_singleton] at decimal
      cases rest with
      | nil => simp [index?, decimal]
      | cons second later =>
        have other : Digit.isDecimal second = false := by simpa using ends
        simp [index?, decimal, other]

/-- There is a number exactly where a digit stands first. -/
theorem isSome_index? (text : Text) : (index? text).isSome = text.head?.any Digit.isDecimal := by
  unfold index?
  split
  · next first second later =>
    cases decimal : Digit.isDecimal first
    · simp [decimal]
    · cases Digit.isDecimal second <;> simp [decimal]
  · next first => cases decimal : Digit.isDecimal first <;> simp [decimal]
  · rfl

/-- What starts a reference of another kind is no digit. -/
theorem ne_of_isDecimal {digit : Char} (decimal : Digit.isDecimal digit = true) :
    digit ≠ '$' ∧ digit ≠ '#' ∧ ¬ (digit = 's' ∨ digit = 'S') ∧ digit ≠ '@' := by
  refine ⟨?_, ?_, ?_, ?_⟩
  · rintro rfl
    exact absurd decimal (by decide)
  · rintro rfl
    exact absurd decimal (by decide)
  · rintro (rfl | rfl) <;> exact absurd decimal (by decide)
  · rintro rfl
    exact absurd decimal (by decide)

/-- The references are those that are looked for. -/
theorem reference?_eq_some_iff : reference? text = some (piece, rest) ↔ Refers text piece rest := by
  constructor
  · intro found
    cases text with
    | nil => cases found
    | cons letter later =>
      rw [reference?] at found
      split at found
      · next same =>
        cases found
        rw [same]
        exact .dollar
      split at found
      · next same =>
        cases found
        rw [same]
        exact .matched
      split at found
      · next either =>
        obtain ⟨⟨index, behind⟩, counted, same⟩ := Option.map_eq_some_iff.1 found
        cases same
        obtain ⟨digits, number, rfl, rfl⟩ := index?_eq_some_iff.1 counted
        exact .component either number
      split at found
      · next same =>
        subst same
        split at found
        · cases found
        · next name nonempty =>
          cases found
          have whole : later.takeWhile isNameChar ++ later.dropWhile isNameChar = later :=
            List.takeWhile_append_dropWhile
          have refers : Refers ('@' :: (later.takeWhile isNameChar ++ later.dropWhile isNameChar))
              (.attributeText (String.ofList (later.takeWhile isNameChar)))
              (later.dropWhile isNameChar) :=
            .named nonempty (List.all_eq_true.1 List.all_takeWhile) (ends_dropWhile later)
          rwa [whole] at refers
      · obtain ⟨⟨index, behind⟩, counted, same⟩ := Option.map_eq_some_iff.1 found
        cases same
        obtain ⟨digits, number, whole, rfl⟩ := index?_eq_some_iff.1 counted
        rw [whole]
        exact .capture number
  · intro refers
    cases refers with
    | dollar => simp [reference?]
    | matched => simp [reference?]
    | @capture digits rest number =>
      have counted : index? (digits ++ rest) = some (Digit.number digits, rest) :=
        index?_eq_some_iff.2 ⟨digits, number, rfl, rfl⟩
      cases start : digits ++ rest with
      | nil =>
        rw [start] at counted
        cases counted
      | cons first later =>
        rw [start] at counted
        have decimal : Digit.isDecimal first = true := by
          have some := isSome_index? (first :: later)
          rw [counted] at some
          simpa using some.symm
        obtain ⟨noDollar, noSign, noComponent, noAttribute⟩ := ne_of_isDecimal decimal
        rw [reference?, if_neg noDollar, if_neg noSign, if_neg noComponent, if_neg noAttribute,
          counted]
        rfl
    | @component letter digits rest either number =>
      have counted : index? (digits ++ rest) = some (Digit.number digits, rest) :=
        index?_eq_some_iff.2 ⟨digits, number, rfl, rfl⟩
      have noDollar : letter ≠ '$' := by rcases either with rfl | rfl <;> decide
      have noSign : letter ≠ '#' := by rcases either with rfl | rfl <;> decide
      rw [reference?, if_neg noDollar, if_neg noSign, if_pos either, counted]
      rfl
    | @named name rest nonempty word longest =>
      obtain ⟨taken, dropped⟩ := span_name word longest
      rw [reference?, if_neg (by decide), if_neg (by decide), if_neg (by decide), if_pos rfl, taken,
        dropped]
      cases name with
      | nil => exact absurd rfl nonempty
      | cons first name => rfl

/-- What follows a reference is an end of the text. -/
theorem Refers.suffix (refers : Refers text piece rest) : rest <:+ text := by
  cases refers with
  | dollar => exact List.suffix_cons _ _
  | matched => exact List.suffix_cons _ _
  | capture number => exact List.suffix_append _ _
  | component either number => exact (List.suffix_append _ _).trans (List.suffix_cons _ _)
  | named nonempty word longest => exact (List.suffix_append _ _).trans (List.suffix_cons _ _)

/-- More steps than a text has characters read the same pieces. -/
theorem piecesWithin_congr (room : text.length ≤ steps) (roomToo : text.length ≤ others) :
    piecesWithin steps text = piecesWithin others text := by
  induction steps generalizing others text with
  | zero =>
    rw [List.length_eq_zero_iff.1 (Nat.le_zero.1 room)]
    cases others <;> rfl
  | succ steps step =>
    cases text with
    | nil => cases others <;> rfl
    | cons letter rest =>
      cases others with
      | zero => cases roomToo
      | succ others =>
        have shorter : rest.length ≤ steps := Nat.le_of_succ_le_succ room
        have shorterToo : rest.length ≤ others := Nat.le_of_succ_le_succ roomToo
        rw [piecesWithin, piecesWithin, step shorter shorterToo]
        cases found : reference? rest with
        | none => rfl
        | some reference =>
          obtain ⟨piece, behind⟩ := reference
          have less := (reference?_eq_some_iff.1 found).suffix.length_le
          dsimp only
          rw [step (less.trans shorter) (less.trans shorterToo)]

/-- The pieces of a text. -/
def piecesOf (text : Text) : List Piece := piecesWithin text.length text

@[simp] theorem piecesOf_nil : piecesOf [] = [] := rfl

theorem piecesOf_cons {letter : Char} (ordinary : letter ≠ '$') (rest : Text) :
    piecesOf (letter :: rest) = .letter letter :: piecesOf rest := by
  rw [piecesOf, List.length_cons, piecesWithin, if_neg ordinary]
  rfl

/-- A dollar sign and what follows it. -/
theorem piecesOf_dollar (text : Text) :
    piecesOf ('$' :: text) =
      match reference? text with
      | some (piece, rest) => piece :: piecesOf rest
      | none => .letter '$' :: piecesOf text := by
  rw [piecesOf, List.length_cons, piecesWithin, if_pos rfl]
  cases found : reference? text with
  | none => rfl
  | some reference =>
    obtain ⟨piece, rest⟩ := reference
    have less := (reference?_eq_some_iff.1 found).suffix.length_le
    dsimp only
    rw [piecesWithin_congr less (Nat.le_refl _)]
    rfl

/-- A text is read in one way, as its pieces. -/
theorem reads_iff : Reads text pieces ↔ pieces = piecesOf text := by
  constructor
  · intro reads
    induction reads with
    | nil => rfl
    | letter ordinary later step => rw [piecesOf_cons ordinary, step]
    | reference refers later step =>
      rw [piecesOf_dollar, reference?_eq_some_iff.2 refers, step]
    | @alone text pieces nothing later step =>
      have none : reference? text = none := by
        refine Option.eq_none_iff_forall_not_mem.2 fun found inside => ?_
        exact nothing found.1 found.2 (reference?_eq_some_iff.1 inside)
      rw [piecesOf_dollar, none, step]
  · rintro rfl
    -- what follows a piece is shorter
    induction short : text.length using Nat.strong_induction_on generalizing text with
    | _ length step =>
      subst short
      cases text with
      | nil => exact .nil
      | cons letter rest =>
        by_cases dollar : letter = '$'
        · subst dollar
          rw [piecesOf_dollar]
          cases found : reference? rest with
          | none =>
            refine .alone (fun piece behind refers => ?_) (step _ (Nat.lt_succ_self _) rfl)
            rw [reference?_eq_some_iff.2 refers] at found
            cases found
          | some reference =>
            obtain ⟨piece, behind⟩ := reference
            have refers := reference?_eq_some_iff.1 found
            exact .reference refers
              (step _ (Nat.lt_succ_of_le refers.suffix.length_le) rfl)
        · rw [piecesOf_cons dollar]
          exact .letter dollar (step _ (Nat.lt_succ_self _) rfl)

/-- Letters before the first dollar sign stand for themselves. -/
theorem piecesOf_append_of_plain {before : Text} (plain : '$' ∉ before) (rest : Text) :
    piecesOf (before ++ rest) = before.map .letter ++ piecesOf rest := by
  induction before with
  | nil => rfl
  | cons letter before step =>
    rw [List.mem_cons, not_or] at plain
    rw [List.cons_append, piecesOf_cons (Ne.symm plain.1), step plain.2]
    rfl

/-- Letters become themselves. -/
theorem flatMap_letters (settings : Settings) (context : MatchContext) (text : Text) :
    (text.map Piece.letter).flatMap (fillPiece settings context) = text := by
  rw [List.flatMap_map]
  exact List.flatMap_singleton' text

/-- What a template becomes is what its pieces become, one after another. -/
theorem toList_fill (settings : Settings) (template : String) (context : MatchContext) :
    (fill settings template context).toList =
      (piecesOf template.toList).flatMap (fillPiece settings context) := String.toList_ofList

/-! ### Doubled dollar signs -/

/-- A text with each dollar sign written twice. -/
def doubled (text : Text) : Text :=
  text.flatMap fun letter => if letter = '$' then ['$', '$'] else [letter]

/-- A doubled text is read as its letters. -/
theorem piecesOf_doubled (text : Text) : piecesOf (doubled text) = text.map .letter := by
  induction text with
  | nil => rfl
  | cons letter rest step =>
    rw [doubled, List.flatMap_cons, List.map_cons]
    by_cases dollar : letter = '$'
    · rw [if_pos dollar, dollar]
      show piecesOf ('$' :: '$' :: doubled rest) = _
      rw [piecesOf_dollar, reference?, if_pos rfl]
      dsimp only
      rw [step]
    · rw [if_neg dollar]
      show piecesOf (letter :: doubled rest) = _
      rw [piecesOf_cons dollar, step]

/-- A doubled text is filled in as the text itself. -/
theorem fill_doubled (settings : Settings) (text : String) (context : MatchContext) :
    fill settings (String.ofList (doubled text.toList)) context = text := by
  rw [← String.toList_inj, toList_fill, String.toList_ofList, piecesOf_doubled, flatMap_letters]

/-! ### Cuts at byte positions -/

/-- The UTF-8 bytes of a text. -/
def bytes (text : Text) : List UInt8 := text.flatMap String.utf8EncodeChar

/-- Whether a byte is that of a decimal digit. -/
def isDigitByte (byte : UInt8) : Bool := 48 ≤ byte.toNat && byte.toNat ≤ 57

/-- The byte position of the first character with a property. -/
def place? (property : Char → Bool) (text : Text) : Option Nat :=
  if text.any property then some (Text.size (text.takeWhile (!property ·))) else none

/-- The number in the digits among the first two bytes of a text, and how many these are. -/
def leadingIndex? (text : Text) : Option (Nat × Nat) :=
  let length := (((bytes text).take 2).takeWhile isDigitByte).length
  (text.take? length).map fun digits => (Digit.number digits, length)

/-- What a dollar sign becomes, and what is read next; `after` follows that sign. There is no answer
if a cut fails. -/
def slice? (settings : Settings) (context : MatchContext) (after : Text) :
    Option (Text × Text) :=
  match after with
  | [] => some (['$'], after)
  | first :: later => do
    if first = '$' then
      let rest ← after.drop? 1
      pure (['$'], rest)
    else if first = '#' then
      let rest ← after.drop? 1
      pure (fillPiece settings context .matched, rest)
    else if Digit.isDecimal first then
      let (index, length) ← leadingIndex? after
      let rest ← after.drop? length
      pure (fillPiece settings context (.capture index), rest)
    else if (first = 's' ∨ first = 'S') ∧ later.head?.any Digit.isDecimal then
      let digits ← after.drop? 1
      let (index, length) ← leadingIndex? digits
      let rest ← after.drop? (1 + length)
      pure (fillPiece settings context (.component index), rest)
    else if first = '@' then
      let named ← after.drop? 1
      let length := (place? (!isNameChar ·) named).getD (after.size - 1)
      if length = 0 then pure (['$'], after)
      else
        let name ← named.take? length
        let rest ← after.drop? (1 + length)
        pure (fillPiece settings context (.attributeText (String.ofList name)), rest)
    else pure (['$'], after)

/-- Fills in a template by cuts at byte positions, one dollar sign after another, in a number of
rounds at most. There is no answer if a cut fails or if the rounds run out. -/
def sliceFill (settings : Settings) (context : MatchContext) : Nat → Text → Option Text
  | 0, _ => none
  | rounds + 1, rest =>
    match place? (· == '$') rest with
    | none => some rest
    | some dollar => do
      let before ← rest.take? dollar
      let after ← rest.drop? (dollar + 1)
      let (filled, rest) ← slice? settings context after
      let behind ← sliceFill settings context rounds rest
      pure (before ++ filled ++ behind)

variable {property : Char → Bool} {digits : Text}

theorem place?_append {before : Text} {letter : Char}
    (others : ∀ other ∈ before, property other = false) (first : property letter = true)
    (rest : Text) : place? property (before ++ letter :: rest) = some (Text.size before) := by
  have some : (before ++ letter :: rest).any property = true := by simp [first]
  have taken : (before ++ letter :: rest).takeWhile (!property ·) = before := by
    rw [List.takeWhile_append_of_pos fun other inside => by simp [others other inside]]
    simp [first]
  rw [place?, if_pos some, taken]

theorem place?_eq_none (others : ∀ other ∈ text, property other = false) :
    place? property text = none := by
  have none : text.any property = false := by simpa using others
  rw [place?, none]
  rfl

theorem isDecimal_iff {letter : Char} :
    Digit.isDecimal letter = true ↔ 48 ≤ letter.toNat ∧ letter.toNat ≤ 57 := by
  have bounds : '0' ≤ letter ∧ letter ≤ '9' ↔ 48 ≤ letter.toNat ∧ letter.toNat ≤ 57 := Iff.rfl
  unfold Digit.isDecimal Digit.decimal?
  rw [← bounds]
  split
  · next decimal => simp [decimal]
  · next other => simpa using other

/-- A digit is one byte, which is a digit, and another character does not start with such a byte. -/
theorem exists_firstByte (letter : Char) :
    ∃ first more, String.utf8EncodeChar letter = first :: more ∧
      isDigitByte first = Digit.isDecimal letter ∧
      (Digit.isDecimal letter = true → more = []) := by
  have decimal := @isDecimal_iff letter
  have value : letter.val.toNat = letter.toNat := rfl
  have high : ∀ byte : Nat, 192 ≤ byte → byte < 256 → isDigitByte (.ofNat byte) = false := by
    intro byte above below
    unfold isDigitByte
    rw [UInt8.toNat_ofNat', Nat.mod_eq_of_lt below, Bool.and_eq_false_iff]
    exact Or.inr (decide_eq_false (by omega))
  have other : ¬ letter.val.toNat ≤ 127 → Digit.isDecimal letter = false := by
    intro large
    rw [← Bool.not_eq_true, decimal]
    omega
  unfold String.utf8EncodeChar
  dsimp only
  split
  · next small =>
    refine ⟨_, [], rfl, ?_, fun _ => rfl⟩
    rw [Bool.eq_iff_iff, decimal, isDigitByte, UInt8.toNat_ofNat', Nat.mod_eq_of_lt (by omega),
      Bool.and_eq_true, decide_eq_true_eq, decide_eq_true_eq, value]
  · next large =>
    have not := other large
    split
    · exact ⟨_, _, rfl, by rw [high _ (by omega) (by omega), not], by rw [not]; exact nofun⟩
    · split
      · exact ⟨_, _, rfl, by rw [high _ (by omega) (by omega), not], by rw [not]; exact nofun⟩
      · exact ⟨_, _, rfl, by rw [high _ (by omega) (by omega), not], by rw [not]; exact nofun⟩

/-- The digits at the start of a text are found among its first two bytes. -/
theorem length_leading (number : OneOrTwo digits rest) :
    (((bytes (digits ++ rest)).take 2).takeWhile isDigitByte).length = digits.length := by
  obtain ⟨decimal, two | ⟨one, ends⟩⟩ := number
  · obtain ⟨first, second, rfl⟩ := List.length_eq_two.1 two
    simp only [List.mem_cons, List.not_mem_nil, or_false, forall_eq_or_imp, forall_eq] at decimal
    obtain ⟨byte, _, written, same, alone⟩ := exists_firstByte first
    obtain ⟨byteToo, _, writtenToo, sameToo, aloneToo⟩ := exists_firstByte second
    rw [decimal.1] at same
    rw [decimal.2] at sameToo
    simp [bytes, written, writtenToo, alone decimal.1, aloneToo decimal.2, same, sameToo]
  · obtain ⟨first, rfl⟩ := List.length_eq_one_iff.1 one
    rw [List.forall_mem_singleton] at decimal
    obtain ⟨byte, _, written, same, alone⟩ := exists_firstByte first
    rw [decimal] at same
    cases rest with
    | nil => simp [bytes, written, alone decimal, same]
    | cons second later =>
      obtain ⟨byteToo, more, writtenToo, sameToo, -⟩ := exists_firstByte second
      have other : Digit.isDecimal second = false := by simpa using ends
      rw [other] at sameToo
      simp [bytes, written, writtenToo, alone decimal, same, sameToo]

/-- Digits have one byte each. -/
theorem size_digits (decimal : ∀ digit ∈ digits, Digit.isDecimal digit = true) :
    Text.size digits = digits.length := by
  induction digits with
  | nil => rfl
  | cons digit digits step =>
    rw [List.forall_mem_cons, isDecimal_iff] at decimal
    have one : digit.utf8Size = 1 := by
      rw [Char.utf8Size_eq_one_iff, UInt32.le_iff_toNat_le]
      exact decimal.1.2.trans (by decide)
    rw [Text.size_cons, one, step decimal.2, List.length_cons, Nat.add_comm]

theorem leadingIndex?_eq (number : OneOrTwo digits rest) :
    leadingIndex? (digits ++ rest) = some (Digit.number digits, digits.length) := by
  have taken := Text.take?_size_append digits rest
  rw [size_digits number.decimal] at taken
  unfold leadingIndex?
  dsimp only
  rw [length_leading number, taken]
  rfl

theorem drop?_digits (number : OneOrTwo digits rest) :
    Text.drop? (digits ++ rest) digits.length = some rest := by
  rw [← size_digits number.decimal]
  exact Text.drop?_size_append digits rest

/-- A sign of one byte is cut off. -/
theorem drop?_sign {sign : Char} (one : sign.utf8Size = 1) (later : Text) (more : Nat) :
    Text.drop? (sign :: later) (1 + more) = Text.drop? later more := by
  rw [Text.drop?, if_neg (by omega), if_pos (by omega), one, Nat.add_sub_cancel_left]

theorem drop?_one {sign : Char} (one : sign.utf8Size = 1) (later : Text) :
    Text.drop? (sign :: later) 1 = some later :=
  (drop?_sign one later 0).trans (Text.drop?_zero later)

/-- A name ends where the first character stands that is none of a name, or at the end. -/
theorem place?_name (later : Text) :
    (place? (!isNameChar ·) later).getD (Text.size ('@' :: later) - 1) =
      Text.size (later.takeWhile isNameChar) := by
  unfold place?
  split
  · simp only [Bool.not_not, Option.getD_some]
  · next all =>
    have word : ∀ letter ∈ later, isNameChar letter = true := by simpa using all
    have whole := (@span_name [] later word rfl).1
    rw [List.append_nil] at whole
    rw [Option.getD_none, whole, Text.size_cons]
    exact Nat.add_sub_cancel_left 1 _

/-- The cuts behind a dollar sign do not fail, and they give the reference that it starts, or the
sign itself. -/
theorem slice?_eq (settings : Settings) (context : MatchContext) (after : Text) :
    slice? settings context after =
      match reference? after with
      | some (piece, rest) => some (fillPiece settings context piece, rest)
      | none => some (['$'], after) := by
  cases after with
  | nil => rfl
  | cons first later =>
    have counts : ∀ {text : Text}, text.head?.any Digit.isDecimal = true →
        ∃ digits rest, OneOrTwo digits rest ∧ text = digits ++ rest ∧
          index? text = some (Digit.number digits, rest) := by
      intro text decimal
      rw [← isSome_index?, Option.isSome_iff_exists] at decimal
      obtain ⟨⟨index, rest⟩, found⟩ := decimal
      obtain ⟨digits, number, rfl, rfl⟩ := index?_eq_some_iff.1 found
      exact ⟨digits, rest, number, rfl, found⟩
    have countsNot : ∀ {text : Text}, text.head?.any Digit.isDecimal = false →
        index? text = none := by
      intro text other
      rwa [← isSome_index?, Option.isSome_eq_false_iff, Option.isNone_iff_eq_none] at other
    rw [slice?, reference?]
    by_cases dollar : first = '$'
    · subst dollar
      rw [if_pos rfl, if_pos rfl, drop?_one rfl later]
      rfl
    rw [if_neg dollar, if_neg dollar]
    by_cases matched : first = '#'
    · subst matched
      rw [if_pos rfl, if_pos rfl, drop?_one rfl later]
      rfl
    rw [if_neg matched, if_neg matched]
    by_cases decimal : Digit.isDecimal first = true
    · obtain ⟨-, -, noComponent, noAttribute⟩ := ne_of_isDecimal decimal
      obtain ⟨digits, rest, number, whole, found⟩ := @counts (first :: later) decimal
      rw [if_pos decimal, if_neg noComponent, if_neg noAttribute, found, whole,
        leadingIndex?_eq number]
      show (Text.drop? (digits ++ rest) digits.length).bind _ = _
      rw [drop?_digits number]
      rfl
    rw [if_neg decimal]
    by_cases component : first = 's' ∨ first = 'S'
    · have one : first.utf8Size = 1 := by rcases component with rfl | rfl <;> rfl
      rw [if_pos component]
      cases digit : later.head?.any Digit.isDecimal with
      | false =>
        have noAttribute : first ≠ '@' := by rcases component with rfl | rfl <;> decide
        rw [if_neg (by simp), if_neg noAttribute, countsNot digit]
        rfl
      | true =>
        obtain ⟨digits, rest, number, rfl, found⟩ := counts digit
        rw [if_pos ⟨component, rfl⟩, found, drop?_one one]
        show (leadingIndex? (digits ++ rest)).bind _ = _
        rw [leadingIndex?_eq number]
        show (Text.drop? (first :: (digits ++ rest)) (1 + digits.length)).bind _ = _
        rw [drop?_sign one, drop?_digits number]
        rfl
    rw [if_neg component, if_neg fun both => component both.1]
    by_cases named : first = '@'
    · subst named
      have whole : later.takeWhile isNameChar ++ later.dropWhile isNameChar = later :=
        List.takeWhile_append_dropWhile
      have taken := Text.take?_size_append (later.takeWhile isNameChar) (later.dropWhile isNameChar)
      have dropped :=
        Text.drop?_size_append (later.takeWhile isNameChar) (later.dropWhile isNameChar)
      rw [whole] at taken dropped
      rw [if_pos rfl, if_pos rfl, drop?_one rfl later]
      show (ite ((place? (!isNameChar ·) later).getD (Text.size ('@' :: later) - 1) = 0) _ _) = _
      rw [place?_name]
      cases word : later.takeWhile isNameChar with
      | nil => rfl
      | cons letter name =>
        rw [word] at taken dropped
        rw [if_neg (Text.size_eq_zero_iff.not.2 (List.cons_ne_nil letter name)), taken]
        show (Text.drop? ('@' :: later) (1 + Text.size (letter :: name))).bind _ = _
        rw [drop?_sign rfl, dropped]
        rfl
    · have other : index? (first :: later) = none := countsNot (by simpa using decimal)
      rw [if_neg named, if_neg named, other]
      rfl

/-- Cuts at byte positions fill in a template as its pieces do, in as many rounds as it has dollar
signs and one more. -/
theorem sliceFill_eq (settings : Settings) (context : MatchContext) {rounds : Nat}
    (enough : text.count '$' < rounds) :
    sliceFill settings context rounds text =
      some ((piecesOf text).flatMap (fillPiece settings context)) := by
  induction rounds generalizing text with
  | zero => cases enough
  | succ rounds step =>
    unfold sliceFill
    by_cases inside : '$' ∈ text
    · obtain ⟨before, after, rfl, others⟩ := List.eq_append_cons_of_mem inside
      have plain : ∀ letter ∈ before, (letter == '$') = false := by
        intro letter listed
        rw [beq_eq_false_iff_ne]
        rintro rfl
        exact others listed
      have cut : Text.drop? (before ++ '$' :: after) (Text.size before + 1) = some after := by
        have behind := Text.drop?_size_append (before ++ ['$']) after
        rw [List.append_assoc, Text.size_append] at behind
        exact behind
      have fewer : ∀ {rest : Text}, rest <:+ after → rest.count '$' < rounds := by
        intro rest ending
        have less := ending.sublist.count_le '$'
        rw [List.count_append, List.count_cons_self] at enough
        omega
      rw [place?_append plain (beq_self_eq_true '$') after, piecesOf_append_of_plain others,
        piecesOf_dollar, List.flatMap_append, flatMap_letters]
      show (Text.take? (before ++ '$' :: after) (Text.size before)).bind _ = _
      rw [Text.take?_size_append]
      show (Text.drop? (before ++ '$' :: after) (Text.size before + 1)).bind _ = _
      rw [cut]
      show (slice? settings context after).bind _ = _
      rw [slice?_eq]
      cases found : reference? after with
      | none =>
        show (sliceFill settings context rounds after).bind _ = _
        rw [step (fewer (List.suffix_refl after))]
        simp [fillPiece]
      | some reference =>
        obtain ⟨piece, rest⟩ := reference
        show (sliceFill settings context rounds rest).bind _ = _
        rw [step (fewer (reference?_eq_some_iff.1 found).suffix)]
        simp
    · have plain : ∀ letter ∈ text, (letter == '$') = false := by
        intro letter listed
        rw [beq_eq_false_iff_ne]
        rintro rfl
        exact inside listed
      have whole := piecesOf_append_of_plain inside []
      rw [List.append_nil, piecesOf_nil, List.append_nil] at whole
      rw [place?_eq_none plain, whole, flatMap_letters]

end Template

/-! ### Compiled tokens -/

/-- A token that is filled in where it may refer to the match is what filling in gives. -/
theorem TokenAction.text_eq_fill {action : TokenAction}
    (marked : action.substitute = false → '$' ∉ action.token.toList) (settings : Settings)
    (context : MatchContext) :
    action.text settings context = Template.fill settings action.token context := by
  unfold text
  split
  · rfl
  · next plain => exact (Template.fill_of_plain (marked (by simpa using plain)) _ _).symm

/-- Every token that is compiled is filled in exactly if it has a dollar sign. -/
theorem Description.refuses_misjudged (description : Description) :
    description.Refuses fun action =>
      action.substitute != action.token.toList.contains '$' where
  token rule token members := by
    unfold compileToken
    refine Compiling.yields_then fun side => Compiling.yields_then fun next => ?_
    refine Compiling.yields_then fun switchTo => Compiling.yields_then fun embedding => ?_
    exact Compiling.yields_pure (bne_self_eq_false _)
  alone token := bne_self_eq_false _

/-- A token inside the action of a rule of a compiled grammar is filled in exactly if it has a
dollar sign. -/
theorem Grammar.substitute_of_compile {language name : String} {value : Json} {tolerant : Bool}
    {grammar : Grammar} {rules : List Rule} {rule : Rule} {action : TokenAction}
    (compiled : (compile language value tolerant).result = .ok grammar)
    (inside : (name, rules) ∈ grammar.states) (listed : rule ∈ rules)
    (holds : rule.action.Holds action) :
    action.substitute = true ↔ '$' ∈ action.token.toList := by
  obtain ⟨description, place, item, -, compiles⟩ :=
    exists_compileRule_of_mem compiled inside listed
  have never := Description.yields_compileRule description.refuses_misjudged place item {} rule _
    (Prod.ext compiles rfl)
  have judged := holds.eq_false never
  rw [bne_eq_false_iff_eq] at judged
  rw [judged, List.contains_iff_mem]

/-- What templates say. A template is read in one way, and filling it in gives what its pieces
become, one after another. Cuts at byte positions, as many rounds of them as the template has dollar
signs and one more, come to the same text without a cut inside a character. A text whose dollar
signs are doubled is filled in as the text itself. And a token that is not filled in is what filling
in would give if it has no dollar sign, which is so for every token inside the action of a rule of a
compiled grammar. -/
theorem Template.fill_meets_reading (settings : Settings) (template : String)
    (context : MatchContext) :
    (∃ pieces, (∀ other, Reads template.toList other ↔ other = pieces) ∧
      fill settings template context =
        String.ofList (pieces.flatMap (fillPiece settings context))) ∧
    (∀ rounds, template.toList.count '$' < rounds →
      sliceFill settings context rounds template.toList =
        some (fill settings template context).toList) ∧
    fill settings (String.ofList (doubled template.toList)) context = template ∧
    (∀ action : TokenAction, (action.substitute = false → '$' ∉ action.token.toList) →
      action.text settings context = fill settings action.token context) ∧
    ∀ {language value tolerant grammar name rules rule action},
      (Grammar.compile language value tolerant).result = .ok grammar →
      (name, rules) ∈ grammar.states → rule ∈ rules → rule.action.Holds action →
      (action.substitute = true ↔ '$' ∈ action.token.toList) ∧
        action.text settings context = fill settings action.token context := by
  refine ⟨⟨_, fun other => reads_iff, rfl⟩, fun rounds enough => ?_, fill_doubled _ _ _,
    fun action marked => TokenAction.text_eq_fill marked _ _,
    fun compiled inside listed holds => ?_⟩
  · rw [sliceFill_eq settings context enough, toList_fill]
  · have filled := Grammar.substitute_of_compile compiled inside listed holds
    refine ⟨filled, TokenAction.text_eq_fill (fun plain marked => ?_) _ _⟩
    rw [filled.2 marked] at plain
    cases plain

/-- A rule whose token refers to a group. -/
def pairSource : String :=
  "\x7b\"tokenizer\": \x7b\"main\": [[\"(a)(b)\", \"pair.$2$$\"]]\x7d\x7d"

/-- A match of that rule. -/
def pairMatch : MatchContext where
  matched := ['a', 'b']
  captures := [['a', 'b'], ['a'], ['b']]
  state := "main"
  atLineEnd := true

/-- Whether the first rule of a grammar is a token that is filled in as `pair.b$`. -/
def fillsPair (grammar : Grammar) : Bool :=
  match grammar.states with
  | (_, ⟨_, _, .token action, _⟩ :: _) :: _ =>
    decide (action.token.toList.count '$' < 4) &&
      decide (action.text grammar.settings pairMatch = "pair.b$")
  | _ => false

theorem Template.fill_meets_reading_pair :
    ∃ (grammar : Grammar) (name : String) (rules : List Rule) (rule : Rule) (action : TokenAction),
      (name, rules) ∈ grammar.states ∧ rule ∈ rules ∧ rule.action.Holds action ∧
        fill grammar.settings action.token pairMatch = "pair.b$" ∧
        sliceFill grammar.settings pairMatch 4 action.token.toList = some "pair.b$".toList := by
  obtain ⟨grammar, compiled, fills⟩ := Grammar.exists_of_compiles
    (Grammar.compileText "toy" pairSource false) fillsPair (by decide +kernel)
  obtain ⟨value, made⟩ := Grammar.exists_compile_of_compileText compiled
  unfold fillsPair at fills
  split at fills
  · next name rule pattern action atLineStart rules others states =>
    rw [Bool.and_eq_true, decide_eq_true_eq, decide_eq_true_eq] at fills
    obtain ⟨few, filled⟩ := fills
    have first : (name, ⟨rule, pattern, .token action, atLineStart⟩ :: rules) ∈ grammar.states := by
      rw [states]
      exact List.mem_cons_self
    obtain ⟨-, slices, -, -, tokens⟩ :=
      fill_meets_reading grammar.settings action.token pairMatch
    have same := (tokens made first List.mem_cons_self .token).2
    rw [filled] at same
    refine ⟨grammar, name, _, _, action, first, List.mem_cons_self, .token, same.symm, ?_⟩
    rw [slices 4 few, ← same]
  · cases fills

end LineLexer
