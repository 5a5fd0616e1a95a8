import LineLexer.Proofs.LetterCase

/-!
**Lowercase forms and ASCII.**

The lowercase form of a character depends on its neighbours only for the capital sigma. An ASCII
character stays one, and hardly any other becomes one: the sign for kelvin becomes a `k`, and the
dotted capital I an `i` with a dot behind it.

* `CaseMap.lower_large`: beyond ASCII the lowercase form is beyond ASCII, the kelvin sign apart;
* `Text.lowerLetter`, `Text.lowerLetter_cases`: the lowercase form of one character;
* `Text.lower_eq_lowerEach`: without capital sigmas, characters are replaced one by one;
* `Text.lower_eq_iff`: the texts that have a given lowercase form of ASCII characters;
* `CaseMap.lower_lower`, `Text.lower_lower`: a lowercase form is its own lowercase form.
-/

namespace LineLexer

/-! ### The table -/

namespace CaseMap

/-- A code point is mapped by one of the runs, or it stays. -/
theorem apply_cases (runs : List CaseRun) (code : Nat) :
    (∃ run ∈ runs, run.covers code = true ∧ CaseRun.apply runs code = run.image code) ∨
      CaseRun.apply runs code = code := by
  unfold CaseRun.apply
  cases found : runs.find? (·.covers code) with
  | none => exact .inr rfl
  | some run =>
    exact .inl ⟨run, List.mem_of_find?_eq_some found, by simpa using List.find?_some found, rfl⟩

/-- Whether the images of a run are characters beyond ASCII, unless the run is one of ASCII letters
or of the kelvin sign alone. -/
def staysLarge (run : CaseRun) : Bool :=
  run.last < 128 || (run.first == 0x212A && run.last == 0x212A) ||
    (128 ≤ run.first + run.shift &&
      (run.last + run.shift < 0xD800 ||
        (0xDFFF < run.first + run.shift && run.last + run.shift < 0x110000)))

/-- Whether the images of a run are the numbers that its shift gives. -/
def shiftsWithin (run : CaseRun) : Bool := 0 ≤ run.first + run.shift

/-- Whether a run ends before `low` or starts beyond `high`. -/
def outside (low high : Nat) (run : CaseRun) : Bool := run.last.blt low || high.blt run.first

/-- Whether no code point of a run lies among the images of another one, which go from `low` to
`high`. Where they overlap, `alternate` says that only every other code point is such an image, and
they are those that the run leaves out. -/
def apartFrom (low high : Nat) (alternate : Bool) (run : CaseRun) : Bool :=
  outside low high run || (run.stride == 2 && alternate && (low + run.first) % 2 == 1)

/-- Whether no image of a run is a code point of another one. -/
def misses (run other : CaseRun) : Bool :=
  apartFrom (run.image run.first) (run.image run.last) (run.stride == 2 || run.first == run.last)
    other

/-- The two characters whose lowercase forms are not those of the table, as runs. -/
def special : List CaseRun := [⟨0x130, 0x130, 1, 0⟩, ⟨0x3A3, 0x3A3, 1, 0⟩]

/-- The runs of the table, twelve at a time. -/
def block (index : Nat) : List CaseRun := (lowerRuns.drop (12 * index)).take 12

/-- The code points from the first run of a block to its last one. -/
def hull (index : Nat) : CaseRun :=
  match (block index).head?, (block index).getLast? with
  | some start, some finish => ⟨start.first, finish.last, 1, 0⟩
  | _, _ => ⟨0, 0, 1, 0⟩

/-- The table begins with the capitals of ASCII, has no other characters of ASCII, and is in order
from block to block. -/
theorem lowerRuns_arranged :
    lowerRuns.head? = some ⟨0x41, 0x5A, 1, 32⟩ ∧ (∀ run ∈ lowerRuns.tail, 128 ≤ run.first) ∧
      lowerRuns.length ≤ 12 * 16 ∧ ∀ index < 16, ∀ run ∈ block index,
        (hull index).first ≤ run.first ∧ run.last ≤ (hull index).last := by
  decide +kernel

/-- What every run of the table is checked for. Most runs have no images near a block, which spares
a look at the runs of the block. -/
def isSound (run : CaseRun) : Bool :=
  staysLarge run && (shiftsWithin run && (special.all (misses run) &&
    (List.range 16).all fun index =>
      outside (run.image run.first) (run.image run.last) (hull index) ||
        (block index).all (misses run)))

theorem isSound_lowerRuns : lowerRuns.all isSound = true := by decide +kernel

section Runs

variable {run other : CaseRun} {code : Nat}

theorem sound_of_mem (listed : run ∈ lowerRuns) :
    staysLarge run = true ∧ shiftsWithin run = true ∧ (∀ other ∈ special, misses run other = true) ∧
      ∀ index < 16, outside (run.image run.first) (run.image run.last) (hull index) = true ∨
        ∀ other ∈ block index, misses run other = true := by
  have sound := List.all_eq_true.1 isSound_lowerRuns run listed
  unfold isSound at sound
  simpa only [Bool.and_eq_true, List.all_eq_true, Bool.or_eq_true, List.mem_range] using sound

/-- Only the first run of the table has ASCII characters. -/
theorem lower_small (small : code < 128) :
    lower code = if 65 ≤ code ∧ code ≤ 90 then code + 32 else code := by
  obtain ⟨first, others, -, -⟩ := lowerRuns_arranged
  have split : lowerRuns = ⟨0x41, 0x5A, 1, 32⟩ :: lowerRuns.tail := List.eq_cons_of_mem_head? first
  have none : lowerRuns.tail.find? (·.covers code) = none := by
    rw [List.find?_eq_none]
    intro run listed covers
    have least := others run listed
    unfold CaseRun.covers at covers
    simp only [Bool.and_eq_true, decide_eq_true_eq] at covers
    omega
  have covers : CaseRun.covers ⟨0x41, 0x5A, 1, 32⟩ code = decide (65 ≤ code ∧ code ≤ 90) := by
    simp [CaseRun.covers, Nat.mod_one]
  unfold lower CaseRun.apply
  rw [split, List.find?_cons, none, covers]
  by_cases capital : 65 ≤ code ∧ code ≤ 90
  · rw [if_pos capital, decide_eq_true capital]
    show (code + (32 : Int)).toNat = code + 32
    omega
  · rw [if_neg capital, decide_eq_false capital]

/-- The lowercase form of a character beyond ASCII is one, unless it is the kelvin sign. -/
theorem lower_large (valid : code.isValidChar) (large : 128 ≤ code) (other : code ≠ 0x212A) :
    (lower code).isValidChar ∧ 128 ≤ lower code := by
  rcases apply_cases lowerRuns code with ⟨run, listed, covers, mapped⟩ | stays
  · have bounds := (sound_of_mem listed).1
    unfold staysLarge at bounds
    simp only [Bool.or_eq_true, Bool.and_eq_true, decide_eq_true_eq, beq_iff_eq] at bounds
    unfold CaseRun.covers at covers
    simp only [Bool.and_eq_true, decide_eq_true_eq] at covers
    have image : lower code = (code + run.shift).toNat := mapped
    unfold Nat.isValidChar
    omega
  · have same : lower code = code := stays
    rw [same]
    exact ⟨valid, large⟩

theorem covers_image (listed : run ∈ lowerRuns) (apart : misses run other = true)
    (inside : run.covers code = true) : other.covers (run.image code) = false := by
  have positive := (sound_of_mem listed).2.1
  unfold shiftsWithin at positive
  rw [decide_eq_true_eq] at positive
  unfold misses apartFrom outside CaseRun.image at apart
  simp only [Bool.or_eq_true, Bool.and_eq_true, Nat.blt_eq, beq_iff_eq] at apart
  unfold CaseRun.covers at inside
  simp only [Bool.and_eq_true, decide_eq_true_eq, beq_iff_eq] at inside
  obtain ⟨⟨low, high⟩, stride⟩ := inside
  rw [Bool.eq_false_iff]
  intro covers
  unfold CaseRun.covers CaseRun.image at covers
  simp only [Bool.and_eq_true, decide_eq_true_eq, beq_iff_eq] at covers
  obtain ⟨⟨above, below⟩, covered⟩ := covers
  rcases apart with (beyond | short) | ⟨⟨two, twoToo | single⟩, odd⟩
  · omega
  · omega
  · rw [two] at covered
    rw [twoToo] at stride
    omega
  · rw [two] at covered
    omega

theorem exists_block (listed : run ∈ lowerRuns) : ∃ index < 16, run ∈ block index := by
  obtain ⟨place, inside, rfl⟩ := List.getElem_of_mem listed
  have short := lowerRuns_arranged.2.2.1
  refine ⟨place / 12, by omega, ?_⟩
  rw [block, List.mem_take_iff_getElem]
  refine ⟨place % 12, ?_, ?_⟩
  · rw [List.length_drop]
    omega
  · rw [List.getElem_drop]
    congr 1
    omega

/-- No image of a run is a code point of a run. -/
theorem misses_of_mem (listed : run ∈ lowerRuns) (listedToo : other ∈ lowerRuns) :
    misses run other = true := by
  obtain ⟨index, small, inside⟩ := exists_block listedToo
  rcases (sound_of_mem listed).2.2.2 index small with far | near
  · obtain ⟨starts, ends⟩ := lowerRuns_arranged.2.2.2 index small other inside
    unfold outside at far
    unfold misses apartFrom outside
    simp only [Bool.or_eq_true, Nat.blt_eq] at far ⊢
    omega
  · exact near other inside

/-- A lowercase form is its own lowercase form. -/
theorem lower_lower (code : Nat) : lower (lower code) = lower code := by
  rcases apply_cases lowerRuns code with ⟨run, listed, covers, mapped⟩ | stays
  · have image : lower code = run.image code := mapped
    have none : lowerRuns.find? (·.covers (run.image code)) = none := by
      rw [List.find?_eq_none]
      intro other listedToo
      rw [covers_image listed (misses_of_mem listed listedToo) covers]
      exact Bool.false_ne_true
    rw [image]
    unfold lower CaseRun.apply
    rw [none]
  · have same : lower code = code := stays
    rw [same, same]

/-- The table maps no other character to one of the two. -/
theorem lower_ne {found : Nat} (listed : ⟨found, found, 1, 0⟩ ∈ special) (apart : code ≠ found) :
    lower code ≠ found := by
  rcases apply_cases lowerRuns code with ⟨run, known, covers, mapped⟩ | stays
  · have misses := covers_image known ((sound_of_mem known).2.2.1 _ listed) covers
    intro same
    have image : run.image code = found := mapped.symm.trans same
    rw [image] at misses
    simp [CaseRun.covers] at misses
  · have same : lower code = code := stays
    rw [same]
    exact apart

end Runs

/-- The kelvin sign becomes a letter. What the two special characters become stays. -/
theorem lower_exceptions :
    lower 0x212A = 0x6B ∧ lower 0x69 = 0x69 ∧ lower 0x307 = 0x307 ∧ lower 0x3C2 = 0x3C2 ∧
      lower 0x3C3 = 0x3C3 := by
  decide +kernel

end CaseMap

/-! ### Characters -/

namespace Text

/-- The sign for kelvin, which looks like a capital K. -/
def kelvinSign : Char := '\u212a'

/-- The lowercase form of a character other than the capital sigma. -/
def lowerLetter (letter : Char) : Text :=
  if letter = 'İ' then ['i', '\u0307'] else [Char.ofNat (CaseMap.lower letter.toNat)]

theorem lowerLetter_kelvinSign : lowerLetter kelvinSign = ['k'] := by
  have number : kelvinSign.toNat = 0x212A := rfl
  rw [lowerLetter, if_neg (by decide), number, CaseMap.lower_exceptions.1]

variable {before after text word : Text} {letter : Char}

/-- An ASCII character has its ASCII form, two others have forms with ASCII characters, and the
forms of all the rest are single characters beyond ASCII. -/
theorem lowerLetter_cases (letter : Char) :
    (letter.toNat < 128 ∧ lowerLetter letter = [letter.toLower]) ∨
      (letter = kelvinSign ∧ lowerLetter letter = ['k']) ∨
      (letter = 'İ' ∧ lowerLetter letter = ['i', '\u0307']) ∨
      128 ≤ letter.toNat ∧ letter ≠ kelvinSign ∧ letter ≠ 'İ' ∧
        ∃ large, lowerLetter letter = [large] ∧ 128 ≤ large.toNat := by
  by_cases kelvin : letter = kelvinSign
  · subst kelvin
    exact .inr (.inl ⟨rfl, lowerLetter_kelvinSign⟩)
  by_cases dotted : letter = 'İ'
  · subst dotted
    exact .inr (.inr (.inl ⟨rfl, rfl⟩))
  by_cases small : letter.toNat < 128
  · refine .inl ⟨small, ?_⟩
    rw [lowerLetter, if_neg dotted, CaseMap.lower_small small, ← toNat_toLower, Char.ofNat_toNat]
  · have other : letter.toNat ≠ 0x212A := fun same => kelvin (Char.toNat_inj.1 same)
    obtain ⟨valid, large⟩ : (CaseMap.lower letter.toNat).isValidChar ∧ _ :=
      CaseMap.lower_large letter.valid (Nat.le_of_not_lt small) other
    refine .inr (.inr (.inr ⟨Nat.le_of_not_lt small, kelvin, dotted, _, if_neg dotted, ?_⟩))
    rw [Char.ofNat, dif_pos valid]
    exact large

theorem lowerLetter_of_ascii (small : letter.toNat < 128) :
    lowerLetter letter = [letter.toLower] := by
  rcases lowerLetter_cases letter with ⟨-, form⟩ | ⟨rfl, -⟩ | ⟨rfl, -⟩ | ⟨large, -⟩
  · exact form
  · exact absurd small (by decide)
  · exact absurd small (by decide)
  · omega

/-- Beyond ASCII, the kelvin sign apart, no form consists of ASCII characters. -/
theorem exists_large_of_lowerLetter (large : 128 ≤ letter.toNat) (other : letter ≠ kelvinSign) :
    ∃ found ∈ lowerLetter letter, 128 ≤ found.toNat := by
  rcases lowerLetter_cases letter with
    ⟨small, -⟩ | ⟨same, -⟩ | ⟨rfl, form⟩ | ⟨-, -, -, found, form, beyond⟩
  · omega
  · exact absurd same other
  · rw [form]
    exact ⟨'\u0307', by simp, by decide⟩
  · rw [form]
    exact ⟨found, List.mem_cons_self, beyond⟩

/-! ### Texts -/

/-- Only the form of the capital sigma depends on what stands around it. -/
theorem lowerChar_eq_lowerLetter (other : letter ≠ 'Σ') :
    lowerChar before letter after = lowerLetter letter := by
  rw [lowerChar, if_neg other, lowerLetter]

theorem exists_large_of_lowerChar (large : 128 ≤ letter.toNat) (other : letter ≠ kelvinSign) :
    ∃ found ∈ lowerChar before letter after, 128 ≤ found.toNat := by
  by_cases sigma : letter = 'Σ'
  · rw [lowerChar, if_pos sigma]
    split
    · exact ⟨'ς', List.mem_cons_self, by decide⟩
    · exact ⟨'σ', List.mem_cons_self, by decide⟩
  · rw [lowerChar_eq_lowerLetter sigma]
    exact exists_large_of_lowerLetter large other

/-- The lowercase form of a text, one character after another. -/
def lowerEach (text : Text) : Text := text.flatMap lowerLetter

theorem lowerEach_cons (letter : Char) (rest : Text) :
    lowerEach (letter :: rest) = lowerLetter letter ++ lowerEach rest := List.flatMap_cons

theorem lowerEach_append (before after : Text) :
    lowerEach (before ++ after) = lowerEach before ++ lowerEach after := List.flatMap_append

theorem lowerEach_cons_of_ascii (small : letter.toNat < 128) (rest : Text) :
    lowerEach (letter :: rest) = letter.toLower :: lowerEach rest := by
  rw [lowerEach_cons, lowerLetter_of_ascii small]
  rfl

theorem lowerFrom_eq_lowerEach (none : 'Σ' ∉ text) : lowerFrom before text = lowerEach text := by
  induction text generalizing before with
  | nil => rfl
  | cons letter rest step =>
    rw [List.mem_cons, not_or] at none
    rw [lowerFrom, lowerChar_eq_lowerLetter (Ne.symm none.1), step none.2, lowerEach_cons]

/-- Without capital sigmas the characters of a text are replaced one by one. -/
theorem lower_eq_lowerEach (none : 'Σ' ∉ text) : lower text = lowerEach text :=
  lowerFrom_eq_lowerEach none

/-- What holds of the first 128 characters holds of every ASCII character. -/
theorem of_ascii (property : Char → Prop) (holds : ∀ code < 128, property (Char.ofNat code))
    (small : letter.toNat < 128) : property letter := by
  rw [← Char.ofNat_toNat letter]
  exact holds _ small

/-- The ASCII character that a character becomes in lowercase, if it becomes one. -/
def plainLower (letter : Char) : Char := if letter = kelvinSign then 'k' else letter.toLower

/-- An ASCII text is the lowercase form of the texts whose characters become its characters. -/
theorem lowerFrom_eq_iff (ascii : ∀ letter ∈ word, letter.toNat < 128) :
    lowerFrom before text = word ↔ text.map plainLower = word := by
  induction text generalizing before word with
  | nil => exact Iff.rfl
  | cons letter rest step =>
    have single : ∀ {form}, lowerChar before letter rest = [form] → plainLower letter = form →
        (lowerFrom before (letter :: rest) = word ↔ (letter :: rest).map plainLower = word) := by
      intro form lowered plain
      rw [lowerFrom, lowered, List.singleton_append, List.map_cons, plain]
      cases word with
      | nil => exact iff_of_false (List.cons_ne_nil _ _) (List.cons_ne_nil _ _)
      | cons first word =>
        rw [List.cons.injEq, List.cons.injEq,
          step fun later inside => ascii later (List.mem_cons_of_mem _ inside)]
    by_cases kelvin : letter = kelvinSign
    · subst kelvin
      refine single ?_ (if_pos rfl)
      rw [lowerChar_eq_lowerLetter (by decide), lowerLetter_kelvinSign]
    by_cases small : letter.toNat < 128
    · refine single ?_ (if_neg kelvin)
      rw [lowerChar_eq_lowerLetter, lowerLetter_of_ascii small]
      rintro rfl
      exact absurd small (by decide)
    · -- neither side has ASCII characters only
      obtain ⟨found, inside, beyond⟩ : ∃ found ∈ lowerChar before letter rest, 128 ≤ found.toNat :=
        exists_large_of_lowerChar (Nat.le_of_not_lt small) kelvin
      refine iff_of_false ?_ ?_
      · rintro rfl
        have less := ascii found (List.mem_append_left _ inside)
        omega
      · rintro rfl
        have less := ascii _ List.mem_cons_self
        rw [plainLower, if_neg kelvin, toNat_toLower] at less
        split at less <;> omega

/-- An ASCII text is the lowercase form of the texts whose characters become its characters. -/
theorem lower_eq_iff (ascii : ∀ letter ∈ word, letter.toNat < 128) :
    lower text = word ↔ text.map plainLower = word := lowerFrom_eq_iff ascii

/-! ### Lowercase forms of lowercase forms -/

/-- A character is its own lowercase form wherever it stands. -/
def IsLower (letter : Char) : Prop := letter ≠ 'Σ' ∧ lowerLetter letter = [letter]

theorem toNat_ofNat_lower (letter : Char) :
    (Char.ofNat (CaseMap.lower letter.toNat)).toNat = CaseMap.lower letter.toNat := by
  have valid : (CaseMap.lower letter.toNat).isValidChar := by
    by_cases kelvin : letter.toNat = 0x212A
    · rw [kelvin, CaseMap.lower_exceptions.1]
      exact .inl (by decide)
    by_cases small : letter.toNat < 128
    · rw [CaseMap.lower_small small]
      refine .inl ?_
      split <;> omega
    · exact (CaseMap.lower_large letter.valid (Nat.le_of_not_lt small) kelvin).1
  rw [Char.ofNat, dif_pos valid]
  rfl

theorem isLower_of_lower (capital : letter ≠ 'Σ') (dotted : letter ≠ 'İ')
    (stays : CaseMap.lower letter.toNat = letter.toNat) : IsLower letter := by
  refine ⟨capital, ?_⟩
  rw [lowerLetter, if_neg dotted, stays, Char.ofNat_toNat]

/-- What a character becomes in lowercase is lowercase. -/
theorem isLower_of_mem_lowerChar {found : Char} (inside : found ∈ lowerChar before letter after) :
    IsLower found := by
  obtain ⟨small, dot, final, other⟩ := CaseMap.lower_exceptions.2
  unfold lowerChar at inside
  by_cases sigma : letter = 'Σ'
  · rw [if_pos sigma] at inside
    split at inside
    · rw [List.mem_singleton.1 inside]
      exact isLower_of_lower (by decide) (by decide) final
    · rw [List.mem_singleton.1 inside]
      exact isLower_of_lower (by decide) (by decide) other
  rw [if_neg sigma] at inside
  by_cases dotted : letter = 'İ'
  · rw [if_pos dotted, List.mem_pair] at inside
    rcases inside with rfl | rfl
    · exact isLower_of_lower (by decide) (by decide) small
    · exact isLower_of_lower (by decide) (by decide) dot
  rw [if_neg dotted, List.mem_singleton] at inside
  have code : found.toNat = CaseMap.lower letter.toNat := by
    rw [inside, toNat_ofNat_lower]
  have apart : ∀ {other : Char}, ⟨other.toNat, other.toNat, 1, 0⟩ ∈ CaseMap.special →
      letter ≠ other → found ≠ other := by
    rintro other listed differ rfl
    exact CaseMap.lower_ne listed (fun same => differ (Char.toNat_inj.1 same)) code.symm
  refine isLower_of_lower (apart (by decide) sigma) (apart (by decide) dotted) ?_
  rw [code, CaseMap.lower_lower]

theorem isLower_of_mem_lowerFrom {found : Char} (inside : found ∈ lowerFrom before text) :
    IsLower found := by
  induction text generalizing before with
  | nil => cases inside
  | cons letter rest step =>
    rcases List.mem_append.1 inside with own | later
    · exact isLower_of_mem_lowerChar own
    · exact step later

theorem lowerEach_of_isLower (each : ∀ letter ∈ text, IsLower letter) : lowerEach text = text := by
  induction text with
  | nil => rfl
  | cons letter rest step =>
    obtain ⟨first, others⟩ := List.forall_mem_cons.1 each
    rw [lowerEach_cons, first.2, step others]
    rfl

/-- A lowercase form is its own lowercase form. -/
theorem lower_lower (text : Text) : lower (lower text) = lower text := by
  have each : ∀ letter ∈ lower text, IsLower letter := fun _ => isLower_of_mem_lowerFrom
  rw [lower_eq_lowerEach fun inside => (each _ inside).1 rfl, lowerEach_of_isLower each]

end Text

end LineLexer
