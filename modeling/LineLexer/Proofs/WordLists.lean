import LineLexer.Proofs.Escapes
import LineLexer.Proofs.Keys
import LineLexer.Proofs.StateNames

/-!
**Word lists and the patterns that they stand for.**

A pattern of words between bars is no regular expression but a list of words, and a text is looked
up in it. The regular expression of the pattern finds the same texts: those of the words and, where
case is ignored, their case variants. Only the long s is a case variant of a letter that it does not
become in lowercase.

* `Text.plainFold`, `CaseMap.mem_variants`: the case variants of characters of names;
* `Regex.forall₂_alike_iff`: the texts whose characters count as those of a word;
* `Guard.choice_splitOn`: words between bars as the pattern of these words;
* `Regex.isMatch_wholePattern_words`: the texts that the regular expression matches;
* `Guard.compile_words`: what a word list says of a text, and what the regular expression says.
-/

namespace LineLexer

open Template

/-! ### Case variants -/

namespace Text

/-- The long s, which old prints have within words. -/
def longS : Char := 'ſ'

/-- The character of names that a character is a case variant of, if it is one. -/
def plainFold (letter : Char) : Char := if letter = longS then 's' else plainLower letter

theorem plainFold_of_ne {letter : Char} (other : letter ≠ longS) :
    plainFold letter = plainLower letter := if_neg other

theorem toNat_plainFold (letter : Char) : (plainFold letter).toNat =
    if letter.toNat = 0x17F then 115 else if letter.toNat = 0x212A then 107
    else if 65 ≤ letter.toNat ∧ letter.toNat ≤ 90 then letter.toNat + 32 else letter.toNat := by
  have long : letter = longS ↔ letter.toNat = 0x17F := Char.toNat_inj.symm
  have kelvin : letter = kelvinSign ↔ letter.toNat = 0x212A := Char.toNat_inj.symm
  unfold plainFold plainLower
  simp only [long, kelvin, apply_ite Char.toNat, toNat_toLower]
  rfl

end Text

namespace CaseMap

/-- The case variants of a small form of names: the form itself, the capital of a letter, and the
signs that stand for two of the letters. -/
def formsOf (small : Nat) : List Nat :=
  small :: ((if 97 ≤ small then [small - 32] else []) ++
    ((if small = 115 then [0x17F] else []) ++ (if small = 107 then [0x212A] else [])))

variable {letter other : Char} {code : Nat}

theorem variants_of_isNameChar (name : isNameChar letter = true) :
    variants letter.toNat = formsOf letter.toLower.toNat :=
  Text.of_ascii (fun letter => isNameChar letter = true →
    variants letter.toNat = formsOf letter.toLower.toNat) (by decide +kernel)
    (ascii_of_isNameChar name) name

theorem mem_formsOf {small : Nat} :
    code ∈ formsOf small ↔ code = small ∨ (97 ≤ small ∧ code = small - 32) ∨
      (small = 115 ∧ code = 0x17F) ∨ (small = 107 ∧ code = 0x212A) := by
  simp only [formsOf, List.mem_cons, List.mem_append, List.mem_ite_nil_right, List.not_mem_nil,
    or_false]

/-- The characters that are case variants of a character of names. -/
theorem mem_variants (name : isNameChar letter = true) :
    other.toNat ∈ variants letter.toNat ↔ Text.plainFold other = letter.toLower := by
  have bounds := bounds_of_isNameChar name
  rw [variants_of_isNameChar name, mem_formsOf, ← Char.toNat_inj, Text.toNat_plainFold,
    toNat_toLower]
  split_ifs <;> omega

end CaseMap

/-! ### Words between bars -/

namespace Guard

variable {body word : Text}

/-- The words between bars are those of the library. -/
theorem splitBars_eq_splitOn (text : Text) : splitBars text = text.splitOn '|' := by
  induction text with
  | nil => rfl
  | cons letter rest step =>
    rw [splitBars, List.splitOn_cons_eq_if_modifyHead, step]
    obtain ⟨word, words, same⟩ := List.exists_cons_of_ne_nil (List.splitOn_ne_nil '|' rest)
    simp only [same, beq_iff_eq, List.modifyHead_cons]

/-- What stands between bars has no bar. -/
theorem isNameChar_of_mem_splitOn (words : ∀ letter ∈ body, isNameChar letter = true ∨ letter = '|')
    (listed : word ∈ body.splitOn '|') : ∀ letter ∈ word, isNameChar letter = true := by
  induction body generalizing word with
  | nil =>
    cases List.mem_singleton.1 listed
    exact List.forall_mem_nil _
  | cons first rest step =>
    obtain ⟨here, others⟩ := List.forall_mem_cons.1 words
    rw [List.splitOn_cons_eq_if_modifyHead] at listed
    split at listed
    · rcases List.mem_cons.1 listed with rfl | listed
      · exact List.forall_mem_nil _
      · exact step others listed
    · next noBar =>
      obtain ⟨front, later, same⟩ := List.exists_cons_of_ne_nil (List.splitOn_ne_nil '|' rest)
      rw [same] at step listed
      rcases List.mem_cons.1 listed with rfl | listed
      · exact List.forall_mem_cons.2 ⟨here.resolve_right fun bar => noBar (beq_iff_eq.2 bar),
          step others List.mem_cons_self⟩
      · exact step others (List.mem_cons_of_mem _ listed)

/-- Characters of names have no meaning in patterns. -/
theorem isMeta_of_isNameChar {letter : Char} (name : isNameChar letter = true) :
    Regex.Primitive.isMeta letter = false := by
  rw [Bool.eq_false_iff]
  intro special
  have sign := (Regex.Primitive.sign_of_isMeta special).2
  rw [isNameChar, Bool.or_eq_true, or_iff_right sign, beq_iff_eq] at name
  subst name
  exact absurd special (by decide)

/-- Words between bars are their pattern. -/
theorem choice_splitOn (words : ∀ letter ∈ body, isNameChar letter = true ∨ letter = '|') :
    Regex.choice (body.splitOn '|') = body := by
  have plain : ∀ word ∈ body.splitOn '|', Regex.escape word = id word :=
    fun word listed => Regex.escape_eq_self fun letter inside =>
      isMeta_of_isNameChar (isNameChar_of_mem_splitOn words listed letter inside)
  rw [Regex.choice, List.map_congr_left plain, List.map_id]
  exact List.intercalate_splitOn '|'

end Guard

namespace Regex

open Guard

variable {ignoreCase : Bool} {letter other : Char} {word body text : Text} {regex : Regex}

/-! ### Letters -/

/-- How a character of a text is compared. -/
def readAs (ignoreCase : Bool) (letter : Char) : Char :=
  if ignoreCase then Text.plainFold letter else letter

/-- How a character of a pattern is compared. -/
def writtenAs (ignoreCase : Bool) (letter : Char) : Char :=
  if ignoreCase then letter.toLower else letter

@[simp] theorem readAs_false : readAs false = id := rfl

@[simp] theorem readAs_true : readAs true = Text.plainFold := rfl

@[simp] theorem writtenAs_false : writtenAs false = id := rfl

@[simp] theorem writtenAs_true : writtenAs true = Char.toLower := rfl

theorem alike_iff (name : isNameChar letter = true) :
    Alike ignoreCase other letter ↔ readAs ignoreCase other = writtenAs ignoreCase letter := by
  cases ignoreCase with
  | false => exact Iff.rfl
  | true => exact CaseMap.mem_variants name

/-- The texts whose characters count as those of a word are compared like it. -/
theorem forall₂_alike_iff (names : ∀ letter ∈ word, isNameChar letter = true) :
    List.Forall₂ (Alike ignoreCase) text word ↔
      text.map (readAs ignoreCase) = word.map (writtenAs ignoreCase) := by
  induction word generalizing text with
  | nil => rw [List.forall₂_nil_right_iff, List.map_nil, List.map_eq_nil_iff]
  | cons letter word step =>
    obtain ⟨name, names⟩ := List.forall_mem_cons.1 names
    rw [List.forall₂_cons_right_iff, List.map_cons, List.map_eq_cons_iff]
    refine exists_congr fun other => exists_congr fun rest => ?_
    rw [alike_iff name, step names]
    tauto

/-! ### The whole -/

/-- Words between bars are read into an expression that spans what the letters of one of them
span. -/
theorem read?_wholePattern_words (ignoreCase : Bool)
    (words : ∀ letter ∈ body, isNameChar letter = true ∨ letter = '|') :
    ∃ expr : Expr,
      Expr.read? { ignoreCase } (wholePattern (String.ofList body)) =
        some (.sequenceOf [.check .textStart, expr, .check .textEnd]) ∧
      ∀ start finish, expr.Spans start finish ↔ ∃ word ∈ body.splitOn '|',
        Expr.SpanAll (word.map (Primitive.letterExpr { ignoreCase })) start finish := by
  have read := read?_wholePattern_choice ignoreCase (List.splitOn_ne_nil '|' body)
  rwa [choice_splitOn words] at read

/-- The regular expression of words between bars matches the texts that are compared like a word. -/
theorem isMatch_wholePattern_words
    (words : ∀ letter ∈ body, isNameChar letter = true ∨ letter = '|')
    (compiled : compile ignoreCase (wholePattern (String.ofList body)) = .ok regex) :
    regex.isMatch text = true ↔ ∃ word ∈ body.splitOn '|',
      text.map (readAs ignoreCase) = word.map (writtenAs ignoreCase) := by
  rw [← choice_splitOn words] at compiled
  rw [isMatch_wholePattern_choice (List.splitOn_ne_nil '|' body) compiled]
  refine exists_congr fun word => and_congr_right fun listed => ?_
  exact forall₂_alike_iff (isNameChar_of_mem_splitOn words listed)

end Regex

/-! ### Word lists -/

namespace Guard

open Regex

variable {settings : Settings} {text word body : Text}

/-- Small letters and the other characters of names are the lowercase forms of their case variants,
the long s apart. -/
theorem map_plainLower_eq_iff (ascii : ∀ letter ∈ word, letter.toNat < 128) :
    text.map Text.plainLower = word ↔ text.map Text.plainFold = word ∧ Text.longS ∉ text := by
  have agree (none : Text.longS ∉ text) : text.map Text.plainFold = text.map Text.plainLower :=
    List.map_congr_left fun letter inside => Text.plainFold_of_ne (by rintro rfl; exact none inside)
  constructor
  · rintro rfl
    have none : Text.longS ∉ text := by
      intro inside
      exact absurd (ascii _ (List.mem_map_of_mem inside)) (by decide)
    exact ⟨agree none, none⟩
  · rintro ⟨same, none⟩
    rw [← agree none, same]

theorem ascii_of_lower (names : ∀ letter ∈ word, isNameChar letter = true) :
    ∀ letter ∈ word.map Char.toLower, letter.toNat < 128 := by
  intro letter inside
  obtain ⟨written, listed, rfl⟩ := List.mem_map.1 inside
  have bounds := bounds_of_isNameChar (names written listed)
  rw [toNat_toLower]
  split <;> omega

theorem lower_word (names : ∀ letter ∈ word, isNameChar letter = true) :
    Text.lower word = word.map Char.toLower := by
  refine (Text.lower_eq_iff (ascii_of_lower names)).2 (List.map_congr_left fun letter inside => ?_)
  refine if_neg ?_
  rintro rfl
  exact absurd (names _ inside) (by decide)

/-- A text is compared like a word by its form exactly if its characters are compared like those of
the word, and none of them is a long s where case is ignored. -/
theorem foldText_eq_iff (names : ∀ letter ∈ word, isNameChar letter = true) :
    settings.foldText text = settings.foldText word ↔
      text.map (readAs settings.ignoreCase) = word.map (writtenAs settings.ignoreCase) ∧
        ¬ (settings.ignoreCase = true ∧ Text.longS ∈ text) := by
  unfold Settings.foldText
  cases settings.ignoreCase with
  | false => simp
  | true =>
    rw [if_pos rfl, if_pos rfl, lower_word names, Text.lower_eq_iff (ascii_of_lower names),
      map_plainLower_eq_iff (ascii_of_lower names)]
    simp

/-- The list of the words between bars has the texts that are compared like a word. -/
theorem contains_wordList (words : ∀ letter ∈ body, isNameChar letter = true ∨ letter = '|') :
    ((splitBars body).map fun word => settings.fold (String.ofList word)).contains
        (String.ofList (settings.foldText text)) = true ↔
      (∃ word ∈ body.splitOn '|',
        text.map (readAs settings.ignoreCase) = word.map (writtenAs settings.ignoreCase)) ∧
        ¬ (settings.ignoreCase = true ∧ Text.longS ∈ text) := by
  rw [splitBars_eq_splitOn, List.contains_iff_mem, List.mem_map, ← exists_and_right]
  refine exists_congr fun word => ?_
  rw [and_assoc, Settings.fold, String.toList_ofList, String.ofList_inj, eq_comm]
  exact and_congr_right fun listed => foldText_eq_iff (isNameChar_of_mem_splitOn words listed)

/-- **What a word list says of a text.** Every key that asks for words between bars, of whatever it
names, becomes a word list, and the pattern that matches the words from the start of a text to its
end can be read. Where that has a regular expression, the word list says of every text what the
regular expression says, but that it has no text with a long s where case is ignored. -/
theorem compile_words (settings : Settings) (rule : String) (front : Text) (subject : Subject)
    (names : Names front subject) (body : Text)
    (words : ∀ letter ∈ body, isNameChar letter = true ∨ letter = '|') (negated : Bool) :
    ∃ list,
      compile settings rule
          (String.ofList (front ++ (Operator.matching.written negated ++ body))) =
        .ok (.test subject (.words list) negated) ∧
      Regex.compile settings.ignoreCase (wholePattern (String.ofList body)) ≠
        .error .malformed ∧
      ∀ regex,
        Regex.compile settings.ignoreCase (wholePattern (String.ofList body)) = .ok regex →
        ∀ context text, succeeds settings context text (.words list) =
          .ok (regex.isMatch text && !(settings.ignoreCase && text.contains Text.longS)) := by
  refine ⟨(splitBars body).map fun word => settings.fold (String.ofList word), ?_, ?_, ?_⟩
  · have letters : body.all (fun letter => isNameChar letter || letter == '|') = true := by
      simpa only [List.all_eq_true, Bool.or_eq_true, beq_iff_eq] using words
    rw [compile_key settings rule names (fun _ other => by cases other), compileTest,
      if_pos letters]
    rfl
  · obtain ⟨expr, read, -⟩ := read?_wholePattern_words settings.ignoreCase words
    unfold Regex.compile
    rw [read]
    dsimp only
    split <;> exact nofun
  · intro regex compiled context text
    have noLong : (!(settings.ignoreCase && text.contains Text.longS)) = true ↔
        ¬ (settings.ignoreCase = true ∧ Text.longS ∈ text) := by
      rw [Bool.not_eq_true', ← Bool.not_eq_true, Bool.and_eq_true, List.contains_iff_mem]
    refine congrArg _ (Bool.eq_iff_iff.2 ?_)
    rw [contains_wordList words, Bool.and_eq_true, noLong,
      isMatch_wholePattern_words words compiled]

/-- Two words with a bar between them. -/
def loopOrS : Text := ['l', 'o', 'o', 'p', '|', 's']

theorem words_loopOrS : ∀ letter ∈ loopOrS, isNameChar letter = true ∨ letter = '|' := by
  simp [loopOrS, isNameChar]

theorem exists_compile_loopOrS :
    ∃ regex, Regex.compile Pattern.caseless.ignoreCase (wholePattern (String.ofList loopOrS)) =
      .ok regex := by
  have built : (Regex.compile Pattern.caseless.ignoreCase
      (wholePattern (String.ofList loopOrS))).isOk = true := by decide +kernel
  cases made : Regex.compile Pattern.caseless.ignoreCase (wholePattern (String.ofList loopOrS)) with
  | ok regex => exact ⟨regex, rfl⟩
  | error rejection =>
    rw [made] at built
    cases built

theorem compile_words_loop :
    Names ['$', '1'] (.capture 1) ∧
      (∀ letter ∈ loopOrS, isNameChar letter = true ∨ letter = '|') ∧
      ∃ list regex,
        compile Pattern.caseless "rule" "$1!~loop|s" =
          .ok (.test (.capture 1) (.words list) true) ∧
        Regex.compile Pattern.caseless.ignoreCase (wholePattern (String.ofList loopOrS)) =
          .ok regex ∧
        regex.isMatch "LOOP".toList = true ∧
        succeeds Pattern.caseless pairContext "LOOP".toList (.words list) = .ok true := by
  have names : Names ['$', '1'] (.capture 1) :=
    @Names.capture ['1'] (List.forall_mem_singleton.2 rfl) (.inl rfl)
  refine ⟨names, words_loopOrS, ?_⟩
  obtain ⟨regex, made⟩ := exists_compile_loopOrS
  obtain ⟨list, compiled, -, agree⟩ :=
    compile_words Pattern.caseless "rule" ['$', '1'] (.capture 1) names loopOrS words_loopOrS true
  have matched : regex.isMatch "LOOP".toList = true :=
    (isMatch_wholePattern_words words_loopOrS made).2 ⟨"loop".toList, by decide, by decide⟩
  refine ⟨list, regex, compiled, made, matched, ?_⟩
  rw [agree regex made, matched]
  rfl

/-- The long s is a case variant of a letter that it does not become in lowercase. -/
theorem not_forall_words_agree :
    ¬ ∀ settings rule subject body list negated regex context text,
      compile settings rule (String.ofList (Operator.matching.written negated ++ body)) =
        .ok (.test subject (.words list) negated) →
      Regex.compile settings.ignoreCase (wholePattern (String.ofList body)) = .ok regex →
      succeeds settings context text (.words list) = .ok (regex.isMatch text) := by
  intro agree
  obtain ⟨regex, made⟩ := exists_compile_loopOrS
  have matched : regex.isMatch [Text.longS] = true :=
    (isMatch_wholePattern_words words_loopOrS made).2 ⟨['s'], by decide, by decide⟩
  have same := agree Pattern.caseless "rule" .matched loopOrS ["loop", "s"] false regex pairContext
    [Text.longS] (by decide +kernel) made
  rw [matched] at same
  revert same
  decide +kernel

end Guard

end LineLexer
