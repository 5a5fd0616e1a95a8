import LineLexer.Proofs.Choices
import LineLexer.Proofs.Finding
import LineLexer.Proofs.Lowercase
import LineLexer.Proofs.Wrapping

/-!
**Texts that patterns take literally.**

With a backslash in front of each character that has a meaning in patterns, a text is read as its
characters, one after the other. Such texts between bars are read as alternatives, and from the
start of a text to its end the regular expression matches the texts themselves, or their case
variants where case is ignored.

* `CaseMap.isValidChar_of_mem_variants`: case variants of characters are characters;
* `Regex.Alike`: which characters of a text count as a character of a pattern;
* `Regex.choice`: texts between bars, as a pattern;
* `Regex.Reader.parts?_choice`, `Regex.read?_wholePattern_choice`: what they are read as;
* `Regex.isMatch_wholePattern_choice`: the texts that the regular expression matches.
-/

namespace LineLexer

/-! ### Case variants -/

namespace CaseMap

variable {code other least most : Nat}

/-- All code points between two of them are characters, on one side of the surrogates. -/
def oneSide (least most : Nat) : Bool :=
  decide (most < 0xD800 ∨ 0xDFFF < least ∧ most < 0x110000)

theorem isValidChar_of_oneSide (side : oneSide least most = true) (above : least ≤ code)
    (below : code ≤ most) : code.isValidChar := by
  unfold oneSide at side
  rw [decide_eq_true_eq] at side
  unfold Nat.isValidChar
  omega

/-- The code points of runs and their images are characters. -/
theorem oneSide_foldRuns : (foldRuns.all fun run => oneSide run.first run.last &&
    oneSide (run.image run.first) (run.image run.last)) = true := by
  decide +kernel

theorem oneSide_of_mem {run : CaseRun} (listed : run ∈ foldRuns) :
    oneSide run.first run.last = true ∧
      oneSide (run.image run.first) (run.image run.last) = true :=
  Bool.and_eq_true_iff.1 (List.all_eq_true.1 oneSide_foldRuns run listed)

theorem bounds_of_covers {run : CaseRun} (covers : run.covers code = true) :
    run.first ≤ code ∧ code ≤ run.last := by
  unfold CaseRun.covers at covers
  rw [Bool.and_eq_true, Bool.and_eq_true, decide_eq_true_eq, decide_eq_true_eq] at covers
  exact covers.1

theorem isValidChar_fold (valid : code.isValidChar) : (fold code).isValidChar := by
  rcases apply_cases foldRuns code with ⟨run, listed, covers, mapped⟩ | stays
  · have image : fold code = run.image code := mapped
    obtain ⟨least, most⟩ := bounds_of_covers covers
    rw [image]
    refine isValidChar_of_oneSide (oneSide_of_mem listed).2 ?_ ?_ <;>
      · unfold CaseRun.image
        omega
  · have same : fold code = code := stays
    rwa [same]

/-- Case variants of characters are characters. -/
theorem isValidChar_of_mem_variants (valid : code.isValidChar) (inside : other ∈ variants code) :
    other.isValidChar := by
  rcases List.mem_cons.1 inside with rfl | later
  · exact isValidChar_fold valid
  · obtain ⟨run, listed, source⟩ := List.mem_filterMap.1 later
    unfold CaseRun.source? at source
    dsimp only at source
    split at source
    · next covered =>
      cases source
      obtain ⟨least, most⟩ := bounds_of_covers (Bool.and_eq_true_iff.1 covered).1
      exact isValidChar_of_oneSide (oneSide_of_mem listed).1 least most
    · cases source

end CaseMap

namespace Regex

/-! ### Letters -/

section Letters

variable {ignoreCase : Bool} {letter other : Char} {word : Text} {start finish : Spot}

/-- A character of a text counts as a character of a pattern: it is the same, or a case variant
where case is ignored. -/
def Alike (ignoreCase : Bool) (other letter : Char) : Prop :=
  if ignoreCase then other.toNat ∈ CaseMap.variants letter.toNat else other = letter

theorem valid_caseVariants (letter : Char) :
    ∀ code ∈ CaseMap.variants letter.toNat, code.isValidChar :=
  fun _ => CaseMap.isValidChar_of_mem_variants letter.valid

theorem plain_letterExpr (ignoreCase : Bool) (letter : Char) :
    (Primitive.letterExpr { ignoreCase } letter).Plain := by
  cases ignoreCase with
  | false => trivial
  | true => exact Expr.plain_ofSet (CodeRanges.orderly_ofCodes (valid_caseVariants letter))

/-- A letter spans a character that counts as it. -/
theorem spans_letterExpr : (Primitive.letterExpr { ignoreCase } letter).Spans start finish ↔
    ∃ other rest, start.rest = other :: rest ∧ Alike ignoreCase other letter ∧
      finish = .past other rest := by
  cases ignoreCase with
  | false =>
    constructor
    · rintro ⟨rest, stands, rfl⟩
      exact ⟨letter, rest, stands, rfl, rfl⟩
    · rintro ⟨other, rest, stands, rfl, rfl⟩
      exact ⟨rest, stands, rfl⟩
  | true =>
    have valid := valid_caseVariants letter
    refine (Expr.spans_ofSet (CodeRanges.orderly_ofCodes valid)).trans ?_
    exact exists_congr fun other => exists_congr fun rest => and_congr_right fun _ =>
      and_congr_left fun _ => CodeRanges.contains_ofCodes valid

/-- The letters of a word take the texts whose characters count as them. -/
theorem spanAll_letters :
    (∃ finish, Expr.SpanAll (word.map (Primitive.letterExpr { ignoreCase })) start finish ∧
      finish.rest = []) ↔ List.Forall₂ (Alike ignoreCase) start.rest word := by
  induction word generalizing start with
  | nil =>
    rw [List.forall₂_nil_right_iff]
    constructor
    · rintro ⟨_, rfl, ends⟩
      exact ends
    · exact fun ends => ⟨start, rfl, ends⟩
  | cons letter word step =>
    rw [List.map_cons, List.forall₂_cons_right_iff]
    constructor
    · rintro ⟨finish, ⟨middle, first, others⟩, ends⟩
      obtain ⟨other, rest, stands, same, rfl⟩ := spans_letterExpr.1 first
      exact ⟨other, rest, same, step.1 ⟨finish, others, ends⟩, stands⟩
    · rintro ⟨other, rest, same, later, stands⟩
      obtain ⟨finish, others, ends⟩ := (@step (.past other rest)).2 later
      have first := spans_letterExpr.2 ⟨other, rest, stands, same, rfl⟩
      exact ⟨finish, ⟨.past other rest, first, others⟩, ends⟩

end Letters

/-! ### Escapes -/

section Escapes

variable {letter : Char} {text other : Text}

@[simp] theorem escape_nil : escape [] = [] := rfl

theorem escape_append (text other : Text) : escape (text ++ other) = escape text ++ escape other :=
  List.flatMap_append

theorem escape_cons (letter : Char) (text : Text) : escape (letter :: text) =
    (if Primitive.isMeta letter then ['\\', letter] else [letter]) ++ escape text :=
  List.flatMap_cons

/-- A text without characters that have a meaning is written as it is. -/
theorem escape_eq_self (plain : ∀ letter ∈ text, Primitive.isMeta letter = false) :
    escape text = text := by
  induction text with
  | nil => rfl
  | cons letter rest step =>
    obtain ⟨first, others⟩ := List.forall_mem_cons.1 plain
    rw [escape_cons, first, step others]
    rfl

theorem length_le_escape (text : Text) : text.length ≤ (escape text).length := by
  induction text with
  | nil => exact Nat.le_refl 0
  | cons letter rest step =>
    rw [escape_cons, List.length_append, List.length_cons]
    split <;> simp only [List.length_cons, List.length_nil] <;> omega

/-- The pattern of texts between bars. -/
def choice (words : List Text) : Text := List.intercalate ['|'] (words.map escape)

theorem choice_singleton (word : Text) : choice [word] = escape word := List.append_nil _

/-- Texts may be put in front of the first one. -/
theorem choice_cons_append (front word : Text) (words : List Text) :
    choice ((front ++ word) :: words) = escape front ++ choice (word :: words) := by
  cases words with
  | nil => rw [choice_singleton, choice_singleton, escape_append]
  | cons next words =>
    show escape (front ++ word) ++ _ = escape front ++ (escape word ++ _)
    rw [escape_append, List.append_assoc]

theorem choice_cons_cons (word next : Text) (words : List Text) :
    choice (word :: next :: words) = escape word ++ '|' :: choice (next :: words) := rfl

end Escapes

/-! ### Reading -/

namespace Primitive

variable {letter : Char}

/-- A character without a meaning is read as itself. -/
theorem read?_of_plain (plain : isMeta letter = false) (flags : Flags) (rest : List Char) :
    read? flags (letter :: rest) = some (.literal letter false, rest) := by
  unfold read?
  split
  case h_6 same =>
    cases same
    rfl
  all_goals next same => cases same <;> exact absurd plain (by decide)

/-- Characters with a meaning are signs of ASCII. -/
theorem sign_of_isMeta (special : isMeta letter = true) :
    letter.toNat < 0x80 ∧ ¬ letter.isAlphanum := by
  have signs : ("\\.+*?()|[]\x7b\x7d^$#&-~".toList.all fun letter =>
      decide (letter.toNat < 0x80 ∧ ¬ letter.isAlphanum)) = true := by decide +kernel
  exact of_decide_eq_true (List.all_eq_true.1 signs letter (List.contains_iff_mem.1 special))

/-- A character with a meaning is read as itself behind a backslash. -/
theorem read?_of_isMeta (special : isMeta letter = true) (flags : Flags) (rest : List Char) :
    read? flags ('\\' :: letter :: rest) = some (.literal letter false, rest) := by
  show escape? flags (letter :: rest) = _
  unfold escape?
  split
  case h_25 same =>
    cases same
    rw [if_pos (sign_of_isMeta special)]
  all_goals next same => cases same <;> exact absurd special (by decide)

end Primitive

namespace Reader

variable {ignoreCase : Bool} {letter : Char} {text rest tail body : List Char} {words : List Text}
  {parts branches : List Part} {steps bound : Nat} {start finish : Spot}

theorem spans_sequence :
    (sequence parts).expr.Spans start finish ↔
      Expr.SpanAll (parts.reverse.map Part.expr) start finish := by
  unfold sequence assemble
  split
  · exact Iff.rfl
  · exact Expr.spanAll_singleton.symm
  · exact Expr.spans_sequenceOf

theorem wordlike_sequence (plain : ∀ part ∈ parts, part.expr.Plain) :
    (sequence parts).expr.Wordlike := by
  unfold sequence assemble
  split
  · exact List.forall_mem_nil _
  · exact (List.forall_mem_singleton.1 plain).wordlike
  · refine Expr.wordlike_sequenceOf fun expr listed => ?_
    obtain ⟨part, inside, rfl⟩ := List.mem_map.1 listed
    exact (plain part (List.mem_reverse.1 inside)).wordlike

theorem spans_alternatives (several : branches ≠ [])
    (wordlike : ∀ part ∈ branches, part.expr.Wordlike) :
    (alternatives branches).expr.Spans start finish ↔
      ∃ part ∈ branches, part.expr.Spans start finish := by
  unfold alternatives assemble
  split
  · exact absurd rfl several
  · simp only [List.mem_singleton, exists_eq_left]
  · rw [Expr.spans_eitherOf]
    · simp only [List.mem_map, List.mem_reverse, exists_exists_and_eq_and]
    · intro expr listed
      obtain ⟨part, inside, rfl⟩ := List.mem_map.1 listed
      exact wordlike part (List.mem_reverse.1 inside)

/-- Putting parts together needs one level at most. -/
theorem height_assemble {join : List Expr → Expr} (low : ∀ part ∈ parts, part.height ≤ bound) :
    (assemble join parts).height ≤ bound + 1 := by
  have folded : ∀ height ≤ bound,
      parts.foldl (fun height part => max height part.height) height ≤ bound := by
    induction parts with
    | nil => exact fun _ small => small
    | cons part parts step =>
      obtain ⟨first, others⟩ := List.forall_mem_cons.1 low
      exact fun height small => step others _ (Nat.max_le.2 ⟨small, first⟩)
  unfold assemble
  split
  · exact Nat.zero_le _
  · exact Nat.le_succ_of_le (low _ List.mem_cons_self)
  · exact Nat.succ_le_succ (folded 0 (Nat.zero_le _))

/-- The part that a character becomes. -/
def letterPart (ignoreCase : Bool) (letter : Char) : Part :=
  { expr := Primitive.letterExpr { ignoreCase } letter, height := 0 }

/-- The part that a text becomes. -/
def wordPart (ignoreCase : Bool) (word : List Char) : Part :=
  sequence (word.map (letterPart ignoreCase)).reverse

/-- A character that is escaped where it has a meaning is one more part of the sequence. -/
theorem parts?_letter :
    parts? (steps + 1) { rest := escape [letter] ++ rest, flags := { ignoreCase } } parts branches =
      parts? steps { rest, flags := { ignoreCase } } (letterPart ignoreCase letter :: parts)
        branches := by
  rw [escape_cons, escape_nil, List.append_nil]
  split
  · next special =>
    have plain : skip { ignoreCase } ('\\' :: letter :: rest) = '\\' :: letter :: rest := rfl
    rw [List.cons_append, List.cons_append, List.nil_append, parts?.eq_def]
    dsimp only
    rw [plain, Primitive.read?_of_isMeta special]
    rfl
  · next ordinary =>
    have plain : skip { ignoreCase } (letter :: rest) = letter :: rest := rfl
    rw [List.cons_append, List.nil_append, parts?.eq_def]
    dsimp only
    rw [plain]
    split
    case h_10 =>
      rw [Primitive.read?_of_plain (Bool.eq_false_iff.2 ordinary)]
      rfl
    all_goals next same => cases same <;> exact absurd rfl ordinary

/-- The characters of an escaped text are more parts of the sequence. -/
theorem parts?_escape (text : Text) (parts : List Part) :
    parts? (steps + text.length) { rest := escape text ++ rest, flags := { ignoreCase } } parts
        branches =
      parts? steps { rest, flags := { ignoreCase } }
        ((text.map (letterPart ignoreCase)).reverse ++ parts) branches := by
  induction text generalizing parts with
  | nil => rfl
  | cons letter text step =>
    have split : escape (letter :: text) = escape [letter] ++ escape text :=
      escape_append [letter] text
    rw [split, List.append_assoc, List.length_cons, ← Nat.add_assoc, parts?_letter, step,
      List.map_cons, List.reverse_cons, List.append_assoc]
    rfl

/-- Texts between bars are read as alternatives, up to the parenthesis that closes them. -/
theorem parts?_choice (several : words ≠ []) (branches : List Part)
    (enough : (choice words).length < steps) :
    parts? steps { rest := choice words ++ ')' :: tail, flags := { ignoreCase } } [] branches =
      some (alternatives ((words.map (wordPart ignoreCase)).reverse ++ branches),
        { rest := ')' :: tail, flags := { ignoreCase } }) := by
  induction words generalizing branches steps with
  | nil => exact absurd rfl several
  | cons word words step =>
    have room := length_le_escape word
    cases words with
    | nil =>
      rw [choice_singleton] at enough ⊢
      obtain ⟨steps, rfl⟩ : ∃ others, steps = others + 1 + word.length :=
        ⟨steps - (word.length + 1), by omega⟩
      rw [parts?_escape, List.append_nil]
      rfl
    | cons next words =>
      rw [choice_cons_cons, List.length_append, List.length_cons] at enough
      obtain ⟨steps, rfl⟩ : ∃ others, steps = others + 1 + word.length :=
        ⟨steps - (word.length + 1), by omega⟩
      have later := step (List.cons_ne_nil _ _) (wordPart ignoreCase word :: branches)
        (show _ < steps by omega)
      rw [choice_cons_cons, List.append_assoc, parts?_escape, List.append_nil, List.map_cons,
        List.reverse_cons, List.append_assoc]
      exact later

/-- A group between the start and the end of the text is read as what it holds between them. -/
theorem parts?_whole {part : Part}
    (within : parts? (steps + 2) { rest := body, flags := { ignoreCase } } [] [] =
      some (part, { rest := [')', '$'], flags := { ignoreCase } })) :
    parts? (steps + 4) { rest := '^' :: '(' :: '?' :: ':' :: body, flags := { ignoreCase } } [] [] =
      some (sequence [{ expr := .check .textEnd, height := 0 },
          { expr := part.expr, height := part.height + 1 },
          { expr := .check .textStart, height := 0 }],
        { rest := [], flags := { ignoreCase } }) := by
  rw [parts?_hat, parts?_group, within]
  rfl

/-- What texts between bars become spans what the letters of one of them span. -/
theorem spans_choice (several : words ≠ []) :
    (alternatives (words.map (wordPart ignoreCase)).reverse).expr.Spans start finish ↔
      ∃ word ∈ words,
        Expr.SpanAll (word.map (Primitive.letterExpr { ignoreCase })) start finish := by
  have letters (word : List Char) : ((word.map (letterPart ignoreCase)).reverse.reverse.map
      Part.expr) = word.map (Primitive.letterExpr { ignoreCase }) := by
    rw [List.reverse_reverse, List.map_map]
    rfl
  rw [spans_alternatives]
  · simp only [List.mem_reverse, List.mem_map, exists_exists_and_eq_and, wordPart, spans_sequence,
      letters]
  · simpa using several
  · intro part listed
    obtain ⟨word, -, rfl⟩ := List.mem_map.1 (List.mem_reverse.1 listed)
    refine wordlike_sequence fun part listed => ?_
    obtain ⟨letter, -, rfl⟩ := List.mem_map.1 (List.mem_reverse.1 listed)
    exact plain_letterExpr ignoreCase letter

theorem height_choice (ignoreCase : Bool) (words : List (List Char)) :
    (alternatives (words.map (wordPart ignoreCase)).reverse).height ≤ 2 := by
  refine height_assemble fun part listed => ?_
  obtain ⟨word, -, rfl⟩ := List.mem_map.1 (List.mem_reverse.1 listed)
  refine height_assemble fun part listed => ?_
  obtain ⟨letter, -, rfl⟩ := List.mem_map.1 (List.mem_reverse.1 listed)
  exact Nat.le_refl 0

end Reader

/-! ### The whole -/

section Whole

open Guard

variable {ignoreCase : Bool} {words : List Text} {pattern : String} {expr : Expr} {regex : Regex}
  {text : Text}

/-- Where an expression stands between the start and the end of the text, it takes all of it. -/
theorem isMatch_iff_of_read? (compiled : compile ignoreCase pattern = .ok regex)
    (read : Expr.read? { ignoreCase } pattern =
      some (.sequenceOf [.check .textStart, expr, .check .textEnd])) :
    regex.isMatch text = true ↔ ∃ finish, expr.Spans ⟨none, text⟩ finish ∧ finish.rest = [] := by
  simp only [isMatch_iff_spans compiled read, Expr.spans_sequenceOf]
  constructor
  · rintro ⟨skipped, later, _, rfl, _, ⟨starts, rfl⟩, finish, spans, _, ⟨ends, rfl⟩, rfl⟩
    cases List.getLast?_eq_none_iff.1 (Option.isNone_iff_eq_none.1 starts)
    exact ⟨finish, spans, List.head?_eq_none_iff.1 (Option.isNone_iff_eq_none.1 ends)⟩
  · rintro ⟨finish, spans, ends⟩
    refine ⟨[], text, finish, rfl, _, ⟨rfl, rfl⟩, finish, spans, _, ⟨?_, rfl⟩, rfl⟩
    rw [ends]
    rfl

/-- Texts between bars are read into an expression that spans what the letters of one of them
span. -/
theorem read?_wholePattern_choice (ignoreCase : Bool) (several : words ≠ []) :
    ∃ expr : Expr,
      Expr.read? { ignoreCase } (wholePattern (String.ofList (choice words))) =
        some (.sequenceOf [.check .textStart, expr, .check .textEnd]) ∧
      ∀ start finish, expr.Spans start finish ↔ ∃ word ∈ words,
        Expr.SpanAll (word.map (Primitive.letterExpr { ignoreCase })) start finish := by
  have spelled := toList_wholePattern (String.ofList (choice words))
  rw [String.toList_ofList] at spelled
  have steps : (wholePattern (String.ofList (choice words))).toList.length + 1 =
      (choice words).length + 3 + 4 := by
    rw [spelled]
    simp only [List.length_cons, List.length_append, List.length_nil]
  -- the texts are all that the group holds
  have within := @Reader.parts?_choice ignoreCase ['$'] words ((choice words).length + 3 + 2)
    several [] (by omega)
  rw [List.append_nil] at within
  refine ⟨_, ?_, fun start finish => Reader.spans_choice several⟩
  have low := Reader.height_choice ignoreCase words
  unfold Expr.read?
  dsimp only
  rw [steps, spelled, Reader.parts?_whole within, Option.bind_eq_bind, Option.bind_some, if_pos]
  · rfl
  · refine ⟨rfl, Nat.le_trans (Reader.height_assemble ?_ : _ ≤ 3 + 1) (by decide)⟩
    simp only [List.forall_mem_cons, List.not_mem_nil, false_imp_iff, implies_true, and_true]
    exact ⟨Nat.zero_le _, Nat.succ_le_succ low, Nat.zero_le _⟩

/-- The pattern of texts between bars is written as one. -/
theorem compile_wholePattern_choice (ignoreCase : Bool) (several : words ≠ []) :
    compile ignoreCase (wholePattern (String.ofList (choice words))) ≠ .error .malformed := by
  obtain ⟨expr, read, -⟩ := read?_wholePattern_choice ignoreCase several
  unfold compile
  rw [read]
  dsimp only
  split <;> exact nofun

/-- **Escaped texts.** The regular expression of texts between bars matches the texts whose
characters count as those of one of them. -/
theorem isMatch_wholePattern_choice (several : words ≠ [])
    (compiled : compile ignoreCase (wholePattern (String.ofList (choice words))) = .ok regex) :
    regex.isMatch text = true ↔ ∃ word ∈ words, List.Forall₂ (Alike ignoreCase) text word := by
  obtain ⟨expr, read, spans⟩ := read?_wholePattern_choice ignoreCase several
  rw [isMatch_iff_of_read? compiled read]
  constructor
  · rintro ⟨finish, spanned, ends⟩
    obtain ⟨word, listed, taken⟩ := (spans _ _).1 spanned
    exact ⟨word, listed, spanAll_letters.1 ⟨finish, taken, ends⟩⟩
  · rintro ⟨word, listed, alike⟩
    obtain ⟨finish, taken, ends⟩ : ∃ finish, Expr.SpanAll _ ⟨none, text⟩ finish ∧ _ :=
      spanAll_letters.2 alike
    exact ⟨finish, (spans _ _).2 ⟨word, listed, taken⟩, ends⟩

end Whole

end Regex

end LineLexer
