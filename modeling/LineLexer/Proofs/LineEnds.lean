import LineLexer.CommandLine.Basic
import LineLexer.Proofs.Scanning
import Mathlib.Data.List.DropRight

/-!
**What ends the lines of a text.**

A line ends with a line feed, with a carriage return and a line feed, or where the text ends. What
the tokenizer is given of a line is the line without that, but also without the carriage returns
right before it.

* `Text.terminator`, `Text.withoutTerminator`, `Text.surplus`: what ends a line, the line without
  it, and the carriage returns right before it;
* `Text.IsLines`, `Text.isLines_lines`: how a text is cut into lines;
* `Text.withoutEnd_append`: what the tokenizer is given of a line, and what is left out;
* `Text.flatten_restored_iff`: when lines can be put together again from what is given of them;
* `Document.record`, `Document.recordText`: the work on a text, with what the tokenizer is given;
* `Document.Handed`: what the tokenizer is given for the lines of a text;
* `CommandLine.lines_handed_iff`: what the tokenizer is given by a command that succeeds.
-/

namespace LineLexer

namespace Text

/-! ### Terminators -/

/-- What ends a line: a carriage return and a line feed, a line feed alone, or nothing. -/
def terminator (line : Text) : Text :=
  if ['\r', '\n'] <:+ line then ['\r', '\n']
  else if ['\n'] <:+ line then ['\n']
  else []

/-- A line without its terminator, of which there is one at most. -/
def withoutTerminator (line : Text) : Text := line.take (line.length - line.terminator.length)

/-- The carriage returns right before the terminator of a line. -/
def surplus (line : Text) : Text := line.withoutTerminator.rtakeWhile (· == '\r')

theorem terminator_isSuffix (line : Text) : line.terminator <:+ line := by
  unfold terminator
  split
  · next ends => exact ends
  · split
    · next ends => exact ends
    · exact List.nil_suffix

/-- A line is what stands before its terminator, and then the terminator. -/
theorem withoutTerminator_append (line : Text) :
    line.withoutTerminator ++ line.terminator = line := by
  have tail := List.suffix_iff_eq_drop.1 line.terminator_isSuffix
  unfold withoutTerminator
  conv => lhs; rhs; rw [tail]
  exact List.take_append_drop _ _

theorem withoutTerminator_eq {line inner : Text} (whole : inner ++ line.terminator = line) :
    line.withoutTerminator = inner :=
  List.append_cancel_right (line.withoutTerminator_append.trans whole.symm)

/-! ### Lines of a text -/

/-- A text is cut into lines: they make it up, a line feed is nowhere but at the end of a line, and
only the last line may have none. -/
structure IsLines (text : Text) (lines : List Text) : Prop where
  whole : lines.flatten = text
  inner : ∀ line ∈ lines, line ≠ [] ∧ '\n' ∉ line.dropLast
  ended : ∀ line ∈ lines.dropLast, ['\n'] <:+ line

namespace IsLines

variable {letter : Char} {rest line : Text} {later : List Text}

theorem feed (cut : IsLines rest later) : IsLines ('\n' :: rest) (['\n'] :: later) where
  whole := by rw [List.flatten_cons, cut.whole, List.singleton_append]
  inner := List.forall_mem_cons.2 ⟨⟨List.cons_ne_nil _ _, List.not_mem_nil⟩, cut.inner⟩
  ended := by
    cases later with
    | nil => exact List.forall_mem_nil _
    | cons next others => exact List.forall_mem_cons.2 ⟨List.suffix_rfl, cut.ended⟩

theorem single (letter : Char) : IsLines [letter] [[letter]] where
  whole := rfl
  inner := List.forall_mem_singleton.2 ⟨List.cons_ne_nil _ _, List.not_mem_nil⟩
  ended := List.forall_mem_nil _

theorem longer (cut : IsLines rest (line :: later)) (other : letter ≠ '\n') :
    IsLines (letter :: rest) ((letter :: line) :: later) where
  whole := by rw [← cut.whole, List.flatten_cons, List.flatten_cons, List.cons_append]
  inner := by
    obtain ⟨⟨nonempty, free⟩, others⟩ := List.forall_mem_cons.1 cut.inner
    refine List.forall_mem_cons.2 ⟨⟨List.cons_ne_nil _ _, ?_⟩, others⟩
    rw [List.dropLast_cons_of_ne_nil nonempty, List.mem_cons, not_or]
    exact ⟨other.symm, free⟩
  ended := by
    cases later with
    | nil => exact List.forall_mem_nil _
    | cons next others =>
      obtain ⟨ends, between⟩ := List.forall_mem_cons.1 cut.ended
      exact List.forall_mem_cons.2 ⟨ends.trans (List.suffix_cons letter line), between⟩

end IsLines

theorem isLines_lines (text : Text) : IsLines text text.lines := by
  induction text with
  | nil => exact ⟨rfl, List.forall_mem_nil _, List.forall_mem_nil _⟩
  | cons letter rest step =>
    rw [lines]
    split
    · next feed =>
      rw [feed]
      exact step.feed
    · next other =>
      split
      · next none =>
        have empty : rest = [] := by rw [← step.whole, none, List.flatten_nil]
        rw [empty]
        exact .single letter
      · next line later found =>
        rw [found] at step
        exact step.longer other

/-- A line of a text has a line feed at its end, if it has one at all. -/
theorem exists_inner_of_mem_lines {text line : Text} (inside : line ∈ text.lines) :
    ∃ inner, '\n' ∉ inner ∧ (line = inner ++ ['\n'] ∨ line = inner) := by
  obtain ⟨nonempty, free⟩ := text.isLines_lines.inner line inside
  have split := List.dropLast_append_getLast nonempty
  by_cases feed : line.getLast nonempty = '\n'
  · rw [feed] at split
    exact ⟨line.dropLast, free, Or.inl split.symm⟩
  · refine ⟨line, ?_, Or.inr rfl⟩
    rw [← split, List.mem_append, List.mem_singleton, not_or]
    exact ⟨free, Ne.symm feed⟩

/-- A line is told to be ended exactly if its last character is a line feed. -/
theorem endsLine_eq (line : Text) : line.endsLine = decide (['\n'] <:+ line) := by
  rw [Bool.eq_iff_iff, decide_eq_true_iff]
  unfold endsLine
  rw [beq_iff_eq, List.getLast?_eq_some_iff]
  exact exists_congr fun inner => eq_comm

theorem withoutEnd_eq (line : Text) :
    line.withoutEnd = (line.rdropWhile (· == '\n')).rdropWhile (· == '\r') := by
  unfold withoutEnd List.rdropWhile
  rw [List.reverse_reverse]

theorem rdropWhile_of_not_mem {inner : Text} (free : '\n' ∉ inner) :
    inner.rdropWhile (· == '\n') = inner := by
  refine List.rdropWhile_eq_self_iff.2 fun nonempty feed => free ?_
  rw [← eq_of_beq feed]
  exact List.getLast_mem nonempty

/-- What is given of a line is what stands before its terminator, without carriage returns at the
end. -/
theorem withoutEnd_eq_rdropWhile {line inner : Text} (free : '\n' ∉ inner)
    (ends : line = inner ++ ['\n'] ∨ line = inner) :
    line.withoutEnd = line.withoutTerminator.rdropWhile (· == '\r') := by
  rw [withoutEnd_eq]
  rcases ends with rfl | rfl
  · rw [List.rdropWhile_concat_pos (· == '\n') inner '\n' rfl, rdropWhile_of_not_mem free]
    by_cases both : ['\r', '\n'] <:+ inner ++ ['\n']
    -- The carriage return of the terminator is cut off along with any before it.
    · have two : (inner ++ ['\n']).terminator = ['\r', '\n'] := if_pos both
      obtain ⟨before, whole⟩ := both
      have before_eq : before ++ ['\r'] = inner := by
        refine List.append_cancel_right (?_ : before ++ ['\r'] ++ ['\n'] = inner ++ ['\n'])
        rw [← whole, List.append_assoc]
        rfl
      have shorter : (inner ++ ['\n']).withoutTerminator = before :=
        withoutTerminator_eq (by rw [two, whole])
      rw [shorter, ← before_eq, List.rdropWhile_concat_pos (· == '\r') before '\r' rfl]
    · have one : (inner ++ ['\n']).terminator = ['\n'] := by
        unfold terminator
        rw [if_neg both, if_pos (List.suffix_append _ _)]
      have same : (inner ++ ['\n']).withoutTerminator = inner :=
        withoutTerminator_eq (by rw [one])
      rw [same]
  · have none : line.terminator = [] := by
      unfold terminator
      rw [if_neg fun both => free (both.mem (by simp)), if_neg fun one => free (one.mem (by simp))]
    have same : line.withoutTerminator = line :=
      withoutTerminator_eq (by rw [none, List.append_nil])
    rw [rdropWhile_of_not_mem free, same]

/-- A line of a text is what is given of it, and then carriage returns, and then its terminator. -/
theorem withoutEnd_append {text line : Text} (inside : line ∈ text.lines) :
    line.withoutEnd ++ line.surplus = line.withoutTerminator := by
  obtain ⟨inner, free, ends⟩ := exists_inner_of_mem_lines inside
  rw [withoutEnd_eq_rdropWhile free ends]
  exact List.rdropWhile_append_rtakeWhile

/-- A line of a text is given without its terminator exactly if there is no carriage return right
before that. -/
theorem withoutEnd_eq_iff {text line : Text} (inside : line ∈ text.lines) :
    line.withoutEnd = line.withoutTerminator ↔ line.surplus = [] := by
  rw [← withoutEnd_append inside, List.self_eq_append_right]

theorem surplus_eq_nil_iff {line : Text} :
    line.surplus = [] ↔ ¬ ['\r'] <:+ line.withoutTerminator := by
  unfold surplus
  rw [List.rtakeWhile_eq_nil_iff]
  constructor
  · rintro last ⟨inner, ends⟩
    refine last (by rw [← ends]; simp) ?_
    simp [← ends]
  · intro other nonempty last
    refine other ⟨line.withoutTerminator.dropLast, ?_⟩
    rw [← eq_of_beq last, List.dropLast_append_getLast]

/-- The carriage returns that are left out are nothing else. -/
theorem eq_of_mem_surplus {line : Text} {letter : Char} (inside : letter ∈ line.surplus) :
    letter = '\r' :=
  eq_of_beq (List.mem_rtakeWhile_imp (p := (· == '\r')) inside)

theorem parts_of_mem_lines {text line : Text} (inside : line ∈ text.lines) :
    line.withoutEnd ++ line.surplus ++ line.terminator = line := by
  rw [withoutEnd_append inside, withoutTerminator_append]

/-- Lines that are put together again lack as many characters as were left out of them. -/
theorem length_restored {lines : List Text}
    (parts : ∀ line ∈ lines, line.withoutEnd ++ line.surplus ++ line.terminator = line) :
    (lines.map fun line => line.withoutEnd ++ line.terminator).flatten.length +
      (lines.map surplus).flatten.length = lines.flatten.length := by
  induction lines with
  | nil => rfl
  | cons line later step =>
    have whole := congrArg List.length (parts line List.mem_cons_self)
    have rest := step fun other inside => parts other (List.mem_cons_of_mem _ inside)
    simp only [List.length_append] at whole
    simp only [List.map_cons, List.flatten_cons, List.length_append]
    omega

/-- A text is the parts that are given of its lines, each with its terminator behind it, exactly if
nothing else is left out of any line. -/
theorem flatten_restored_iff (text : Text) :
    (text.lines.map fun line => line.withoutEnd ++ line.terminator).flatten = text ↔
      ∀ line ∈ text.lines, line.surplus = [] := by
  constructor
  · intro restored
    have none : (text.lines.map surplus).flatten = [] := by
      have total := length_restored fun line (inside : line ∈ text.lines) =>
        parts_of_mem_lines inside
      rw [restored, flatten_lines] at total
      exact List.eq_nil_of_length_eq_zero (by omega)
    intro line inside
    exact List.flatten_eq_nil_iff.1 none _ (List.mem_map_of_mem inside)
  · intro none
    have each : ∀ line ∈ text.lines, line.withoutEnd ++ line.terminator = line := by
      intro line inside
      rw [(withoutEnd_eq_iff inside).2 (none line inside), withoutTerminator_append]
    rw [List.map_congr_left each, List.map_id', flatten_lines]

end Text

/-! ### What the tokenizer is given -/

namespace Document

/-- Tokenizes lines as `tokenizeLines` does, and keeps what the tokenizer is given for each line. -/
def record (tokenizer : Tokenizer) (workspace : Workspace) (state : LineState) (number : Nat) :
    List Text → List Job × Except Failure (List (List Token))
  | [] => ([], .ok [])
  | line :: later =>
    let job : Job :=
      { tokenizer, line := line.withoutEnd, ended := line.endsLine, state }
    let (report, workspace) := workspace.tokenize job
    match report.result with
    | .error stop => ([job], .error { line := number, stop })
    | .ok state =>
      let (jobs, result) := record tokenizer workspace state (number + 1) later
      (job :: jobs,
        result.map fun tokens => (Runs.ofEvents report.events.toList).tokens.toList :: tokens)

/-- Nothing changes when what the tokenizer is given is kept. -/
theorem record_result (tokenizer : Tokenizer) (workspace : Workspace) (state : LineState)
    (number : Nat) (lines : List Text) :
    (record tokenizer workspace state number lines).2 =
      tokenizeLines tokenizer workspace state number lines := by
  induction lines generalizing workspace state number with
  | nil => rfl
  | cons line later step =>
    unfold record tokenizeLines
    dsimp only
    cases (workspace.tokenize
      { tokenizer, line := line.withoutEnd, ended := line.endsLine, state }).1.result with
    | error stop => rfl
    | ok state => exact congrArg (Except.map _) (step _ _ _)

/-- The tokenizer is given every line, unless one cannot be tokenized. -/
theorem record_jobs {tokenizer : Tokenizer} {workspace : Workspace} {state : LineState}
    {number : Nat} {lines : List Text} {jobs : List Job} {tokens : List (List Token)}
    (recorded : record tokenizer workspace state number lines = (jobs, .ok tokens)) :
    jobs.map Job.line = lines.map Text.withoutEnd ∧
      jobs.map Job.ended = lines.map Text.endsLine := by
  induction lines generalizing workspace state number jobs tokens with
  | nil =>
    cases recorded
    exact ⟨rfl, rfl⟩
  | cons line later step =>
    unfold record at recorded
    dsimp only at recorded
    split at recorded
    · cases recorded
    · obtain ⟨rfl, ends⟩ := Prod.mk.inj recorded
      obtain ⟨others, done, -⟩ := exceptMap_eq_ok.1 ends
      obtain ⟨texts, flags⟩ := step (Prod.ext rfl done)
      exact ⟨congrArg (_ :: ·) texts, congrArg (_ :: ·) flags⟩

/-- Tokenizes a text as `tokenize` does, and keeps what the tokenizer is given for each line. -/
def recordText (grammar : Grammar) (text : Text) :
    List Job × Except Failure (List (List Token)) :=
  let (tokenizer, workspace) := ({ registry := none } : Workspace).add grammar {}
  let (report, workspace) := workspace.initialState tokenizer
  match report.result with
  | .error stop => ([], .error { line := 1, stop })
  | .ok state => record tokenizer workspace state 1 text.lines

theorem recordText_result (grammar : Grammar) (text : Text) :
    (recordText grammar text).2 = tokenize grammar text := by
  unfold recordText tokenize
  generalize ({ registry := none } : Workspace).add grammar {} = made
  obtain ⟨tokenizer, workspace⟩ := made
  dsimp only
  cases (workspace.initialState tokenizer).1.result with
  | error stop => rfl
  | ok state => exact record_result _ _ _ _ _

/-- What the tokenizer is given for the lines of a text, and when that is the lines without their
terminators. -/
structure Handed (text : Text) (jobs : List Job) : Prop where
  /-- For each line it is given what `Text.withoutEnd` leaves of it. -/
  texts : jobs.map Job.line = text.lines.map Text.withoutEnd
  /-- It is told which lines end with a line feed. -/
  flags : jobs.map Job.ended = text.lines.map fun line => decide (['\n'] <:+ line)
  /-- The text is cut into its lines. -/
  lines : text.IsLines text.lines
  /-- What is given of a line is left when carriage returns and the terminator are cut off. -/
  parts : ∀ line ∈ text.lines, line.withoutEnd ++ line.surplus ++ line.terminator = line ∧
    ∀ letter ∈ line.surplus, letter = '\r'
  /-- It is given the lines without their terminators exactly if no line has a carriage return right
  before its terminator. -/
  exact_iff : jobs.map Job.line = text.lines.map Text.withoutTerminator ↔
    ∀ line ∈ text.lines, ¬ ['\r'] <:+ line.withoutTerminator
  /-- Then, and only then, the text is what it is given, each line with its terminator behind it. -/
  restored_iff : (List.zipWith (· ++ ·) (jobs.map Job.line)
      (text.lines.map Text.terminator)).flatten = text ↔
    ∀ line ∈ text.lines, ¬ ['\r'] <:+ line.withoutTerminator

/-- Lines are handed to the tokenizer in order, until one cannot be tokenized. -/
theorem recordText_jobs {grammar : Grammar} {text : Text} {jobs : List Job}
    {tokens : List (List Token)} (recorded : recordText grammar text = (jobs, .ok tokens)) :
    Handed text jobs := by
  have given : jobs.map Job.line = text.lines.map Text.withoutEnd ∧
      jobs.map Job.ended = text.lines.map Text.endsLine := by
    unfold recordText at recorded
    dsimp only at recorded
    split at recorded
    · cases recorded
    · exact record_jobs recorded
  have none_iff : (∀ line ∈ text.lines, line.surplus = []) ↔
      ∀ line ∈ text.lines, ¬ ['\r'] <:+ line.withoutTerminator :=
    forall₂_congr fun line _ => Text.surplus_eq_nil_iff
  refine ⟨given.1, ?_, text.isLines_lines, ?_, ?_, ?_⟩
  · rw [given.2]
    exact List.map_congr_left fun line _ => Text.endsLine_eq line
  · intro line inside
    exact ⟨Text.parts_of_mem_lines inside, fun letter => Text.eq_of_mem_surplus⟩
  · rw [given.1, List.map_inj_left, ← none_iff]
    exact forall₂_congr fun line inside => Text.withoutEnd_eq_iff inside
  · rw [given.1, List.zipWith_map, List.zipWith_self, Text.flatten_restored_iff, none_iff]

end Document

namespace CommandLine

/-- A command that succeeds has read its arguments, the grammar and the text, and has tokenized
every line of the text. -/
theorem exists_of_succeeds {files : String → Except ReadFault String} {words : List String}
    (succeeds : (run files words).code = 0) :
    ∃ arguments description grammar text tokens, Arguments.read? words = some arguments ∧
      files arguments.grammar = .ok description ∧
      (Grammar.compileText arguments.languageOrDefault description false).result = .ok grammar ∧
      files arguments.input = .ok text ∧ Document.tokenize grammar text.toList = .ok tokens := by
  unfold run at succeeds
  split at succeeds
  · cases succeeds
  · next arguments reads =>
    split at succeeds
    · next listing done =>
      obtain ⟨description, described, done⟩ := exceptBind_eq_ok.1 done
      obtain ⟨grammar, compiled, done⟩ := exceptBind_eq_ok.1 done
      obtain ⟨text, holds, done⟩ := exceptBind_eq_ok.1 done
      obtain ⟨tokens, tokenized, -⟩ := exceptBind_eq_ok.1 done
      exact ⟨arguments, description, grammar, text, tokens, reads,
        Scanning.mapError_eq_ok.1 described, Scanning.mapError_eq_ok.1 compiled,
        Scanning.mapError_eq_ok.1 holds, Scanning.mapError_eq_ok.1 tokenized⟩
    · next failure _ => cases failure <;> cases succeeds

/-- What the tokenizer is given by a command that succeeds: for each line of the text the line
without its terminator, unless there are carriage returns right before that, and whether the line
ends with a line feed. -/
theorem lines_handed_iff {files : String → Except ReadFault String} {words : List String}
    (succeeds : (run files words).code = 0) :
    ∃ arguments description grammar text jobs tokens, Arguments.read? words = some arguments ∧
      files arguments.grammar = .ok description ∧
      (Grammar.compileText arguments.languageOrDefault description false).result = .ok grammar ∧
      files arguments.input = .ok text ∧ Document.tokenize grammar text.toList = .ok tokens ∧
      Document.recordText grammar text.toList = (jobs, .ok tokens) ∧
      Document.Handed text.toList jobs := by
  obtain ⟨arguments, description, grammar, text, tokens, reads, described, compiled, holds,
    tokenized⟩ := exists_of_succeeds succeeds
  have recorded : Document.recordText grammar text.toList =
      ((Document.recordText grammar text.toList).1, .ok tokens) :=
    Prod.ext rfl ((Document.recordText_result _ _).trans tokenized)
  exact ⟨arguments, description, grammar, text, _, tokens, reads, described, compiled, holds,
    tokenized, recorded, Document.recordText_jobs recorded⟩

/-- A description and a text. -/
def toyFiles (text path : String) : Except ReadFault String :=
  if path = "toy.json" then
    .ok "\x7b\"tokenizer\": \x7b\"main\": [[\"a\", \"x\"], [\"\\\\r\", \"cr\"]]\x7d\x7d"
  else if path = "in.txt" then .ok text
  else .error .missing

/-- The words that the command is called with for them. -/
def toyWords : List String := ["toy.json", "in.txt", "-l", "toy"]

theorem eq_of_toyFiles {text found : String} {arguments : Arguments}
    (reads : Arguments.read? toyWords = some arguments)
    (holds : toyFiles text arguments.input = .ok found) : found = text := by
  have known : Arguments.read? toyWords =
      some { grammar := "toy.json", input := "in.txt", language := some "toy", json := false } := by
    decide +kernel
  rw [known] at reads
  cases reads
  cases holds
  rfl

/-- Lines that end with a carriage return and a line feed, with a line feed alone and with nothing,
and one that has a carriage return inside. -/
theorem lines_handed_iff_mixed :
    (run (toyFiles "a\r\nb\rc\n\r\nd") toyWords).code = 0 ∧
      ∃ grammar jobs tokens,
        Document.recordText grammar "a\r\nb\rc\n\r\nd".toList = (jobs, .ok tokens) ∧
        jobs.map Job.line = ["a".toList, "b\rc".toList, [], "d".toList] ∧
        jobs.map Job.ended = [true, true, true, false] := by
  have succeeds : (run (toyFiles "a\r\nb\rc\n\r\nd") toyWords).code = 0 := by decide +kernel
  obtain ⟨arguments, description, grammar, text, jobs, tokens, reads, -, -, holds, -, recorded,
    handed⟩ := lines_handed_iff succeeds
  obtain rfl := eq_of_toyFiles reads holds
  exact ⟨succeeds, grammar, jobs, tokens, recorded,
    (handed.exact_iff.2 (by decide +kernel)).trans (by decide +kernel),
    handed.flags.trans (by decide +kernel)⟩

/-- Of a line with a carriage return right before its terminator more than the terminator is left
out. -/
theorem not_forall_lines_handed :
    ¬ ∀ (files : String → Except ReadFault String) (words : List String),
      (run files words).code = 0 →
      ∀ arguments description grammar text jobs tokens, Arguments.read? words = some arguments →
        files arguments.grammar = .ok description →
        (Grammar.compileText arguments.languageOrDefault description false).result = .ok grammar →
        files arguments.input = .ok text →
        Document.recordText grammar text.toList = (jobs, .ok tokens) →
        jobs.map Job.line = (Text.lines text.toList).map Text.withoutTerminator := by
  intro stripped
  -- Both carriage returns are cut off, and only the second one is part of the terminator.
  have succeeds : (run (toyFiles "a\r\r\n") toyWords).code = 0 := by decide +kernel
  obtain ⟨arguments, description, grammar, text, tokens, reads, described, compiled, holds,
    tokenized⟩ := exists_of_succeeds succeeds
  obtain rfl := eq_of_toyFiles reads holds
  have recorded : Document.recordText grammar "a\r\r\n".toList = (_, .ok tokens) :=
    Prod.ext rfl ((Document.recordText_result _ _).trans tokenized)
  have given := stripped _ _ succeeds _ _ _ _ _ _ reads described compiled holds recorded
  exact absurd ((Document.recordText_jobs recorded).exact_iff.1 given) (by decide +kernel)

end CommandLine

end LineLexer
