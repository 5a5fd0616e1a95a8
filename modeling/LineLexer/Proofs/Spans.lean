import LineLexer.Proofs.Anchoring

/-!
**What a match says of a text.**

An expression spans a part of a text: it takes the characters of the part one after the other, and
its assertions hold where they stand. The instructions that are written for an expression accept
only what it spans, and threads that run through them find a match only where they accept. So a
regular expression that matches somewhere in a text spans a part of it.

* `Expr.Spans`: the parts of a text that an expression spans;
* `Expr.spans_sequenceOf`: what expressions span one after the other;
* `Program.Accepts`: the ways through instructions to one that accepts;
* `Program.Realizes`, `Program.realizes_write`: instructions that go on only behind a spanned part;
* `Machine.accepts_of_run`, `Machine.accepts_of_search?`: a match is found only on such a way;
* `exists_spans_of_isMatch`: what a match says of a text.
-/

namespace LineLexer.Regex

/-! ### Parts of a text -/

/-- A spot in a text: the character before it, if there is one, and the text behind it. -/
structure Spot where
  before : Option Char
  rest : List Char

/-- The spot behind a letter. -/
def Spot.past (letter : Char) (rest : List Char) : Spot := ⟨some letter, rest⟩

/-- A number of parts, one after the other. -/
def Iterates (relates : Spot → Spot → Prop) : Nat → Spot → Spot → Prop
  | 0, start, finish => start = finish
  | count + 1, start, finish =>
    ∃ middle, relates start middle ∧ Iterates relates count middle finish

/-- The letters of a text stand between two spots. -/
def Spot.Takes : List Char → Spot → Spot → Prop
  | [], start, finish => start = finish
  | letter :: text, start, finish =>
    ∃ rest, start.rest = letter :: rest ∧ Takes text (.past letter rest) finish

namespace Expr

/-- An expression spans the part of a text between two spots. -/
def Spans : Expr → Spot → Spot → Prop
  | empty, start, finish => start = finish
  | literal text, start, finish => Spot.Takes text start finish
  | one set _, start, finish =>
    ∃ letter rest, start.rest = letter :: rest ∧ set.contains letter.toNat = true ∧
      finish = .past letter rest
  | check assertion, start, finish =>
    assertion.holds start.before start.rest.head? = true ∧ start = finish
  | sequence first second, start, finish =>
    ∃ middle, first.Spans start middle ∧ second.Spans middle finish
  | either first second, start, finish => first.Spans start finish ∨ second.Spans start finish
  | times body least most _, start, finish =>
    ∃ count, least ≤ count ∧ (∀ bound, most = some bound → count ≤ max least bound) ∧
      Iterates body.Spans count start finish
  | group _ body, start, finish => body.Spans start finish

/-- The spots between which a text is read: the letters lead from one to the other. -/
def Between (start finish : Spot) : Prop :=
  ∃ taken, start.rest = taken ++ finish.rest ∧ finish.before = taken.getLast?.or start.before

theorem between_refl (spot : Spot) : Between spot spot := ⟨[], rfl, rfl⟩

theorem between_past {start : Spot} {letter : Char} {rest : List Char}
    (stands : start.rest = letter :: rest) : Between start (.past letter rest) :=
  ⟨[letter], stands, rfl⟩

theorem Between.trans {start middle finish : Spot} (first : Between start middle)
    (second : Between middle finish) : Between start finish := by
  obtain ⟨taken, rest, before⟩ := first
  obtain ⟨more, restToo, beforeToo⟩ := second
  refine ⟨taken ++ more, ?_, ?_⟩
  · rw [rest, restToo, List.append_assoc]
  · rw [beforeToo, before, List.getLast?_append, Option.or_assoc]

theorem between_takes {text : List Char} {start finish : Spot}
    (takes : Spot.Takes text start finish) : Between start finish := by
  induction text generalizing start with
  | nil =>
    cases takes
    exact between_refl _
  | cons letter text step =>
    obtain ⟨rest, stands, takes⟩ := takes
    exact (between_past stands).trans (step takes)

theorem between_iterates {relates : Spot → Spot → Prop}
    (each : ∀ {start finish}, relates start finish → Between start finish) {count : Nat}
    {start finish : Spot} (iterates : Iterates relates count start finish) :
    Between start finish := by
  induction count generalizing start with
  | zero =>
    cases iterates
    exact between_refl _
  | succ count step =>
    obtain ⟨middle, first, others⟩ := iterates
    exact (each first).trans (step others)

/-- What an expression spans is a part of the text. -/
theorem Spans.between {expr : Expr} {start finish : Spot} (spans : expr.Spans start finish) :
    Between start finish := by
  induction expr generalizing start finish with
  | empty =>
    cases spans
    exact between_refl start
  | literal text => exact between_takes spans
  | one set ascii =>
    obtain ⟨letter, rest, stands, -, rfl⟩ := spans
    exact between_past stands
  | check assertion =>
    obtain ⟨-, rfl⟩ := spans
    exact between_refl start
  | sequence first second former latter =>
    obtain ⟨middle, first, second⟩ := spans
    exact (former first).trans (latter second)
  | either first second former latter =>
    rcases spans with first | second
    · exact former first
    · exact latter second
  | times body least most greedy step =>
    obtain ⟨count, -, -, iterates⟩ := spans
    exact between_iterates step iterates
  | group index body step => exact step spans

/-! ### Sequences -/

section Sequences

variable {expr : Expr} {exprs others : List Expr} {start finish : Spot}

/-- Expressions span parts of a text one after the other. -/
def SpanAll (exprs : List Expr) (start finish : Spot) : Prop :=
  match exprs with
  | [] => start = finish
  | expr :: exprs => ∃ middle, expr.Spans start middle ∧ SpanAll exprs middle finish

theorem spanAll_append :
    SpanAll (exprs ++ others) start finish ↔
      ∃ middle, SpanAll exprs start middle ∧ SpanAll others middle finish := by
  induction exprs generalizing start with
  | nil =>
    constructor
    · exact fun spans => ⟨start, rfl, spans⟩
    · rintro ⟨_, rfl, spans⟩
      exact spans
  | cons expr exprs step =>
    constructor
    · rintro ⟨first, spans, rest⟩
      obtain ⟨middle, former, latter⟩ := step.1 rest
      exact ⟨middle, ⟨first, spans, former⟩, latter⟩
    · rintro ⟨middle, ⟨first, spans, former⟩, latter⟩
      exact ⟨first, spans, step.2 ⟨middle, former, latter⟩⟩

theorem spanAll_singleton : SpanAll [expr] start finish ↔ expr.Spans start finish := by
  constructor
  · rintro ⟨_, spans, rfl⟩
    exact spans
  · exact fun spans => ⟨finish, spans, rfl⟩

/-- What an expression spans is what its parts span. -/
theorem spanAll_parts : SpanAll expr.parts start finish ↔ expr.Spans start finish := by
  induction expr generalizing start with
  | empty => exact Iff.rfl
  | sequence first rest _ step =>
    refine exists_congr fun middle => ?_
    rw [step]
  | literal | one | check | either | times | group => exact spanAll_singleton

theorem spans_ofParts : (ofParts exprs).Spans start finish ↔ SpanAll exprs start finish := by
  induction exprs generalizing start with
  | nil => exact Iff.rfl
  | cons first rest step =>
    cases rest with
    | nil => exact spanAll_singleton.symm
    | cons second rest => exact exists_congr fun middle => and_congr_right fun _ => step

theorem takes_append {text more : List Char} :
    Spot.Takes (text ++ more) start finish ↔
      ∃ middle, Spot.Takes text start middle ∧ Spot.Takes more middle finish := by
  induction text generalizing start with
  | nil =>
    constructor
    · exact fun takes => ⟨start, rfl, takes⟩
    · rintro ⟨_, rfl, takes⟩
      exact takes
  | cons letter text step =>
    constructor
    · rintro ⟨rest, stands, takes⟩
      obtain ⟨middle, former, latter⟩ := step.1 takes
      exact ⟨middle, ⟨rest, stands, former⟩, latter⟩
    · rintro ⟨middle, ⟨rest, stands, former⟩, latter⟩
      exact ⟨rest, stands, step.2 ⟨middle, former, latter⟩⟩

/-- One text takes what two texts take one after the other. -/
theorem spanAll_consPart :
    SpanAll (consPart expr exprs) start finish ↔ SpanAll (expr :: exprs) start finish := by
  unfold consPart
  split
  · next text next rest =>
    constructor
    · rintro ⟨last, takes, spans⟩
      obtain ⟨middle, former, latter⟩ := takes_append.1 takes
      exact ⟨middle, former, last, latter, spans⟩
    · rintro ⟨middle, former, last, latter, spans⟩
      exact ⟨last, takes_append.2 ⟨middle, former, latter⟩, spans⟩
  · exact Iff.rfl

/-- What a sequence spans is what its expressions span one after the other. -/
theorem spans_sequenceOf :
    (sequenceOf exprs).Spans start finish ↔ SpanAll exprs start finish := by
  have flat : SpanAll (exprs.flatMap parts) start finish ↔ SpanAll exprs start finish := by
    induction exprs generalizing start with
    | nil => exact Iff.rfl
    | cons expr exprs step =>
      rw [List.flatMap_cons, spanAll_append]
      exact exists_congr fun middle => and_congr spanAll_parts step
  have joined (listed : List Expr) {start : Spot} :
      SpanAll (listed.foldr consPart []) start finish ↔ SpanAll listed start finish := by
    induction listed generalizing start with
    | nil => exact Iff.rfl
    | cons expr listed step =>
      rw [List.foldr_cons, spanAll_consPart]
      exact exists_congr fun middle => and_congr_right fun _ => step
  unfold sequenceOf
  rw [spans_ofParts, joined, flat]

end Sequences

end Expr

/-! ### Ways through instructions -/

namespace Program

variable {code written full : Array Instruction} {place next steps : Nat} {spot : Spot}
  {instruction : Instruction}

/-- From a place in a program a number of instructions lead to one that accepts. -/
def Accepts (code : Array Instruction) : Nat → Nat → Spot → Prop
  | 0, place, _ => code[place]? = some .accept
  | steps + 1, place, spot =>
    match code[place]? with
    | some (.take set next) => ∃ letter rest, spot.rest = letter :: rest ∧
        set.contains letter.toNat = true ∧ Accepts code steps next (.past letter rest)
    | some (.branch first second) =>
      Accepts code steps first spot ∨ Accepts code steps second spot
    | some (.check assertion next) =>
      assertion.holds spot.before spot.rest.head? = true ∧ Accepts code steps next spot
    | some (.save _ next) => Accepts code steps next spot
    | _ => False

/-- What is reached by an instruction that does not accept takes fewer steps from there. -/
theorem Accepts.exists_step (accepts : Accepts code steps place spot)
    (here : code[place]? = some instruction) (other : instruction ≠ .accept) :
    ∃ fewer, steps = fewer + 1 := by
  cases steps with
  | zero =>
    rw [Accepts, here] at accepts
    exact absurd (Option.some.inj accepts) other
  | succ fewer => exact ⟨fewer, rfl⟩

theorem accepts_take {set : CodeRanges} (accepts : Accepts code steps place spot)
    (here : code[place]? = some (.take set next)) :
    ∃ fewer < steps, ∃ letter rest, spot.rest = letter :: rest ∧
      set.contains letter.toNat = true ∧ Accepts code fewer next (.past letter rest) := by
  obtain ⟨fewer, rfl⟩ := accepts.exists_step here (by nofun)
  rw [Accepts, here] at accepts
  exact ⟨fewer, Nat.lt_succ_self _, accepts⟩

theorem accepts_branch {first second : Nat} (accepts : Accepts code steps place spot)
    (here : code[place]? = some (.branch first second)) :
    ∃ fewer < steps, Accepts code fewer first spot ∨ Accepts code fewer second spot := by
  obtain ⟨fewer, rfl⟩ := accepts.exists_step here (by nofun)
  rw [Accepts, here] at accepts
  exact ⟨fewer, Nat.lt_succ_self _, accepts⟩

theorem accepts_check {assertion : Assertion} (accepts : Accepts code steps place spot)
    (here : code[place]? = some (.check assertion next)) :
    ∃ fewer < steps, assertion.holds spot.before spot.rest.head? = true ∧
      Accepts code fewer next spot := by
  obtain ⟨fewer, rfl⟩ := accepts.exists_step here (by nofun)
  rw [Accepts, here] at accepts
  exact ⟨fewer, Nat.lt_succ_self _, accepts⟩

theorem accepts_save {slot : Nat} (accepts : Accepts code steps place spot)
    (here : code[place]? = some (.save slot next)) :
    ∃ fewer < steps, Accepts code fewer next spot := by
  obtain ⟨fewer, rfl⟩ := accepts.exists_step here (by nofun)
  rw [Accepts, here] at accepts
  exact ⟨fewer, Nat.lt_succ_self _, accepts⟩

theorem accepts_choice {greedy : Bool} {entry : Nat} (accepts : Accepts code steps place spot)
    (here : code[place]? = some (choice greedy entry next)) :
    ∃ fewer < steps, Accepts code fewer entry spot ∨ Accepts code fewer next spot := by
  unfold choice at here
  split at here
  · exact accepts_branch accepts here
  · obtain ⟨fewer, less, leads⟩ := accepts_branch accepts here
    exact ⟨fewer, less, leads.symm⟩

/-! ### Instructions for expressions -/

/-- A program has the instructions that were written from a place on. -/
def Agrees (full written : Array Instruction) (low : Nat) : Prop :=
  ∀ place, low ≤ place → place < written.size → full[place]? = written[place]?

/-- What is written leaves earlier instructions as they are. And in every program that has it, what
is accepted from its entry on starts with a part of the text that is related to it, behind which the
program goes on with the next instruction. -/
structure Realizes (writer : Writer) (relates : Spot → Spot → Prop) : Prop where
  grows : ∀ next code, code.size ≤ (writer next code).2.size
  keeps : ∀ next code place, place < code.size → (writer next code).2[place]? = code[place]?
  sound : ∀ next code full steps spot, Agrees full (writer next code).2 code.size →
    Accepts full steps (writer next code).1 spot →
    ∃ fewer ≤ steps, ∃ finish, relates spot finish ∧ Accepts full fewer next finish

theorem getElem?_emit (instruction : Instruction) (inside : place < code.size) :
    (emit code instruction).2[place]? = code[place]? := by
  show (code.push instruction)[place]? = code[place]?
  rw [Array.getElem?_push, if_neg (Nat.ne_of_lt inside)]

theorem realizes_nothing : Realizes (fun next code => (next, code)) (· = ·) where
  grows _ _ := Nat.le_refl _
  keeps _ _ _ _ := rfl
  sound _ _ _ steps spot _ accepts := ⟨steps, Nat.le_refl _, spot, rfl, accepts⟩

theorem Realizes.mono {writer : Writer} {relates weaker : Spot → Spot → Prop}
    (realizes : Realizes writer relates)
    (implies : ∀ start finish, relates start finish → weaker start finish) :
    Realizes writer weaker where
  grows := realizes.grows
  keeps := realizes.keeps
  sound next code full steps spot agrees accepts := by
    obtain ⟨fewer, less, finish, related, goes⟩ :=
      realizes.sound next code full steps spot agrees accepts
    exact ⟨fewer, less, finish, implies _ _ related, goes⟩

/-- Of two parts the second one is written first. -/
def both (first second : Writer) : Writer := fun next code =>
  let (entry, code) := second next code
  first entry code

/-- A program that has both parts has each of them. -/
theorem agrees_of_both {first second : Writer} {relates relatesToo : Spot → Spot → Prop}
    (former : Realizes first relates) (latter : Realizes second relatesToo)
    (agrees : Agrees full (both first second next code).2 code.size) :
    Agrees full (both first second next code).2 (second next code).2.size ∧
      Agrees full (second next code).2 code.size := by
  refine ⟨fun place low high => agrees place (Nat.le_trans (latter.grows _ _) low) high, ?_⟩
  intro place low high
  rw [agrees place low (Nat.lt_of_lt_of_le high (former.grows _ _))]
  exact former.keeps _ _ place high

theorem realizes_both {first second : Writer} {relates relatesToo : Spot → Spot → Prop}
    (former : Realizes first relates) (latter : Realizes second relatesToo) :
    Realizes (both first second) fun start finish =>
      ∃ middle, relates start middle ∧ relatesToo middle finish where
  grows next code := Nat.le_trans (latter.grows next code) (former.grows _ _)
  keeps next code place inside := by
    have earlier := latter.keeps next code place inside
    exact (former.keeps _ _ place (Nat.lt_of_lt_of_le inside (latter.grows _ _))).trans earlier
  sound next code full steps spot agrees accepts := by
    obtain ⟨behind, within⟩ := agrees_of_both former latter agrees
    obtain ⟨fewer, less, middle, related, goes⟩ :=
      former.sound _ _ full steps spot behind accepts
    obtain ⟨fewest, lesser, finish, relatedToo, goesOn⟩ :=
      latter.sound next code full fewer middle within goes
    exact ⟨fewest, Nat.le_trans lesser less, finish, ⟨middle, related, relatedToo⟩, goesOn⟩

/-- A program that has an instruction has it where it was written. -/
theorem getElem?_of_agrees (agrees : Agrees full (emit code instruction).2 code.size) :
    full[code.size]? = some instruction := by
  rw [agrees code.size (Nat.le_refl _) (Array.size_push _ ▸ Nat.lt_succ_self _)]
  exact Array.getElem?_push_size

/-- One instruction, which is not the one that accepts. -/
theorem realizes_emit {instruction : Nat → Instruction} {relates : Spot → Spot → Prop}
    (leads : ∀ {full : Array Instruction} {place next steps : Nat} {spot : Spot},
      Accepts full steps place spot → full[place]? = some (instruction next) →
      ∃ fewer < steps, ∃ finish, relates spot finish ∧ Accepts full fewer next finish) :
    Realizes (fun next code => emit code (instruction next)) relates where
  grows next code := Array.size_push _ ▸ Nat.le_succ _
  keeps next code place inside := getElem?_emit _ inside
  sound next code full steps spot agrees accepts := by
    obtain ⟨fewer, less, found⟩ := leads accepts (getElem?_of_agrees agrees)
    exact ⟨fewer, Nat.le_of_lt less, found⟩

theorem realizes_take (set : CodeRanges) :
    Realizes (fun next code => emit code (.take set next)) fun start finish =>
      ∃ letter rest, start.rest = letter :: rest ∧ set.contains letter.toNat = true ∧
        finish = .past letter rest := by
  refine realizes_emit fun accepts here => ?_
  obtain ⟨fewer, less, letter, rest, stands, inside, goes⟩ := accepts_take accepts here
  exact ⟨fewer, less, _, ⟨letter, rest, stands, inside, rfl⟩, goes⟩

theorem realizes_check (assertion : Assertion) :
    Realizes (fun next code => emit code (.check assertion next)) fun start finish =>
      assertion.holds start.before start.rest.head? = true ∧ start = finish := by
  refine realizes_emit fun accepts here => ?_
  obtain ⟨fewer, less, holds, goes⟩ := accepts_check accepts here
  exact ⟨fewer, less, _, ⟨holds, rfl⟩, goes⟩

theorem realizes_save (slot : Nat) :
    Realizes (fun next code => emit code (.save slot next)) (· = ·) := by
  refine realizes_emit fun accepts here => ?_
  obtain ⟨fewer, less, goes⟩ := accepts_save accepts here
  exact ⟨fewer, less, _, rfl, goes⟩

theorem contains_single {code other : Nat} :
    (CodeRanges.single code).contains other = true ↔ other = code := by
  unfold CodeRanges.single CodeRanges.contains CodeRanges.contains
  split
  · simp; omega
  · split
    · simp; omega
    · simp; omega

theorem realizes_literal (text : List Char) :
    Realizes (write (.literal text)) (Spot.Takes text) := by
  induction text with
  | nil => exact realizes_nothing
  | cons letter text step =>
    have one := realizes_both (realizes_take (.single letter.toNat)) step
    refine (show Realizes (write (.literal (letter :: text))) _ from one).mono ?_
    rintro start finish ⟨middle, ⟨other, rest, stands, inside, rfl⟩, takes⟩
    have same : other = letter := Char.toNat_inj.1 (contains_single.1 inside)
    rw [same] at stands takes
    exact ⟨rest, stands, takes⟩

/-- An instruction behind others is where it was written, and they are where they were. -/
theorem agrees_of_emit {low : Nat} (grows : low ≤ written.size)
    (agrees : Agrees full (emit written instruction).2 low) :
    full[written.size]? = some instruction ∧ Agrees full written low := by
  have pushed : (emit written instruction).2.size = written.size + 1 := Array.size_push _
  constructor
  · rw [agrees written.size grows (by omega)]
    exact Array.getElem?_push_size
  · intro place above inside
    rw [agrees place above (by omega)]
    exact getElem?_emit instruction inside

/-- Instructions in front of one that is written behind them are there first. -/
theorem Realizes.grows_emit {writer : Writer} {relates : Spot → Spot → Prop}
    (realizes : Realizes writer relates) (next : Nat) (code : Array Instruction)
    (instruction : Instruction) :
    code.size ≤ (emit (writer next code).2 instruction).2.size ∧
      ∀ place, place < code.size →
        (emit (writer next code).2 instruction).2[place]? = code[place]? := by
  have grows := realizes.grows next code
  have pushed : (emit (writer next code).2 instruction).2.size = (writer next code).2.size + 1 :=
    Array.size_push _
  refine ⟨by omega, fun place inside => ?_⟩
  have behind : place < (writer next code).2.size := Nat.lt_of_lt_of_le inside grows
  rw [← realizes.keeps next code place inside]
  exact getElem?_emit instruction behind

/-- A program that has two parts and the branch behind them has each of them. -/
theorem agrees_of_either {first second : Writer} {relates relatesToo : Spot → Spot → Prop}
    (former : Realizes first relates) (latter : Realizes second relatesToo)
    (agrees : Agrees full (emit (second next (first next code).2).2
      (.branch (first next code).1 (second next (first next code).2).1)).2 code.size) :
    full[(second next (first next code).2).2.size]? =
        some (.branch (first next code).1 (second next (first next code).2).1) ∧
      Agrees full (first next code).2 code.size ∧
      Agrees full (second next (first next code).2).2 (first next code).2.size := by
  have growsLeft := former.grows next code
  have growsRight := latter.grows next (first next code).2
  obtain ⟨here, within⟩ := agrees_of_emit (Nat.le_trans growsLeft growsRight) agrees
  refine ⟨here, fun place low high => ?_,
    fun place low high => within place (Nat.le_trans growsLeft low) high⟩
  rw [within place low (Nat.lt_of_lt_of_le high growsRight)]
  exact latter.keeps next _ place high

/-- Two parts of which either is entered from a branch. -/
theorem realizes_either {first second : Writer} {relates relatesToo : Spot → Spot → Prop}
    (former : Realizes first relates) (latter : Realizes second relatesToo) :
    Realizes (fun next code => emit (second next (first next code).2).2
        (.branch (first next code).1 (second next (first next code).2).1))
      fun start finish => relates start finish ∨ relatesToo start finish where
  grows next code := by
    exact Nat.le_trans (former.grows next code) (latter.grows_emit next _ _).1
  keeps next code place inside := by
    have between := Nat.lt_of_lt_of_le inside (former.grows next code)
    rw [(latter.grows_emit next _ _).2 place between]
    exact former.keeps next code place inside
  sound next code full steps spot agrees accepts := by
    obtain ⟨here, withinLeft, withinRight⟩ := agrees_of_either former latter agrees
    obtain ⟨fewer, less, goes | goes⟩ := accepts_branch accepts here
    · obtain ⟨fewest, lesser, finish, related, goesOn⟩ :=
        former.sound next code full fewer spot withinLeft goes
      exact ⟨fewest, Nat.le_trans lesser (Nat.le_of_lt less), finish, .inl related, goesOn⟩
    · obtain ⟨fewest, lesser, finish, related, goesOn⟩ :=
        latter.sound next _ full fewer spot withinRight goes
      exact ⟨fewest, Nat.le_trans lesser (Nat.le_of_lt less), finish, .inr related, goesOn⟩

section Repeating

variable {body : Writer} {relates : Spot → Spot → Prop}

/-- A part written a number of times is passed as often. -/
theorem realizes_replicate (realizes : Realizes body relates) (count : Nat) :
    Realizes (replicate body count) (Iterates relates count) := by
  induction count with
  | zero => exact realizes_nothing
  | succ count step => exact realizes_both realizes step

/-- A part in front of a branch that may go on without it. -/
theorem realizes_skippable (realizes : Realizes body relates) (greedy : Bool) :
    Realizes (fun next code => emit (body next code).2 (choice greedy (body next code).1 next))
      fun start finish => start = finish ∨ relates start finish where
  grows next code := (realizes.grows_emit next code _).1
  keeps next code := (realizes.grows_emit next code _).2
  sound next code full steps spot agrees accepts := by
    obtain ⟨here, within⟩ := agrees_of_emit (realizes.grows next code) agrees
    obtain ⟨fewer, less, goes | goes⟩ := accepts_choice accepts here
    · obtain ⟨fewest, lesser, finish, related, goesOn⟩ :=
        realizes.sound next code full fewer spot within goes
      exact ⟨fewest, Nat.le_trans lesser (Nat.le_of_lt less), finish, .inr related, goesOn⟩
    · exact ⟨fewer, Nat.le_of_lt less, spot, .inl rfl, goes⟩

/-- A part written as optional a number of times is passed as often at most. -/
theorem realizes_optional (realizes : Realizes body relates) (greedy : Bool) (count : Nat) :
    Realizes (fun next code => optional body greedy next count code) fun start finish =>
      ∃ passed ≤ count, Iterates relates passed start finish := by
  induction count with
  | zero =>
    refine realizes_nothing.mono ?_
    rintro start finish rfl
    exact ⟨0, Nat.le_refl _, rfl⟩
  | succ count step =>
    refine (show Realizes (fun next code => optional body greedy next (count + 1) code) _ from
      realizes_skippable (realizes_both realizes step) greedy).mono ?_
    rintro start finish (rfl | ⟨middle, related, passed, less, iterates⟩)
    · exact ⟨0, Nat.zero_le _, rfl⟩
    · exact ⟨passed + 1, Nat.succ_le_succ less, middle, related, iterates⟩

/-- The instructions of a loop: its place for the branch first, its body behind it. -/
theorem loop_eq (body : Writer) (greedy : Bool) (next : Nat) (code : Array Instruction) :
    loop body greedy next code = ((body code.size (code.push .accept)).1, code.size,
      (body code.size (code.push .accept)).2.setIfInBounds code.size
        (choice greedy (body code.size (code.push .accept)).1 next)) := rfl

/-- A program that has a loop has its branch in the place that was reserved, and its body behind
it. -/
theorem agrees_of_loop (realizes : Realizes body relates) {greedy : Bool} {next : Nat}
    (agrees : Agrees full (loop body greedy next code).2.2 code.size) :
    full[code.size]? = some (choice greedy (body code.size (code.push .accept)).1 next) ∧
      Agrees full (body code.size (code.push .accept)).2 (code.push .accept).size := by
  rw [loop_eq] at agrees
  dsimp only at agrees
  have reserved : (code.push .accept).size = code.size + 1 := Array.size_push _
  have grows := realizes.grows code.size (code.push .accept)
  have inside : code.size < (body code.size (code.push .accept)).2.size := by omega
  constructor
  · rw [agrees code.size (Nat.le_refl _) (by rwa [Array.size_setIfInBounds])]
    exact Array.getElem?_setIfInBounds_self_of_lt inside
  · intro place low high
    rw [agrees place (by omega) (by rwa [Array.size_setIfInBounds])]
    exact Array.getElem?_setIfInBounds_ne (by omega)

/-- A loop goes on behind a number of passages, one at least where it is entered at its body. -/
theorem sound_loop (realizes : Realizes body relates) (greedy : Bool) {next : Nat}
    (agrees : Agrees full (loop body greedy next code).2.2 code.size) :
    (Accepts full steps (loop body greedy next code).2.1 spot →
      ∃ fewer ≤ steps, ∃ finish count, Iterates relates count spot finish ∧
        Accepts full fewer next finish) ∧
    (Accepts full steps (loop body greedy next code).1 spot →
      ∃ fewer ≤ steps, ∃ finish count, Iterates relates (count + 1) spot finish ∧
        Accepts full fewer next finish) := by
  obtain ⟨here, within⟩ := agrees_of_loop realizes agrees
  rw [loop_eq]
  dsimp only
  have again : ∀ steps spot, Accepts full steps code.size spot → ∃ fewer ≤ steps, ∃ finish count,
      Iterates relates count spot finish ∧ Accepts full fewer next finish := by
    intro steps
    induction steps using Nat.strongRecOn with
    | ind steps step =>
      intro spot accepts
      obtain ⟨fewer, less, goes | goes⟩ := accepts_choice accepts here
      · obtain ⟨fewest, lesser, middle, related, goesOn⟩ :=
          realizes.sound _ _ full fewer spot within goes
        obtain ⟨last, least, finish, count, iterates, ends⟩ :=
          step fewest (by omega) middle goesOn
        exact ⟨last, by omega, finish, count + 1, ⟨middle, related, iterates⟩, ends⟩
      · exact ⟨fewer, Nat.le_of_lt less, spot, 0, rfl, goes⟩
  refine ⟨again steps spot, ?_⟩
  intro accepts
  obtain ⟨fewer, less, middle, related, goesOn⟩ :=
    realizes.sound _ _ full steps spot within accepts
  obtain ⟨fewest, lesser, finish, count, iterates, ends⟩ := again fewer middle goesOn
  exact ⟨fewest, Nat.le_trans lesser less, finish, count, ⟨middle, related, iterates⟩, ends⟩

/-- A loop leaves earlier instructions as they are. -/
theorem loop_grows (realizes : Realizes body relates) (greedy : Bool) (next : Nat)
    (code : Array Instruction) : code.size ≤ (loop body greedy next code).2.2.size ∧
      ∀ place, place < code.size → (loop body greedy next code).2.2[place]? = code[place]? := by
  rw [loop_eq]
  dsimp only
  have reserved : (code.push Instruction.accept).size = code.size + 1 := Array.size_push _
  have grows := realizes.grows code.size (code.push .accept)
  rw [Array.size_setIfInBounds]
  refine ⟨by omega, fun place inside => ?_⟩
  rw [Array.getElem?_setIfInBounds_ne (by omega), realizes.keeps _ _ place (by omega)]
  exact getElem?_emit .accept inside

/-- A loop that is entered at its body is passed once at least. -/
theorem realizes_loop (realizes : Realizes body relates) (greedy : Bool) :
    Realizes (fun next code =>
        ((loop body greedy next code).1, (loop body greedy next code).2.2))
      fun start finish => ∃ count, Iterates relates (count + 1) start finish where
  grows next code := (loop_grows realizes greedy next code).1
  keeps next code := (loop_grows realizes greedy next code).2
  sound next code full steps spot agrees accepts := by
    obtain ⟨fewer, less, finish, count, iterates, goes⟩ :=
      (sound_loop realizes greedy agrees).2 accepts
    exact ⟨fewer, less, finish, ⟨count, iterates⟩, goes⟩

/-- A loop that is entered at its branch is passed any number of times. -/
theorem realizes_loop_again (realizes : Realizes body relates) (greedy : Bool) :
    Realizes (fun next code => (loop body greedy next code).2) fun start finish =>
      ∃ count, Iterates relates count start finish where
  grows next code := (loop_grows realizes greedy next code).1
  keeps next code := (loop_grows realizes greedy next code).2
  sound next code full steps spot agrees accepts := by
    obtain ⟨fewer, less, finish, count, iterates, goes⟩ :=
      (sound_loop realizes greedy agrees).1 accepts
    exact ⟨fewer, less, finish, ⟨count, iterates⟩, goes⟩

theorem iterates_add {first second : Nat} {start middle finish : Spot}
    (former : Iterates relates first start middle)
    (latter : Iterates relates second middle finish) :
    Iterates relates (first + second) start finish := by
  induction first generalizing start with
  | zero =>
    cases former
    rw [Nat.zero_add]
    exact latter
  | succ first step =>
    obtain ⟨between, one, others⟩ := former
    rw [Nat.add_right_comm]
    exact ⟨between, one, step others⟩

/-- A repetition of a body that can be empty is entered behind a branch of its own. -/
theorem write_star_of_empty {body : Expr} (empty : body.matchesEmpty = true) (greedy : Bool) :
    write (.times body 0 none greedy) = fun next code =>
      emit (loop (write body) greedy next code).2.2
        (choice greedy (loop (write body) greedy next code).1 next) := by
  funext next code
  show (if body.matchesEmpty then _ else _) = _
  rw [empty]
  rfl

theorem write_star_of_filled {body : Expr} (filled : body.matchesEmpty = false) (greedy : Bool) :
    write (.times body 0 none greedy) =
      fun next code => (loop (write body) greedy next code).2 := by
  funext next code
  show (if body.matchesEmpty then _ else _) = _
  rw [filled]
  rfl

end Repeating

/-- The instructions of an expression accept what it spans, and whatever follows it. -/
theorem realizes_write (expr : Expr) : Realizes (write expr) expr.Spans := by
  induction expr with
  | empty => exact realizes_nothing
  | literal text => exact realizes_literal text
  | one set ascii => exact realizes_take set
  | check assertion => exact realizes_check assertion
  | sequence first second former latter => exact realizes_both former latter
  | either first second former latter => exact realizes_either former latter
  | times body least most greedy step =>
    cases most with
    | some most =>
      have whole := realizes_both (realizes_replicate step least)
        (realizes_optional step greedy (most - least))
      refine (show Realizes (write (.times body least (some most) greedy)) _ from whole).mono ?_
      rintro start finish ⟨middle, required, passed, less, optional⟩
      refine ⟨least + passed, Nat.le_add_right _ _, ?_, iterates_add required optional⟩
      intro bound same
      cases same
      omega
    | none =>
      cases least with
      | zero =>
        have any : ∀ start finish, (∃ count, Iterates body.Spans count start finish) →
            (Expr.times body 0 none greedy).Spans start finish := by
          rintro start finish ⟨count, iterates⟩
          exact ⟨count, Nat.zero_le _, nofun, iterates⟩
        cases empty : body.matchesEmpty with
        | true =>
          have entered := realizes_skippable (realizes_loop step greedy) greedy
          rw [write_star_of_empty empty]
          refine entered.mono ?_
          rintro start finish (rfl | ⟨count, iterates⟩)
          · exact any _ _ ⟨0, rfl⟩
          · exact any _ _ ⟨count + 1, iterates⟩
        | false =>
          rw [write_star_of_filled empty]
          exact (realizes_loop_again step greedy).mono any
      | succ least =>
        have whole := realizes_both (realizes_replicate step least) (realizes_loop step greedy)
        refine (show Realizes (write (.times body (least + 1) none greedy)) _ from whole).mono ?_
        rintro start finish ⟨middle, required, count, looped⟩
        refine ⟨least + (count + 1), by omega, nofun, iterates_add required looped⟩
  | group index body step =>
    have inner := realizes_both step (realizes_save (2 * index + 1))
    have whole := realizes_both (realizes_save (2 * index)) inner
    refine (show Realizes (write (.group index body)) _ from whole).mono ?_
    rintro start finish ⟨middle, rfl, between, spans, rfl⟩
    exact spans

/-- The program of an expression accepts what the expression spans. -/
theorem exists_spans_of_accepts {expr : Expr}
    (accepts : Accepts (ofExpr expr).code steps (ofExpr expr).start spot) :
    ∃ finish, expr.Spans spot finish := by
  obtain ⟨-, -, finish, spans, -⟩ := (realizes_write (.group 0 expr)).sound 0 #[.accept]
    (ofExpr expr).code steps spot (fun place low high => rfl) accepts
  exact ⟨finish, spans⟩

end Program

/-! ### Threads -/

namespace Machine

open Program

variable {program : Program} {code : Array Instruction} {thread : Thread}
  {threads todo reached : List Thread} {position here steps seen : Nat} {before : Option Char}
  {slots : List (Option Nat)} {best : Option (List (Option Nat))} {rest : List Char} {spot : Spot}
  {goal : Prop}

/-- Whatever is accepted from where a thread stands, a goal is reached. -/
def Leads (code : Array Instruction) (goal : Prop) (spot : Spot) (thread : Thread) : Prop :=
  ∀ steps, Accepts code steps thread.place spot → goal

/-- What threads reach without taking a character leads where they lead. -/
theorem leads_follow (here steps seen : Nat)
    (waiting : ∀ thread ∈ todo, Leads code goal spot thread)
    (done : ∀ thread ∈ reached, Leads code goal spot thread) :
    ∀ thread ∈ follow code spot.before spot.rest.head? here steps todo seen reached,
      Leads code goal spot thread := by
  induction steps generalizing todo seen reached with
  | zero => exact fun thread inside => done thread (List.mem_reverse.1 inside)
  | succ steps step =>
    cases todo with
    | nil => exact fun thread inside => done thread (List.mem_reverse.1 inside)
    | cons thread todo =>
      obtain ⟨leads, others⟩ := List.forall_mem_cons.1 waiting
      -- an instruction in front of what is accepted takes one more step
      have before : ∀ {next slots}, (∀ count, Accepts code count next spot →
          Accepts code (count + 1) thread.place spot) → Leads code goal spot ⟨next, slots⟩ :=
        fun goes count accepts => leads _ (goes count accepts)
      unfold follow
      split
      · exact step _ others done
      · dsimp only
        split
        · next first second here =>
          refine step _ (List.forall_mem_cons.2 ⟨before fun count accepts => ?_,
            List.forall_mem_cons.2 ⟨before fun count accepts => ?_, others⟩⟩) done
          · rw [Accepts, here]
            exact .inl accepts
          · rw [Accepts, here]
            exact .inr accepts
        · next assertion next here =>
          split
          · next holds =>
            refine step _ (List.forall_mem_cons.2 ⟨before fun count accepts => ?_, others⟩) done
            rw [Accepts, here]
            exact ⟨holds, accepts⟩
          · exact step _ others done
        · next slot next here =>
          refine step _ (List.forall_mem_cons.2 ⟨before fun count accepts => ?_, others⟩) done
          rw [Accepts, here]
          exact accepts
        · exact step _ others (List.forall_mem_cons.2 ⟨leads, done⟩)
        · exact step _ others (List.forall_mem_cons.2 ⟨leads, done⟩)
        · exact step _ others done

/-- A match that is found is a thread that leads to the goal. -/
theorem goal_of_untilMatch (leads : ∀ thread ∈ threads, Leads code goal spot thread)
    (found : (untilMatch code threads).2 = some slots) : goal := by
  induction threads with
  | nil => cases found
  | cons thread threads step =>
    obtain ⟨first, others⟩ := List.forall_mem_cons.1 leads
    unfold untilMatch at found
    split at found
    · next accepts => exact first 0 accepts
    · exact step others found

/-- A thread that takes a character leads where it led. -/
theorem leads_advance? {letter : Char} {moved : Thread} (stands : spot.rest = letter :: rest)
    (leads : Leads code goal spot thread) (moves : advance? code letter thread = some moved) :
    Leads code goal (.past letter rest) moved := by
  unfold advance? at moves
  split at moves
  · next set next here =>
    split at moves
    · next inside =>
      cases moves
      intro count accepts
      refine leads (count + 1) ?_
      rw [Accepts, here]
      exact ⟨letter, rest, stands, inside, accepts⟩
    · cases moves
  · cases moves

theorem goal_of_best (leads : ∀ thread ∈ threads, Leads code goal spot thread)
    (earlier : ∀ slots, best = some slots → goal)
    (found : (untilMatch code threads).2.or best = some slots) : goal := by
  rcases Option.or_eq_some_iff.1 found with here | ⟨-, before⟩
  · exact goal_of_untilMatch leads here
  · exact earlier slots before

/-- A run that finds a match reaches the goal to which its threads lead. -/
theorem goal_of_runThreads
    (leads : ∀ thread ∈ threads, Leads program.code goal ⟨before, rest⟩ thread)
    (earlier : ∀ slots, best = some slots → goal)
    (found : runThreads program before position threads best rest = some slots) : goal := by
  induction rest generalizing before position threads best with
  | nil =>
    have followed := leads_follow position (threads.length + 2 * program.code.size + 1) 0
      leads (List.forall_mem_nil _)
    exact goal_of_best followed earlier found
  | cons letter rest step =>
    have followed := leads_follow position (threads.length + 2 * program.code.size + 1) 0
      leads (List.forall_mem_nil _)
    unfold runThreads at found
    dsimp only at found
    split at found
    · exact goal_of_best followed earlier found
    · refine step ?_ (fun slots found => goal_of_best followed earlier found) found
      intro moved inside
      obtain ⟨thread, waits, moves⟩ := List.mem_filterMap.1 inside
      exact leads_advance? rfl (followed thread ((untilMatch_subset _ _).1 waits)) moves

/-- A match is found only where the program accepts. -/
theorem accepts_of_run (found : run program before position rest = some slots) :
    ∃ steps, Accepts program.code steps program.start ⟨before, rest⟩ := by
  refine goal_of_runThreads (List.forall_mem_singleton.2 ?_) (fun slots none => ?_) found
  · exact fun steps accepts => ⟨steps, accepts⟩
  · cases none

/-- A match is found only from a spot from which the program accepts, and only at the start where
matches have to start with the text. -/
theorem accepts_of_search? {startsText : Bool}
    (found : search? program startsText before position rest = some slots) :
    ∃ skipped later, rest = skipped ++ later ∧ (startsText = true → skipped = []) ∧
      ∃ steps, Accepts program.code steps program.start ⟨skipped.getLast?.or before, later⟩ := by
  induction rest generalizing before position with
  | nil =>
    obtain ⟨steps, accepts⟩ := accepts_of_run found
    exact ⟨[], [], rfl, fun _ => rfl, steps, accepts⟩
  | cons letter rest step =>
    unfold search? at found
    split at found
    · next slots ran =>
      obtain ⟨steps, accepts⟩ := accepts_of_run ran
      exact ⟨[], letter :: rest, rfl, fun _ => rfl, steps, accepts⟩
    · split at found
      · cases found
      · next anywhere =>
        obtain ⟨skipped, later, rfl, -, steps, accepts⟩ := step found
        refine ⟨letter :: skipped, later, rfl, fun starts => absurd starts anywhere, steps, ?_⟩
        have last : skipped.getLast?.or (some letter) = some (skipped.getLast?.getD letter) := by
          cases skipped.getLast? <;> rfl
        rw [last] at accepts
        rw [List.getLast?_cons, Option.some_or]
        exact accepts

end Machine

/-- A regular expression that matches in a text spans a part of it, which is one at the start of the
text where matches have to start with it. -/
theorem exists_spans_of_isMatch {regex : Regex} {ignoreCase : Bool} {pattern : String}
    {text : Text} (compiled : compile ignoreCase pattern = .ok regex)
    (matched : regex.isMatch text = true) :
    ∃ expr, Expr.read? { ignoreCase } pattern = some expr ∧
      ∃ skipped later finish, text = skipped ++ later ∧ (expr.startsText = true → skipped = []) ∧
        expr.Spans ⟨skipped.getLast?, later⟩ finish := by
  unfold compile at compiled
  split at compiled
  · cases compiled
  · next expr read =>
    split at compiled
    · cases compiled
      unfold isMatch find? at matched
      rw [Option.isSome_map] at matched
      obtain ⟨slots, found⟩ := Option.isSome_iff_exists.1 matched
      obtain ⟨skipped, later, whole, start, steps, accepts⟩ := Machine.accepts_of_search? found
      obtain ⟨finish, spans⟩ := Program.exists_spans_of_accepts accepts
      rw [Option.or_none] at spans
      exact ⟨expr, read, skipped, later, finish, whole, start, spans⟩
    · cases compiled

end LineLexer.Regex
